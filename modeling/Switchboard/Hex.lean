/-!
Digits in base sixteen. They are written in lower case and read in either case, and reading a
written digit gives it back.
-/
namespace Switchboard.Hex

def digit (n : Nat) : Char := if n < 10 then Char.ofNat (48 + n) else Char.ofNat (87 + n)

def value? (c : Char) : Option Nat :=
  if '0' ≤ c ∧ c ≤ '9' then some (c.toNat - 48)
  else if 'a' ≤ c ∧ c ≤ 'f' then some (c.toNat - 87)
  else if 'A' ≤ c ∧ c ≤ 'F' then some (c.toNat - 55)
  else none

def digits (n : Nat) : List Char :=
  if n < 16 then [digit n] else digits (n / 16) ++ [digit (n % 16)]

def isDigitIn (base : Nat) (c : Char) : Bool := (value? c).any (· < base)

def valueIn (base : Nat) (cs : List Char) : Nat :=
  cs.foldl (fun n c => base * n + (value? c).getD 0) 0

theorem value?_digit (n : Nat) (small : n < 16) : value? (digit n) = some n := by
  have every : ∀ k ∈ List.range 16, value? (digit k) = some k := by decide
  exact every n (List.mem_range.mpr small)

end Switchboard.Hex
