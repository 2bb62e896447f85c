/-!
Powers of two and of ten, and decimal text of natural numbers. `digits` writes a number without
leading zeros, `padded` fills it with zeros up to a width, and `value` reads a run of digits back.
The statements below say that `digits` writes what a number is printed as, that reading inverts both
forms and that zeros in front change nothing, so different numbers have different texts at every
width.
-/
namespace Switchboard

def twoTo (n : Nat) : Nat := Nat.pow 2 n

def tenTo (n : Nat) : Nat := Nat.pow 10 n

namespace Decimal

def digit (d : Nat) : Char := Char.ofNat (48 + d)

def digits (n : Nat) : List Char :=
  if n < 10 then [digit n] else digits (n / 10) ++ [digit (n % 10)]

/-- The number that a run of ASCII digits denotes; no digits denote zero. -/
def value (cs : List Char) : Nat :=
  cs.foldl (fun acc c => 10 * acc + (c.toNat - 48)) 0

def padded (width n : Nat) : List Char :=
  List.replicate (width - (digits n).length) '0' ++ digits n

def text (n : Nat) : String := String.ofList (digits n)

-- Small facts about single digits.

theorem digit_toNat (d : Nat) (small : d < 10) : (digit d).toNat = 48 + d := by
  decide +revert

theorem digit_isDigit (d : Nat) (small : d < 10) : (digit d).isDigit = true := by
  decide +revert

theorem digit_eq_digitChar (d : Nat) (small : d < 10) : digit d = d.digitChar := by
  decide +revert

theorem digits_eq_toDigits (n : Nat) : digits n = Nat.toDigits 10 n := by
  induction n using Nat.strongRecOn with
  | ind n ih =>
    rw [digits, Nat.toDigits_eq_if (by decide)]
    split
    next small => rw [digit_eq_digitChar n small]
    next large => rw [ih (n / 10) (by omega), digit_eq_digitChar _ (by omega)]

theorem text_eq_toString (n : Nat) : text n = toString n := by
  rw [text, digits_eq_toDigits, Nat.toString_eq_ofList_toDigits]

theorem value_append (front back : List Char) :
    value (front ++ back) = back.foldl (fun acc c => 10 * acc + (c.toNat - 48)) (value front) := by
  simp [value, List.foldl_append]

theorem value_append_singleton (front : List Char) (c : Char) :
    value (front ++ [c]) = 10 * value front + (c.toNat - 48) := by
  simp [value_append]

theorem value_digits (n : Nat) : value (digits n) = n := by
  induction n using Nat.strongRecOn with
  | ind n ih =>
    rw [digits]
    split
    next small => simp [value, digit_toNat n small]
    next large =>
      rw [value_append_singleton, ih (n / 10) (by omega), digit_toNat _ (by omega)]
      omega

theorem digits_all_digit (n : Nat) : ∀ c ∈ digits n, c.isDigit = true := by
  induction n using Nat.strongRecOn with
  | ind n ih =>
    rw [digits]
    split
    next small =>
      intro c member
      rw [List.mem_singleton.mp member]
      exact digit_isDigit n small
    next large =>
      intro c member
      rcases List.mem_append.mp member with front | back
      · exact ih (n / 10) (by omega) c front
      · rw [List.mem_singleton.mp back]
        exact digit_isDigit _ (by omega)

theorem digits_ne_nil (n : Nat) : digits n ≠ [] := by
  rw [digits]
  split <;> simp

theorem value_zeros (count : Nat) (cs : List Char) :
    value (List.replicate count '0' ++ cs) = value cs := by
  induction count with
  | zero => rfl
  | succ count ih =>
    rw [List.replicate_succ, List.cons_append]
    show value ([('0' : Char)] ++ (List.replicate count '0' ++ cs)) = value cs
    rw [value_append, show value ['0'] = 0 from rfl]
    exact ih

theorem value_padded (width n : Nat) : value (padded width n) = n := by
  rw [padded, value_zeros, value_digits]

theorem padded_ne_nil (width n : Nat) : padded width n ≠ [] := by
  intro empty
  exact digits_ne_nil n (List.append_eq_nil_iff.mp empty).2

theorem padded_injective (width : Nat) {m n : Nat} (same : padded width m = padded width n) :
    m = n := by
  rw [← value_padded width m, ← value_padded width n, same]

end Decimal
end Switchboard
