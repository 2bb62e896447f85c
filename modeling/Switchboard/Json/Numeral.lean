import Switchboard.Json.Fault
import Switchboard.Json.Value

/-!
Number literals. `Numeral.read` checks the grammar and keeps the digits; `Numeral.number` says
which number they denote. A literal without fraction and exponent that fits 64 bits is an integer,
except that minus zero is a double. Every other literal is a double, computed from at most as many
leading digits as fit 64 bits.
-/
namespace Switchboard.Json

/-- The parts of a literal. `exponent` is there when an exponent is written; `rest` follows the
literal. -/
structure Numeral where
  negative : Bool
  whole : List Char
  fraction : Option (List Char)
  exponent : Option (Bool × List Char)
  rest : List Char

namespace Numeral

def spanDigits (cs : List Char) : List Char × List Char := cs.span Char.isDigit

def readExponent (numeral : Numeral) (cs : List Char) : Except Fault Numeral :=
  let signed : Bool × List Char :=
    match cs with
    | '+' :: rest => (false, rest)
    | '-' :: rest => (true, rest)
    | _ => (false, cs)
  match signed.2 with
  | [] => .error (.before .endInValue [])
  | c :: rest =>
    if c.isDigit then
      let digits := spanDigits (c :: rest)
      .ok { numeral with exponent := some (signed.1, digits.1), rest := digits.2 }
    else .error ⟨.badNumber, c :: rest, 1⟩

def readTail (numeral : Numeral) (cs : List Char) : Except Fault Numeral :=
  match cs with
  | '.' :: rest =>
    let digits := spanDigits rest
    if digits.1.isEmpty then
      .error (if digits.2.isEmpty then .before .endInValue [] else .atNext .badNumber digits.2)
    else
      let numeral := { numeral with fraction := some digits.1, rest := digits.2 }
      match digits.2 with
      | 'e' :: rest => readExponent numeral rest
      | 'E' :: rest => readExponent numeral rest
      | _ => .ok numeral
  | 'e' :: rest => readExponent numeral rest
  | 'E' :: rest => readExponent numeral rest
  | _ => .ok { numeral with rest := cs }

def read (negative : Bool) (cs : List Char) : Except Fault Numeral :=
  match cs with
  | [] => .error (.before .endInValue [])
  | '0' :: rest =>
    if (rest.head?.map Char.isDigit).getD false then .error (.atNext .badNumber rest)
    else readTail ⟨negative, ['0'], none, none, rest⟩ rest
  | c :: rest =>
    if c.isDigit then
      let digits := spanDigits (c :: rest)
      readTail ⟨negative, digits.1, none, none, digits.2⟩ digits.2
    else .error ⟨.badNumber, c :: rest, 1⟩

/-- Digits are taken up while the number stays below `2 ^ 64`. Gives the number, how many digits
were taken, and how many were left. -/
def takeUp (start : Nat) : List Char → Nat × Nat × Nat
  | [] => (start, 0, 0)
  | c :: rest =>
    let next := 10 * start + (c.toNat - 48)
    if next < twoTo 64 then
      let tail := takeUp next rest
      (tail.1, tail.2.1 + 1, tail.2.2)
    else (start, 0, rest.length + 1)

def fittingDigits (start : Nat) : List Char → Nat
  | [] => 0
  | c :: rest =>
    let next := 10 * start + (c.toNat - 48)
    if next < twoTo 31 then fittingDigits next rest + 1 else 0

def withSign (numeral : Numeral) (d : Double) : Number :=
  .double (if numeral.negative then d.negate else d)

def scaled (numeral : Numeral) (significand : Nat) (exponent : Int) : Except Fault Number :=
  match (Double.ofNat significand).bind (·.scale exponent) with
  | some d => .ok (withSign numeral d)
  | none => .error (.before .numberRange numeral.rest)

def toDouble (numeral : Numeral) : Except Fault Number :=
  let whole := takeUp 0 numeral.whole
  let fraction := takeUp whole.1 (numeral.fraction.getD [])
  let significand := fraction.1
  let exponent : Int := (whole.2.2 : Int) - (fraction.2.1 : Int)
  match numeral.exponent with
  | none => scaled numeral significand exponent
  | some (down, digits) =>
    let fitting := fittingDigits 0 digits
    if fitting < digits.length then
      if significand ≠ 0 && !down then
        .error (.before .numberRange (digits.drop (fitting + 1) ++ numeral.rest))
      else .ok (withSign numeral (.zero false))
    else
      let shift : Int := Decimal.value digits
      scaled numeral significand (if down then exponent - shift else exponent + shift)

def number (numeral : Numeral) : Except Fault Number :=
  match numeral.fraction, numeral.exponent with
  | none, none =>
    let n := Decimal.value numeral.whole
    if numeral.negative then
      if n ≠ 0 ∧ n ≤ twoTo 63 then .ok (.int (-(n : Int))) else toDouble numeral
    else if n < twoTo 64 then .ok (.int n)
    else toDouble numeral
  | _, _ => toDouble numeral

end Numeral
end Switchboard.Json
