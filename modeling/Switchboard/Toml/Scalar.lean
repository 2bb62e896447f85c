import Switchboard.Hex
import Switchboard.Json.Value

/-!
Numbers, truth values and times of a settings file. A run of characters that is none of these is
nothing. Digits may be grouped by single underscores. An integer that does not lie between
`-2 ^ 127` and `2 ^ 128` is broken, and so is a float that rounds to infinity; infinity and the
non-number, which can be named, are numbers without a value. A time is an object with one field,
since no other kind of datum holds one.
-/
namespace Switchboard.Toml.Scalar

open Json

/-- The digits of a run in which single underscores may stand between digits. -/
def ungrouped (isDigit : Char → Bool) : Bool → List Char → Option (List Char)
  | afterDigit, [] => if afterDigit then some [] else none
  | afterDigit, c :: rest =>
    if c = '_' then if afterDigit then ungrouped isDigit false rest else none
    else if isDigit c then (ungrouped isDigit true rest).map (c :: ·)
    else none

def digits? (cs : List Char) : Option (List Char) := ungrouped Char.isDigit false cs

def plainDigits? (cs : List Char) : Option (List Char) :=
  match digits? cs with
  | some ('0' :: _ :: _) => none
  | digits => digits

def integer (n : Int) : Datum :=
  if -(twoTo 127 : Int) ≤ n ∧ n < (twoTo 128 : Int) then .number (some (.int n)) else .broken

def based? (base : Nat) (cs : List Char) : Option Datum :=
  (ungrouped (Hex.isDigitIn base) false cs).map fun digits => integer (Hex.valueIn base digits)

def signed : List Char → Bool × List Char
  | '+' :: rest => (false, rest)
  | '-' :: rest => (true, rest)
  | cs => (false, cs)

/-- The double nearest to `significand * 10 ^ exponent`; `count` is the number of digits of the
significand. -/
def nearest (negative : Bool) (significand count : Nat) (exponent : Int) : Option Double :=
  if significand = 0 ∨ exponent + count < -400 then some (.zero negative)
  else if 400 < exponent + count then none
  else if 0 ≤ exponent then Double.nearest negative (significand * tenTo exponent.toNat) 1
  else Double.nearest negative significand (tenTo (-exponent).toNat)

def fraction? : List Char → Option (List Char)
  | [] => some []
  | '.' :: rest => digits? rest
  | _ => none

def exponent? : List Char → Option Int
  | [] => some 0
  | _ :: rest =>
    let sign := signed rest
    (digits? sign.2).map fun digits =>
      if sign.1 then -(Decimal.value digits : Int) else Decimal.value digits

def isExponentMark (c : Char) : Bool := c == 'e' || c == 'E'

def float? (negative : Bool) (cs : List Char) : Option Datum := do
  let mantissa := cs.takeWhile fun c => !isExponentMark c
  let whole ← plainDigits? (mantissa.takeWhile (· != '.'))
  let fraction ← fraction? (mantissa.dropWhile (· != '.'))
  let exponent ← exponent? (cs.dropWhile fun c => !isExponentMark c)
  let digits := (whole ++ fraction).dropWhile (· == '0')
  match nearest negative (Decimal.value digits) digits.length
    (exponent - (fraction.length : Int)) with
  | some double => pure (.number (some (.double double)))
  | none => pure .broken

def decimal? (negative : Bool) (cs : List Char) : Option Datum :=
  if cs = ['i', 'n', 'f'] ∨ cs = ['n', 'a', 'n'] then some (.number none)
  else if cs.any fun c => c == '.' || isExponentMark c then float? negative cs
  else
    (plainDigits? cs).map fun digits =>
      integer (if negative then -(Decimal.value digits : Int) else Decimal.value digits)

def field? (width low high : Nat) (cs : List Char) : Option (Nat × List Char) :=
  let digits := cs.take width
  let n := Decimal.value digits
  if digits.length = width ∧ digits.all Char.isDigit ∧ low ≤ n ∧ n ≤ high then
    some (n, cs.drop width)
  else none

def expect? (c : Char) : List Char → Option (List Char)
  | first :: rest => if first = c then some rest else none
  | [] => none

def isLeapYear (year : Nat) : Bool := year % 4 = 0 && (year % 100 != 0 || year % 400 = 0)

def daysIn (year month : Nat) : Nat :=
  if month = 2 then if isLeapYear year then 29 else 28
  else if month = 4 ∨ month = 6 ∨ month = 9 ∨ month = 11 then 30
  else 31

def date? (cs : List Char) : Option (List Char) := do
  let (year, cs) ← field? 4 0 9999 cs
  let (month, cs) ← field? 2 1 12 (← expect? '-' cs)
  let (_, cs) ← field? 2 1 (daysIn year month) (← expect? '-' cs)
  pure cs

def seconds? : List Char → Option (List Char)
  | ':' :: cs => do
    let (_, cs) ← field? 2 0 60 cs
    match cs with
    | '.' :: rest =>
      if (rest.takeWhile Char.isDigit).isEmpty then none else some (rest.dropWhile Char.isDigit)
    | _ => some cs
  | cs => some cs

def clock? (cs : List Char) : Option (List Char) := do
  let (_, cs) ← field? 2 0 23 cs
  let (_, cs) ← field? 2 0 59 (← expect? ':' cs)
  seconds? cs

def isOffset (cs : List Char) : Bool :=
  match cs with
  | [] => true
  | ['Z'] => true
  | ['z'] => true
  | _ :: rest =>
    (cs.head? = some '+' || cs.head? = some '-')
      && (do
        let (_, cs) ← field? 2 0 23 rest
        let (_, cs) ← field? 2 0 59 (← expect? ':' cs)
        if cs.isEmpty then some () else none : Option Unit).isSome

def isTime (cs : List Char) : Bool :=
  match date? cs with
  | some [] => true
  | some (c :: rest) =>
    (c == 'T' || c == 't' || c == ' ') && ((clock? rest).map isOffset).getD false
  | none => (clock? cs).map List.isEmpty |>.getD false

def time (cs : List Char) : Datum :=
  .object [(some "time", .string (some (String.ofList cs)))]

def datum? (cs : List Char) : Option Datum :=
  match cs with
  | ['t', 'r', 'u', 'e'] => some (.bool true)
  | ['f', 'a', 'l', 's', 'e'] => some (.bool false)
  | '0' :: 'x' :: rest => based? 16 rest
  | '0' :: 'o' :: rest => based? 8 rest
  | '0' :: 'b' :: rest => based? 2 rest
  | _ =>
    if isTime cs then some (time cs)
    else
      let sign := signed cs
      decimal? sign.1 sign.2

end Switchboard.Toml.Scalar
