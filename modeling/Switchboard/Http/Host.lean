import Switchboard.Decimal
import Switchboard.Http.Domain
import Switchboard.Http.Percent

/-!
Hosts of addresses: names, numbers of four bytes, and numbers of eight groups in brackets. A name
is given in plain characters; one whose last label is a number has to be a number of four bytes,
which may be written in one to four parts and in three bases.
-/
namespace Switchboard.Http

inductive Host where
  | name (text : List Char)
  | four (address : Nat)
  | eight (groups : List Nat)
  deriving DecidableEq, Repr

namespace Host

def readDigits (base : Nat) (digits : List Char) : Option Nat :=
  digits.foldlM (fun n c =>
    (Hex.value? c).bind fun d => if d < base then some (base * n + d) else none) 0

/-- A part of a number of four bytes: hexadecimal after `0x`, octal after `0`, else decimal. -/
def number? : List Char → Option Nat
  | [] => none
  | '0' :: 'x' :: digits => readDigits 16 digits
  | '0' :: 'X' :: digits => readDigits 16 digits
  | '0' :: d :: digits => readDigits 8 (d :: digits)
  | digits => readDigits 10 digits

/-- The labels of a name without the empty one after a last point. -/
def labels (text : List Char) : List (List Char) :=
  let parts := splitOn '.' text
  if 1 < parts.length && parts.getLast? == some [] then parts.dropLast else parts

def endsInNumber (text : List Char) : Bool :=
  match (labels text).getLast? with
  | none => false
  | some last => (!last.isEmpty && last.all Char.isDigit) || (number? last).isSome

def ofParts? (parts : List Nat) : Option Nat :=
  match parts.reverse with
  | [] => none
  | last :: front =>
    if 4 < parts.length || front.any (255 < ·) || twoTo (8 * (4 - front.length)) ≤ last then none
    else
      let high := front.reverse.foldl (fun n part => 256 * n + part) 0
      some (high * twoTo (8 * (4 - front.length)) + last)

def four? (text : List Char) : Option Nat := ((labels text).mapM number?).bind ofParts?

def name? (text : List Char) : Option Host := do
  let plain ← Domain.plain? (← Percent.decodeText? text)
  if plain.isEmpty then none
  else if endsInNumber plain then (four? plain).map .four
  else some (.name plain)

def group? (digits : List Char) : Option Nat :=
  if digits.isEmpty || 4 < digits.length then none else readDigits 16 digits

def byte? (digits : List Char) : Option Nat :=
  match digits with
  | '0' :: _ :: _ => none
  | [] => none
  | _ => if digits.length ≤ 3 then (readDigits 10 digits).filter (· ≤ 255) else none

def dotted? (text : List Char) : Option (List Nat) := do
  match ← (splitOn '.' text).mapM byte? with
  | [a, b, c, d] => pure [256 * a + b, 256 * c + d]
  | _ => none

def groups? (bytesAllowed : Bool) (text : List Char) : Option (List Nat) :=
  if text.isEmpty then some []
  else
    let parts := splitOn ':' text
    match parts.getLast? with
    | none => none
    | some last =>
      if bytesAllowed && last.contains '.' then do
        pure ((← parts.dropLast.mapM group?) ++ (← dotted? last))
      else parts.mapM group?

def atDoubleColon : List Char → Option (List Char × List Char)
  | ':' :: ':' :: rest => some ([], rest)
  | c :: rest => (atDoubleColon rest).map fun cut => (c :: cut.1, cut.2)
  | [] => none

/-- The host between brackets. A double colon stands for at least one group of zero. -/
def eight? (text : List Char) : Option Host :=
  match atDoubleColon text with
  | none => ((groups? true text).filter (·.length == 8)).map .eight
  | some (front, back) => do
    let front ← groups? false front
    let back ← groups? true back
    if front.length + back.length ≤ 7 then
      pure (.eight (front ++ List.replicate (8 - front.length - back.length) 0 ++ back))
    else none

def zerosAt (groups : List Nat) : Nat := (groups.takeWhile (· == 0)).length

def longestZeros : Nat → List Nat → Nat × Nat
  | _, [] => (0, 0)
  | place, group :: rest =>
    let here := zerosAt (group :: rest)
    let later := longestZeros (place + 1) rest
    if later.2 ≤ here then (place, here) else later

def joined (groups : List Nat) : List Char := [':'].intercalate (groups.map Hex.digits)

/-- Two or more groups of zero are left out once. -/
def eightText (groups : List Nat) : List Char :=
  let run := longestZeros 0 groups
  if run.2 < 2 then joined groups
  else joined (groups.take run.1) ++ ':' :: ':' :: joined (groups.drop (run.1 + run.2))

def text : Host → List Char
  | .name text => text
  | .four n =>
    ['.'].intercalate
      ([n / 16777216, n / 65536 % 256, n / 256 % 256, n % 256].map Decimal.digits)
  | .eight groups => '[' :: eightText groups ++ [']']

end Host
end Switchboard.Http
