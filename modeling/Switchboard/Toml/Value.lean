import Switchboard.Toml.Scalar
import Switchboard.Toml.Text
import Switchboard.Toml.Tree

/-!
Keys and values of a settings file. A key is a path of names with points between them. A value is a
string, a scalar, an array or an inline table; the last two may hold comments and line ends
between their parts, and a comma after the last one. Each reader gives what it read and the text
after it.
-/
namespace Switchboard.Toml

open Json (Datum)
open Text (isBlank isLineEnd isPlain)

/-- The deepest nesting of arrays and inline tables, and the most names of a key. -/
def depthLimit : Nat := 80

def skipBlanks (cs : List Char) : List Char := cs.dropWhile isBlank

def skipLines (inComment : Bool) : List Char → Option (List Char)
  | [] => some []
  | c :: rest =>
    if c = '\n' then skipLines false rest
    else if isLineEnd c rest then skipLines inComment rest
    else if inComment then if isPlain c then skipLines true rest else none
    else if isBlank c then skipLines false rest
    else if c = '#' then skipLines true rest
    else some (c :: rest)

def isBare (c : Char) : Bool := c.isAlphanum || c == '_' || c == '-'

def name? (cs : List Char) : Option (String × List Char) :=
  match Text.single cs with
  | some (name, rest) => some (String.ofList name, rest)
  | none =>
    let name := cs.takeWhile isBare
    if name.isEmpty then none else some (String.ofList name, cs.dropWhile isBare)

structure Key where
  path : List String
  name : String

def keyWithin : Nat → List Char → Option (Key × List Char)
  | 0, _ => none
  | fuel + 1, cs => do
    let (name, rest) ← name? cs
    match skipBlanks rest with
    | '.' :: rest =>
      let (key, rest) ← keyWithin fuel (skipBlanks rest)
      pure ({ key with path := name :: key.path }, rest)
    | rest => pure (⟨[], name⟩, rest)

def key? (cs : List Char) : Option (Key × List Char) :=
  (keyWithin cs.length cs).filter fun read => decide (read.1.path.length < depthLimit)

def isScalarChar (c : Char) : Bool := isBare c || c == '+' || c == '.' || c == ':'

/-- The run of characters that a scalar is made of. A date and a time of day may have one space
between them. -/
def scalarRun (cs : List Char) : List Char × List Char :=
  let first := cs.takeWhile isScalarChar
  let rest := cs.dropWhile isScalarChar
  match Scalar.date? first, rest with
  | some [], ' ' :: c :: later =>
    if c.isDigit then
      (first ++ ' ' :: (c :: later).takeWhile isScalarChar, (c :: later).dropWhile isScalarChar)
    else (first, rest)
  | _, _ => (first, rest)

def scalar? (cs : List Char) : Option (Datum × List Char) :=
  let run := scalarRun cs
  (Scalar.datum? run.1).map fun datum => (datum, run.2)

/-- Reads the items of an array from where one may stand. `done` holds those before, last first. -/
def items (read : List Char → Option (Datum × List Char)) :
    Nat → List Datum → List Char → Option (Datum × List Char)
  | 0, _, _ => none
  | fuel + 1, done, cs =>
    match skipLines false cs with
    | none => none
    | some (']' :: rest) => some (.array done.reverse, rest)
    | some cs =>
      match read cs with
      | none => none
      | some (item, rest) =>
        match skipLines false rest with
        | some (',' :: rest) => items read fuel (item :: done) rest
        | some (']' :: rest) => some (.array (item :: done).reverse, rest)
        | _ => none

def entry (read : List Char → Option (Datum × List Char)) (fields : Fields) (cs : List Char) :
    Option (Fields × List Char) := do
  let (key, rest) ← key? cs
  match ← skipLines false rest with
  | '=' :: rest =>
    let (datum, rest) ← read (← skipLines false rest)
    pure (← fields.pair key.path key.name datum, rest)
  | _ => none

def entries (read : List Char → Option (Datum × List Char)) :
    Nat → Fields → List Char → Option (Datum × List Char)
  | 0, _, _ => none
  | fuel + 1, fields, cs =>
    match skipLines false cs with
    | none => none
    | some ('\x7d' :: rest) => some (.object (sortedByName (Node.fieldData fields)), rest)
    | some cs =>
      match entry read fields cs with
      | none => none
      | some (fields, rest) =>
        match skipLines false rest with
        | some (',' :: rest) => entries read fuel fields rest
        | some ('\x7d' :: rest) => some (.object (sortedByName (Node.fieldData fields)), rest)
        | _ => none

/-- Reads a value that may be nested `room` levels deep. -/
def value? : Nat → List Char → Option (Datum × List Char)
  | room, cs =>
    match cs with
    | [] => none
    | c :: rest =>
      if c = '"' ∨ c = '\'' then
        (Text.any cs).map fun read => (.string (some (String.ofList read.1)), read.2)
      else if c = '[' ∨ c = '\x7b' then
        match room with
        | 0 => none
        | room + 1 =>
          if c = '[' then items (value? room) cs.length [] rest
          else entries (value? room) cs.length [] rest
      else scalar? cs

end Switchboard.Toml
