import Switchboard.Toml.Value

/-!
A whole settings file: headers and pairs, one to a line, with blanks and comments around them. Each
line takes effect on the tables that the lines before it have made.
-/
namespace Switchboard.Toml

open Json (Datum)
open Scalar (expect?)

inductive Statement where
  | table (key : Key)
  | element (key : Key)
  | pair (key : Key) (datum : Datum)

def lineEnd? (inComment : Bool) : List Char → Option (List Char)
  | [] => some []
  | c :: rest =>
    if c = '\n' then some rest
    else if Text.isLineEnd c rest then some (rest.drop 1)
    else if inComment then if Text.isPlain c then lineEnd? true rest else none
    else if Text.isBlank c then lineEnd? false rest
    else if c = '#' then lineEnd? true rest
    else none

def header? (cs : List Char) : Option (Key × List Char) := do
  let (key, rest) ← key? (skipBlanks cs)
  pure (key, ← expect? ']' rest)

def statement? (cs : List Char) : Option (Statement × List Char) := do
  match cs with
  | '[' :: '[' :: rest =>
    let (key, rest) ← header? rest
    pure (.element key, ← expect? ']' rest)
  | '[' :: rest =>
    let (key, rest) ← header? rest
    pure (.table key, rest)
  | _ =>
    let (key, rest) ← key? cs
    let (datum, rest) ← value? depthLimit (skipBlanks (← expect? '=' rest))
    pure (.pair key datum, rest)

/-- Reads statements up to the end of the text. `fuel` bounds their number. -/
def statementsWithin : Nat → List Char → Option (List Statement)
  | 0, _ => none
  | fuel + 1, cs => do
    match ← skipLines false cs with
    | [] => pure []
    | cs =>
      let (statement, rest) ← statement? cs
      let later ← statementsWithin fuel (← lineEnd? false rest)
      pure (statement :: later)

def statements? (cs : List Char) : Option (List Statement) :=
  statementsWithin (cs.length + 1) cs

structure Reading where
  fields : Fields := []
  header : Option Key := none

def Reading.underHeader (reading : Reading) (change : Fields → Option Fields) : Option Fields :=
  match reading.header with
  | none => change reading.fields
  | some key =>
    Fields.within false (fun _ fields => change fields) (key.path ++ [key.name]) .header
      reading.fields

def Reading.take (reading : Reading) : Statement → Option Reading
  | .table key =>
    (reading.fields.openTable key.path key.name).map fun fields => ⟨fields, some key⟩
  | .element key =>
    (reading.fields.openElement key.path key.name).map fun fields => ⟨fields, some key⟩
  | .pair key datum =>
    (reading.underHeader (Fields.pair key.path key.name datum)).map fun fields =>
      { reading with fields := fields }

def dropMark : List Char → List Char
  | '\ufeff' :: rest => rest
  | cs => cs

def read (text : String) : Option Datum := do
  let statements ← statements? (dropMark text.toList)
  let reading ← statements.foldlM Reading.take {}
  pure (.object (sortedByName (Node.fieldData reading.fields)))

end Switchboard.Toml
