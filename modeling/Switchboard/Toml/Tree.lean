import Switchboard.Json.Value

/-!
The tables of a settings file while it is read. A table is remembered by how it came to be: by a
header of its own, on the way to a header below it, or by a dotted key. A header may name a table
that stood only on the way before; a dotted key goes through tables that have no header and ends in
one that dotted keys made. A value, also one written as an inline table, takes nothing more. The
last table of a list of tables is the one that later lines extend.
-/
namespace Switchboard.Toml

open Json (Datum)

inductive Origin where
  | header | onTheWay | dotted
  deriving DecidableEq, Repr

inductive Node where
  | value (datum : Datum)
  | table (origin : Origin) (fields : List (String × Node))
  | list (tables : List (List (String × Node)))

abbrev Fields := List (String × Node)

namespace Fields

def get? (fields : Fields) (name : String) : Option Node :=
  (fields.find? fun field => field.1 == name).map (·.2)

def set (fields : Fields) (name : String) (node : Node) : Fields :=
  fields.map fun field => if field.1 == name then (name, node) else field

def add (fields : Fields) (name : String) (node : Node) : Fields := fields ++ [(name, node)]

/-- Changes the table at the end of a path and makes the tables on the way that are missing.
`change` is given how the table came to be and its fields. -/
def within (byKey : Bool) (change : Origin → Fields → Option Fields) :
    List String → Origin → Fields → Option Fields
  | [], origin, fields => change origin fields
  | name :: path, _, fields =>
    let fresh : Origin := if byKey then .dotted else .onTheWay
    match fields.get? name with
    | none =>
      (within byKey change path fresh []).map fun inner => fields.add name (.table fresh inner)
    | some (.table origin inner) =>
      if byKey && origin == .header then none
      else
        (within byKey change path origin inner).map fun inner =>
          fields.set name (.table origin inner)
    | some (.list tables) =>
      (within byKey change path .header (tables.getLast?.getD [])).map fun inner =>
        fields.set name (.list (tables.dropLast ++ [inner]))
    | some (.value _) => none

/-- Gives a new name its value in the table where a dotted key ends. -/
def define (dotted : Bool) (name : String) (node : Node) (origin : Origin) (fields : Fields) :
    Option Fields :=
  if dotted != (origin == .dotted) then none
  else
    match fields.get? name with
    | none => some (fields.add name node)
    | some _ => none

def pair (path : List String) (name : String) (datum : Datum) (fields : Fields) : Option Fields :=
  within true (define (!path.isEmpty) name (.value datum)) path .header fields

def openTable (path : List String) (name : String) (fields : Fields) : Option Fields :=
  within false (fun _ fields =>
    match fields.get? name with
    | none => some (fields.add name (.table .header []))
    | some (.table .onTheWay inner) => some (fields.set name (.table .header inner))
    | some _ => none) path .header fields

def openElement (path : List String) (name : String) (fields : Fields) : Option Fields :=
  within false (fun _ fields =>
    match fields.get? name with
    | none => some (fields.add name (.list [[]]))
    | some (.list tables) => some (fields.set name (.list (tables ++ [[]])))
    | some _ => none) path .header fields

end Fields

def sortedByName (fields : List (Option String × Datum)) : List (Option String × Datum) :=
  fields.mergeSort fun a b => decide (a.1.getD "" ≤ b.1.getD "")

mutual

def Node.datum : Node → Datum
  | .value datum => datum
  | .table _ fields => .object (sortedByName (Node.fieldData fields))
  | .list tables => .array (Node.tableData tables)

def Node.fieldData : List (String × Node) → List (Option String × Datum)
  | [] => []
  | (name, node) :: rest => (some name, Node.datum node) :: Node.fieldData rest

def Node.tableData : List (List (String × Node)) → List Datum
  | [] => []
  | fields :: rest => .object (sortedByName (Node.fieldData fields)) :: Node.tableData rest

end

end Switchboard.Toml
