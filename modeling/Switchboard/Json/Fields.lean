import Switchboard.Json.Value

/-!
Reading a datum as a record. A record is written as an object, in which unknown names are skipped
and known ones may not repeat, or as an array of its field values in their order. `fields?` finds
the datum of every known name; `required` and `withDefault` then read one field.
-/
namespace Switchboard.Json

def namesOf? (fields : List (Option String × Datum)) : Option (List String) :=
  fields.mapM (·.1)

def lookup? (name : String) (fields : List (Option String × Datum)) : Option Datum :=
  (fields.find? fun field => field.1 = some name).map (·.2)

def repeats (name : String) (names : List String) : Bool := 1 < names.count name

/-- The data of the known names in an object; `none` in the list for one that is absent. -/
def namedFields? (known : List String) (fields : List (Option String × Datum)) :
    Option (List (Option Datum)) := do
  let names ← namesOf? fields
  if known.any (repeats · names) then none
  else some (known.map (lookup? · fields))

/-- The data of the known names in an array; later ones may be missing. -/
def positionalFields? (known : List String) (items : List Datum) : Option (List (Option Datum)) :=
  if items.length ≤ known.length then
    some (items.map some ++ List.replicate (known.length - items.length) none)
  else none

def Datum.recordFields? (known : List String) (room : Nat) (datum : Datum) :
    Option (List (Option Datum)) :=
  if room = 0 then none
  else
    match datum with
    | .object fields => namedFields? known fields
    | .array items => positionalFields? known items
    | _ => none

def required {α : Type} (read : Datum → Option α) : Option Datum → Option α
  | none => none
  | some datum => read datum

def withDefault {α : Type} (default : α) (read : Datum → Option α) : Option Datum → Option α
  | none => some default
  | some datum => read datum

namespace Datum

def string? : Datum → Option String
  | .string s => s
  | _ => none

def optionalString? : Datum → Option (Option String)
  | .null => some none
  | .string (some s) => some (some s)
  | _ => none

def bool? : Datum → Option Bool
  | .bool b => some b
  | _ => none

def natBelow? (limit : Nat) : Datum → Option Nat
  | .number (some (.int n)) => if 0 ≤ n ∧ n < limit then some n.toNat else none
  | _ => none

def uint64? (datum : Datum) : Option UInt64 :=
  (datum.natBelow? 18446744073709551616).map UInt64.ofNat

def uint16? (datum : Datum) : Option UInt16 := (datum.natBelow? 65536).map UInt16.ofNat

def list? {α : Type} (read : Datum → Option α) : Datum → Option (List α)
  | .array items => items.mapM read
  | _ => none

def object? (room : Nat) (datum : Datum) : Option Object :=
  match datum.value? room with
  | some (.object fields) => some fields
  | _ => none

end Datum

def Value.ofUInt64 (n : UInt64) : Value := .number (.int n.toNat)

def Value.ofNat (n : Nat) : Value := .number (.int n)

def Value.ofUInt16 (n : UInt16) : Value := .number (.int n.toNat)

end Switchboard.Json
