import Switchboard.Json.Double

/-!
Two forms of a data text. A `Datum` is what the grammar alone says: names may repeat, a string may
be none because its escapes denote no characters, a number none because no double is near it, and
nothing is lost by skipping it; what cannot be read at all is `broken`. A `Value` is a datum that
was read for its contents: an object has every name once, in the order of first occurrence, with
the last value given for it.
-/
namespace Switchboard.Json

inductive Number where
  | int (n : Int)
  | double (d : Double)
  deriving DecidableEq, Repr

inductive Value where
  | null
  | bool (b : Bool)
  | number (n : Number)
  | string (s : String)
  | array (items : List Value)
  | object (fields : List (String × Value))
  deriving Repr, Inhabited

abbrev Object := List (String × Value)

inductive Datum where
  | null
  | bool (b : Bool)
  | number (n : Option Number)
  | string (s : Option String)
  | array (items : List Datum)
  | object (fields : List (Option String × Datum))
  | broken
  deriving Repr, Inhabited

def Object.put {α : Type} (name : String) (value : α) : List (String × α) → List (String × α)
  | [] => [(name, value)]
  | field :: rest =>
    if field.1 = name then (name, value) :: rest else field :: Object.put name value rest

def Object.ofPairs {α : Type} (pairs : List (String × α)) : List (String × α) :=
  pairs.foldl (fun fields pair => Object.put pair.1 pair.2 fields) []

mutual

/-- Reads a datum for its contents, at most `room` levels deep. -/
def Datum.value? (room : Nat) : Datum → Option Value
  | .null => some .null
  | .bool b => some (.bool b)
  | .number n => n.map .number
  | .string s => s.map .string
  | .array items =>
    match room with
    | 0 => none
    | room + 1 => (Datum.values? room items).map .array
  | .object fields =>
    match room with
    | 0 => none
    | room + 1 => (Datum.fields? room fields).map fun pairs => .object (Object.ofPairs pairs)
  | .broken => none

def Datum.values? (room : Nat) : List Datum → Option (List Value)
  | [] => some []
  | item :: rest => do
    let value ← Datum.value? room item
    let values ← Datum.values? room rest
    pure (value :: values)

def Datum.fields? (room : Nat) : List (Option String × Datum) → Option (List (String × Value))
  | [] => some []
  | (name, item) :: rest => do
    let name ← name
    let value ← Datum.value? room item
    let values ← Datum.fields? room rest
    pure ((name, value) :: values)

end

mutual

def Datum.isWhole : Datum → Bool
  | .array items => Datum.areWhole items
  | .object fields => Datum.fieldsAreWhole fields
  | .broken => false
  | _ => true

def Datum.areWhole : List Datum → Bool
  | [] => true
  | item :: rest => Datum.isWhole item && Datum.areWhole rest

def Datum.fieldsAreWhole : List (Option String × Datum) → Bool
  | [] => true
  | (_, item) :: rest => Datum.isWhole item && Datum.fieldsAreWhole rest

end

mutual

def Value.toDatum : Value → Datum
  | .null => .null
  | .bool b => .bool b
  | .number n => .number (some n)
  | .string s => .string (some s)
  | .array items => .array (Value.toDatums items)
  | .object fields => .object (Value.toDatumFields fields)

def Value.toDatums : List Value → List Datum
  | [] => []
  | value :: rest => Value.toDatum value :: Value.toDatums rest

def Value.toDatumFields : List (String × Value) → List (Option String × Datum)
  | [] => []
  | (name, value) :: rest => (some name, Value.toDatum value) :: Value.toDatumFields rest

end

end Switchboard.Json
