import Switchboard.Json.Fields
import Switchboard.Json.Reader
import Switchboard.Json.Writer
import Switchboard.Page

/-!
Records, queries and pages as JSON. Writing gives every field in a fixed order. Reading takes the
fields in any order, skips unknown ones, and fills in what has a default. `room` says how many
levels deep the text may still be nested where the record stands.
-/
namespace Switchboard

open Json

def textField (name text : String) : String × Value := (name, .string text)

namespace Thing

def fieldNames : List String := ["id", "group_id", "name", "key", "metadata"]

def toValue (thing : Thing) : Value :=
  .object [textField "id" thing.id, textField "group_id" thing.group, textField "name" thing.name,
    textField "key" thing.key, ("metadata", .object thing.metadata)]

def ofDatum? (room : Nat) (datum : Datum) : Option Thing :=
  match datum.recordFields? fieldNames room with
  | some [id, group, name, key, metadata] => do
    let id ← withDefault "" Datum.string? id
    let group ← withDefault "" Datum.string? group
    let name ← withDefault "" Datum.string? name
    let key ← required Datum.string? key
    let metadata ← withDefault [] (Datum.object? (room - 1)) metadata
    pure ⟨id, group, name, key, metadata⟩
  | _ => none

end Thing

namespace Channel

def fieldNames : List String := ["id", "group_id", "name", "metadata"]

def toValue (channel : Channel) : Value :=
  .object [textField "id" channel.id, textField "group_id" channel.group,
    textField "name" channel.name, ("metadata", .object channel.metadata)]

def ofDatum? (room : Nat) (datum : Datum) : Option Channel :=
  match datum.recordFields? fieldNames room with
  | some [id, group, name, metadata] => do
    let id ← withDefault "" Datum.string? id
    let group ← withDefault "" Datum.string? group
    let name ← withDefault "" Datum.string? name
    let metadata ← withDefault [] (Datum.object? (room - 1)) metadata
    pure ⟨id, group, name, metadata⟩
  | _ => none

end Channel

namespace Connection

def fieldNames : List String := ["channel_id", "thing_id"]

def toValue (connection : Connection) : Value :=
  .object [textField "channel_id" connection.channel, textField "thing_id" connection.thing]

def ofDatum? (room : Nat) (datum : Datum) : Option Connection :=
  match datum.recordFields? fieldNames room with
  | some [channel, thing] => do
    let channel ← required Datum.string? channel
    let thing ← required Datum.string? thing
    pure ⟨channel, thing⟩
  | _ => none

end Connection

namespace Direction

def label : Direction → String
  | .ascending => "asc"
  | .descending => "desc"

def ofLabel? (label : String) : Option Direction :=
  if label = "asc" then some .ascending
  else if label = "desc" then some .descending
  else none

/-- A direction is its label, or an object whose only name is the label and whose value is
nothing. -/
def ofDatum? (isNothing : Datum → Bool) : Datum → Option Direction
  | .string (some label) => ofLabel? label
  | .object [(some label, datum)] => if isNothing datum then ofLabel? label else none
  | _ => none

def isNull : Datum → Bool
  | .null => true
  | _ => false

/-- Beside the items of a page an empty object counts as nothing too. -/
def isNullOrEmpty : Datum → Bool
  | .null => true
  | .object [] => true
  | _ => false

end Direction

namespace Query

def fieldNames : List String := ["total", "offset", "limit", "name", "order", "dir"]

def optionalField (name : String) : Option String → List (String × Value)
  | none => []
  | some text => [textField name text]

def toFields (query : Query) : List (String × Value) :=
  [("total", .ofUInt64 query.total), ("offset", .ofUInt64 query.offset),
    ("limit", .ofUInt64 query.limit)]
    ++ optionalField "name" query.name ++ optionalField "order" query.order
    ++ [textField "dir" query.direction.label]

def toValue (query : Query) : Value := .object query.toFields

def ofFields? (isNothing : Datum → Bool) : List (Option Datum) → Option Query
  | [total, offset, limit, name, order, direction] => do
    let total ← withDefault 0 Datum.uint64? total
    let offset ← withDefault 0 Datum.uint64? offset
    let limit ← withDefault 0 Datum.uint64? limit
    let name ← withDefault none Datum.optionalString? name
    let order ← withDefault none Datum.optionalString? order
    let direction ← withDefault .ascending (Direction.ofDatum? isNothing) direction
    pure ⟨total, offset, limit, name, order, direction⟩
  | _ => none

def ofDatum? (room : Nat) (datum : Datum) : Option Query :=
  (datum.recordFields? fieldNames room).bind (ofFields? Direction.isNull)

end Query

namespace Page

variable {α : Type}

def toValue (item : α → Value) (page : Page α) : Value :=
  .object (("items", .array (page.items.map item)) :: page.query.toFields)

def besideItems (room : Nat) (field : Option String × Datum) : Bool :=
  field.1 == some "items" || (field.2.value? room).isSome

/-- A page is written as an object only. Its query's fields stand beside its items, and none of
the fields beside the items is skipped unread. -/
def ofDatum? (item : Nat → Datum → Option α) (room : Nat) (datum : Datum) : Option (Page α) :=
  match room, datum with
  | room + 1, .object fields =>
    if fields.all (besideItems room) then
      match namedFields? ("items" :: Query.fieldNames) fields with
      | some (items :: rest) => do
        let items ← required (Datum.list? (item (room - 1))) items
        let query ← Query.ofFields? Direction.isNullOrEmpty rest
        pure ⟨items, query⟩
      | _ => none
    else none
  | _, _ => none

end Page

def readText? {α : Type} (ofDatum : Nat → Datum → Option α) (text : String) : Option α :=
  (Json.read text).bind (ofDatum depthLimit)

def Thing.readText? : String → Option Thing := Switchboard.readText? Thing.ofDatum?

def Channel.readText? : String → Option Channel := Switchboard.readText? Channel.ofDatum?

def Connection.readText? : String → Option Connection := Switchboard.readText? Connection.ofDatum?

def Query.readText? : String → Option Query := Switchboard.readText? Query.ofDatum?

def Page.readText? {α : Type} (item : Nat → Datum → Option α) : String → Option (Page α) :=
  Switchboard.readText? (Page.ofDatum? item)

end Switchboard
