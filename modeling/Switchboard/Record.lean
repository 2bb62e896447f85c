import Switchboard.Json.Value

/-!
The records that are kept: things, channels, and which thing is connected to which channel. Tables
and pages treat things and channels alike through `Record`, whose laws say that setting the
identifier changes that and nothing else.
-/
namespace Switchboard

/-- A device. Its key is meant to be its own among all things. -/
structure Thing where
  id : String := ""
  group : String := ""
  name : String := ""
  key : String := ""
  metadata : Json.Object := []
  deriving Repr, Inhabited

structure Channel where
  id : String := ""
  group : String := ""
  name : String := ""
  metadata : Json.Object := []
  deriving Repr, Inhabited

structure Connection where
  channel : String
  thing : String
  deriving DecidableEq, Repr

class Record (α : Type) where
  id : α → String
  group : α → String
  name : α → String
  withId : String → α → α
  id_withId : ∀ text record, id (withId text record) = text
  group_withId : ∀ text record, group (withId text record) = group record
  name_withId : ∀ text record, name (withId text record) = name record
  withId_id : ∀ record, withId (id record) record = record
  withId_withId : ∀ first second record, withId first (withId second record) = withId first record

attribute [simp] Record.id_withId Record.group_withId Record.name_withId Record.withId_id
  Record.withId_withId

instance : Record Thing where
  id := Thing.id
  group := Thing.group
  name := Thing.name
  withId text thing := { thing with id := text }
  id_withId _ _ := rfl
  group_withId _ _ := rfl
  name_withId _ _ := rfl
  withId_id _ := rfl
  withId_withId _ _ _ := rfl

instance : Record Channel where
  id := Channel.id
  group := Channel.group
  name := Channel.name
  withId text channel := { channel with id := text }
  id_withId _ _ := rfl
  group_withId _ _ := rfl
  name_withId _ _ := rfl
  withId_id _ := rfl
  withId_withId _ _ _ := rfl

/-- The order in which connections are listed: by channel, then by thing. -/
def Connection.before (a b : Connection) : Bool :=
  a.channel < b.channel || (a.channel == b.channel && a.thing ≤ b.thing)

end Switchboard
