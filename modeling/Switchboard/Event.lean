import Switchboard.Record
import Switchboard.Roster

/-!
What the channel side tells the thing side. A connect carries the thing as it was found, a
disconnect needs its identifier alone. A connect without a thing can be sent but says nothing; it
changes no roster and does not count as applied.
-/
namespace Switchboard

inductive ConnectionEvent where
  | connect (channel : String) (thing : Thing)
  | disconnect (channel : String) (thing : Thing)
  | channelRemoved (channel : String)
  | void (channel : String)
  deriving Repr

inductive EventKind where
  | connect | disconnect | channelRemoved
  deriving DecidableEq, Repr

def EventKind.label : EventKind → String
  | .connect => "connect"
  | .disconnect => "disconnect"
  | .channelRemoved => "channel_removed"

namespace ConnectionEvent

def disconnected (channel thing : String) : ConnectionEvent := .disconnect channel { id := thing }

/-- The event with the given parts: a thing or none, and whether it says that it is connected. -/
def ofParts (channel : String) (thing : Option Thing) (connected : Bool) : ConnectionEvent :=
  match connected, thing with
  | true, some thing => .connect channel thing
  | true, none => .void channel
  | false, some thing => .disconnect channel thing
  | false, none => .channelRemoved channel

def channel : ConnectionEvent → String
  | .connect channel _ => channel
  | .disconnect channel _ => channel
  | .channelRemoved channel => channel
  | .void channel => channel

def thing? : ConnectionEvent → Option Thing
  | .connect _ thing => some thing
  | .disconnect _ thing => some thing
  | .channelRemoved _ => none
  | .void _ => none

def isConnect : ConnectionEvent → Bool
  | .connect _ _ => true
  | .void _ => true
  | .disconnect _ _ => false
  | .channelRemoved _ => false

def kind : ConnectionEvent → EventKind
  | .connect _ _ => .connect
  | .void _ => .connect
  | .disconnect _ _ => .disconnect
  | .channelRemoved _ => .channelRemoved

def counts : ConnectionEvent → Bool
  | .void _ => false
  | _ => true

end ConnectionEvent

def Roster.apply (roster : Roster) : ConnectionEvent → Roster
  | .connect channel thing => roster.connect channel thing.id
  | .disconnect channel thing => roster.disconnect channel thing.id
  | .channelRemoved channel => roster.dropChannel channel
  | .void _ => roster

end Switchboard
