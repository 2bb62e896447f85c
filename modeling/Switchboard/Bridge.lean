import Switchboard.Event

/-!
The bridge carries events from the channel side to the thing side, first in, first out, with room
for a fixed number of parcels. A barrier takes a place like an event and asks to be told when
everything in front of it has been applied. A closed bridge takes nothing.
-/
namespace Switchboard

inductive Parcel where
  | event (carried : ConnectionEvent)
  | barrier (ticket : Nat)
  deriving Repr

def Parcel.event? : Parcel → Option ConnectionEvent
  | .event carried => some carried
  | .barrier _ => none

def Parcel.ticket? : Parcel → Option Nat
  | .event _ => none
  | .barrier ticket => some ticket

structure Bridge where
  capacity : Nat
  queue : List Parcel := []
  closed : Bool := false
  deriving Repr

inductive Sending where
  | taken (bridge : Bridge)
  | full
  | closed

namespace Bridge

def defaultCapacity : Nat := 1024

/-- The most parcels that any bridge can have room for. -/
def greatestCapacity : Nat := 2305843009213693951

def ofCapacity (capacity : Nat) : Bridge := { capacity := max capacity 1 }

def hasRoom (bridge : Bridge) : Bool := decide (bridge.queue.length < bridge.capacity)

def send (bridge : Bridge) (parcel : Parcel) : Sending :=
  if bridge.closed then .closed
  else if bridge.hasRoom then .taken { bridge with queue := bridge.queue ++ [parcel] }
  else .full

def receive (bridge : Bridge) (count : Nat) : List Parcel × Bridge :=
  (bridge.queue.take count, { bridge with queue := bridge.queue.drop count })

/-- Takes nothing more; what is in the queue can still be received. -/
def sealOff (bridge : Bridge) : Bridge := { bridge with closed := true }

def close (bridge : Bridge) : Bridge := { bridge.sealOff with queue := [] }

def backlog (bridge : Bridge) : Nat := bridge.queue.length

end Bridge
end Switchboard
