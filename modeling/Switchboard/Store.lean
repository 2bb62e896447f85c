import Switchboard.Board.Change
import Switchboard.Cache

/-!
A store: a board that is attended until the store is shut down, and the two caches. Between
operations nothing waits on the bridge, so both sides of the connections agree on what was done.
-/
namespace Switchboard

structure Store where
  board : Board
  channelCache : ChannelCache := {}
  thingCache : ThingCache := {}

structure Stats where
  things : Nat
  channels : Nat
  connections : Nat
  backlog : Nat
  deriving DecidableEq, Repr

def Board.stats (board : Board) : Stats :=
  ⟨board.things.size, board.channels.size, board.connectionCount, board.bridge.backlog⟩

namespace Store

/-- A store with room for `capacity` events on its bridge; no bridge has more room than
`Bridge.greatestCapacity`. -/
def ofCapacity? (capacity : Nat) : Option Store :=
  if capacity ≤ Bridge.greatestCapacity then some { board := .ofCapacity capacity } else none

def default : Store := { board := .ofCapacity Bridge.defaultCapacity }

def change (store : Store) (change : Change) : Store × Reply Saved :=
  let answer := change.runAttended store.board
  ({ store with board := answer.1 }, answer.2)

def sync (store : Store) : Store × Except Error Unit :=
  if store.board.bridge.closed then (store, .error .bridgeClosed)
  else ({ store with board := store.board.settle }, .ok ())

/-- Lets the consumer finish and closes the bridge; a second time changes nothing. -/
def shutDown (store : Store) : Store := { store with board := store.board.shutDown }

def isStopped (store : Store) : Bool := store.board.bridge.closed

def stats (store : Store) : Stats := store.board.stats

end Store
end Switchboard
