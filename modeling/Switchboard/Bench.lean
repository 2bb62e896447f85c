import Switchboard.Board.Change

/-!
A board whose bridge is emptied by hand. Parcels that are taken off go to the consumer, which
handles them when it is told to, or are thrown away. Every barrier has a ticket; a ticket is
settled when its barrier is handled, thrown away, or finds the bridge closed.
-/
namespace Switchboard

structure Bench where
  board : Board
  inbox : List Parcel := []
  consuming : Bool := true
  nextTicket : Nat := 0
  /-- Tickets that were settled and not yet reported: whether the barrier was handled. -/
  settled : List (Nat × Bool) := []

namespace Bench

def ofCapacity? (capacity : Nat) : Option Bench :=
  if capacity ≤ Bridge.greatestCapacity then some { board := .ofCapacity capacity } else none

def change (bench : Bench) (change : Change) : Bench × Reply Saved :=
  let answer := change.run bench.board
  ({ bench with board := answer.1 }, answer.2)

def emit (bench : Bench) (event : ConnectionEvent) : Bench × Reply Unit :=
  let answer := bench.board.emit event
  ({ bench with board := answer.1 }, answer.2)

def settle (bench : Bench) (handled : Bool) (parcels : List Parcel) : Bench :=
  { bench with
    settled :=
      bench.settled ++ (parcels.filterMap Parcel.ticket?).map fun ticket => (ticket, handled) }

def report (bench : Bench) : Bench × List (Nat × Bool) :=
  ({ bench with settled := [] }, bench.settled.mergeSort fun a b => decide (a.1 ≤ b.1))

def flush (bench : Bench) : Bench × Option Nat :=
  let ticket := bench.nextTicket
  match bench.board.flush ticket with
  | (board, .done ()) => ({ bench with board := board, nextTicket := ticket + 1 }, some ticket)
  | (_, .refused _) =>
    ({ bench with nextTicket := ticket + 1 }.settle false [.barrier ticket], some ticket)
  | (_, .blocked) => (bench, none)

def take (bench : Bench) (count : Nat) : Bench × List Parcel :=
  let received := bench.board.bridge.receive count
  ({ bench with board := { bench.board with bridge := received.2 } }, received.1)

def handleInbox (bench : Bench) : Bench :=
  { bench with board := bench.inbox.foldl Board.handle bench.board, inbox := [] }.settle true
    bench.inbox

/-- Gives parcels to the consumer and, if `apply` says so, waits until it has handled all it has.
`none` if there is no consumer. -/
def pump (bench : Bench) (count : Nat) (apply : Bool) : Option (Bench × List Parcel) :=
  if bench.consuming then
    let taken := bench.take count
    let given := { taken.1 with inbox := taken.1.inbox ++ taken.2 }
    some (if apply then given.handleInbox else given, taken.2)
  else none

def discard (bench : Bench) (count : Nat) : Bench × List Parcel :=
  let taken := bench.take count
  (taken.1.settle false taken.2, taken.2)

def close (bench : Bench) : Bench :=
  { bench with board := { bench.board with bridge := bench.board.bridge.close } }.settle false
    bench.board.bridge.queue

def endConsumer (bench : Bench) : Option Bench :=
  if bench.consuming then some { bench.handleInbox with consuming := false } else none

/-- Ends the consumer on the spot; what it was given lies there for good. `none` if it had ended
before. -/
def dropConsumer (bench : Bench) : Option Bench :=
  if bench.consuming then some { bench with consuming := false } else none

end Bench
end Switchboard
