import Switchboard.Event

/-!
What is counted: events that went onto the bridge, events that were applied, and batches that were
rejected.
-/
namespace Switchboard

structure KindCounts where
  connect : Nat := 0
  disconnect : Nat := 0
  channelRemoved : Nat := 0
  deriving DecidableEq, Repr

def KindCounts.get (counts : KindCounts) : EventKind → Nat
  | .connect => counts.connect
  | .disconnect => counts.disconnect
  | .channelRemoved => counts.channelRemoved

def KindCounts.bump (counts : KindCounts) : EventKind → KindCounts
  | .connect => { counts with connect := counts.connect + 1 }
  | .disconnect => { counts with disconnect := counts.disconnect + 1 }
  | .channelRemoved => { counts with channelRemoved := counts.channelRemoved + 1 }

theorem KindCounts.get_bump (counts : KindCounts) (kind other : EventKind) :
    (counts.bump kind).get other = counts.get other + if kind = other then 1 else 0 := by
  cases kind <;> cases other <;> rfl

structure Tally where
  emitted : KindCounts := {}
  applied : KindCounts := {}
  rejected : Nat := 0
  deriving DecidableEq, Repr

namespace Tally

def emit (tally : Tally) (event : ConnectionEvent) : Tally :=
  { tally with emitted := tally.emitted.bump event.kind }

def apply (tally : Tally) (event : ConnectionEvent) : Tally :=
  if event.counts then { tally with applied := tally.applied.bump event.kind } else tally

def reject (tally : Tally) : Tally := { tally with rejected := tally.rejected + 1 }

end Tally
end Switchboard
