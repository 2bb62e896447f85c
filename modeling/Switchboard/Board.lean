import Switchboard.Bridge
import Switchboard.Placement
import Switchboard.Table
import Switchboard.Tally

/-!
The state of a switchboard: both tables, both sides of the connections, the bridge between them,
and the counts. Operations go from a board to a board and a reply. An operation on a batch takes
its elements in turn and stops at the first one that is refused or finds the bridge full.
-/
namespace Switchboard

structure Board where
  things : Table Thing := {}
  roster : Roster := {}
  channels : Table Channel := {}
  placement : Placement := {}
  bridge : Bridge
  tally : Tally := {}
  deriving Repr

/-- What an operation answers. One that needs room on a full bridge is given up as `blocked`. -/
inductive Reply (α : Type) where
  | done (value : α)
  | refused (error : Error)
  | blocked
  deriving Repr

namespace Board

def ofCapacity (capacity : Nat) : Board := { bridge := .ofCapacity capacity }

/-- Takes the elements of a batch in turn, up to the first that does not succeed. -/
def inTurn (one : String → Board → Board × Reply Unit) : List String → Board → Board × Reply Unit
  | [], board => (board, .done ())
  | id :: rest, board =>
    match one id board with
    | (after, .done ()) => inTurn one rest after
    | (after, .refused error) => (after, .refused error)
    | (after, .blocked) => (after, .blocked)

def rejectBatch (board : Board) : Board := { board with tally := board.tally.reject }

end Board
end Switchboard
