import Switchboard.Board.Sync

/-!
The operations that change a board, as data, so that histories are lists of them. An unattended
board leaves what it emits on the bridge and gives up an operation that finds it full. On an
attended board the consumer keeps up: it empties the bridge before every element of a batch, so no
operation waits for good.
-/
namespace Switchboard

inductive Change where
  | saveThings (batch : List Thing)
  | updateThing (thing : Thing)
  | updateKey (id key : String)
  | removeThings (ids : List String)
  | saveChannels (batch : List Channel)
  | updateChannel (channel : Channel)
  | removeChannels (ids : List String)
  | connect (channel : String) (things : List String)
  | disconnect (channel : String) (things : List String)

inductive Saved where
  | things (stored : List Thing)
  | channels (stored : List Channel)
  | nothing

def Reply.map {α β : Type} (f : α → β) : Reply α → Reply β
  | .done value => .done (f value)
  | .refused error => .refused error
  | .blocked => .blocked

namespace Change

def withoutResult (answer : Board × Reply Unit) : Board × Reply Saved :=
  (answer.1, answer.2.map fun _ => .nothing)

/-- Carries out a change on an unattended board. -/
def run (change : Change) (board : Board) : Board × Reply Saved :=
  match change with
  | .saveThings batch => let answer := board.saveThings batch; (answer.1, answer.2.map .things)
  | .updateThing thing => withoutResult (board.updateThing thing)
  | .updateKey id key => withoutResult (board.updateKey id key)
  | .removeThings ids => withoutResult (board.removeThings ids)
  | .saveChannels batch =>
    let answer := board.saveChannels batch; (answer.1, answer.2.map .channels)
  | .updateChannel channel => withoutResult (board.updateChannel channel)
  | .removeChannels ids => withoutResult (board.removeChannels ids)
  | .connect channel things => withoutResult (board.connect channel things)
  | .disconnect channel things => withoutResult (board.disconnect channel things)

def settled (one : String → Board → Board × Reply Unit) (id : String) (board : Board) :
    Board × Reply Unit :=
  one id board.settle

/-- Carries out a change on an attended board, and lets the consumer finish. -/
def runAttended (change : Change) (board : Board) : Board × Reply Saved :=
  let answer :=
    match change with
    | .removeChannels ids => withoutResult (Board.inTurn (settled Board.removeChannel) ids board)
    | .connect channel things =>
      if board.channels.contains channel then
        withoutResult (Board.inTurn (settled (Board.connectThing channel)) things board)
      else (board, .refused .notFound)
    | .disconnect channel things =>
      withoutResult (Board.inTurn (settled (Board.disconnectThing channel)) things board)
    | other => other.run board
  (answer.1.settle, answer.2)

end Change
end Switchboard
