import Switchboard.Board.Channels

/-!
The consuming end. A parcel that is handled changes the roster if it is an event, and completes its
ticket if it is a barrier. `consume` takes the first parcel off the bridge and handles it; `settle`
does so until the bridge is empty. `shutDown` seals the bridge and then settles, so nothing that was
accepted is lost.
-/
namespace Switchboard.Board

def applyEvent (event : ConnectionEvent) (board : Board) : Board :=
  { board with roster := board.roster.apply event, tally := board.tally.apply event }

def handle (board : Board) : Parcel → Board
  | .event event => board.applyEvent event
  | .barrier _ => board

def consume (board : Board) : Board :=
  match board.bridge.queue with
  | [] => board
  | parcel :: rest => { board with bridge := { board.bridge with queue := rest } }.handle parcel

def settle (board : Board) : Board :=
  board.bridge.queue.foldl handle { board with bridge := { board.bridge with queue := [] } }

def flush (ticket : Nat) (board : Board) : Board × Reply Unit :=
  match board.bridge.send (.barrier ticket) with
  | .taken bridge => ({ board with bridge := bridge }, .done ())
  | .full => (board, .blocked)
  | .closed => (board, .refused .bridgeClosed)

def shutDown (board : Board) : Board := { board with bridge := board.bridge.sealOff }.settle

end Switchboard.Board
