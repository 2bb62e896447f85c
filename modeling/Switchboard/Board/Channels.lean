import Switchboard.Board.Things

/-!
Operations on channels and connections. A thing is connected to at most one channel. A change of a
connection goes onto the bridge first and is recorded after that, so a refusal by the bridge leaves
no trace.
-/
namespace Switchboard.Board

def emit (event : ConnectionEvent) (board : Board) : Board × Reply Unit :=
  match board.bridge.send (.event event) with
  | .taken bridge => ({ board with bridge := bridge, tally := board.tally.emit event }, .done ())
  | .full => (board, .blocked)
  | .closed => (board, .refused .bridgeClosed)

/-- Puts an event onto the bridge and, if it is taken, records what it says. -/
def announce (event : ConnectionEvent) (record : Board → Board) (board : Board) :
    Board × Reply Unit :=
  match board.emit event with
  | (sent, .done ()) => (record sent, .done ())
  | (same, .refused error) => (same, .refused error)
  | (same, .blocked) => (same, .blocked)

def saveChannels (batch : List Channel) (board : Board) : Board × Reply (List Channel) :=
  match board.channels.insertBatch batch with
  | .ok (stored, table) => ({ board with channels := table }, .done stored)
  | .error error => (board.rejectBatch, .refused error)

def updateChannel (channel : Channel) (board : Board) : Board × Reply Unit :=
  match board.channels.replace channel with
  | .ok table => ({ board with channels := table }, .done ())
  | .error error => (board, .refused error)

def removeChannel (id : String) (board : Board) : Board × Reply Unit :=
  if board.channels.contains id then
    announce (.channelRemoved id)
      (fun sent => { sent with
        channels := sent.channels.erase id
        placement := sent.placement.dropChannel id })
      board
  else (board.rejectBatch, .refused .notFound)

def removeChannels (ids : List String) (board : Board) : Board × Reply Unit :=
  inTurn removeChannel ids board

def connectThing (channel thing : String) (board : Board) : Board × Reply Unit :=
  match board.thingById thing with
  | .error error => (board, .refused error)
  | .ok record =>
    if !board.channels.contains channel then (board, .refused .notFound)
    else if board.placement.isPlaced thing then (board, .refused .conflict)
    else
      announce (.connect channel record)
        (fun sent => { sent with placement := sent.placement.place channel thing })
        board

/-- Connects things to a channel that has to be there even for no things. -/
def connect (channel : String) (things : List String) (board : Board) : Board × Reply Unit :=
  if board.channels.contains channel then inTurn (connectThing channel) things board
  else (board, .refused .notFound)

def disconnectThing (channel thing : String) (board : Board) : Board × Reply Unit :=
  if board.placement.holds channel thing then
    announce (.disconnected channel thing)
      (fun sent => { sent with placement := sent.placement.unplace channel thing })
      board
  else (board, .refused .notFound)

def disconnect (channel : String) (things : List String) (board : Board) : Board × Reply Unit :=
  inTurn (disconnectThing channel) things board

def channelById (board : Board) (id : String) : Except Error Channel := board.channels.retrieve id

def channelsByGroups (board : Board) (groups : List String) (query : Query) : Page Channel :=
  board.channels.pageByGroups groups query

def channelsByPlace (board : Board) (query : Query) : Page Channel :=
  board.channels.pageByPlace query

/-- The lowest of a thing's channels that is stored. -/
def channelByThing (board : Board) (thing : String) : Except Error Channel :=
  match (board.placement.channels thing).findSome? board.channels.get? with
  | some channel => .ok channel
  | none => .error .notFound

def placedChannels (board : Board) (thing : String) : Except Error (List String) :=
  if board.placement.isPlaced thing then .ok (board.placement.channels thing)
  else .error .unauthorized

/-- The thing with a key and the lowest channel that it is connected to. -/
def connectionByKey (board : Board) (key : String) : Except Error Connection := do
  let thing ← board.thingByKey key
  let channels ← board.placedChannels thing
  match channels with
  | [] => throw .unauthorized
  | channel :: _ => pure ⟨channel, thing⟩

def hasThing (board : Board) (channel thing : String) : Except Error Unit := do
  let channels ← board.placedChannels thing
  if channels.contains channel then pure () else throw .unauthorized

def connections (board : Board) : List Connection := board.placement.connections

def connectionCount (board : Board) : Nat := board.placement.count

end Switchboard.Board
