import Switchboard.Board

/-!
Operations on things. Saving insists that keys are new; updating replaces a record and trusts its
key; only a change of key through `updateKey` is checked again. Removing a thing takes it out of
the roster but tells the channel side nothing.
-/
namespace Switchboard.Board

/-- Whether every key of a batch is new to the table and given once. -/
def keysFree (table : Table Thing) (batch : List Thing) : Bool :=
  batch.all (fun thing => !(table.records.map Thing.key).contains thing.key)
    && decide (batch.map Thing.key).Nodup

def saveThings (batch : List Thing) (board : Board) : Board × Reply (List Thing) :=
  if keysFree board.things batch then
    match board.things.insertBatch batch with
    | .ok (stored, table) => ({ board with things := table }, .done stored)
    | .error error => (board.rejectBatch, .refused error)
  else (board.rejectBatch, .refused .conflict)

def updateThing (thing : Thing) (board : Board) : Board × Reply Unit :=
  match board.things.replace thing with
  | .ok table => ({ board with things := table }, .done ())
  | .error error => (board, .refused error)

def keyInUse (board : Board) (key : String) : Bool :=
  (board.things.records.map Thing.key).contains key

def updateKey (id key : String) (board : Board) : Board × Reply Unit :=
  if board.keyInUse key then (board, .refused .conflict)
  else if board.things.contains id then
    ({ board with things := board.things.modify id fun thing => { thing with key := key } },
      .done ())
  else (board, .refused .notFound)

def removeThing (id : String) (board : Board) : Board × Reply Unit :=
  match board.things.remove id with
  | .ok (_, table) =>
    ({ board with things := table, roster := board.roster.dropThing id }, .done ())
  | .error error => (board.rejectBatch, .refused error)

def removeThings (ids : List String) (board : Board) : Board × Reply Unit :=
  inTurn removeThing ids board

def thingById (board : Board) (id : String) : Except Error Thing := board.things.retrieve id

def thingByKey (board : Board) (key : String) : Except Error String :=
  match board.things.records.find? fun thing => thing.key == key with
  | some thing => .ok thing.id
  | none => .error .notFound

def thingsByGroups (board : Board) (groups : List String) (query : Query) : Page Thing :=
  board.things.pageByGroups groups query

def thingsByPlace (board : Board) (query : Query) : Page Thing := board.things.pageByPlace query

/-- The stored things that the thing side connects to a channel, in connect order. -/
def connectedThings (board : Board) (channel : String) : List Thing :=
  (board.roster.things channel).filterMap board.things.get?

def thingsByChannel (board : Board) (channel : String) (query : Query) : Page Thing :=
  match board.roster.row? channel with
  | none => .empty query board.things.counter
  | some _ =>
    .finish query board.things.counter (windowByOrdinal query (board.connectedThings channel))

def channelsOfThing (board : Board) (thing : String) : List String := board.roster.channelsOf thing

end Switchboard.Board
