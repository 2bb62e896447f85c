import Switchboard.Proofs.Chronicle

/-!
Operations that wait for room. Between the elements of a batch the consumer takes as many parcels
as it likes, and an element that finds the bridge full waits until one more is taken. What decides
about an element is out of the consumer's reach, so on an open bridge an element that is not refused
succeeds after one parcel at the latest.
-/
namespace Switchboard
namespace Board

def consumeMany : Nat → Board → Board
  | 0, board => board
  | count + 1, board => consumeMany count board.consume

/-- An element that finds the bridge full is tried again once a parcel is taken. -/
def patiently (one : String → Board → Board × Reply Unit) (id : String) (board : Board) :
    Board × Reply Unit :=
  match one id board with
  | (waiting, .blocked) => one id waiting.consume
  | answer => answer

/-- Takes the elements of a batch in turn, and before each of them the listed number of parcels. -/
def inPace (one : String → Board → Board × Reply Unit) :
    List Nat → List String → Board → Board × Reply Unit
  | _, [], board => (board, .done ())
  | pace, id :: rest, board =>
    match patiently one id (board.consumeMany (pace.headD 0)) with
    | (after, .done ()) => inPace one pace.tail rest after
    | (after, .refused error) => (after, .refused error)
    | (after, .blocked) => (after, .blocked)

end Board

def Change.runPaced (change : Change) (pace : List Nat) (board : Board) : Board × Reply Saved :=
  match change with
  | .removeChannels ids => withoutResult (Board.inPace Board.removeChannel pace ids board)
  | .connect channel things =>
    if board.channels.contains channel then
      withoutResult (Board.inPace (Board.connectThing channel) pace things board)
    else (board, .refused .notFound)
  | .disconnect channel things =>
    withoutResult (Board.inPace (Board.disconnectThing channel) pace things board)
  | other => other.run board

namespace Board

theorem consume_frame (board : Board) :
    ∃ roster tally, board.consume = { board with
      roster := roster
      tally := tally
      bridge := { board.bridge with queue := board.bridge.queue.tail } } := by
  obtain ⟨things, roster, channels, placement, ⟨capacity, queue, closed⟩, tally⟩ := board
  rcases queue with _ | ⟨_ | _, _⟩
  · exact ⟨_, _, rfl⟩
  · exact ⟨_, _, rfl⟩
  · exact ⟨_, _, rfl⟩

theorem consumeMany_frame (count : Nat) (board : Board) :
    ∃ roster tally, board.consumeMany count = { board with
      roster := roster
      tally := tally
      bridge := { board.bridge with queue := board.bridge.queue.drop count } } := by
  induction count generalizing board with
  | zero => exact ⟨board.roster, board.tally, rfl⟩
  | succ count ih =>
      obtain ⟨roster, tally, taken⟩ := board.consume_frame
      obtain ⟨roster, tally, later⟩ := ih board.consume
      refine ⟨roster, tally, ?_⟩
      change consumeMany count board.consume = _
      rw [later, taken]
      simp

@[simp] theorem consumeMany_things (count : Nat) (board : Board) :
    (board.consumeMany count).things = board.things := by
  obtain ⟨_, _, same⟩ := consumeMany_frame count board
  rw [same]

@[simp] theorem consumeMany_channels (count : Nat) (board : Board) :
    (board.consumeMany count).channels = board.channels := by
  obtain ⟨_, _, same⟩ := consumeMany_frame count board
  rw [same]

@[simp] theorem consumeMany_placement (count : Nat) (board : Board) :
    (board.consumeMany count).placement = board.placement := by
  obtain ⟨_, _, same⟩ := consumeMany_frame count board
  rw [same]

theorem consumeMany_bridge (count : Nat) (board : Board) :
    (board.consumeMany count).bridge =
      { board.bridge with queue := board.bridge.queue.drop count } := by
  obtain ⟨_, _, same⟩ := consumeMany_frame count board
  rw [same]

/-- The bridge is open and not overfull, and every thing is stored under its own identifier. -/
structure Ready (board : Board) : Prop where
  unsealed : board.bridge.closed = false
  roomy : 0 < board.bridge.capacity
  fits : board.bridge.queue.length ≤ board.bridge.capacity
  own : board.things.Own

theorem ready_ofCapacity (capacity : Nat) : (ofCapacity capacity).Ready where
  unsealed := rfl
  roomy := Nat.lt_of_lt_of_le Nat.zero_lt_one (Nat.le_max_right capacity 1)
  fits := Nat.zero_le _
  own := Table.own_empty

theorem Ready.consumeMany {board : Board} (ready : board.Ready) (count : Nat) :
    (board.consumeMany count).Ready := by
  obtain ⟨roster, tally, same⟩ := consumeMany_frame count board
  rw [same]
  refine ⟨ready.unsealed, ready.roomy, ?_, ready.own⟩
  exact (List.length_drop ▸ Nat.sub_le _ count).trans ready.fits

theorem Ready.offer {board : Board} (ready : board.Ready) (event : ConnectionEvent) :
    (board.bridge.hasRoom = true ∧ board.offer event = (board.accept event, .done ()) ∧
      (board.accept event).Ready) ∨
    (board.bridge.hasRoom = false ∧ board.offer event = (board, .blocked)) := by
  by_cases room : board.bridge.hasRoom = true
  · refine Or.inl ⟨room, by simp [Board.offer, ready.unsealed, room], ?_⟩
    have below : board.bridge.queue.length < board.bridge.capacity := of_decide_eq_true room
    exact ⟨ready.unsealed, ready.roomy, by simpa [accept] using Nat.succ_le_of_lt below, ready.own⟩
  · exact Or.inr ⟨Bool.not_eq_true _ ▸ room, by simp [Board.offer, ready.unsealed, room]⟩

theorem Ready.flush {board : Board} (ready : board.Ready) (ticket : Nat) :
    (board.flush ticket).1.Ready := by
  rcases board.flush_board ticket with ⟨_, room, queued⟩ | same
  · have below : board.bridge.queue.length < board.bridge.capacity := of_decide_eq_true room
    rw [queued]
    exact ⟨ready.unsealed, ready.roomy, by simpa using Nat.succ_le_of_lt below, ready.own⟩
  · rw [same]
    exact ready

theorem Ready.hasRoom_consume {board : Board} (ready : board.Ready) :
    (board.consumeMany 1).bridge.hasRoom = true := by
  have shorter : (board.bridge.queue.drop 1).length < board.bridge.capacity := by
    have fits := ready.fits
    have roomy := ready.roomy
    rw [List.length_drop]
    omega
  rw [consumeMany_bridge]
  exact decide_eq_true shorter

def Offers (one : String → Board → Board × Reply Unit) (id : String) (board : Board)
    (event : ConnectionEvent) : Prop :=
  ∀ count, one id (board.consumeMany count) = (board.consumeMany count).offer event

/-- An element is refused, however many parcels are taken first, and leaves the board alone except
for the counts. -/
def Refuses (one : String → Board → Board × Reply Unit) (id : String) (board : Board)
    (error : Error) : Prop :=
  ∀ count, ∃ tally,
    one id (board.consumeMany count) =
      ({ board.consumeMany count with tally := tally }, .refused error)

theorem removeChannel_cases (id : String) (board : Board) :
    (id ∈ board.channels.ids ∧ Offers removeChannel id board (.channelRemoved id)) ∨
    (id ∉ board.channels.ids ∧ Refuses removeChannel id board .notFound) := by
  by_cases stored : id ∈ board.channels.ids
  · refine Or.inl ⟨stored, fun count => ?_⟩
    rw [removeChannel_eq, if_pos (by simpa using stored)]
  · refine Or.inr ⟨stored, fun count => ⟨(board.consumeMany count).tally.reject, ?_⟩⟩
    rw [removeChannel_eq, if_neg (by simpa using stored)]
    rfl

theorem disconnectThing_cases (channel thing : String) (board : Board) :
    (board.placement.holds channel thing = true ∧
      Offers (disconnectThing channel) thing board (.disconnected channel thing)) ∨
    (board.placement.holds channel thing = false ∧
      Refuses (disconnectThing channel) thing board .notFound) := by
  by_cases held : board.placement.holds channel thing = true
  · refine Or.inl ⟨held, fun count => ?_⟩
    rw [disconnectThing_eq, consumeMany_placement, if_pos held]
  · refine Or.inr ⟨Bool.not_eq_true _ ▸ held, fun count => ⟨(board.consumeMany count).tally, ?_⟩⟩
    rw [disconnectThing_eq, consumeMany_placement, if_neg held]

theorem connectThing_cases (channel thing : String) (board : Board) (own : board.things.Own) :
    (∃ record, record.id = thing ∧ board.Allows (.connect channel record) ∧
      Offers (connectThing channel) thing board (.connect channel record)) ∨
    ((channel ∉ board.channels.ids ∨ thing ∉ board.things.ids) ∧
      Refuses (connectThing channel) thing board .notFound) ∨
    (channel ∈ board.channels.ids ∧ thing ∈ board.things.ids ∧
      board.placement.isPlaced thing = true ∧
      Refuses (connectThing channel) thing board .conflict) := by
  have answers (count : Nat) := connectThing_eq channel thing (board.consumeMany count)
    (by simpa using own)
  simp only [consumeMany_things, consumeMany_channels, consumeMany_placement] at answers
  cases found : board.things.get? thing with
  | none =>
      refine Or.inr (Or.inl ⟨Or.inr ((Table.get?_eq_none_iff _ _).mp found), fun count => ?_⟩)
      exact ⟨(board.consumeMany count).tally, by rw [answers, found]⟩
  | some record =>
      have named : record.id = thing := own.get?_id thing record found
      have held : thing ∈ board.things.ids := Table.get?_stored _ _ _ found
      by_cases stored : channel ∈ board.channels.ids
      · by_cases placed : board.placement.isPlaced thing = true
        · refine Or.inr (Or.inr ⟨stored, held, placed, fun count => ?_⟩)
          refine ⟨(board.consumeMany count).tally, ?_⟩
          simp only [answers, found, stored, placed, ↓reduceIte]
        · refine Or.inl ⟨record, named, ?_, fun count => ?_⟩
          · subst named
            exact ⟨found, stored, Bool.not_eq_true _ ▸ placed⟩
          · simp only [answers, found, stored, placed, Bool.false_eq_true, ↓reduceIte]
      · refine Or.inr (Or.inl ⟨Or.inl stored, fun count => ?_⟩)
        refine ⟨(board.consumeMany count).tally, ?_⟩
        simp only [answers, found, stored, ↓reduceIte]

/-- One parcel is enough to wait for. -/
theorem Ready.patiently_offer {board : Board} (ready : board.Ready)
    (one : String → Board → Board × Reply Unit) (id : String) (event : ConnectionEvent)
    (offers : Offers one id board event) :
    ∃ count, patiently one id board = ((board.consumeMany count).accept event, .done ()) ∧
      ((board.consumeMany count).accept event).Ready := by
  have now : one id board = board.offer event := offers 0
  unfold patiently
  -- A full bridge has room after one parcel, and the element offers the same event then.
  rcases ready.offer event with ⟨_, taken, after⟩ | ⟨_, full⟩
  · exact ⟨0, by rw [now, taken]; rfl, after⟩
  · rcases (ready.consumeMany 1).offer event with ⟨_, taken, after⟩ | ⟨still, _⟩
    · exact ⟨1, by rw [now, full]; exact (offers 1).trans taken, after⟩
    · exact absurd ready.hasRoom_consume (by simp [still])

theorem patiently_refused (one : String → Board → Board × Reply Unit) (id : String) (board : Board)
    (error : Error) (refuses : Refuses one id board error) :
    ∃ tally, patiently one id board = ({ board with tally := tally }, .refused error) := by
  obtain ⟨tally, refused⟩ := refuses 0
  exact ⟨tally, by unfold patiently; rw [show one id board = _ from refused]; rfl⟩

theorem settle_handle (board : Board) (parcel : Parcel) (rest : List Parcel)
    (waiting : board.bridge.queue = parcel :: rest) : board.consume.settle = board.settle := by
  obtain ⟨things, roster, channels, placement, ⟨capacity, queue, closed⟩, tally⟩ := board
  cases waiting
  cases parcel <;> rfl

-- By the count, which may exceed what is on the bridge; a parcel that is not there changes nothing.
theorem consumeMany_settle (count : Nat) (board : Board)
    (enough : board.bridge.queue.length ≤ count) : board.consumeMany count = board.settle := by
  induction count generalizing board with
  | zero =>
      have nothing : board.bridge.queue = [] := List.length_eq_zero_iff.mp (Nat.le_zero.mp enough)
      obtain ⟨things, roster, channels, placement, ⟨capacity, queue, closed⟩, tally⟩ := board
      cases nothing
      rfl
  | succ count ih =>
      have shorter : board.consume.bridge.queue.length ≤ count := by
        rw [show board.consume = board.consumeMany 1 from rfl, consumeMany_bridge, List.length_drop]
        omega
      change consumeMany count board.consume = _
      rw [ih board.consume shorter]
      cases waiting : board.bridge.queue with
      | nil =>
          congr 1
          unfold consume
          rw [waiting]
      | cons parcel rest => exact settle_handle board parcel rest waiting

theorem Ready.settle {board : Board} (ready : board.Ready) : board.settle.Ready :=
  consumeMany_settle _ board le_rfl ▸ ready.consumeMany board.bridge.queue.length

theorem Ready.hasRoom_settle {board : Board} (ready : board.Ready) :
    board.settle.bridge.hasRoom = true := by
  rw [← consumeMany_settle _ board le_rfl, consumeMany_bridge]
  exact decide_eq_true (by simpa using ready.roomy)

theorem settle_queue (board : Board) : board.settle.bridge.queue = [] := by
  rw [← consumeMany_settle _ board le_rfl, consumeMany_bridge, List.drop_length]

theorem settle_capacity (board : Board) : board.settle.bridge.capacity = board.bridge.capacity := by
  rw [← consumeMany_settle _ board le_rfl, consumeMany_bridge]

end Board
end Switchboard
