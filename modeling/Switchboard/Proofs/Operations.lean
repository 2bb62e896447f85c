import Switchboard.Board.Change
import Switchboard.Proofs.Links
import Switchboard.Proofs.TableContents

/-!
What each operation on one element does to a board. Three of them end on the channel side in the
same way: an event is offered to the bridge and, if it is taken, recorded. `offer` is that ending
and `accept` the board after it. The reads of connections answer from the row of the thing.
-/
namespace Switchboard.Board

/-- The board once an event is on the bridge and recorded. -/
def accept (event : ConnectionEvent) (board : Board) : Board :=
  { board with
    bridge := { board.bridge with queue := board.bridge.queue ++ [.event event] }
    tally := board.tally.emit event
    placement := board.placement.follow event
    channels :=
      match event with
      | .channelRemoved id => board.channels.erase id
      | _ => board.channels }

def offer (event : ConnectionEvent) (board : Board) : Board × Reply Unit :=
  if board.bridge.closed then (board, .refused .bridgeClosed)
  else if board.bridge.hasRoom then (board.accept event, .done ())
  else (board, .blocked)

theorem offer_cases (event : ConnectionEvent) (board : Board) :
    (board.bridge.closed = false ∧ board.bridge.hasRoom = true ∧
      board.offer event = (board.accept event, .done ())) ∨
    ((board.offer event).2 ≠ .done () ∧ (board.offer event).1 = board) := by
  unfold offer
  by_cases sealed : board.bridge.closed = true
  · rw [if_pos sealed]
    exact Or.inr ⟨by simp, rfl⟩
  · rw [if_neg sealed]
    by_cases room : board.bridge.hasRoom = true
    · rw [if_pos room]
      exact Or.inl ⟨Bool.not_eq_true _ ▸ sealed, room, rfl⟩
    · rw [if_neg room]
      exact Or.inr ⟨by simp, rfl⟩

theorem announce_eq (event : ConnectionEvent) (record : Board → Board) (board : Board)
    (recorded : record { board with
        bridge := { board.bridge with queue := board.bridge.queue ++ [.event event] }
        tally := board.tally.emit event } = board.accept event) :
    announce event record board = board.offer event := by
  unfold announce emit Bridge.send offer
  by_cases sealed : board.bridge.closed = true
  · rw [if_pos sealed, if_pos sealed]
  · rw [if_neg sealed, if_neg sealed]
    by_cases room : board.bridge.hasRoom = true
    · rw [if_pos room, if_pos room]
      exact congrArg (·, Reply.done ()) recorded
    · rw [if_neg room, if_neg room]

theorem removeChannel_eq (id : String) (board : Board) :
    removeChannel id board =
      if id ∈ board.channels.ids then board.offer (.channelRemoved id)
      else (board.rejectBatch, .refused .notFound) := by
  unfold removeChannel
  by_cases stored : id ∈ board.channels.ids
  · rw [if_pos ((Table.contains_iff _ _).mpr stored), if_pos stored]
    exact announce_eq _ _ _ rfl
  · rw [if_neg (by simpa [Table.contains_iff] using stored), if_neg stored]

theorem disconnectThing_eq (channel thing : String) (board : Board) :
    disconnectThing channel thing board =
      if board.placement.holds channel thing then board.offer (.disconnected channel thing)
      else (board, .refused .notFound) := by
  unfold disconnectThing
  split
  · exact announce_eq _ _ _ rfl
  · rfl

/-- The thing is looked up first, but either absence is answered alike. -/
theorem connectThing_eq (channel thing : String) (board : Board) (own : board.things.Own) :
    connectThing channel thing board =
      match board.things.get? thing with
      | none => (board, .refused .notFound)
      | some record =>
        if channel ∈ board.channels.ids then
          if board.placement.isPlaced thing then (board, .refused .conflict)
          else board.offer (.connect channel record)
        else (board, .refused .notFound) := by
  unfold connectThing thingById Table.retrieve
  cases found : board.things.get? thing with
  | none => rfl
  | some record =>
      have named : record.id = thing := own.get?_id thing record found
      by_cases stored : channel ∈ board.channels.ids
      · simp only [(Table.contains_iff _ _).mpr stored, stored, Bool.not_true, Bool.false_eq_true,
          ↓reduceIte]
        split
        · rfl
        · exact announce_eq _ _ _ (by subst named; rfl)
      · simp only [(Table.contains_false_iff _ _).mpr stored, stored, Bool.not_false, ↓reduceIte]

theorem removeThing_eq (id : String) (board : Board) :
    removeThing id board =
      if id ∈ board.things.ids then
        ({ board with things := board.things.erase id, roster := board.roster.dropThing id },
          .done ())
      else (board.rejectBatch, .refused .notFound) := by
  unfold removeThing
  rcases Table.remove_eq board.things id with ⟨stored, record, done⟩ | ⟨absent, failed⟩
  · rw [done, if_pos stored]
  · rw [failed, if_neg absent]

/-- The channel side lets an event go. -/
def Allows (board : Board) : ConnectionEvent → Prop
  | .connect channel thing =>
    board.things.get? thing.id = some thing ∧ channel ∈ board.channels.ids ∧
      board.placement.isPlaced thing.id = false
  | .disconnect channel thing => board.placement.holds channel thing.id = true
  | .channelRemoved channel => channel ∈ board.channels.ids
  | .void _ => False

theorem flush_board (ticket : Nat) (board : Board) :
    (board.bridge.closed = false ∧ board.bridge.hasRoom = true ∧
      (board.flush ticket).1 = { board with
        bridge := { board.bridge with queue := board.bridge.queue ++ [.barrier ticket] } }) ∨
    (board.flush ticket).1 = board := by
  unfold flush Bridge.send
  by_cases sealed : board.bridge.closed = true
  · rw [if_pos sealed]
    exact Or.inr rfl
  · rw [if_neg sealed]
    by_cases room : board.bridge.hasRoom = true
    · rw [if_pos room]
      exact Or.inl ⟨Bool.not_eq_true _ ▸ sealed, room, rfl⟩
    · rw [if_neg room]
      exact Or.inr rfl

theorem inTurn_preserves (Kept : Board → Prop) (one : String → Board → Board × Reply Unit)
    (each : ∀ id board, Kept board → Kept (one id board).1) (ids : List String) (board : Board)
    (kept : Kept board) : Kept (inTurn one ids board).1 := by
  induction ids generalizing board with
  | nil => exact kept
  | cons id rest ih =>
      have first := each id board kept
      unfold inTurn
      generalize one id board = answer at first ⊢
      obtain ⟨after, reply⟩ := answer
      cases reply with
      | done value => exact ih after first
      | refused error => exact first
      | blocked => exact first

theorem hasThing_eq (board : Board) (channel thing : String) :
    board.hasThing channel thing =
      if board.placement.holds channel thing then .ok () else .error .unauthorized := by
  unfold hasThing placedChannels Placement.isPlaced Placement.holds
  cases board.placement.channels thing with
  | nil => rfl
  | cons first rest => rfl

theorem connectionByKey_error (board : Board) (key : String) (error : Error)
    (unknown : board.thingByKey key = .error error) : board.connectionByKey key = .error error := by
  simp [connectionByKey, unknown, Bind.bind, Except.bind]

-- A thing that has a key is answered with its first channel, or refused if it has none.
theorem connectionByKey_placed (board : Board) (key thing channel : String) (rest : List String)
    (known : board.thingByKey key = .ok thing)
    (placed : board.placement.channels thing = channel :: rest) :
    board.connectionByKey key = .ok ⟨channel, thing⟩ := by
  simp [connectionByKey, placedChannels, Placement.isPlaced, known, placed, Bind.bind, Except.bind,
    Pure.pure, Except.pure]

theorem connectionByKey_free (board : Board) (key thing : String)
    (known : board.thingByKey key = .ok thing) (free : board.placement.channels thing = []) :
    board.connectionByKey key = .error .unauthorized := by
  simp [connectionByKey, placedChannels, Placement.isPlaced, known, free, Bind.bind, Except.bind]

theorem connectionByKey_ok (board : Board) (key channel thing : String)
    (answered : board.connectionByKey key = .ok ⟨channel, thing⟩) :
    board.thingByKey key = .ok thing ∧ channel ∈ board.placement.channels thing := by
  cases known : board.thingByKey key with
  | error error =>
      rw [board.connectionByKey_error key error known] at answered
      cases answered
  | ok named =>
      cases channels : board.placement.channels named with
      | nil =>
          rw [board.connectionByKey_free key named known channels] at answered
          cases answered
      | cons first rest =>
          rw [board.connectionByKey_placed key named first rest known channels] at answered
          obtain ⟨rfl, rfl⟩ := Connection.mk.inj (Except.ok.inj answered)
          exact ⟨rfl, channels ▸ List.mem_cons_self⟩

end Switchboard.Board
