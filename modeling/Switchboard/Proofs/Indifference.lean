import Switchboard.Proofs.Chronicle

/-!
The count of rejected batches is shown to whoever asks for it and decides nothing. Boards that differ
in it alone give the same answers, one operation after another, and never come to differ in anything
else. So a refusal that is only counted leaves no trace in what happens later.
-/
namespace Switchboard
namespace Board

def withRejected (board : Board) (count : Nat) : Board :=
  { board with tally := { board.tally with rejected := count } }

/-- Boards that differ at most in their counts of rejected batches. -/
def Alike (a b : Board) : Prop := ∃ count, b = a.withRejected count

section Fields
variable (board : Board) (count : Nat)

@[simp] theorem withRejected_things : (board.withRejected count).things = board.things := rfl

@[simp] theorem withRejected_channels : (board.withRejected count).channels = board.channels := rfl

@[simp] theorem withRejected_placement : (board.withRejected count).placement = board.placement :=
  rfl

@[simp] theorem withRejected_bridge : (board.withRejected count).bridge = board.bridge := rfl

theorem alike_withRejected : board.Alike (board.withRejected count) := ⟨count, rfl⟩

theorem alike_rejectBatch : board.Alike board.rejectBatch := ⟨board.tally.rejected + 1, rfl⟩

end Fields

theorem Alike.refl (board : Board) : board.Alike board := ⟨board.tally.rejected, rfl⟩

def Echoes {α : Type} (answer other : Board × Reply α) : Prop :=
  answer.1.Alike other.1 ∧ other.2 = answer.2

namespace Echoes
variable {α β : Type} {a b c d : Board × Reply α}

theorem still (board : Board) (count : Nat) (reply : Reply α) :
    Echoes (board, reply) (board.withRejected count, reply) :=
  ⟨board.alike_withRejected count, rfl⟩

theorem rejected (board : Board) (count : Nat) (reply : Reply α) :
    Echoes (board.rejectBatch, reply) ((board.withRejected count).rejectBatch, reply) :=
  ⟨⟨count + 1, rfl⟩, rfl⟩

theorem ite {condition : Prop} [Decidable condition] (first : Echoes a b) (second : Echoes c d) :
    Echoes (if condition then a else c) (if condition then b else d) := by
  split
  · exact first
  · exact second

theorem map (echoes : Echoes a b) (f : α → β) : Echoes (a.1, a.2.map f) (b.1, b.2.map f) :=
  ⟨echoes.1, congrArg (Reply.map f) echoes.2⟩

end Echoes

/-- An operation that the count neither decides nor gets into anything else. -/
def Indifferent {α : Type} (act : Board → Board × Reply α) : Prop :=
  ∀ board count, Echoes (act board) (act (board.withRejected count))

theorem Indifferent.alike {α : Type} {act : Board → Board × Reply α}
    (indifferent : Indifferent act) {a b : Board} (alike : a.Alike b) :
    Echoes (act a) (act b) := by
  obtain ⟨count, rfl⟩ := alike
  exact indifferent a count

theorem announce_indifferent (event : ConnectionEvent) (record : Board → Board)
    (recorded : ∀ sent count, record (sent.withRejected count) = (record sent).withRejected count) :
    Indifferent (announce event record) := by
  intro board count
  simp only [announce, emit, withRejected_bridge]
  cases board.bridge.send (.event event) with
  | taken bridge =>
      refine ⟨⟨count, ?_⟩, rfl⟩
      exact recorded { board with bridge := bridge, tally := board.tally.emit event } count
  | full => exact .still board count _
  | closed => exact .still board count _

theorem removeChannel_indifferent (id : String) : Indifferent (removeChannel id) := by
  intro board count
  simp only [removeChannel, withRejected_channels]
  apply Echoes.ite
  · apply announce_indifferent
    exact fun _ _ => rfl
  · exact .rejected board count _

theorem disconnectThing_indifferent (channel thing : String) :
    Indifferent (disconnectThing channel thing) := by
  intro board count
  simp only [disconnectThing, withRejected_placement]
  apply Echoes.ite
  · apply announce_indifferent
    exact fun _ _ => rfl
  · exact .still board count _

theorem connectThing_indifferent (channel thing : String) :
    Indifferent (connectThing channel thing) := by
  intro board count
  simp only [connectThing, thingById, withRejected_things, withRejected_channels,
    withRejected_placement]
  cases board.things.retrieve thing with
  | error error => exact .still board count _
  | ok record =>
      apply Echoes.ite (.still board count _)
      apply Echoes.ite (.still board count _)
      apply announce_indifferent
      exact fun _ _ => rfl

theorem removeThing_indifferent (id : String) : Indifferent (removeThing id) := by
  intro board count
  simp only [removeThing, withRejected_things]
  cases board.things.remove id with
  | error error => exact .rejected board count _
  | ok removed => exact ⟨⟨count, rfl⟩, rfl⟩

-- By the elements: what the first leaves alike, the rest meets alike.
theorem inTurn_indifferent {one : String → Board → Board × Reply Unit}
    (each : ∀ id, Indifferent (one id)) (ids : List String) : Indifferent (inTurn one ids) := by
  induction ids with
  | nil => exact fun board count => .still board count _
  | cons id rest ih =>
      intro board count
      obtain ⟨alike, replied⟩ := each id board count
      unfold inTurn
      generalize one id board = answer at alike replied ⊢
      generalize one id (board.withRejected count) = other at alike replied ⊢
      obtain ⟨after, reply⟩ := answer
      obtain ⟨otherAfter, otherReply⟩ := other
      cases replied
      cases reply with
      | done value => exact ih.alike alike
      | refused error => exact ⟨alike, rfl⟩
      | blocked => exact ⟨alike, rfl⟩

theorem saveThings_indifferent (batch : List Thing) : Indifferent (saveThings batch) := by
  intro board count
  simp only [saveThings, withRejected_things]
  apply Echoes.ite
  · cases board.things.insertBatch batch with
    | error error => exact .rejected board count _
    | ok stored => exact ⟨⟨count, rfl⟩, rfl⟩
  · exact .rejected board count _

theorem updateThing_indifferent (thing : Thing) : Indifferent (updateThing thing) := by
  intro board count
  simp only [updateThing, withRejected_things]
  cases board.things.replace thing with
  | error error => exact .still board count _
  | ok table => exact ⟨⟨count, rfl⟩, rfl⟩

theorem updateKey_indifferent (id key : String) : Indifferent (updateKey id key) := by
  intro board count
  simp only [updateKey, keyInUse, withRejected_things]
  apply Echoes.ite (.still board count _)
  apply Echoes.ite
  · exact ⟨⟨count, rfl⟩, rfl⟩
  · exact .still board count _

theorem saveChannels_indifferent (batch : List Channel) : Indifferent (saveChannels batch) := by
  intro board count
  simp only [saveChannels, withRejected_channels]
  cases board.channels.insertBatch batch with
  | error error => exact .rejected board count _
  | ok stored => exact ⟨⟨count, rfl⟩, rfl⟩

theorem updateChannel_indifferent (channel : Channel) : Indifferent (updateChannel channel) := by
  intro board count
  simp only [updateChannel, withRejected_channels]
  cases board.channels.replace channel with
  | error error => exact .still board count _
  | ok table => exact ⟨⟨count, rfl⟩, rfl⟩

theorem flush_indifferent (ticket : Nat) : Indifferent (flush ticket) := by
  intro board count
  simp only [flush, withRejected_bridge]
  cases board.bridge.send (.barrier ticket) with
  | taken bridge => exact ⟨⟨count, rfl⟩, rfl⟩
  | full => exact .still board count _
  | closed => exact .still board count _

theorem Alike.consume {a b : Board} (alike : a.Alike b) : a.consume.Alike b.consume := by
  obtain ⟨count, rfl⟩ := alike
  unfold Board.consume
  rw [withRejected_bridge]
  cases a.bridge.queue with
  | nil => exact a.alike_withRejected count
  | cons parcel rest =>
      cases parcel with
      | event event => cases event <;> exact ⟨count, rfl⟩
      | barrier ticket => exact ⟨count, rfl⟩

end Board

theorem Change.run_indifferent (change : Change) : Board.Indifferent change.run := by
  intro board count
  cases change with
  | saveThings batch => exact (Board.saveThings_indifferent batch board count).map _
  | updateThing thing => exact (Board.updateThing_indifferent thing board count).map _
  | updateKey id key => exact (Board.updateKey_indifferent id key board count).map _
  | removeThings ids =>
      exact (Board.inTurn_indifferent Board.removeThing_indifferent ids board count).map _
  | saveChannels batch => exact (Board.saveChannels_indifferent batch board count).map _
  | updateChannel channel => exact (Board.updateChannel_indifferent channel board count).map _
  | removeChannels ids =>
      exact (Board.inTurn_indifferent Board.removeChannel_indifferent ids board count).map _
  | connect channel things =>
      simp only [run, Board.connect, Board.withRejected_channels]
      apply Board.Echoes.map
      apply Board.Echoes.ite
      · exact Board.inTurn_indifferent (Board.connectThing_indifferent channel) things board count
      · exact .still board count _
  | disconnect channel things =>
      have elements := Board.inTurn_indifferent (Board.disconnectThing_indifferent channel) things
      exact (elements board count).map _

namespace Chronicle

theorem step_alike {a b : Chronicle} (alike : a.board.Alike b.board) (step : Step) :
    (a.step step).board.Alike (b.step step).board := by
  cases step with
  | change change => exact (change.run_indifferent.alike alike).1
  | flush ticket => exact ((Board.flush_indifferent ticket).alike alike).1
  | consume => exact alike.consume
  | sealOff =>
      obtain ⟨count, same⟩ := alike
      exact ⟨count, congrArg (fun board => { board with bridge := board.bridge.sealOff }) same⟩

theorem play_alike (steps : List Step) {a b : Chronicle} (alike : a.board.Alike b.board) :
    (play steps a).board.Alike (play steps b).board := by
  induction steps generalizing a b with
  | nil => exact alike
  | cons step rest ih => exact ih (step_alike alike step)

end Chronicle
end Switchboard
