import Switchboard.Proofs.FreshIdentifiers
import Switchboard.Proofs.Operations

/-!
Histories of a board. A chronicle is a board together with what was noticed on the way to it, in
the order in which it happened; it is played from an empty board by any list of steps, in which the
consumer takes parcels wherever it likes. An operation that finds the bridge full is given up where
it stands; one that waits instead is the same operation on the elements that are left, after some
steps of the consumer.

`Deed` lists what an operation can do to a board at one element, and `Outcome` all that a single
move can do. Whatever every outcome keeps holds of every chronicle that is played.
-/
namespace Switchboard

/-- What is noticed while a board is at work. An emission is noticed when its event is on the
bridge and recorded, with the channel side as it is then. -/
inductive Incident where
  | saved (thing : String)
  | removed (thing : String)
  | emitted (event : ConnectionEvent) (side : Placement)
  | applied (event : ConnectionEvent)

namespace Board

def inTurnNotes (one : String → Board → Board × Reply Unit)
    (note : String → Board → Board → List Incident) : List String → Board → List Incident
  | [], _ => []
  | id :: rest, board =>
    match one id board with
    | (after, .done ()) => note id board after ++ inTurnNotes one note rest after
    | _ => []

def connectNote (channel thing : String) (before after : Board) : List Incident :=
  ((before.things.get? thing).map fun record =>
    .emitted (.connect channel record) after.placement).toList

def arrival (board : Board) : List Incident :=
  match board.bridge.queue with
  | .event event :: _ => [.applied event]
  | _ => []

end Board

def Change.notes (change : Change) (board : Board) : List Incident :=
  match change with
  | .saveThings batch =>
    match (board.saveThings batch).2 with
    | .done stored => stored.map fun thing => .saved thing.id
    | _ => []
  | .removeThings ids => Board.inTurnNotes Board.removeThing (fun id _ _ => [.removed id]) ids board
  | .removeChannels ids =>
    Board.inTurnNotes Board.removeChannel
      (fun id _ after => [.emitted (.channelRemoved id) after.placement]) ids board
  | .connect channel things =>
    if board.channels.contains channel then
      Board.inTurnNotes (Board.connectThing channel) (Board.connectNote channel) things board
    else []
  | .disconnect channel things =>
    Board.inTurnNotes (Board.disconnectThing channel)
      (fun thing _ after => [.emitted (.disconnected channel thing) after.placement]) things board
  | _ => []

/-- A step of a history: a whole operation, a barrier, the consumer's next parcel, or the sealing
of the bridge. -/
inductive Step where
  | change (change : Change)
  | flush (ticket : Nat)
  | consume
  | sealOff

structure Chronicle where
  board : Board
  log : List Incident := []

namespace Chronicle

def step (chronicle : Chronicle) : Step → Chronicle
  | .change change =>
    ⟨(change.run chronicle.board).1, chronicle.log ++ change.notes chronicle.board⟩
  | .flush ticket => ⟨(chronicle.board.flush ticket).1, chronicle.log⟩
  | .consume => ⟨chronicle.board.consume, chronicle.log ++ chronicle.board.arrival⟩
  | .sealOff =>
    ⟨{ chronicle.board with bridge := chronicle.board.bridge.sealOff }, chronicle.log⟩

def play (steps : List Step) (chronicle : Chronicle) : Chronicle := steps.foldl step chronicle

def ofSteps (capacity : Nat) (steps : List Step) : Chronicle :=
  play steps ⟨.ofCapacity capacity, []⟩

end Chronicle

/-- All that one element of an operation can do to a board, with what is noticed of it. -/
inductive Deed (before : Board) : List Incident → Board → Prop where
  | kept (things : Table Thing) (channels : Table Channel) (tally : Tally) (fresh : List String)
      (grown : things.ids = before.things.ids ++ fresh)
      (unused : ∀ id ∈ fresh, id ∉ before.things.ids) (own : things.Own)
      (spared : ∀ id ∈ before.channels.ids, id ∈ channels.ids) :
      Deed before (fresh.map .saved)
        { before with things := things, channels := channels, tally := tally }
  | removed (id : String) (stored : id ∈ before.things.ids) :
      Deed before [.removed id]
        { before with things := before.things.erase id, roster := before.roster.dropThing id }
  | emitted (event : ConnectionEvent) (allowed : before.Allows event)
      (unsealed : before.bridge.closed = false) (room : before.bridge.hasRoom = true) :
      Deed before [.emitted event (before.placement.follow event)] (before.accept event)

/-- All that one move can do to a board: a deed, or something on the bridge. -/
inductive Outcome (before : Board) : List Incident → Board → Prop where
  | deed {news : List Incident} {after : Board} (deed : Deed before news after) :
      Outcome before news after
  | barred (ticket : Nat) (unsealed : before.bridge.closed = false)
      (room : before.bridge.hasRoom = true) :
      Outcome before [] { before with
        bridge := { before.bridge with queue := before.bridge.queue ++ [.barrier ticket] } }
  | sealed : Outcome before [] { before with bridge := before.bridge.sealOff }
  | applied (event : ConnectionEvent) (rest : List Parcel)
      (first : before.bridge.queue = .event event :: rest) :
      Outcome before [.applied event]
        ({ before with bridge := { before.bridge with queue := rest } }.applyEvent event)
  | passed (ticket : Nat) (rest : List Parcel)
      (first : before.bridge.queue = .barrier ticket :: rest) :
      Outcome before [] { before with bridge := { before.bridge with queue := rest } }

namespace Deed
variable {before after : Board} {news : List Incident}

theorem still (board : Board) (own : board.things.Own) : Deed board [] board :=
  .kept board.things board.channels board.tally [] (List.append_nil _).symm
    (fun _ member => absurd member List.not_mem_nil) own fun _ stored => stored

theorem rejected (board : Board) (own : board.things.Own) : Deed board [] board.rejectBatch :=
  .kept board.things board.channels board.tally.reject [] (List.append_nil _).symm
    (fun _ member => absurd member List.not_mem_nil) own fun _ stored => stored

theorem own (deed : Deed before news after) (own : before.things.Own) : after.things.Own := by
  cases deed with
  | kept things channels tally fresh grown unused kept spared => exact kept
  | removed id stored => exact own.erase id
  | emitted event allowed unsealed room => exact own

end Deed

theorem Outcome.own {before after : Board} {news : List Incident}
    (outcome : Outcome before news after) (own : before.things.Own) : after.things.Own := by
  cases outcome with
  | deed deed => exact deed.own own
  | barred ticket unsealed room => exact own
  | sealed => exact own
  | applied event rest first => exact own
  | passed ticket rest first => exact own

/-- An element of a batch either succeeds, and is noticed, or leaves the connections alone. -/
def Noticed (one : String → Board → Board × Reply Unit)
    (note : String → Board → Board → List Incident) : Prop :=
  ∀ id board, board.things.Own →
    ((one id board).2 = .done () ∧ Deed board (note id board (one id board).1) (one id board).1) ∨
    ((one id board).2 ≠ .done () ∧ Deed board [] (one id board).1)

namespace Board

theorem offer_deed (event : ConnectionEvent) (board : Board) (own : board.things.Own)
    (allowed : board.Allows event) :
    ((board.offer event).2 = .done () ∧
      Deed board [.emitted event (board.offer event).1.placement] (board.offer event).1) ∨
    ((board.offer event).2 ≠ .done () ∧ Deed board [] (board.offer event).1) := by
  rcases board.offer_cases event with ⟨unsealed, room, taken⟩ | ⟨failed, same⟩
  · rw [taken]
    exact Or.inl ⟨rfl, .emitted event allowed unsealed room⟩
  · rw [same]
    exact Or.inr ⟨failed, .still board own⟩

theorem removeThing_noticed : Noticed removeThing fun id _ _ => [.removed id] := by
  intro id board own
  rw [removeThing_eq]
  by_cases stored : id ∈ board.things.ids
  · rw [if_pos stored]
    exact Or.inl ⟨rfl, .removed id stored⟩
  · rw [if_neg stored]
    exact Or.inr ⟨by simp, .rejected board own⟩

theorem removeChannel_noticed : Noticed removeChannel fun id _ after =>
    [.emitted (.channelRemoved id) after.placement] := by
  intro id board own
  rw [removeChannel_eq]
  by_cases stored : id ∈ board.channels.ids
  · rw [if_pos stored]
    exact offer_deed _ board own stored
  · rw [if_neg stored]
    exact Or.inr ⟨by simp, .rejected board own⟩

theorem disconnectThing_noticed (channel : String) :
    Noticed (disconnectThing channel) fun thing _ after =>
      [.emitted (.disconnected channel thing) after.placement] := by
  intro thing board own
  rw [disconnectThing_eq]
  by_cases held : board.placement.holds channel thing = true
  · rw [if_pos held]
    exact offer_deed _ board own held
  · rw [if_neg held]
    exact Or.inr ⟨by simp, .still board own⟩

theorem connectThing_noticed (channel : String) :
    Noticed (connectThing channel) (connectNote channel) := by
  intro thing board own
  rw [connectThing_eq channel thing board own]
  unfold connectNote
  cases found : board.things.get? thing with
  | none => exact Or.inr ⟨by simp, .still board own⟩
  | some record =>
      have named : record.id = thing := own.get?_id thing record found
      by_cases stored : channel ∈ board.channels.ids
      · by_cases placed : board.placement.isPlaced thing = true
        · simp only [stored, placed, ↓reduceIte]
          exact Or.inr ⟨by simp, .still board own⟩
        · simp only [stored, placed, ↓reduceIte]
          apply offer_deed _ board own
          subst named
          exact ⟨found, stored, Bool.not_eq_true _ ▸ placed⟩
      · simp only [stored, ↓reduceIte]
        exact Or.inr ⟨by simp, .still board own⟩

end Board

/-- Any number of moves of a kind, with all that is noticed of them. -/
inductive Passage (Move : Board → List Incident → Board → Prop) :
    Board → List Incident → Board → Prop where
  | refl (board : Board) : Passage Move board [] board
  | next {before middle after : Board} {news later : List Incident} :
      Move before news middle → Passage Move middle later after →
        Passage Move before (news ++ later) after

namespace Passage
variable {Move : Board → List Incident → Board → Prop} {before after : Board}
  {news : List Incident}

theorem single (move : Move before news after) : Passage Move before news after := by
  simpa using next move (refl after)

theorem mono {Wider : Board → List Incident → Board → Prop}
    (within : ∀ {before news after}, Move before news after → Wider before news after)
    (passage : Passage Move before news after) : Passage Wider before news after := by
  induction passage with
  | refl board => exact .refl board
  | next move _ ih => exact .next (within move) ih

theorem own (passage : Passage Outcome before news after) (own : before.things.Own) :
    after.things.Own := by
  induction passage with
  | refl => exact own
  | next outcome _ ih => exact ih (outcome.own own)

theorem keeps (Kept : List Incident → Board → Prop)
    (each : ∀ {log news : List Incident} {before after : Board}, before.things.Own →
      Kept log before → Outcome before news after → Kept (log ++ news) after)
    (passage : Passage Outcome before news after) (own : before.things.Own)
    (log : List Incident) (kept : Kept log before) : Kept (log ++ news) after := by
  induction passage generalizing log with
  | refl => simpa using kept
  | next outcome _ ih =>
      rw [← List.append_assoc]
      exact ih (outcome.own own) _ (each own kept outcome)

end Passage

namespace Board

-- By the elements of the batch; the first that does not succeed ends it.
theorem inTurn_passage (one : String → Board → Board × Reply Unit)
    (note : String → Board → Board → List Incident) (noticed : Noticed one note)
    (ids : List String) (board : Board) (own : board.things.Own) :
    Passage Deed board (inTurnNotes one note ids board) (inTurn one ids board).1 := by
  induction ids generalizing board with
  | nil => exact .refl board
  | cons id rest ih =>
      have element := noticed id board own
      unfold inTurnNotes inTurn
      generalize one id board = answer at element ⊢
      obtain ⟨after, reply⟩ := answer
      rcases element with ⟨done, deed⟩ | ⟨failed, deed⟩
      · subst done
        exact .next deed (ih after (deed.own own))
      · cases reply with
        | done value => exact absurd rfl failed
        | refused error => exact .single deed
        | blocked => exact .single deed

theorem saveThings_deed (batch : List Thing) (board : Board) (own : board.things.Own) :
    Deed board ((Change.saveThings batch).notes board) (board.saveThings batch).1 := by
  simp only [Change.notes, saveThings]
  by_cases free : keysFree board.things batch = true
  · cases inserted : board.things.insertBatch batch with
    | error error =>
        simp only [free, ↓reduceIte]
        exact .rejected board own
    | ok stored =>
        have deed : Deed board _ _ := .kept stored.2 board.channels board.tally
          (stored.1.map Thing.id)
          (Table.insertBatch_ids board.things stored.2 batch stored.1 inserted)
          (by
            intro id member
            obtain ⟨record, fresh, rfl⟩ := List.mem_map.mp member
            exact Table.insertBatch_fresh board.things stored.2 batch stored.1 inserted record
              fresh)
          (own.insertBatch stored.2 batch stored.1 inserted) fun _ stored => stored
        simpa [free, Function.comp_def] using deed
  · simp only [free, Bool.false_eq_true, ↓reduceIte]
    exact .rejected board own

theorem updateThing_deed (thing : Thing) (board : Board) (own : board.things.Own) :
    Deed board [] (board.updateThing thing).1 := by
  unfold updateThing
  rcases Table.replace_eq board.things thing with ⟨_, done⟩ | ⟨_, failed⟩
  · rw [done]
    exact .kept _ board.channels board.tally [] (by rw [Table.ids_modify, List.append_nil])
      (fun _ member => absurd member List.not_mem_nil)
      (own.modify _ _ fun _ _ => rfl) fun _ stored => stored
  · rw [failed]
    exact .still board own

theorem updateKey_deed (id key : String) (board : Board) (own : board.things.Own) :
    Deed board [] (board.updateKey id key).1 := by
  unfold updateKey
  split
  · exact .still board own
  · split
    · exact .kept _ board.channels board.tally [] (by rw [Table.ids_modify, List.append_nil])
        (fun _ member => absurd member List.not_mem_nil)
        (own.modify _ _ fun _ same => same) fun _ stored => stored
    · exact .still board own

theorem saveChannels_deed (batch : List Channel) (board : Board) (own : board.things.Own) :
    Deed board [] (board.saveChannels batch).1 := by
  unfold saveChannels
  cases inserted : board.channels.insertBatch batch with
  | error error => exact .rejected board own
  | ok stored =>
      refine .kept board.things stored.2 board.tally [] (List.append_nil _).symm
        (fun _ member => absurd member List.not_mem_nil) own ?_
      intro id member
      rw [Table.insertBatch_ids board.channels stored.2 batch stored.1 inserted]
      exact List.mem_append_left _ member

theorem updateChannel_deed (channel : Channel) (board : Board) (own : board.things.Own) :
    Deed board [] (board.updateChannel channel).1 := by
  unfold updateChannel
  rcases Table.replace_eq board.channels channel with ⟨_, done⟩ | ⟨_, failed⟩
  · rw [done]
    exact .kept board.things _ board.tally [] (List.append_nil _).symm
      (fun _ member => absurd member List.not_mem_nil) own
      fun id stored => (Table.ids_modify board.channels _ _).symm ▸ stored
  · rw [failed]
    exact .still board own

theorem flush_outcome (ticket : Nat) (board : Board) (own : board.things.Own) :
    Outcome board [] (board.flush ticket).1 := by
  rcases board.flush_board ticket with ⟨unsealed, room, queued⟩ | same
  · rw [queued]
    exact .barred ticket unsealed room
  · rw [same]
    exact .deed (.still board own)

theorem consume_outcome (board : Board) (own : board.things.Own) :
    Outcome board board.arrival board.consume := by
  unfold arrival consume
  cases waiting : board.bridge.queue with
  | nil => exact .deed (.still board own)
  | cons parcel rest =>
      cases parcel with
      | event event => exact .applied event rest waiting
      | barrier ticket => exact .passed ticket rest waiting

end Board

/-- Every operation is a passage of deeds, however far it gets. -/
theorem Change.run_passage (change : Change) (board : Board) (own : board.things.Own) :
    Passage Deed board (change.notes board) (change.run board).1 := by
  cases change with
  | saveThings batch => exact .single (board.saveThings_deed batch own)
  | updateThing thing => exact .single (board.updateThing_deed thing own)
  | updateKey id key => exact .single (board.updateKey_deed id key own)
  | removeThings ids => exact Board.inTurn_passage _ _ Board.removeThing_noticed ids board own
  | saveChannels batch => exact .single (board.saveChannels_deed batch own)
  | updateChannel channel => exact .single (board.updateChannel_deed channel own)
  | removeChannels ids => exact Board.inTurn_passage _ _ Board.removeChannel_noticed ids board own
  | connect channel things =>
      simp only [Change.notes, Change.run, Change.withoutResult, Board.connect]
      split
      · exact Board.inTurn_passage _ _ (Board.connectThing_noticed channel) things board own
      · exact .refl board
  | disconnect channel things =>
      exact Board.inTurn_passage _ _ (Board.disconnectThing_noticed channel) things board own

namespace Chronicle

theorem step_passage (chronicle : Chronicle) (step : Step) (own : chronicle.board.things.Own) :
    ∃ news, (chronicle.step step).log = chronicle.log ++ news ∧
      Passage Outcome chronicle.board news (chronicle.step step).board := by
  cases step with
  | change change => exact ⟨_, rfl, (change.run_passage chronicle.board own).mono .deed⟩
  | flush ticket =>
      exact ⟨[], (List.append_nil _).symm, .single (chronicle.board.flush_outcome ticket own)⟩
  | consume => exact ⟨_, rfl, .single (chronicle.board.consume_outcome own)⟩
  | sealOff => exact ⟨[], (List.append_nil _).symm, .single .sealed⟩

/-- What holds of the empty board and is kept by every outcome holds after every history. -/
theorem ofSteps_keeps (Kept : List Incident → Board → Prop)
    (start : ∀ capacity, Kept [] (.ofCapacity capacity))
    (each : ∀ {log news : List Incident} {before after : Board}, before.things.Own →
      Kept log before → Outcome before news after → Kept (log ++ news) after)
    (capacity : Nat) (steps : List Step) :
    Kept (ofSteps capacity steps).log (ofSteps capacity steps).board := by
  suffices played : ∀ (chronicle : Chronicle), chronicle.board.things.Own →
      Kept chronicle.log chronicle.board →
      Kept (play steps chronicle).log (play steps chronicle).board from
    played ⟨.ofCapacity capacity, []⟩ Table.own_empty (start capacity)
  induction steps with
  | nil => exact fun _ _ kept => kept
  | cons step rest ih =>
      intro chronicle own kept
      obtain ⟨news, logged, passage⟩ := chronicle.step_passage step own
      apply ih (chronicle.step step) (passage.own own)
      rw [logged]
      exact passage.keeps Kept each own chronicle.log kept

end Chronicle
end Switchboard
