import Switchboard.Proofs.Indifference
import Switchboard.Proofs.Register

/-!
Operations that take a list of identifiers, one after another, and stop at the first that is refused
or finds the bridge full. What they leave behind is the work of the identifiers in front of that one
and nothing of it, as if they had been asked for those alone; the one that stopped them stops a call
of its own in the same way. On the channel side an identifier is through when its event is on the
bridge, and what is recorded is what the events say, one for each.
-/
namespace Switchboard

inductive Batch where
  | connect (channel : String)
  | disconnect (channel : String)
  | removeChannels
  | removeThings

namespace Batch

def change : Batch → List String → Change
  | .connect channel, ids => .connect channel ids
  | .disconnect channel, ids => .disconnect channel ids
  | .removeChannels, ids => .removeChannels ids
  | .removeThings, ids => .removeThings ids

def one : Batch → String → Board → Board × Reply Unit
  | .connect channel => Board.connectThing channel
  | .disconnect channel => Board.disconnectThing channel
  | .removeChannels => Board.removeChannel
  | .removeThings => Board.removeThing

/-- What is asked before the first identifier: a connect asks for its channel. -/
def opens : Batch → Board → Bool
  | .connect channel, board => board.channels.contains channel
  | _, _ => true

def event? (batch : Batch) (board : Board) (id : String) : Option ConnectionEvent :=
  match batch with
  | .connect channel => (board.things.get? id).map (.connect channel)
  | .disconnect channel => some (.disconnected channel id)
  | .removeChannels => some (.channelRemoved id)
  | .removeThings => none

def events (batch : Batch) (board : Board) (ids : List String) : List ConnectionEvent :=
  ids.filterMap (batch.event? board)

end Batch

def ConnectionEvent.spared (channels : Table Channel) : ConnectionEvent → Table Channel
  | .channelRemoved id => channels.erase id
  | _ => channels

/-- The identifiers that went through have an event each on the bridge, in their order, and the
channel side is what these events make of it. -/
structure Announced (batch : Batch) (through : List String) (before after : Board) : Prop where
  each : batch = .removeThings ∨ (batch.events before through).length = through.length
  queued : after.bridge = { before.bridge with
    queue := before.bridge.queue ++ (batch.events before through).map .event }
  placed : after.placement = (batch.events before through).foldl Placement.follow before.placement
  channels : after.channels = (batch.events before through).foldl ConnectionEvent.spared
    before.channels

/-- The operation on one identifier after another, each of them a call that succeeds. -/
inductive InSeries (batch : Batch) : List String → Board → Board → Prop where
  | nil (board : Board) : InSeries batch [] board board
  | cons {id : String} {rest : List String} {before middle after : Board}
      (first : (batch.change [id]).run before = (middle, .done .nothing))
      (later : InSeries batch rest middle after) : InSeries batch (id :: rest) before after

namespace Announced
variable {batch : Batch} {before middle after : Board}

theorem nil (board : Board) : Announced batch [] board board where
  each := Or.inr rfl
  queued := by simp [Batch.events]
  placed := rfl
  channels := rfl

theorem cons {id : String} {rest : List String} (first : Announced batch [id] before middle)
    (same : batch.event? middle = batch.event? before)
    (later : Announced batch rest middle after) : Announced batch (id :: rest) before after := by
  have split : batch.events before (id :: rest) =
      batch.events before [id] ++ batch.events middle rest := by
    rw [Batch.events, Batch.events, Batch.events, same, ← List.filterMap_append]
    rfl
  constructor
  case each =>
    rcases first.each with silent | told
    · exact Or.inl silent
    · rcases later.each with silent | others
      · exact Or.inl silent
      · rw [split, List.length_append, told, others]
        exact Or.inr (Nat.add_comm _ _)
  case queued => rw [later.queued, first.queued, split, List.map_append, List.append_assoc]
  case placed => rw [later.placed, first.placed, split, List.foldl_append]
  case channels => rw [later.channels, first.channels, split, List.foldl_append]

-- The count of rejected batches is no part of it.
theorem alike (announced : Announced batch through before middle) (alike : middle.Alike after) :
    Announced batch through before after := by
  obtain ⟨count, rfl⟩ := alike
  exact ⟨announced.each, announced.queued, announced.placed, announced.channels⟩

end Announced

namespace Batch

/-- An identifier goes through and is announced, or only a count may move. -/
def Settles (batch : Batch) (id : String) (board : Board) (answer : Board × Reply Unit) : Prop :=
  (answer.2 = .done () ∧ Announced batch [id] board answer.1) ∨
    (answer.2 ≠ .done () ∧ board.Alike answer.1)

theorem settles_offer (batch : Batch) (id : String) (event : ConnectionEvent) (board : Board)
    (told : batch.event? board id = some event) : batch.Settles id board (board.offer event) := by
  rcases board.offer_cases event with ⟨_, _, taken⟩ | ⟨failed, same⟩
  · have only : batch.events board [id] = [event] := by simp [events, told]
    rw [taken]
    refine Or.inl ⟨rfl, ?_⟩
    constructor
    case each => exact Or.inr (by rw [only]; rfl)
    case queued => rw [only]; rfl
    case placed => rw [only]; rfl
    case channels => rw [only]; cases event <;> rfl
  · refine Or.inr ⟨failed, ?_⟩
    rw [same]
    exact .refl board

theorem settles_refused (batch : Batch) (id : String) (board : Board) (error : Error) :
    batch.Settles id board (board, .refused error) :=
  Or.inr ⟨by simp, .refl board⟩

theorem settles_rejected (batch : Batch) (id : String) (board : Board) (error : Error) :
    batch.Settles id board (board.rejectBatch, .refused error) :=
  Or.inr ⟨by simp, board.alike_rejectBatch⟩

theorem one_settles (batch : Batch) (id : String) (board : Board) (own : board.things.Own) :
    batch.Settles id board (batch.one id board) := by
  cases batch with
  | connect channel =>
      rw [one, Board.connectThing_eq channel id board own]
      cases found : board.things.get? id with
      | none => exact settles_refused _ id board _
      | some record =>
          dsimp only
          split
          · split
            · exact settles_refused _ id board _
            · exact settles_offer _ id _ board (by simp [event?, found])
          · exact settles_refused _ id board _
  | disconnect channel =>
      rw [one, Board.disconnectThing_eq]
      split
      · exact settles_offer _ id _ board rfl
      · exact settles_refused _ id board _
  | removeChannels =>
      rw [one, Board.removeChannel_eq]
      split
      · exact settles_offer _ id _ board rfl
      · exact settles_rejected _ id board _
  | removeThings =>
      rw [one, Board.removeThing_eq]
      split
      · have nothing : removeThings.events board [id] = [] := rfl
        refine Or.inl ⟨rfl, ?_⟩
        exact ⟨Or.inl rfl, by simp [nothing], rfl, rfl⟩
      · exact settles_rejected _ id board _

theorem one_own (batch : Batch) (id : String) (board : Board) (own : board.things.Own) :
    (batch.one id board).1.things.Own := by
  cases batch with
  | connect channel =>
      have same := Board.things_of_tables (Board.connectThing_tables channel id board)
      exact same ▸ own
  | disconnect channel =>
      have same := Board.things_of_tables (Board.disconnectThing_tables channel id board)
      exact same ▸ own
  | removeChannels => exact Board.removeChannel_things id board ▸ own
  | removeThings =>
      rcases Board.removeThing_takesOut id board with ⟨_, erased⟩ | ⟨_, same⟩
      · exact erased ▸ own.erase id
      · exact same ▸ own

-- A connect changes no table, and no other operation looks at one for its event.
theorem event?_one (batch : Batch) (id : String) (board : Board) :
    batch.event? (batch.one id board).1 = batch.event? board := by
  cases batch with
  | connect channel =>
      funext other
      simp only [event?, one, Board.things_of_tables (Board.connectThing_tables channel id board)]
  | _ => rfl

theorem opens_one (batch : Batch) (id : String) (board : Board) :
    batch.opens (batch.one id board).1 = batch.opens board := by
  cases batch with
  | connect channel =>
      simp only [opens, one, Board.channels_of_tables (Board.connectThing_tables channel id board)]
  | _ => rfl

theorem run_open (batch : Batch) (ids : List String) (board : Board)
    (opened : batch.opens board = true) :
    (batch.change ids).run board = Change.withoutResult (Board.inTurn batch.one ids board) := by
  cases batch with
  | connect channel =>
      have stored : board.channels.contains channel = true := opened
      simp only [change, Change.run, Board.connect, stored, ↓reduceIte, one]
  | _ => rfl

theorem run_single (batch : Batch) (id : String) (board : Board)
    (opened : batch.opens board = true) :
    (batch.change [id]).run board = Change.withoutResult (batch.one id board) := by
  rw [run_open batch [id] board opened]
  unfold Board.inTurn
  generalize batch.one id board = answer
  obtain ⟨after, reply⟩ := answer
  cases reply <;> rfl

theorem inTurn_stops (batch : Batch) (ids : List String) (board : Board)
    (own : board.things.Own) (opened : batch.opens board = true) :
    ((Board.inTurn batch.one ids board).2 = .done () ∧
      InSeries batch ids board (Board.inTurn batch.one ids board).1 ∧
      Announced batch ids board (Board.inTurn batch.one ids board).1) ∨
    ∃ (i : Nat) (id : String) (reached : Board), ids[i]? = some id ∧
      Board.inTurn batch.one (ids.take i) board = (reached, .done ()) ∧
      Announced batch (ids.take i) board reached ∧ batch.opens reached = true ∧
      batch.one id reached = Board.inTurn batch.one ids board ∧
      (batch.one id reached).2 ≠ .done () ∧ reached.Alike (batch.one id reached).1 := by
  induction ids generalizing board with
  | nil => exact Or.inl ⟨rfl, .nil board, .nil board⟩
  | cons id rest ih =>
      have settles := batch.one_settles id board own
      have afterOwn := batch.one_own id board own
      have same := batch.event?_one id board
      have stillOpen := (batch.opens_one id board).trans opened
      have single := batch.run_single id board opened
      cases answer : batch.one id board with
      | mk after reply =>
          rw [answer] at settles afterOwn same stillOpen single
          rcases settles with ⟨done, announced⟩ | ⟨failed, alike⟩
          · -- The first goes through; the rest is met by the board that it leaves.
            cases done
            have onward (more : List String) :
                Board.inTurn batch.one (id :: more) board = Board.inTurn batch.one more after := by
              rw [Board.inTurn, answer]
            rw [onward]
            rcases ih after afterOwn stillOpen with
              ⟨done, series, told⟩ | ⟨i, other, reached, at_, front, told, opened, stopped⟩
            · exact Or.inl ⟨done, .cons single series, announced.cons same told⟩
            · refine Or.inr ⟨i + 1, other, reached, at_, ?_, announced.cons same told, opened, stopped⟩
              rw [List.take_succ_cons, onward, front]
          · refine Or.inr ⟨0, id, board, rfl, rfl, .nil board, opened, ?_, ?_, ?_⟩
            · rw [Board.inTurn, answer]
              cases reply with
              | done value => exact absurd rfl failed
              | refused error => rfl
              | blocked => rfl
            · rw [answer]
              exact failed
            · rw [answer]
              exact alike

end Batch

/-- A batch after any history. A connect to a channel that is not there changes nothing. Any other
batch goes through as a series of calls for its identifiers, or it is stopped at one of them, with
the answer and the board that a call for that one gives after a call for those in front of it, and
that last call changes nothing but a count. Either way the bridge and the channel side tell of the
same identifiers. -/
theorem batch_stops_clean (capacity : Nat) (steps : List Step) (batch : Batch)
    (ids : List String) :
    let board := (Chronicle.ofSteps capacity steps).board
    let answer := (batch.change ids).run board
    (∃ channel, batch = .connect channel ∧ channel ∉ board.channels.ids ∧
      answer = (board, .refused .notFound)) ∨
    (answer.2 = .done .nothing ∧ InSeries batch ids board answer.1 ∧
      Announced batch ids board answer.1) ∨
    ∃ (i : Nat) (id : String) (reached : Board), ids[i]? = some id ∧
      (batch.change (ids.take i)).run board = (reached, .done .nothing) ∧
      (batch.change [id]).run reached = answer ∧ answer.2 ≠ .done .nothing ∧
      reached.Alike answer.1 ∧ Announced batch (ids.take i) board answer.1 := by
  intro board answer
  have own : board.things.Own := by
    have things := (Register.ofSteps_faithful capacity steps).1
    rw [Register.ofSteps_board] at things
    exact things.own
  cases opened : batch.opens board with
  | false =>
      left
      cases batch with
      | connect channel =>
          have absent : board.channels.contains channel = false := opened
          refine ⟨channel, rfl, (Table.contains_false_iff _ _).mp absent, ?_⟩
          simp only [answer, Batch.change, Change.run, Board.connect, absent]
          rfl
      | _ => cases opened
  | true =>
      right
      have run (more : List String) := batch.run_open more board opened
      rcases batch.inTurn_stops ids board own opened with
        ⟨done, series, announced⟩ |
          ⟨i, id, reached, at_, front, announced, stillOpen, stopped, failed, alike⟩
      · left
        simp only [answer, run, Change.withoutResult, done]
        exact ⟨rfl, series, announced⟩
      · right
        have single := batch.run_single id reached stillOpen
        refine ⟨i, id, reached, at_, ?_, ?_, ?_, ?_, ?_⟩
        · rw [run, front]
          rfl
        · rw [single, stopped]
          exact (run ids).symm
        · simp only [answer, run, ← stopped, Change.withoutResult]
          cases reply : (batch.one id reached).2 with
          | done value => exact absurd reply failed
          | refused error => simp [Reply.map]
          | blocked => simp [Reply.map]
        · simp only [answer, run, ← stopped]
          exact alike
        · simp only [answer, run, ← stopped]
          exact announced.alike alike

end Switchboard
