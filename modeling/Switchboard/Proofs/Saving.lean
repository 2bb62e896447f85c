import Switchboard.Proofs.Admission
import Switchboard.Proofs.Attendance
import Switchboard.Proofs.Indifference
import Switchboard.Proofs.Keys

/-!
Saving things. Two things are asked of a batch before any of it is stored: that its keys are new and
given once, and that the identifiers it brings are. Where either fails the save is counted as
rejected and that is all; otherwise every thing of the batch is found at once, by its identifier and
by its key, whatever keys the things that were there before have among each other.
-/
namespace Switchboard

/-- A batch that is not saved: a key is in it twice or taken, or an identifier that it gives is. -/
def Unsavable (table : Table Thing) (batch : List Thing) : Prop :=
  (∃ key, 2 ≤ (batch.map Thing.key).count key) ∨
    (∃ thing ∈ batch, ∃ other ∈ table.records, other.key = thing.key) ∨
    Table.Clashes table batch

/-- What saving a batch makes of a board. -/
structure SavedAs (board : Board) (batch : List Thing) (numbers : List Nat) (stored : List Thing)
    (after : Board) : Prop where
  admitted : Table.Admitted board.things batch numbers stored after.things
  byId : ∀ thing ∈ stored, after.thingById thing.id = .ok thing
  byKey : ∀ thing ∈ stored, after.thingByKey thing.key = .ok thing.id
  earlier : ∀ id thing, board.thingById id = .ok thing → after.thingById id = .ok thing
  elsewhere : after = { board with things := after.things }

namespace Board

theorem keysFree_false_iff (table : Table Thing) (batch : List Thing) :
    keysFree table batch = false ↔
      (∃ key, 2 ≤ (batch.map Thing.key).count key) ∨
        ∃ thing ∈ batch, ∃ other ∈ table.records, other.key = thing.key := by
  rw [← Bool.not_eq_true, keysFree_iff, not_and_or, List.nodup_iff_count_le_one]
  simp only [not_forall, Nat.not_le, Nat.succ_le_iff, not_not, exists_prop]

theorem thingByKey_append {board after : Board} {batch stored : List Thing}
    (free : keysFree board.things batch = true) (same : stored.map Thing.key = batch.map Thing.key)
    (grown : after.things.records = board.things.records ++ stored) :
    ∀ thing ∈ stored, after.thingByKey thing.key = .ok thing.id := by
  intro thing member
  obtain ⟨once, unused⟩ := (keysFree_iff _ _).mp free
  have unknown : (board.things.records.find? fun other => other.key == thing.key) = none := by
    obtain ⟨given, inside, keyed⟩ := List.mem_map.mp (same ▸ List.mem_map_of_mem member)
    apply List.find?_eq_none.mpr
    intro other kept hit
    exact unused given inside other kept ((beq_iff_eq.mp hit).trans keyed.symm)
  have first : (stored.find? fun other => other.key == thing.key) = some thing :=
    (find?_key_iff (same ▸ once)).mpr ⟨member, rfl⟩
  rw [thingByKey, grown, List.find?_append, unknown, first, Option.none_or]

variable {board : Board}

theorem saveThings_unsavable (batch : List Thing) (unsavable : Unsavable board.things batch) :
    board.saveThings batch = (board.rejectBatch, .refused .conflict) := by
  unfold saveThings
  cases free : keysFree board.things batch with
  | false => rfl
  | true =>
      have clashes : Table.Clashes board.things batch := by
        rw [Unsavable, ← or_assoc, ← keysFree_false_iff, free] at unsavable
        exact unsavable.resolve_left Bool.noConfusion
      have refused : board.things.insertBatch batch = .error .conflict := by
        simp [Table.insertBatch, (Table.admits_false_iff _ _).mpr clashes]
      rw [if_pos rfl, refused]

theorem saveThings_savable (own : board.things.Own) (distinct : board.things.ids.Nodup)
    (batch : List Thing) (savable : ¬ Unsavable board.things batch) :
    ∃ numbers stored, (board.saveThings batch).2 = .done stored ∧
      SavedAs board batch numbers stored (board.saveThings batch).1 := by
  rw [Unsavable, ← or_assoc, not_or, ← keysFree_false_iff, ← Table.admits_false_iff,
    Bool.not_eq_false, Bool.not_eq_false] at savable
  obtain ⟨free, admits⟩ := savable
  obtain ⟨stored, table, done⟩ : ∃ stored table,
      board.things.insertBatch batch = .ok (stored, table) := by
    simp [Table.insertBatch, admits]
  have answer : board.saveThings batch = ({ board with things := table }, .done stored) := by
    simp only [saveThings, free, done, ↓reduceIte]
  obtain ⟨numbers, admitted⟩ := Table.insertBatch_admitted board.things table batch stored done
  have keys : stored.map Thing.key = batch.map Thing.key :=
    Table.insertBatch_map Thing.key (fun _ _ => rfl) board.things table batch stored done
  have grown := Table.insertBatch_records board.things table batch stored done
  have afterOwn := own.insertBatch table batch stored done
  have afterDistinct := Table.insertBatch_nodup distinct table batch stored done
  refine ⟨numbers, stored, congrArg Prod.snd answer, ?_⟩
  rw [answer]
  constructor
  case admitted => exact admitted
  case byId =>
    intro thing member
    rw [thingById, Table.retrieve_ok_iff, afterOwn.get?_iff afterDistinct]
    exact ⟨grown ▸ List.mem_append_right _ member, rfl⟩
  case byKey => exact thingByKey_append free keys grown
  case earlier =>
    intro id thing known
    rw [thingById, Table.retrieve_ok_iff, own.get?_iff distinct] at known
    rw [thingById, Table.retrieve_ok_iff, afterOwn.get?_iff afterDistinct]
    exact ⟨grown ▸ List.mem_append_left _ known.1, known.2⟩
  case elsewhere => rfl

end Board

/-- After every history a batch of things is saved as a whole or refused as a whole. It is refused
exactly where a key or an identifier of it is taken or given twice; then one more rejected batch is
counted, and no later save can tell that this one was tried. -/
theorem things_saved_whole (capacity : Nat) (steps : List Step) (batch : List Thing) :
    let board := (Chronicle.ofSteps capacity steps).board
    let answer := board.saveThings batch
    (Unsavable board.things batch ∧ answer.2 = .refused .conflict ∧
      answer.1 = { board with
        tally := { board.tally with rejected := board.tally.rejected + 1 } } ∧
      ∀ later next,
        ((Chronicle.ofSteps capacity
          (steps ++ .change (.saveThings batch) :: later)).board.saveThings next).2 =
        ((Chronicle.ofSteps capacity (steps ++ later)).board.saveThings next).2) ∨
    (¬ Unsavable board.things batch ∧ ∃ numbers stored, answer.2 = .done stored ∧
      SavedAs board batch numbers stored answer.1) := by
  intro board answer
  by_cases unsavable : Unsavable board.things batch
  · left
    have refused : answer = (board.rejectBatch, .refused .conflict) :=
      Board.saveThings_unsavable batch unsavable
    refine ⟨unsavable, congrArg Prod.snd refused, congrArg Prod.fst refused, fun later next => ?_⟩
    have alike : board.Alike answer.1 := by
      rw [refused]
      exact board.alike_rejectBatch
    have played := Chronicle.play_alike later (a := Chronicle.ofSteps capacity steps)
      (b := (Chronicle.ofSteps capacity steps).step (.change (.saveThings batch))) alike
    have echoed := (Board.saveThings_indifferent next).alike played
    rw [Chronicle.ofSteps, Chronicle.ofSteps, Chronicle.play_append, Chronicle.play_append]
    exact echoed.2
  · right
    have things := (Register.ofSteps_faithful capacity steps).1
    rw [Register.ofSteps_board] at things
    exact ⟨unsavable, Board.saveThings_savable things.own things.distinct batch unsavable⟩

-- The second batch meets a key of the first, the third an identifier; the fourth gets the number
-- that it would have had without them.
example :
    let board := (Chronicle.ofSteps 1 [.change (.saveThings [{ key := "k" }]),
      .change (.saveThings [{ key := "l" }, { key := "k" }]),
      .change (.saveThings [{ id := "001", key := "m" }]),
      .change (.saveThings [{ key := "n" }])]).board
    board.things.ids = ["001", "002"] ∧ board.tally.rejected = 2 := by decide +kernel

end Switchboard
