import Mathlib.Order.Bounds.Defs
import Switchboard.Proofs.Issuance

/-!
What becomes of a batch. It is refused as a whole if an identifier that it gives is stored or given
twice; else every record of it takes a number above those taken before, and a record without an
identifier takes the least whose text nobody uses. The identifiers made on the way need no looking
at: their numbers are below all that come after.
-/
namespace Switchboard.Table

variable {α : Type} [Record α]

/-- The batch gives an identifier that the table holds or that it gives twice. -/
def Clashes (table : Table α) (batch : List α) : Prop :=
  ∃ id ≠ "", id ∈ batch.map Record.id ∧
    (id ∈ table.ids ∨ 2 ≤ (batch.map Record.id).count id)

theorem mem_supplied (batch : List α) (id : String) :
    id ∈ supplied batch ↔ id ≠ "" ∧ id ∈ batch.map Record.id := by
  simp [supplied, and_comm]

theorem count_supplied (batch : List α) (id : String) (named : id ≠ "") :
    (supplied batch).count id = (batch.map Record.id).count id :=
  List.count_filter (bne_iff_ne.mpr named)

theorem admits_false_iff (table : Table α) (batch : List α) :
    table.admits batch = false ↔ Clashes table batch := by
  unfold admits
  rw [Bool.and_eq_false_iff, List.all_eq_false, decide_eq_false_iff_not,
    List.nodup_iff_count_le_one, not_forall]
  constructor
  · rintro (⟨id, given, stored⟩ | ⟨id, twice⟩)
    · obtain ⟨named, inside⟩ := (mem_supplied batch id).mp given
      exact ⟨id, named, inside, Or.inl ((contains_iff table id).mp (by simpa using stored))⟩
    · have given : id ∈ supplied batch := List.count_pos_iff.mp (by omega)
      obtain ⟨named, inside⟩ := (mem_supplied batch id).mp given
      rw [count_supplied batch id named] at twice
      exact ⟨id, named, inside, Or.inr (by omega)⟩
  · rintro ⟨id, named, inside, stored | twice⟩
    · refine Or.inl ⟨id, (mem_supplied batch id).mpr ⟨named, inside⟩, ?_⟩
      simpa using (contains_iff table id).mpr stored
    · rw [← count_supplied batch id named] at twice
      exact Or.inr ⟨id, by omega⟩

/-- The number that a record takes after `last`: the next one, which stays unused, if it has an
identifier; else the least one above whose text is not in use. -/
def Takes (used : List String) (last : Nat) (record : α) (n : Nat) : Prop :=
  if Record.id record = "" then IsLeast {k | last < k ∧ numbered k ∉ used} n else n = last + 1

def stamped (record : α) (n : Nat) : α :=
  if Record.id record = "" then Record.withId (numbered n) record else record

structure Numbering (used : List String) (counter : Nat) (batch : List α) (numbers : List Nat) :
    Prop where
  length : numbers.length = batch.length
  ascending : (counter :: numbers).Pairwise (· < ·)
  takes : ∀ (i : Nat) record last n, batch[i]? = some record →
    (counter :: numbers)[i]? = some last → numbers[i]? = some n → Takes used last record n

theorem Takes.above {used : List String} {last n : Nat} {record : α}
    (takes : Takes used last record n) : last < n := by
  unfold Takes at takes
  split at takes
  · exact takes.1.1
  · omega

theorem Numbering.nil (used : List String) (counter : Nat) :
    Numbering used counter ([] : List α) [] where
  length := rfl
  ascending := List.pairwise_singleton _ _
  takes := by
    intro i record last n inside
    cases inside

theorem Numbering.cons {used : List String} {counter n : Nat} {record : α} {batch : List α}
    {numbers : List Nat} (first : Takes used counter record n)
    (rest : Numbering used n batch numbers) :
    Numbering used counter (record :: batch) (n :: numbers) where
  length := congrArg (· + 1) rest.length
  ascending := by
    refine List.pairwise_cons.mpr ⟨fun m member => ?_, rest.ascending⟩
    rcases List.mem_cons.mp member with rfl | later
    · exact first.above
    · exact first.above.trans ((List.pairwise_cons.mp rest.ascending).1 m later)
  takes := by
    intro i other last m inside before taken
    cases i with
    | zero =>
        cases inside
        cases before
        cases taken
        exact first
    | succ i => exact rest.takes i other last m inside before taken

theorem freeFrom_least (used : List String) (counter : Nat) :
    IsLeast {k | counter < k ∧ numbered k ∉ used} (freeFrom used used.length (counter + 1)) := by
  obtain ⟨low, _, skipped, _⟩ := freeFrom_skips used used.length (counter + 1)
  refine ⟨⟨low, freeFrom_free used (counter + 1)⟩, fun k free => ?_⟩
  by_contra below
  exact free.2 (skipped k free.1 (Nat.lt_of_not_le below))

-- `base` is in use from the start; what the batch was given so far stands at or below the counter,
-- where no record looks any more.
theorem assign_numbering (base used : List String) (counter : Nat) (batch : List α)
    (kept : base ⊆ used) (spent : ∀ k, counter < k → numbered k ∈ used → numbered k ∈ base) :
    ∃ numbers, Numbering base counter batch numbers ∧
      assign used counter batch =
        (List.zipWith stamped batch numbers, numbers.getLastD counter) := by
  induction batch generalizing used counter with
  | nil => exact ⟨[], .nil base counter, rfl⟩
  | cons record rest ih =>
      by_cases blank : Record.id record = ""
      · have same : {k | counter < k ∧ numbered k ∉ used} =
            {k | counter < k ∧ numbered k ∉ base} := by
          ext k
          exact and_congr_right fun above => not_congr ⟨spent k above, fun taken => kept taken⟩
        have least := freeFrom_least used counter
        rw [same] at least
        generalize made : freeFrom used used.length (counter + 1) = n at least
        have first : Takes base counter record n := by rwa [Takes, if_pos blank]
        obtain ⟨numbers, numbering, assigned⟩ := ih (numbered n :: used) n
          (fun text taken => List.mem_cons_of_mem _ (kept taken)) (fun k above taken => by
            rcases List.mem_cons.mp taken with same | old
            · exact absurd (numbered_injective same) (Nat.ne_of_gt above)
            · exact spent k (first.above.trans above) old)
        refine ⟨n :: numbers, .cons first numbering, ?_⟩
        rw [List.getLastD_cons]
        simp only [assign, blank, ↓reduceIte, made, assigned, List.zipWith_cons_cons, stamped]
      · have first : Takes base counter record (counter + 1) := by rw [Takes, if_neg blank]
        obtain ⟨numbers, numbering, assigned⟩ := ih used (counter + 1) kept
          fun k above taken => spent k (Nat.lt_of_succ_lt above) taken
        refine ⟨(counter + 1) :: numbers, .cons first numbering, ?_⟩
        rw [List.getLastD_cons]
        simp only [assign, blank, ↓reduceIte, assigned, List.zipWith_cons_cons, stamped]

-- The counter moves at least once for every record.
theorem assign_grows (used : List String) (counter : Nat) (batch : List α) :
    counter + batch.length ≤ (assign used counter batch).2 := by
  induction batch generalizing used counter with
  | nil => exact Nat.le_refl counter
  | cons first rest ih =>
      have low := (freeFrom_skips used used.length (counter + 1)).1
      unfold assign
      by_cases blank : Record.id first = ""
      · have later := ih (numbered (freeFrom used used.length (counter + 1)) :: used)
          (freeFrom used used.length (counter + 1))
        simp only [blank, ↓reduceIte, List.length_cons]
        omega
      · have later := ih used (counter + 1)
        simp only [blank, ↓reduceIte, List.length_cons]
        omega

structure Admitted (table : Table α) (batch : List α) (numbers : List Nat) (stored : List α)
    (after : Table α) : Prop where
  numbering : Numbering (table.ids ++ supplied batch) table.counter batch numbers
  stamps : stored = List.zipWith stamped batch numbers
  length : stored.length = batch.length
  distinct : (stored.map Record.id).Nodup
  fresh : ∀ record ∈ stored, Record.id record ∉ table.ids
  entries : after.entries = table.entries ++ stored.map fun record => (Record.id record, record)
  counter : after.counter = numbers.getLastD table.counter
  grown : table.counter + batch.length ≤ after.counter

theorem insertBatch_admitted (table after : Table α) (batch stored : List α)
    (done : table.insertBatch batch = .ok (stored, after)) :
    ∃ numbers, Admitted table batch numbers stored after := by
  obtain ⟨_, _, assigned⟩ := insertBatch_ok table after batch stored done
  have length := assign_length (table.ids ++ supplied batch) table.counter batch
  have grown := assign_grows (table.ids ++ supplied batch) table.counter batch
  obtain ⟨numbers, numbering, same⟩ := assign_numbering (table.ids ++ supplied batch)
    (table.ids ++ supplied batch) table.counter batch (fun _ taken => taken) fun _ _ taken => taken
  rw [assigned] at length grown same
  refine ⟨numbers, ?_⟩
  constructor
  case numbering => exact numbering
  case stamps => exact congrArg Prod.fst same
  case length => exact length
  case distinct => exact insertBatch_distinct table after batch stored done
  case fresh => exact insertBatch_fresh table after batch stored done
  case entries => exact insertBatch_entries table after batch stored done
  case counter => exact congrArg Prod.snd same
  case grown => exact grown

/-- A batch is stored whole or not at all. It is refused exactly where it clashes, and then the
table stays as it is; else all of it is stored after what was there, in its order. -/
theorem batch_whole_or_nothing (life : Life α) (batch : List α) :
    let answer := life.table.insertBatch batch
    let after := (life.act (.insert batch)).table
    (Clashes life.table batch ∧ answer = .error .conflict ∧ after = life.table) ∨
    (¬ Clashes life.table batch ∧ ∃ numbers stored, answer = .ok (stored, after) ∧
      Admitted life.table batch numbers stored after) := by
  intro answer after
  rw [← admits_false_iff]
  cases admitted : life.table.admits batch with
  | false =>
      left
      have refused : life.table.insertBatch batch = .error .conflict := by
        simp [insertBatch, admitted]
      exact ⟨rfl, refused, by simp only [after, Life.act, refused]⟩
  | true =>
      right
      obtain ⟨stored, next, done⟩ : ∃ stored next,
          life.table.insertBatch batch = .ok (stored, next) := by
        simp [insertBatch, admitted]
      obtain ⟨numbers, outcome⟩ := insertBatch_admitted life.table next batch stored done
      have moved : after = next := by simp only [after, Life.act, done]
      exact ⟨Bool.noConfusion, numbers, stored, moved ▸ done, moved ▸ outcome⟩

-- A number whose text is given later in the batch is passed over, and one that goes unused is
-- spent.
example :
    (({} : Table Channel).insertBatch [{}, { id := "001" }, {}]).toOption.map
        (fun answer => (answer.1.map Channel.id, answer.2.counter)) =
      some (["002", "001", "004"], 4) := by decide +kernel

end Switchboard.Table
