import Mathlib.Data.List.Induction
import Switchboard.Proofs.FreshIdentifiers
import Switchboard.Proofs.TrailingDigits

/-!
The identifiers that a table makes over its whole life. Each is the text of a number, and the
numbers ascend: within a batch, and from one batch to the next, since the counter stands at or above
every number that was ever made into an identifier. Removing a record does not move the counter, so
an identifier that was made once is not made again.
-/
namespace Switchboard

/-- Texts of ascending numbers above `low`, up to `high`. -/
def Ascending (low high : Nat) (ids : List String) : Prop :=
  ∃ numbers : List Nat, ids = numbers.map numbered ∧ numbers.Pairwise (· < ·) ∧
    ∀ n ∈ numbers, low < n ∧ n ≤ high

namespace Ascending
variable {low middle high : Nat} {ids more : List String}

theorem nil (low high : Nat) : Ascending low high [] :=
  ⟨[], rfl, List.Pairwise.nil, fun _ member => absurd member List.not_mem_nil⟩

theorem single (above : low < high) : Ascending low high [numbered high] := by
  refine ⟨[high], rfl, List.pairwise_singleton _ _, fun n member => ?_⟩
  rw [List.mem_singleton.mp member]
  exact ⟨above, Nat.le_refl high⟩

theorem append (ascending : Ascending low middle ids) (later : Ascending middle high more)
    (lowMiddle : low ≤ middle) (middleHigh : middle ≤ high) :
    Ascending low high (ids ++ more) := by
  obtain ⟨numbers, rfl, climbs, within⟩ := ascending
  obtain ⟨others, rfl, climb, beyond⟩ := later
  refine ⟨numbers ++ others, List.map_append.symm, ?_, fun n member => ?_⟩
  · apply List.pairwise_append.mpr
    refine ⟨climbs, climb, fun n early m late => ?_⟩
    exact Nat.lt_of_le_of_lt (within n early).2 (beyond m late).1
  · rcases List.mem_append.mp member with early | late
    · exact ⟨(within n early).1, (within n early).2.trans middleHigh⟩
    · exact ⟨Nat.lt_of_le_of_lt lowMiddle (beyond n late).1, (beyond n late).2⟩

theorem disjoint (ascending : Ascending low middle ids) (later : Ascending middle high more) :
    ∀ id ∈ more, id ∉ ids := by
  obtain ⟨numbers, rfl, _, within⟩ := ascending
  obtain ⟨others, rfl, _, beyond⟩ := later
  intro id late early
  obtain ⟨n, inside, rfl⟩ := List.mem_map.mp late
  obtain ⟨m, before, same⟩ := List.mem_map.mp early
  have equal : m = n := numbered_injective same
  have lower := (within m before).2
  have upper := (beyond n inside).1
  omega

theorem ordinals (ascending : Ascending low high ids) (inWord : high < wordLimit) :
    (ids.map ordinal).Pairwise (· < ·) := by
  obtain ⟨numbers, rfl, climbs, within⟩ := ascending
  have same : numbers.map (ordinal ∘ numbered) = numbers.map id := by
    apply List.map_congr_left
    intro n member
    have small : n < wordLimit := (within n member).2.trans_lt inWord
    rw [Function.comp_apply, ordinal_numbered n small, id_eq]
  rw [List.map_map, same, List.map_id]
  exact climbs

end Ascending

namespace Table
variable {α : Type} [Record α]

def issued (admitted : List (α × α)) : List String :=
  (admitted.filter fun pair => Record.id pair.1 == "").map fun pair => Record.id pair.2

theorem issued_append (admitted later : List (α × α)) :
    issued (admitted ++ later) = issued admitted ++ issued later := by
  simp [issued]

theorem issued_cons (given kept : α) (rest : List (α × α)) :
    issued ((given, kept) :: rest) =
      if Record.id given = "" then Record.id kept :: issued rest else issued rest := by
  by_cases blank : Record.id given = "" <;> simp [issued, blank]

theorem assign_counter (used : List String) (counter : Nat) (batch : List α) :
    counter ≤ (assign used counter batch).2 := by
  induction batch generalizing used counter with
  | nil => exact Nat.le_refl counter
  | cons first rest ih =>
      have low := (freeFrom_skips used used.length (counter + 1)).1
      unfold assign
      by_cases blank : Record.id first = ""
      · simp only [blank, ↓reduceIte]
        have later := ih (numbered (freeFrom used used.length (counter + 1)) :: used)
          (freeFrom used used.length (counter + 1))
        omega
      · simp only [blank, ↓reduceIte]
        have later := ih used (counter + 1)
        omega

-- A batch is given the texts of ascending numbers above the counter, up to the counter after it: a
-- number that is made becomes the counter, and a record that has an identifier only moves it on.
theorem assign_ascending (used : List String) (counter : Nat) (batch : List α) :
    Ascending counter (assign used counter batch).2
      (issued (batch.zip (assign used counter batch).1)) := by
  induction batch generalizing used counter with
  | nil => exact .nil _ _
  | cons first rest ih =>
      unfold assign
      by_cases blank : Record.id first = ""
      · have low := (freeFrom_skips used used.length (counter + 1)).1
        generalize freeFrom used used.length (counter + 1) = n at low
        simp only [blank, ↓reduceIte, List.zip_cons_cons, issued_cons, Record.id_withId]
        exact (Ascending.single low).append (ih _ n) (by omega) (assign_counter _ n rest)
      · simp only [blank, ↓reduceIte, List.zip_cons_cons, issued_cons]
        exact (Ascending.nil counter (counter + 1)).append (ih _ _) (by omega)
          (assign_counter _ _ rest)

theorem assign_unused (used : List String) (counter : Nat) (batch : List α) :
    ∀ id ∈ issued (batch.zip (assign used counter batch).1), id ∉ used := by
  induction batch generalizing used counter with
  | nil =>
      intro id member
      cases member
  | cons first rest ih =>
      intro id member
      unfold assign at member
      by_cases blank : Record.id first = ""
      · simp only [blank, ↓reduceIte, List.zip_cons_cons, issued_cons, Record.id_withId,
          List.mem_cons] at member
        rcases member with rfl | later
        · exact freeFrom_free used (counter + 1)
        · exact fun taken => ih _ _ id later (List.mem_cons_of_mem _ taken)
      · simp only [blank, ↓reduceIte, List.zip_cons_cons, issued_cons] at member
        exact ih _ _ id member

inductive Act (α : Type) where
  | insert (batch : List α)
  | replace (record : α)
  | remove (id : String)

/-- A table with every record that was stored in it so far, as it came and as it was stored. -/
structure Life (α : Type) where
  table : Table α := {}
  admitted : List (α × α) := []

namespace Life

def act (life : Life α) : Act α → Life α
  | .insert batch =>
    match life.table.insertBatch batch with
    | .ok (stored, table) => ⟨table, life.admitted ++ batch.zip stored⟩
    | .error _ => life
  | .replace record =>
    match life.table.replace record with
    | .ok table => { life with table := table }
    | .error _ => life
  | .remove id =>
    match life.table.remove id with
    | .ok (_, table) => { life with table := table }
    | .error _ => life

def ofActs (acts : List (Act α)) : Life α := acts.foldl act {}

/-- Whatever was made into an identifier so far, the counter has passed. -/
def Orderly (life : Life α) : Prop := Ascending 0 life.table.counter (issued life.admitted)

theorem act_cases (life : Life α) (act : Act α) :
    (∃ batch stored table, act = .insert batch ∧
      life.table.insertBatch batch = .ok (stored, table) ∧
      life.act act = ⟨table, life.admitted ++ batch.zip stored⟩) ∨
    ((life.act act).table.counter = life.table.counter ∧
      (life.act act).admitted = life.admitted ∧
      (life.act act).table.ids ⊆ life.table.ids) := by
  cases act with
  | insert batch =>
      cases inserted : life.table.insertBatch batch with
      | error error =>
          right
          simp [Life.act, inserted]
      | ok stored =>
          left
          exact ⟨batch, stored.1, stored.2, rfl, inserted, by simp [Life.act, inserted]⟩
  | replace record =>
      right
      rcases replace_eq life.table record with ⟨_, done⟩ | ⟨_, failed⟩
      · have after : life.act (.replace record) =
            { life with table := life.table.modify (Record.id record) fun _ => record } := by
          simp only [Life.act, done]
        rw [after]
        exact ⟨rfl, rfl, fun other kept => (ids_modify life.table _ _) ▸ kept⟩
      · simp [Life.act, failed]
  | remove id =>
      right
      rcases remove_eq life.table id with ⟨_, record, done⟩ | ⟨_, failed⟩
      · have after : life.act (.remove id) = { life with table := life.table.erase id } := by
          simp only [Life.act, done]
        rw [after]
        exact ⟨rfl, rfl, fun other kept => ((mem_ids_erase life.table id other).mp kept).1⟩
      · simp [Life.act, failed]

theorem act_counter (life : Life α) (act : Act α) :
    life.table.counter ≤ (life.act act).table.counter := by
  rcases life.act_cases act with ⟨batch, stored, table, rfl, done, after⟩ | ⟨same, _⟩
  · obtain ⟨_, _, assigned⟩ := insertBatch_ok life.table table batch stored done
    have later := assign_counter (life.table.ids ++ supplied batch) life.table.counter batch
    rw [assigned] at later
    rw [after]
    exact later
  · exact Nat.le_of_eq same.symm

theorem Orderly.act {life : Life α} (orderly : life.Orderly) (act : Act α) :
    (life.act act).Orderly := by
  unfold Orderly at orderly ⊢
  rcases life.act_cases act with ⟨batch, stored, table, rfl, done, after⟩ | ⟨same, kept, _⟩
  -- The new numbers begin above the counter, which no number made so far exceeds.
  · obtain ⟨_, _, assigned⟩ := insertBatch_ok life.table table batch stored done
    have made := assign_ascending (life.table.ids ++ supplied batch) life.table.counter batch
    have later := assign_counter (life.table.ids ++ supplied batch) life.table.counter batch
    rw [assigned] at made later
    rw [after, issued_append]
    exact orderly.append made (Nat.zero_le _) later
  · rw [same, kept]
    exact orderly

theorem ofActs_orderly (acts : List (Act α)) : (ofActs acts).Orderly := by
  induction acts using List.reverseRecOn with
  | nil => exact .nil 0 0
  | append_singleton acts act ih =>
      rw [ofActs, List.foldl_append]
      exact Orderly.act ih act

end Life

/-- What holds of the identifiers that a stored batch is given. -/
structure Fresh (life : Life α) (batch stored : List α) : Prop where
  length : stored.length = batch.length
  distinct : (stored.map Record.id).Nodup
  unissued : ∀ id ∈ issued (batch.zip stored), id ∉ issued life.admitted
  unstored : ∀ id ∈ issued (batch.zip stored), id ∉ life.table.ids
  unsupplied : ∀ id ∈ issued (batch.zip stored), id ∉ supplied batch

theorem Life.Orderly.fresh {life : Life α} (orderly : life.Orderly) (table : Table α)
    (batch stored : List α) (done : life.table.insertBatch batch = .ok (stored, table)) :
    Fresh life batch stored := by
  obtain ⟨_, _, assigned⟩ := insertBatch_ok life.table table batch stored done
  have length := assign_length (life.table.ids ++ supplied batch) life.table.counter batch
  have made := assign_ascending (life.table.ids ++ supplied batch) life.table.counter batch
  have unused := assign_unused (life.table.ids ++ supplied batch) life.table.counter batch
  rw [assigned] at length made unused
  constructor
  case length => exact length
  case distinct => exact insertBatch_distinct life.table table batch stored done
  case unissued => exact Ascending.disjoint orderly made
  case unstored => exact fun id member taken => unused id member (List.mem_append_left _ taken)
  case unsupplied => exact fun id member given => unused id member (List.mem_append_right _ given)

/-- Over the whole life of a table no identifier is made twice or made where it is in use, and those
that are made ascend. -/
theorem identifiers_fresh (acts : List (Act α))
    (inWord : (Life.ofActs acts).table.counter < wordLimit) :
    ((issued (Life.ofActs acts).admitted).map ordinal).Pairwise (· < ·) ∧
    (∀ act, (Life.ofActs acts).table.counter ≤ ((Life.ofActs acts).act act).table.counter) ∧
    (∀ batch stored table, (Life.ofActs acts).table.insertBatch batch = .ok (stored, table) →
      Fresh (Life.ofActs acts) batch stored) ∧
    ∀ batch error, (Life.ofActs acts).table.insertBatch batch = .error error →
      (Life.ofActs acts).act (.insert batch) = Life.ofActs acts := by
  have orderly : (Life.ofActs acts).Orderly := Life.ofActs_orderly acts
  refine ⟨Ascending.ordinals orderly inWord, ?_, ?_, ?_⟩
  · exact (Life.ofActs acts).act_counter
  · exact fun batch stored table done => orderly.fresh table batch stored done
  · intro batch error failed
    simp [Life.act, failed]

def reissue : List (Act Channel) :=
  [.insert [{ name := "first" }], .remove "001",
    .insert [{ name := "second" }, { id := "003" }, { name := "third" }]]

theorem identifiers_fresh_reissue :
    (Life.ofActs reissue).table.counter < wordLimit ∧
      issued (Life.ofActs reissue).admitted = ["001", "002", "004"] ∧
      ((issued (Life.ofActs reissue).admitted).map ordinal).Pairwise (· < ·) :=
  have inWord : (Life.ofActs reissue).table.counter < wordLimit := by decide +kernel
  ⟨inWord, by decide +kernel, (identifiers_fresh reissue inWord).1⟩

end Table
end Switchboard
