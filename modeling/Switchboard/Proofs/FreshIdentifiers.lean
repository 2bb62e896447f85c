import Switchboard.Proofs.TableContents

/-!
The identifiers that a batch is given. The search for a free number skips only numbers whose text
is in use, and it looks at one more number than there are texts in use, so it ends on a free one.
No stored record therefore takes the identifier of another.
-/
namespace Switchboard.Table

variable {α : Type}

theorem freeFrom_skips (used : List String) (fuel n : Nat) :
    n ≤ freeFrom used fuel n ∧ freeFrom used fuel n ≤ n + fuel ∧
    (∀ k, n ≤ k → k < freeFrom used fuel n → numbered k ∈ used) ∧
    (freeFrom used fuel n < n + fuel → numbered (freeFrom used fuel n) ∉ used) := by
  induction fuel generalizing n with
  | zero =>
      simp only [freeFrom]
      exact ⟨Nat.le_refl n, Nat.le_refl n, fun k low high => absurd high (by omega),
        fun short => absurd short (by omega)⟩
  | succ fuel ih =>
      unfold freeFrom
      by_cases hit : numbered n ∈ used
      · rw [if_pos (by simpa using hit)]
        obtain ⟨low, high, skipped, free⟩ := ih (n + 1)
        refine ⟨by omega, by omega, ?_, fun short => free (by omega)⟩
        intro k atLeast below
        by_cases first : k = n
        · exact first ▸ hit
        · exact skipped k (by omega) below
      · rw [if_neg (by simpa using hit)]
        exact ⟨Nat.le_refl n, by omega, fun k low high => absurd high (by omega), fun _ => hit⟩

theorem numbers_in_use {used : List String} {numbers : List Nat} (distinct : numbers.Nodup)
    (taken : ∀ k ∈ numbers, numbered k ∈ used) : numbers.length ≤ used.length := by
  have texts : (numbers.map numbered).Nodup :=
    List.Pairwise.map numbered (fun _ _ other same => other (numbered_injective same)) distinct
  have within : numbers.map numbered ⊆ used := by
    intro text member
    obtain ⟨k, inside, rfl⟩ := List.mem_map.mp member
    exact taken k inside
  simpa using texts.length_le_of_subset within

/-- As many numbers as there are texts in use are enough to come to a free one. -/
theorem freeFrom_free (used : List String) (n : Nat) :
    numbered (freeFrom used used.length n) ∉ used := by
  obtain ⟨low, high, skipped, free⟩ := freeFrom_skips used used.length n
  by_cases short : freeFrom used used.length n < n + used.length
  · exact free short
  · intro taken
    have last : freeFrom used used.length n = n + used.length := by omega
    -- All the numbers looked at would be in use, one more than there are texts.
    have looked : ∀ k ∈ List.range' n (used.length + 1), numbered k ∈ used := by
      intro k inside
      rw [List.mem_range'_1] at inside
      by_cases final : k = n + used.length
      · rw [final, ← last]
        exact taken
      · exact skipped k inside.1 (by omega)
    have bound := numbers_in_use List.nodup_range' looked
    rw [List.length_range'] at bound
    omega

variable [Record α]

theorem assign_ids (used : List String) (counter : Nat) (batch : List α) :
    ∀ record ∈ (assign used counter batch).1,
      Record.id record ∈ supplied batch ∨ Record.id record ∉ used := by
  induction batch generalizing used counter with
  | nil =>
      intro record member
      cases member
  | cons first rest ih =>
      intro record member
      unfold assign at member
      by_cases blank : Record.id first = ""
      · simp only [blank, ↓reduceIte, List.mem_cons] at member
        rcases member with rfl | later
        · exact Or.inr (by simpa using freeFrom_free used (counter + 1))
        · rcases ih _ _ record later with given | free
          · exact Or.inl (by simpa [supplied, blank] using given)
          · exact Or.inr fun taken => free (List.mem_cons_of_mem _ taken)
      · simp only [blank, ↓reduceIte, List.mem_cons] at member
        rcases member with rfl | later
        · exact Or.inl (by simp [supplied, blank])
        · rcases ih _ _ record later with given | free
          · exact Or.inl (by
              simp only [supplied, List.map_cons, List.mem_filter, List.mem_cons] at given ⊢
              exact ⟨Or.inr given.1, given.2⟩)
          · exact Or.inr free

theorem supplied_cons (first : α) (rest : List α) :
    supplied (first :: rest) =
      if Record.id first = "" then supplied rest else Record.id first :: supplied rest := by
  by_cases blank : Record.id first = "" <;> simp [supplied, blank]

theorem assign_length (used : List String) (counter : Nat) (batch : List α) :
    (assign used counter batch).1.length = batch.length := by
  induction batch generalizing used counter with
  | nil => rfl
  | cons first rest ih =>
      unfold assign
      by_cases blank : Record.id first = ""
      · simp [blank, ih]
      · simp [blank, ih]

theorem assign_map {β : Type} (read : α → β)
    (blind : ∀ text record, read (Record.withId text record) = read record) (used : List String)
    (counter : Nat) (batch : List α) : (assign used counter batch).1.map read = batch.map read := by
  induction batch generalizing used counter with
  | nil => rfl
  | cons first rest ih =>
      unfold assign
      by_cases blank : Record.id first = ""
      · simp [blank, blind, ih]
      · simp [blank, ih]

theorem assign_named (used : List String) (counter : Nat) (batch : List α) :
    ∀ record ∈ (assign used counter batch).1, Record.id record ≠ "" := by
  induction batch generalizing used counter with
  | nil =>
      intro record member
      cases member
  | cons first rest ih =>
      intro record member
      unfold assign at member
      by_cases blank : Record.id first = ""
      · simp only [blank, ↓reduceIte, List.mem_cons] at member
        rcases member with rfl | later
        · rw [Record.id_withId]
          exact numbered_ne_empty _
        · exact ih _ _ record later
      · simp only [blank, ↓reduceIte, List.mem_cons] at member
        rcases member with rfl | later
        · exact blank
        · exact ih _ _ record later

-- A made identifier is in use for the rest of the batch; a given one was in use from the start.
theorem assign_distinct (used : List String) (counter : Nat) (batch : List α)
    (once : (supplied batch).Nodup) (known : supplied batch ⊆ used) :
    ((assign used counter batch).1.map Record.id).Nodup := by
  induction batch generalizing used counter with
  | nil => exact List.nodup_nil
  | cons first rest ih =>
      unfold assign
      rw [supplied_cons] at once known
      by_cases blank : Record.id first = ""
      · simp only [blank, ↓reduceIte] at once known ⊢
        have made : numbered (freeFrom used used.length (counter + 1)) ∉ used :=
          freeFrom_free used (counter + 1)
        rw [List.map_cons, Record.id_withId]
        refine List.nodup_cons.mpr ⟨fun again => ?_, ih _ _ once ?_⟩
        · obtain ⟨record, later, same⟩ := List.mem_map.mp again
          rcases assign_ids _ _ rest record later with given | free
          · exact made (same ▸ known given)
          · exact free (same ▸ List.mem_cons_self)
        · exact fun id given => List.mem_cons_of_mem _ (known given)
      · simp only [blank, ↓reduceIte] at once known ⊢
        obtain ⟨single, apart⟩ := List.nodup_cons.mp once
        have taken : Record.id first ∈ used := known List.mem_cons_self
        have others : supplied rest ⊆ used := fun id given => known (List.mem_cons_of_mem _ given)
        rw [List.map_cons]
        refine List.nodup_cons.mpr ⟨fun again => ?_, ih _ _ apart others⟩
        obtain ⟨record, later, same⟩ := List.mem_map.mp again
        rcases assign_ids _ _ rest record later with given | free
        · exact single (same ▸ given)
        · exact free (same ▸ taken)

/-- A batch is stored if what it supplies is new and given once, and then as it is assigned. -/
theorem insertBatch_ok (table after : Table α) (batch stored : List α)
    (done : table.insertBatch batch = .ok (stored, after)) :
    (supplied batch).Nodup ∧ (∀ id ∈ supplied batch, id ∉ table.ids) ∧
      assign (table.ids ++ supplied batch) table.counter batch = (stored, after.counter) := by
  unfold insertBatch at done
  split at done
  next admitted =>
    cases done
    obtain ⟨news, once⟩ := Bool.and_eq_true_iff.mp admitted
    refine ⟨of_decide_eq_true once, fun id given => ?_, rfl⟩
    have absent := List.all_eq_true.mp news id given
    exact (contains_false_iff table id).mp (by simpa using absent)
  next => cases done

theorem insertBatch_distinct (table after : Table α) (batch stored : List α)
    (done : table.insertBatch batch = .ok (stored, after)) : (stored.map Record.id).Nodup := by
  obtain ⟨once, _, assigned⟩ := insertBatch_ok table after batch stored done
  have distinct := assign_distinct (table.ids ++ supplied batch) table.counter batch once
    (List.subset_append_right _ _)
  rwa [assigned] at distinct

theorem insertBatch_named (table after : Table α) (batch stored : List α)
    (done : table.insertBatch batch = .ok (stored, after)) :
    ∀ record ∈ stored, Record.id record ≠ "" := by
  obtain ⟨_, _, assigned⟩ := insertBatch_ok table after batch stored done
  have named := assign_named (table.ids ++ supplied batch) table.counter batch
  rwa [assigned] at named

theorem insertBatch_map {β : Type} (read : α → β)
    (blind : ∀ text record, read (Record.withId text record) = read record) (table after : Table α)
    (batch stored : List α) (done : table.insertBatch batch = .ok (stored, after)) :
    stored.map read = batch.map read := by
  obtain ⟨_, _, assigned⟩ := insertBatch_ok table after batch stored done
  have same := assign_map read blind (table.ids ++ supplied batch) table.counter batch
  rwa [assigned] at same

theorem insertBatch_fresh (table after : Table α) (batch stored : List α)
    (done : table.insertBatch batch = .ok (stored, after)) :
    ∀ record ∈ stored, Record.id record ∉ table.ids := by
  obtain ⟨_, news, assigned⟩ := insertBatch_ok table after batch stored done
  have origins := assign_ids (table.ids ++ supplied batch) table.counter batch
  rw [assigned] at origins
  intro record member taken
  rcases origins record member with given | free
  · exact news _ given taken
  · exact free (List.mem_append_left _ taken)

theorem insertBatch_nodup {table : Table α} (distinct : table.ids.Nodup) (after : Table α)
    (batch stored : List α) (done : table.insertBatch batch = .ok (stored, after)) :
    after.ids.Nodup := by
  rw [insertBatch_ids table after batch stored done]
  apply distinct.append (insertBatch_distinct table after batch stored done)
  intro id old new
  obtain ⟨record, member, rfl⟩ := List.mem_map.mp new
  exact insertBatch_fresh table after batch stored done record member old

end Switchboard.Table
