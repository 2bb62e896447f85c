import Mathlib.Data.List.Pairwise
import Switchboard.Proofs.Admission

/-!
How far the counter gets. It moves once for every record, and past the numbers whose texts are in
use. An identifier that the table made is no obstacle, since the counter has passed its number; so
what is passed over is the text of an identifier that a caller supplied. The counter goes by every
number once, and all together it passes over no more numbers than identifiers were supplied.
-/
namespace Switchboard
namespace Table

/-- Looking for a free number from one number on: it ends at another, after some were passed over.
Nothing limits how far it may go. -/
inductive Search (used : List String) : Nat → Nat → Nat → Prop
  | stop {n : Nat} (free : numbered n ∉ used) : Search used n n 0
  | skip {n m skips : Nat} (taken : numbered n ∈ used) (later : Search used (n + 1) m skips) :
    Search used n m (skips + 1)

-- The induction is on how many numbers lie in front of the free one.
theorem search_least {used : List String} {last n : Nat}
    (least : IsLeast {k | last < k ∧ numbered k ∉ used} n) :
    Search used (last + 1) n (n - (last + 1)) := by
  have above : last < n := least.1.1
  obtain ⟨skips, rfl⟩ : ∃ skips, n = last + 1 + skips := ⟨n - (last + 1), by omega⟩
  rw [Nat.add_sub_cancel_left]
  clear above
  induction skips generalizing last with
  | zero => exact .stop least.1.2
  | succ skips ih =>
      have taken : numbered (last + 1) ∈ used := by
        by_contra free
        have below := least.2 ⟨Nat.lt_succ_self last, free⟩
        omega
      have shift : last + 1 + (skips + 1) = last + 1 + 1 + skips := by omega
      rw [shift] at least ⊢
      refine .skip taken (ih ⟨⟨by omega, least.1.2⟩, fun k free => ?_⟩)
      exact least.2 ⟨Nat.lt_of_succ_lt free.1, free.2⟩

/-- The numbers between each of these and the one before it. -/
def passedOver : Nat → List Nat → List Nat
  | _, [] => []
  | last, n :: rest => List.range' (last + 1) (n - (last + 1)) ++ passedOver n rest

variable {α : Type} [Record α]

theorem Numbering.uncons {used : List String} {counter n : Nat} {record : α} {batch : List α}
    {numbers : List Nat} (numbering : Numbering used counter (record :: batch) (n :: numbers)) :
    Takes used counter record n ∧ Numbering used n batch numbers where
  left := numbering.takes 0 record counter n rfl rfl rfl
  right :=
    { length := Nat.succ_inj.mp numbering.length
      ascending := (List.pairwise_cons.mp numbering.ascending).2
      takes := fun i other last m inside before taken =>
        numbering.takes (i + 1) other last m inside before taken }

theorem Takes.passes {used : List String} {last n : Nat} {record : α}
    (takes : Takes used last record n) : ∀ k, last < k → k < n → numbered k ∈ used := by
  intro k above below
  unfold Takes at takes
  split at takes
  · by_contra free
    exact Nat.not_le.mpr below (takes.2 ⟨above, free⟩)
  · omega

/-- What a numbering passes over: numbers above the counter in their order, which are in use; with
the numbers that are taken they fill the way to the last of these. -/
theorem Numbering.passes {used : List String} {counter : Nat} {batch : List α} {numbers : List Nat}
    (numbering : Numbering used counter batch numbers) :
    (passedOver counter numbers).Pairwise (· < ·) ∧
    (∀ k ∈ passedOver counter numbers,
      counter < k ∧ k ≤ numbers.getLastD counter ∧ numbered k ∈ used) ∧
    numbers.getLastD counter = counter + batch.length + (passedOver counter numbers).length := by
  induction batch generalizing counter numbers with
  | nil =>
      obtain rfl := List.eq_nil_of_length_eq_zero numbering.length
      exact ⟨List.Pairwise.nil, fun _ member => absurd member List.not_mem_nil, rfl⟩
  | cons record batch ih =>
      obtain ⟨n, numbers, rfl⟩ := List.exists_cons_of_length_eq_add_one numbering.length
      obtain ⟨first, rest⟩ := numbering.uncons
      obtain ⟨climbs, within, reached⟩ := ih rest
      have above := first.above
      have front (k : Nat) (member : k ∈ List.range' (counter + 1) (n - (counter + 1))) :
          counter < k ∧ k < n := by
        rw [List.mem_range'_1] at member
        omega
      rw [List.getLastD_cons]
      refine ⟨?_, fun k member => ?_, ?_⟩
      · refine List.pairwise_append.mpr ⟨List.pairwise_lt_range', climbs, fun k early m late => ?_⟩
        exact (front k early).2.trans (within m late).1
      · rcases List.mem_append.mp member with early | late
        · obtain ⟨low, high⟩ := front k early
          exact ⟨low, by omega, first.passes k low high⟩
        · obtain ⟨low, high, taken⟩ := within k late
          exact ⟨above.trans low, high, taken⟩
      · rw [reached, passedOver, List.length_append, List.length_range', List.length_cons]
        omega

theorem Admitted.counter_eq {table after : Table α} {batch stored : List α} {numbers : List Nat}
    (admitted : Admitted table batch numbers stored after) :
    after.counter =
      table.counter + batch.length + (passedOver table.counter numbers).length :=
  admitted.counter.trans admitted.numbering.passes.2.2

theorem Admitted.passed_length {table after : Table α} {batch stored : List α} {numbers : List Nat}
    (admitted : Admitted table batch numbers stored after) :
    (passedOver table.counter numbers).length ≤ table.size + (supplied batch).length := by
  obtain ⟨climbs, within, _⟩ := admitted.numbering.passes
  have bound := numbers_in_use (climbs.imp Nat.ne_of_lt) fun k member => (within k member).2.2
  rwa [List.length_append, ← size_eq] at bound

theorem Numbering.le_final {used : List String} {counter : Nat} {batch : List α}
    {numbers : List Nat} (numbering : Numbering used counter batch numbers) :
    ∀ n ∈ numbers, n ≤ numbers.getLastD counter := by
  intro n member
  have climbs := (List.pairwise_cons.mp numbering.ascending).2
  rw [List.getLastD_eq_getLast?, List.getLast?_eq_some_getLast (List.ne_nil_of_mem member),
    Option.getD_some]
  exact (climbs.imp Nat.le_of_lt).rel_getLast member

def inUseAt (table : Table α) (batch stored : List α) (i : Nat) : List String :=
  table.ids ++ supplied batch ++ (stored.take i).map Record.id

theorem Numbering.le_of_before {used : List String} {counter last n : Nat} {batch : List α}
    {numbers : List Nat} (numbering : Numbering used counter batch numbers) {i j : Nat}
    (early : j < i) (before : (counter :: numbers)[i]? = some last)
    (taken : numbers[j]? = some n) : n ≤ last := by
  obtain ⟨here, rfl⟩ := List.getElem?_eq_some_iff.mp before
  obtain ⟨there, rfl⟩ := List.getElem?_eq_some_iff.mp
    (show (counter :: numbers)[j + 1]? = some n from taken)
  rcases Nat.eq_or_lt_of_le (Nat.succ_le_of_lt early) with rfl | less
  · exact Nat.le_refl _
  · exact Nat.le_of_lt (List.pairwise_iff_getElem.mp numbering.ascending _ _ there here less)

-- The records in front have what they brought, or a number that was taken before.
theorem Admitted.earlier_ids {table after : Table α} {batch stored : List α} {numbers : List Nat}
    (admitted : Admitted table batch numbers stored after) {i last : Nat}
    (before : (table.counter :: numbers)[i]? = some last) :
    ∀ id ∈ (stored.take i).map Record.id, id ∈ supplied batch ∨ ∃ k ≤ last, id = numbered k := by
  intro id member
  obtain ⟨record, front, rfl⟩ := List.mem_map.mp member
  obtain ⟨j, here, rfl⟩ := List.mem_take_iff_getElem.mp front
  have early : j < i := Nat.lt_of_lt_of_le here (Nat.min_le_left _ _)
  have found := List.getElem?_eq_getElem (Nat.lt_of_lt_of_le here (Nat.min_le_right _ _))
  generalize stored[j] = record at found
  rw [admitted.stamps, List.getElem?_zipWith_eq_some] at found
  obtain ⟨given, n, inBatch, inNumbers, rfl⟩ := found
  by_cases blank : Record.id given = ""
  · rw [stamped, if_pos blank, Record.id_withId]
    exact Or.inr ⟨n, admitted.numbering.le_of_before early before inNumbers, rfl⟩
  · rw [stamped, if_neg blank]
    exact Or.inl ((mem_supplied batch _).mpr
      ⟨blank, List.mem_map_of_mem (List.mem_of_getElem? inBatch)⟩)

theorem Admitted.search {table after : Table α} {batch stored : List α} {numbers : List Nat}
    (admitted : Admitted table batch numbers stored after) {i last n : Nat} {record : α}
    (inside : batch[i]? = some record) (blank : Record.id record = "")
    (before : (table.counter :: numbers)[i]? = some last) (taken : numbers[i]? = some n) :
    ∃ skips ≤ table.size + (supplied batch).length,
      Search (inUseAt table batch stored i) (last + 1) n skips := by
  have takes := admitted.numbering.takes i record last n inside before taken
  have passes := takes.passes
  rw [Takes, if_pos blank] at takes
  have same : {k | last < k ∧ numbered k ∉ table.ids ++ supplied batch} =
      {k | last < k ∧ numbered k ∉ inUseAt table batch stored i} := by
    ext k
    refine and_congr_right fun above => not_congr ?_
    refine ⟨List.mem_append_left _, fun used => ?_⟩
    rcases List.mem_append.mp used with base | made
    · exact base
    · rcases admitted.earlier_ids before _ made with given | ⟨m, below, made⟩
      · exact List.mem_append_right _ given
      · rw [numbered_injective made] at above
        omega
  rw [same] at takes
  refine ⟨n - (last + 1), ?_, search_least takes⟩
  have bound := numbers_in_use (List.nodup_range' (s := last + 1) (n := n - (last + 1)))
    fun k member => by
      rw [List.mem_range'_1] at member
      exact passes k (by omega) (by omega)
  rwa [List.length_range', List.length_append, ← size_eq] at bound

def brought (admitted : List (α × α)) : List String :=
  (admitted.filter fun pair => Record.id pair.1 != "").map fun pair => Record.id pair.2

theorem brought_append (admitted later : List (α × α)) :
    brought (admitted ++ later) = brought admitted ++ brought later := by
  simp [brought]

theorem mem_issued_or_brought (admitted : List (α × α)) :
    ∀ pair ∈ admitted,
      Record.id pair.2 ∈ issued admitted ∨ Record.id pair.2 ∈ brought admitted := by
  intro pair member
  by_cases blank : Record.id pair.1 = ""
  · exact Or.inl (List.mem_map_of_mem (List.mem_filter.mpr ⟨member, by simpa using blank⟩))
  · exact Or.inr (List.mem_map_of_mem (List.mem_filter.mpr ⟨member, by simpa using blank⟩))

theorem brought_cons (given kept : α) (rest : List (α × α)) :
    brought ((given, kept) :: rest) =
      if Record.id given = "" then brought rest else Record.id kept :: brought rest := by
  by_cases blank : Record.id given = "" <;> simp [brought, blank]

theorem brought_assign (used : List String) (counter : Nat) (batch : List α) :
    brought (batch.zip (assign used counter batch).1) = supplied batch := by
  induction batch generalizing used counter with
  | nil => rfl
  | cons first rest ih =>
      unfold assign
      by_cases blank : Record.id first = "" <;> simp [blank, brought_cons, supplied_cons, ih]

/-- What a table holds was stored in it, and every number that its counter passed over is the text
of an identifier that was brought. -/
structure Paid (life : Life α) : Prop where
  orderly : life.Orderly
  origin : ∀ id ∈ life.table.ids, ∃ pair ∈ life.admitted, Record.id pair.2 = id
  passed : ∃ numbers : List Nat, numbers.Nodup ∧
    life.table.counter = life.admitted.length + numbers.length ∧
    ∀ k ∈ numbers, k ≤ life.table.counter ∧ numbered k ∈ brought life.admitted

namespace Paid
variable {life : Life α}

theorem start : Paid ({} : Life α) where
  orderly := .nil 0 0
  origin := fun _ member => absurd member List.not_mem_nil
  passed := ⟨[], List.nodup_nil, rfl, fun _ member => absurd member List.not_mem_nil⟩

-- A number above the counter is none that the table made into an identifier.
theorem above_brought (paid : Paid life) {k : Nat} (above : life.table.counter < k)
    (taken : numbered k ∈ life.table.ids) : numbered k ∈ brought life.admitted := by
  obtain ⟨pair, member, same⟩ := paid.origin _ taken
  rw [← same]
  refine (mem_issued_or_brought life.admitted pair member).resolve_left fun made => ?_
  obtain ⟨numbers, issued, _, within⟩ := paid.orderly
  rw [same, issued] at made
  obtain ⟨m, inside, equal⟩ := List.mem_map.mp made
  have low := (within m inside).2
  rw [numbered_injective equal] at low
  omega

-- New numbers are passed over above the old ones, and each is the text of something brought before
-- or by the batch itself.
theorem insert (paid : Paid life) {table : Table α} {batch stored : List α}
    (done : life.table.insertBatch batch = .ok (stored, table)) :
    ∃ numbers : List Nat, numbers.Nodup ∧
      table.counter = (life.admitted ++ batch.zip stored).length + numbers.length ∧
      ∀ k ∈ numbers, k ≤ table.counter ∧
        numbered k ∈ brought (life.admitted ++ batch.zip stored) := by
  obtain ⟨taken, admitted⟩ := insertBatch_admitted life.table table batch stored done
  obtain ⟨climbs, within, _⟩ := admitted.numbering.passes
  obtain ⟨_, _, assigned⟩ := insertBatch_ok life.table table batch stored done
  have brings := brought_assign (life.table.ids ++ supplied batch) life.table.counter batch
  rw [assigned] at brings
  obtain ⟨numbers, distinct, counted, old⟩ := paid.passed
  have moved := admitted.counter_eq
  refine ⟨numbers ++ passedOver life.table.counter taken, ?_, ?_, fun k member => ?_⟩
  · refine distinct.append (climbs.imp Nat.ne_of_lt) fun k before after => ?_
    exact Nat.not_le.mpr (within k after).1 (old k before).1
  · rw [List.length_append, List.length_append, List.length_zip, admitted.length, Nat.min_self]
    omega
  · rw [brought_append, brings]
    rcases List.mem_append.mp member with before | after
    · obtain ⟨low, text⟩ := old k before
      exact ⟨by omega, List.mem_append_left _ text⟩
    · obtain ⟨above, reached, used⟩ := within k after
      refine ⟨admitted.counter ▸ reached, ?_⟩
      rcases List.mem_append.mp used with held | given
      · exact List.mem_append_left _ (paid.above_brought above held)
      · exact List.mem_append_right _ given

theorem act (paid : Paid life) (act : Act α) : Paid (life.act act) := by
  have orderly := paid.orderly.act act
  rcases life.act_cases act with ⟨batch, stored, table, rfl, done, after⟩ | ⟨same, kept, fewer⟩
  · rw [after] at orderly ⊢
    refine ⟨orderly, fun id member => ?_, paid.insert done⟩
    change id ∈ table.ids at member
    rw [insertBatch_ids life.table table batch stored done] at member
    rcases List.mem_append.mp member with old | new
    · obtain ⟨pair, inside, same⟩ := paid.origin id old
      exact ⟨pair, List.mem_append_left _ inside, same⟩
    · obtain ⟨_, admitted⟩ := insertBatch_admitted life.table table batch stored done
      have zipped : (batch.zip stored).map Prod.snd = stored :=
        List.map_snd_zip (Nat.le_of_eq admitted.length)
      rw [← zipped, List.map_map] at new
      obtain ⟨pair, inside, same⟩ := List.mem_map.mp new
      exact ⟨pair, List.mem_append_right _ inside, same⟩
  · refine ⟨orderly, fun id member => ?_, ?_⟩
    · rw [kept]
      exact paid.origin id (fewer member)
    · rw [same, kept]
      exact paid.passed

theorem ofActs (acts : List (Act α)) : Paid (Life.ofActs acts) := by
  induction acts using List.reverseRecOn with
  | nil => exact .start
  | append_singleton acts act ih =>
      rw [Life.ofActs, List.foldl_append]
      exact Paid.act ih act

theorem bounds (paid : Paid life) :
    life.admitted.length ≤ life.table.counter ∧
      life.table.counter ≤ life.admitted.length + (brought life.admitted).length := by
  obtain ⟨numbers, distinct, counted, texts⟩ := paid.passed
  have most := numbers_in_use distinct fun k member => (texts k member).2
  omega

end Paid

theorem brought_length (admitted : List (α × α)) :
    (brought admitted).length = (admitted.filter fun pair => Record.id pair.1 != "").length :=
  List.length_map _

/-- After every run the counter is at least the number of records that were ever stored, and exceeds
it by no more than the number of those that brought an identifier; so it fits 64 bits until 2^63
records have been stored, also while a batch is stored, since it only rises then. And every search
for a free number ends, in every batch that is stored: all the searches of a batch together pass
over no more numbers than there are identifiers in use by the table and the batch. -/
theorem counter_bounded (acts : List (Act α)) :
    let life := Life.ofActs acts
    life.admitted.length ≤ life.table.counter ∧
    life.table.counter ≤ life.admitted.length +
      (life.admitted.filter fun pair => Record.id pair.1 != "").length ∧
    (life.admitted.length < twoTo 63 → life.table.counter < wordLimit) ∧
    ∀ batch stored after, life.table.insertBatch batch = .ok (stored, after) →
      ∃ numbers, Admitted life.table batch numbers stored after ∧
        (∀ n ∈ numbers, n ≤ after.counter) ∧
        after.counter ≤ life.table.counter + batch.length +
          (life.table.size + (supplied batch).length) ∧
        ∀ (i : Nat) record last n, batch[i]? = some record → Record.id record = "" →
          (life.table.counter :: numbers)[i]? = some last → numbers[i]? = some n →
          ∃ skips ≤ life.table.size + (supplied batch).length,
            Search (inUseAt life.table batch stored i) (last + 1) n skips := by
  intro life
  have paid : Paid life := .ofActs acts
  obtain ⟨least, most⟩ := paid.bounds
  rw [brought_length] at most
  refine ⟨least, most, fun few => ?_, fun batch stored after done => ?_⟩
  · have part := List.length_filter_le (fun pair => Record.id pair.1 != "") life.admitted
    have half : wordLimit = 2 * twoTo 63 := rfl
    omega
  · obtain ⟨numbers, admitted⟩ := insertBatch_admitted life.table after batch stored done
    refine ⟨numbers, admitted, ?_, ?_, fun i record last n => admitted.search⟩
    · exact admitted.counter ▸ admitted.numbering.le_final
    · exact admitted.counter_eq ▸ Nat.add_le_add_left admitted.passed_length _

-- Three records, two of them with an identifier in the way: the counter gets as far as it can.
example :
    (Life.ofActs [.insert [({ id := "003" } : Channel), { id := "004" }, {}]]).table.counter =
      3 + 2 := by decide +kernel

end Table
end Switchboard
