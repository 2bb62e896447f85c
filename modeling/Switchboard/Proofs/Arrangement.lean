import Switchboard.Proofs.Sorting

/-!
What becomes of a list that is sorted. Nothing is lost or added, no record stands behind one that
comes after it, and records that the order does not tell apart stay as they came. Sorting again
changes nothing. Where identifiers are distinct the order tells all records apart: then the
direction only turns the list round, and it does not matter how the list was arranged before.
-/
namespace Switchboard

def SortKey.field : SortKey → String
  | .name => "name"
  | .id => "id"

def Query.Asks (query : Query) (key : SortKey) : Prop :=
  ∃ word, query.order = some word ∧ lowerAscii word = key.field

theorem Query.sortKey?_iff (query : Query) (key : SortKey) :
    query.sortKey? = some key ↔ query.Asks key := by
  rw [Query.sortKey?, Option.bind_eq_some_iff]
  apply exists_congr
  intro word
  apply and_congr_right
  intro _
  unfold SortKey.ofText?
  by_cases byName : lowerAscii word = "name"
  · cases key <;> simp [byName, SortKey.field]
  · by_cases byId : lowerAscii word = "id"
    · cases key <;> simp [byId, SortKey.field]
    · cases key <;> simp [byName, byId, SortKey.field]

section Records
variable {α : Type} [Record α]

/-- A record does not come after another: by name or by ordinal, and by identifier where these are
the same. -/
def SortKey.NotAfter (key : SortKey) (a b : α) : Prop :=
  match key with
  | .name => Record.name a < Record.name b ∨
      Record.name a = Record.name b ∧ Record.id a ≤ Record.id b
  | .id => ordinal (Record.id a) < ordinal (Record.id b) ∨
      ordinal (Record.id a) = ordinal (Record.id b) ∧ Record.id a ≤ Record.id b

instance (key : SortKey) (a b : α) : Decidable (key.NotAfter a b) :=
  match key with
  | .name => inferInstanceAs (Decidable (_ ∨ _))
  | .id => inferInstanceAs (Decidable (_ ∨ _))

def SortKey.Fits (key : SortKey) (direction : Direction) (a b : α) : Prop :=
  match direction with
  | .ascending => key.NotAfter a b
  | .descending => key.NotAfter b a

/-- The order does not tell two records apart. -/
def SortKey.level (key : SortKey) (a b : α) : Bool :=
  decide (key.NotAfter a b) && decide (key.NotAfter b a)

theorem notAfter_iff (key : SortKey) (a b : α) : key.NotAfter a b ↔ rank key a ≤ rank key b := by
  cases key with
  | name => simp [SortKey.NotAfter, rank, Prod.Lex.toLex_le_toLex]
  | id => simp [SortKey.NotAfter, rank, Prod.Lex.toLex_le_toLex]

theorem fits_iff (key : SortKey) (direction : Direction) (a b : α) :
    key.Fits direction a b ↔ inOrder key direction a b = true := by
  rw [inOrder_iff]
  cases direction with
  | ascending => exact notAfter_iff key a b
  | descending => exact notAfter_iff key b a

theorem level_iff (key : SortKey) (a b : α) : key.level a b = true ↔ rank key a = rank key b := by
  rw [SortKey.level, Bool.and_eq_true, decide_eq_true_eq, decide_eq_true_eq, notAfter_iff,
    notAfter_iff, le_antisymm_iff]

theorem inOrder_of_level (key : SortKey) (direction : Direction) (record a b : α)
    (left : key.level record a = true) (right : key.level record b = true) :
    inOrder key direction a b = true := by
  have same : rank key a = rank key b :=
    ((level_iff key record a).mp left).symm.trans ((level_iff key record b).mp right)
  rw [inOrder_iff]
  cases direction with
  | ascending => exact same.le
  | descending => exact same.ge

variable (query : Query) (records : List α)

theorem sortRecords_plain (unsorted : query.sortKey? = none) :
    sortRecords query records = records := by
  rw [sortRecords, unsorted]

theorem sortRecords_again :
    sortRecords query (sortRecords query records) = sortRecords query records := by
  cases known : query.sortKey? with
  | none => exact sortRecords_plain query _ known
  | some key =>
      have ordered := sortRecords_ordered query key known records
      rw [sortRecords, known]
      exact List.mergeSort_of_pairwise ordered

-- Those that are level are in order as they stand, and the sort keeps what is in order. As many of
-- them come out as went in, so nothing else is among them.
theorem sortRecords_stable (key : SortKey) (known : query.sortKey? = some key) (record : α) :
    (sortRecords query records).filter (key.level record) = records.filter (key.level record) := by
  have ordered : (records.filter (key.level record)).Pairwise fun a b =>
      inOrder key query.direction a b = true := by
    apply List.pairwise_of_forall_mem_list
    intro a left b right
    exact inOrder_of_level key query.direction record a b (List.mem_filter.mp left).2
      (List.mem_filter.mp right).2
  have kept : (records.filter (key.level record)).Sublist (sortRecords query records) := by
    rw [sortRecords, known]
    exact List.sublist_mergeSort (inOrder_trans key query.direction) (inOrder_total key _) ordered
      List.filter_sublist
  have within := kept.filter (key.level record)
  simp only [List.filter_filter, Bool.and_self] at within
  have count := ((sortRecords_perm query records).filter (key.level record)).length_eq
  exact (within.eq_of_length count.symm).symm

theorem sortRecords_reverse (key : SortKey) (known : query.sortKey? = some key)
    (distinct : (records.map Record.id).Nodup) :
    sortRecords { query with direction := .descending } records =
      (sortRecords { query with direction := .ascending } records).reverse := by
  have ordered := sortRecords_ordered { query with direction := .ascending } key known records
  apply sortRecords_eq { query with direction := .descending } key known _ _ distinct
  · apply List.pairwise_reverse.mpr
    apply ordered.imp
    intro a b fits
    exact (fits_iff key .descending b a).mp ((fits_iff key .ascending a b).mpr fits)
  · exact ((List.reverse_perm _).trans (sortRecords_perm _ records)).symm

/-- Sorting only rearranges. Without an order that is known it changes nothing. Under an order by
name or by identifier every record fits in front of all later ones, those that are level stay as
they came, and sorting again changes nothing; and if the identifiers are distinct, descending order
is ascending order from the back, and any arrangement of the records is sorted into the same
list. -/
theorem sort_arranges :
    (sortRecords query records).Perm records ∧
    ((∀ key, ¬ query.Asks key) → sortRecords query records = records) ∧
    ∀ key, query.Asks key →
      (sortRecords query records).Pairwise (key.Fits query.direction) ∧
      (∀ record, (sortRecords query records).filter (key.level record) =
        records.filter (key.level record)) ∧
      sortRecords query (sortRecords query records) = sortRecords query records ∧
      ((records.map Record.id).Nodup →
        sortRecords { query with direction := .descending } records =
          (sortRecords { query with direction := .ascending } records).reverse ∧
        ∀ others, others.Perm records →
          sortRecords query others = sortRecords query records) := by
  refine ⟨sortRecords_perm query records, ?_, ?_⟩
  · intro unasked
    cases known : query.sortKey? with
    | none => exact sortRecords_plain query records known
    | some key => exact absurd ((query.sortKey?_iff key).mp known) (unasked key)
  · intro key asked
    have known : query.sortKey? = some key := (query.sortKey?_iff key).mpr asked
    refine ⟨?_, sortRecords_stable query records key known, sortRecords_again query records, ?_⟩
    · apply (sortRecords_ordered query key known records).imp
      intro a b fits
      exact (fits_iff key query.direction a b).mpr fits
    · intro distinct
      refine ⟨sortRecords_reverse query records key known distinct, fun others same => ?_⟩
      have sorted : query.sortKey? ≠ none := by simp [known]
      exact (sortRecords_congr query sorted same.symm distinct).symm

end Records

def unordered : List Thing :=
  [{ id := "x7", name := "b" }, { id := "007", name := "a" }, { id := "door", name := "b" },
    { id := "18446744073709551616", name := "a" }]

def doubled : List Thing :=
  [{ id := "x7", name := "b", key := "first" }, { id := "door", name := "b" },
    { id := "x7", name := "b", key := "second" }]

def byGroup : Query := { order := some "group" }

def byNumber : Query := { order := some "iD", direction := .descending }

theorem sort_arranges_doubled :
    (∀ key, ¬ byGroup.Asks key) ∧ sortRecords byGroup doubled = doubled ∧
      byNumber.Asks .id ∧
      ((sortRecords byNumber doubled).filter (SortKey.id.level { id := "x7" })).map Thing.key =
        ["first", "second"] ∧
      (unordered.map Record.id).Nodup ∧ unordered.reverse.Perm unordered ∧
      sortRecords byNumber unordered.reverse = sortRecords byNumber unordered ∧
      sortRecords byNumber unordered =
        (sortRecords { byNumber with direction := .ascending } unordered).reverse := by
  have unasked : ∀ key, ¬ byGroup.Asks key := by
    rintro key ⟨word, ordered, named⟩
    cases ordered
    cases key <;> exact absurd named (by decide)
  have asked : byNumber.Asks .id := ⟨"iD", rfl, by decide⟩
  have distinct : (unordered.map Record.id).Nodup := by decide
  have turned : unordered.reverse.Perm unordered := List.reverse_perm unordered
  obtain ⟨_, stable, _, _⟩ := (sort_arranges byNumber doubled).2.2 .id asked
  obtain ⟨_, _, _, told⟩ := (sort_arranges byNumber unordered).2.2 .id asked
  obtain ⟨back, any⟩ := told distinct
  refine ⟨unasked, (sort_arranges byGroup doubled).2.1 unasked, asked, ?_, distinct, turned,
    any _ turned, back⟩
  rw [stable]
  decide +kernel

end Switchboard
