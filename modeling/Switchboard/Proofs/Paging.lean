import Mathlib.Data.List.Basic
import Switchboard.Board.Things
import Switchboard.Proofs.TableContents

/-!
All pages of one limit together. Their windows begin at the multiples of the limit. Windows of
places cut an enumeration into stretches that join up again. Windows of ordinals are half open and
stop at the largest 64-bit number, so an ordinal is in one window exactly, except zero and that
number, which are in none; what a page shows of its window is what the filter leaves, in some order.
-/
namespace Switchboard

def Query.startingAt (query : Query) (offset : Nat) : Query :=
  { query with offset := UInt64.ofNat offset }

/-- The multiples of a limit that are 64-bit numbers, in order. -/
def pageStarts (limit : Nat) : List Nat :=
  (List.range ((wordLimit - 1) / limit + 1)).map (· * limit)

def allItems {α : Type} (pages : Query → Page α) (query : Query) : List α :=
  (pageStarts query.limit.toNat).flatMap fun start => (pages (query.startingAt start)).items

section Starts
variable {limit : Nat}

theorem mem_pageStarts (positive : 0 < limit) (start : Nat) :
    start ∈ pageStarts limit ↔ start < wordLimit ∧ ∃ j, start = j * limit := by
  simp only [pageStarts, List.mem_map, List.mem_range, Nat.lt_succ_iff,
    Nat.le_div_iff_mul_le positive]
  constructor
  · rintro ⟨j, bound, rfl⟩
    exact ⟨by unfold wordLimit at bound ⊢; omega, j, rfl⟩
  · rintro ⟨below, j, rfl⟩
    exact ⟨j, by omega, rfl⟩

theorem pageStarts_nodup (positive : 0 < limit) : (pageStarts limit).Nodup := by
  refine List.Nodup.map (fun i j same => ?_) List.nodup_range
  exact Nat.eq_of_mul_eq_mul_right positive same

theorem startingAt_offset (query : Query) (start : Nat) (inWord : start < wordLimit) :
    (query.startingAt start).offset.toNat = start := by
  exact UInt64.toNat_ofNat_of_lt inWord

theorem limit_positive (query : Query) (some : query.limit ≠ 0) : 0 < query.limit.toNat := by
  apply Nat.pos_of_ne_zero
  intro zero
  exact some (UInt64.toNat_inj.mp zero)

-- One of several distinct keys picks the element, so it is listed once.
theorem picked_once (keys : List Nat) (distinct : keys.Nodup) (key : Nat) (present : key ∈ keys)
    {α : Type} (record : α) :
    (keys.flatMap fun other => if other = key then [record] else []) = [record] := by
  induction keys with
  | nil => exact absurd present List.not_mem_nil
  | cons first rest ih =>
      obtain ⟨apart, distinct⟩ := List.nodup_cons.mp distinct
      rw [List.flatMap_cons]
      by_cases same : first = key
      · subst same
        have nothing : (rest.flatMap fun other => if other = first then [record] else []) = [] := by
          apply List.flatMap_eq_nil_iff.mpr
          intro other member
          apply if_neg
          rintro rfl
          exact apart member
        rw [if_pos rfl, nothing, List.append_nil]
      · have later : key ∈ rest := (List.mem_cons.mp present).resolve_left (Ne.symm same)
        rw [if_neg same, ih distinct later, List.nil_append]

end Starts

section Places
variable {α : Type}

theorem stretches_join (records : List α) (size count : Nat) :
    ((List.range count).flatMap fun j => (records.drop (j * size)).take size) =
      records.take (count * size) := by
  induction count with
  | zero => simp
  | succ count ih =>
      rw [List.range_succ, List.flatMap_append, ih, Nat.succ_mul, List.take_add]
      simp

theorem Table.pageByPlace_joins (table : Table α) (query : Query) (some : query.limit ≠ 0)
    (fits : table.size ≤ wordLimit) : allItems table.pageByPlace query = table.records := by
  have positive := limit_positive query some
  have stretches : allItems table.pageByPlace query =
      (List.range ((wordLimit - 1) / query.limit.toNat + 1)).flatMap fun j =>
        (table.records.drop (j * query.limit.toNat)).take query.limit.toNat := by
    rw [allItems, pageStarts, List.flatMap_map]
    apply List.flatMap_congr
    intro j member
    have inWord : j * query.limit.toNat < wordLimit :=
      ((mem_pageStarts positive _).mp (List.mem_map.mpr ⟨j, member, rfl⟩)).1
    change (table.records.drop (query.startingAt _).offset.toNat).take query.limit.toNat = _
    rw [startingAt_offset query _ inWord]
  rw [stretches, stretches_join]
  apply List.take_of_length_le
  have counted : table.records.length = table.size := List.length_map _
  have beyond := Nat.lt_div_mul_add (a := wordLimit - 1) positive
  rw [counted, Nat.succ_mul]
  unfold wordLimit at beyond fits ⊢
  omega

end Places

section Ordinals

def Query.Covers (query : Query) (n : Nat) : Prop :=
  query.offset.toNat < n ∧ n ≤ query.offset.toNat + query.limit.toNat ∧ n < wordLimit - 1

instance (query : Query) (n : Nat) : Decidable (query.Covers n) := by
  unfold Query.Covers
  infer_instance

theorem covers_nothing (query : Query) (none : query.limit = 0) (n : Nat) : ¬ query.Covers n := by
  unfold Query.Covers
  rw [none, UInt64.toNat_zero]
  omega

theorem holds_iff (window : OrdinalWindow) (n : Nat) :
    window.holds n = true ↔ window.first ≤ n ∧ n < window.last := by
  simp [OrdinalWindow.holds]

-- Where a sum stops at the largest number, the window is cut at an ordinal that it excludes anyway.
theorem ordinalWindow_covers (query : Query) (some : query.limit ≠ 0) :
    ∃ window, query.ordinalWindow? = .some window ∧
      ∀ n, window.holds n = true ↔ query.Covers n := by
  refine ⟨_, if_neg some, fun n => ?_⟩
  have positive := limit_positive query some
  rw [holds_iff]
  simp only [Query.Covers, cappedSum, wordLimit]
  omega

theorem covers_startingAt (query : Query) (n start : Nat) (some : query.limit ≠ 0)
    (known : start ∈ pageStarts query.limit.toNat) (least : 1 ≤ n) (most : n < wordLimit - 1) :
    (query.startingAt start).Covers n ↔ start = (n - 1) / query.limit.toNat * query.limit.toNat := by
  have positive := limit_positive query some
  obtain ⟨inWord, j, rfl⟩ := (mem_pageStarts positive start).mp known
  have window : (query.startingAt (j * query.limit.toNat)).Covers n ↔
      j * query.limit.toNat ≤ n - 1 ∧ n - 1 < j * query.limit.toNat + query.limit.toNat := by
    unfold Query.Covers
    rw [startingAt_offset query _ inWord]
    change _ ∧ n ≤ _ + query.limit.toNat ∧ _ ↔ _
    omega
  rw [window, Nat.mul_right_cancel_iff positive, eq_comm, Nat.div_eq_iff positive]
  omega

variable {α : Type} [Record α]

def Passes (query : Query) (record : α) : Prop :=
  ∀ name, query.name = some name → name ≠ "" → Record.name record = name

theorem passesName_iff (query : Query) (record : α) :
    passesName query record = true ↔ Passes query record := by
  unfold passesName Passes
  cases query.name with
  | none => simp
  | some name =>
      by_cases blank : name = "" <;> simp [blank]

theorem windowByOrdinal_zero (query : Query) (none : query.limit = 0) (candidates : List α) :
    windowByOrdinal query candidates = [] := by
  rw [windowByOrdinal, show query.ordinalWindow? = .none from if_pos none]

theorem windowByOrdinal_eq (query : Query) (candidates : List α) :
    windowByOrdinal query candidates =
      candidates.filter fun record => decide (query.Covers (ordinal (Record.id record))) := by
  by_cases none : query.limit = 0
  · rw [windowByOrdinal_zero query none]
    apply Eq.symm
    apply List.filter_eq_nil_iff.mpr
    intro record _ covered
    exact covers_nothing query none _ (of_decide_eq_true covered)
  · obtain ⟨window, here, holds⟩ := ordinalWindow_covers query none
    rw [windowByOrdinal, here]
    apply List.filter_congr
    intro record _
    rw [Bool.eq_iff_iff, holds, decide_eq_true_iff]

theorem finish_nil (query : Query) (total : Nat) :
    Page.finish query total ([] : List α) = .empty query total := by
  simp only [Page.finish, filterByName, List.filter_nil, sortRecords]
  cases query.sortKey? with
  | none => rfl
  | some key => simp only [List.mergeSort_nil, Page.empty]

-- A limit of zero shows what its window shows.
theorem Table.pageByGroups_finish (table : Table α) (groups : List String) (query : Query) :
    table.pageByGroups groups query = .finish query table.counter
      (windowByOrdinal query (table.records.filter (Table.inGroups groups))) := by
  unfold Table.pageByGroups
  split
  next none => rw [windowByOrdinal_zero query none, finish_nil]
  next => rfl

/-- Pages that show, of some candidates, those in the window that pass the filter. -/
def Shows (pages : Query → Page α) (candidates : List α) : Prop :=
  ∀ query, (pages query).items.Perm (candidates.filter fun record =>
    decide (query.Covers (ordinal (Record.id record))) && passesName query record)

theorem sortRecords_perm (query : Query) (records : List α) :
    (sortRecords query records).Perm records := by
  unfold sortRecords
  cases query.sortKey? with
  | none => exact .refl records
  | some key => exact records.mergeSort_perm _

theorem finish_shows (total : Nat) (candidates : List α) :
    Shows (fun query => .finish query total (windowByOrdinal query candidates)) candidates := by
  intro query
  change (sortRecords query (filterByName query (windowByOrdinal query candidates))).Perm _
  have filtered : filterByName query (windowByOrdinal query candidates) =
      candidates.filter fun record =>
        decide (query.Covers (ordinal (Record.id record))) && passesName query record := by
    rw [filterByName, windowByOrdinal_eq, List.filter_filter]
    simp only [Bool.and_comm]
  rw [← filtered]
  exact sortRecords_perm query _

/-- An ordinal that some window is over. -/
def Listable (record : α) : Prop :=
  1 ≤ ordinal (Record.id record) ∧ ordinal (Record.id record) < wordLimit - 1

/-- The pages of every limit show each of the chosen records once, if it is listable and passes the
filter, and no page shows anything else. -/
structure Tiles (pages : Query → Page α) (stored : List α) (Chosen : α → Prop) : Prop where
  once : ∀ query : Query, query.limit ≠ 0 → ∀ record ∈ stored, Chosen record →
    Passes query record → Listable record →
    (allItems pages query).filter (fun item => Record.id item == Record.id record) = [record]
  never : ∀ query, ∀ record, ¬ Listable record → record ∉ (pages query).items
  sound : ∀ query, ∀ item ∈ (pages query).items, item ∈ stored ∧ Chosen item ∧ Passes query item

theorem filter_own_id (candidates : List α) (distinct : (candidates.map Record.id).Nodup)
    (record : α) (member : record ∈ candidates) :
    candidates.filter (fun item => Record.id item == Record.id record) = [record] := by
  induction candidates with
  | nil => exact absurd member List.not_mem_nil
  | cons first rest ih =>
      obtain ⟨apart, distinct⟩ := List.nodup_cons.mp distinct
      rcases List.mem_cons.mp member with rfl | later
      · have nothing : rest.filter (fun item => Record.id item == Record.id record) = [] := by
          apply List.filter_eq_nil_iff.mpr
          intro item inside same
          exact apart (List.mem_map.mpr ⟨item, inside, beq_iff_eq.mp same⟩)
        simp [nothing]
      · have other : Record.id first ≠ Record.id record := fun same =>
          apart (List.mem_map.mpr ⟨record, later, same.symm⟩)
        simp [other, ih distinct later]

section Tiling
variable {pages : Query → Page α} {candidates : List α}

theorem Shows.filter_page (shows : Shows pages candidates)
    (distinct : (candidates.map Record.id).Nodup) (query : Query) (record : α)
    (member : record ∈ candidates) (passes : Passes query record) :
    (pages query).items.filter (fun item => Record.id item == Record.id record) =
      if query.Covers (ordinal (Record.id record)) then [record] else [] := by
  have shown := (shows query).filter fun item => Record.id item == Record.id record
  rw [List.filter_comm, filter_own_id candidates distinct record member] at shown
  by_cases covered : query.Covers (ordinal (Record.id record))
  · rw [if_pos covered]
    apply List.perm_singleton.mp
    simpa [covered, (passesName_iff query record).mpr passes] using shown
  · rw [if_neg covered]
    apply List.perm_nil.mp
    simpa [covered] using shown

theorem Shows.once (shows : Shows pages candidates) (distinct : (candidates.map Record.id).Nodup)
    (query : Query) (some : query.limit ≠ 0) (record : α) (member : record ∈ candidates)
    (passes : Passes query record) (listable : Listable record) :
    (allItems pages query).filter (fun item => Record.id item == Record.id record) = [record] := by
  have positive := limit_positive query some
  generalize own : (ordinal (Record.id record) - 1) / query.limit.toNat * query.limit.toNat = start
  have known : start ∈ pageStarts query.limit.toNat := by
    apply (mem_pageStarts positive start).mpr
    have low : start ≤ ordinal (Record.id record) - 1 := own ▸ Nat.div_mul_le_self _ _
    have high := ordinal_lt_wordLimit (Record.id record)
    exact ⟨by omega, _, own.symm⟩
  calc (allItems pages query).filter (fun item => Record.id item == Record.id record)
      = (pageStarts query.limit.toNat).flatMap fun other =>
          if other = start then [record] else [] := by
        rw [allItems, List.filter_flatMap]
        apply List.flatMap_congr
        intro other begins
        rw [shows.filter_page distinct (query.startingAt other) record member passes]
        simp only [covers_startingAt query _ other some begins listable.1 listable.2, own]
    _ = [record] := picked_once _ (pageStarts_nodup positive) start known record

theorem Shows.mem_iff (shows : Shows pages candidates) (query : Query) (item : α) :
    item ∈ (pages query).items ↔
      item ∈ candidates ∧ query.Covers (ordinal (Record.id item)) ∧ Passes query item := by
  rw [(shows query).mem_iff]
  simp [passesName_iff]

theorem Shows.items_distinct (shows : Shows pages candidates)
    (distinct : (candidates.map Record.id).Nodup) (query : Query) :
    ((pages query).items.map Record.id).Nodup :=
  ((shows query).map Record.id).nodup_iff.mpr (distinct.sublist (List.filter_sublist.map Record.id))

theorem Shows.tiles (shows : Shows pages candidates) (distinct : (candidates.map Record.id).Nodup)
    (stored : List α) (Chosen : α → Prop)
    (candidate : ∀ record, record ∈ candidates ↔ record ∈ stored ∧ Chosen record) :
    Tiles pages stored Chosen := by
  constructor
  case once =>
    intro query some record member chosen passes listable
    exact shows.once distinct query some record ((candidate record).mpr ⟨member, chosen⟩) passes
      listable
  case never =>
    intro query record unlisted member
    obtain ⟨_, ⟨low, _, high⟩, _⟩ := (shows.mem_iff query record).mp member
    exact unlisted ⟨by omega, high⟩
  case sound =>
    intro query item member
    obtain ⟨inside, _, passes⟩ := (shows.mem_iff query item).mp member
    obtain ⟨held, chosen⟩ := (candidate item).mp inside
    exact ⟨held, chosen, passes⟩

end Tiling

theorem Table.pageByGroups_shows (table : Table α) (groups : List String) :
    Shows (table.pageByGroups groups) (table.records.filter (Table.inGroups groups)) := by
  intro query
  rw [table.pageByGroups_finish]
  exact finish_shows table.counter (table.records.filter (Table.inGroups groups)) query

theorem Table.Own.records_distinct {table : Table α} (own : table.Own)
    (distinct : table.ids.Nodup) : (table.records.map Record.id).Nodup :=
  own.map_id ▸ distinct

end Ordinals

namespace Roster

def Sets (roster : Roster) : Prop := ∀ row ∈ roster.rows, row.2.Nodup

theorem enlist_nodup (thing : String) (row : List String) (set : row.Nodup) :
    (enlist thing row).Nodup := by
  unfold enlist
  by_cases there : row.contains thing = true
  · rw [if_pos there]
    exact set
  · rw [if_neg there]
    have new : thing ∉ row := fun member => there (List.contains_iff_mem.mpr member)
    exact set.append (List.nodup_singleton thing) (List.disjoint_singleton.mpr new)

namespace Sets
variable {roster : Roster}

theorem things (sets : roster.Sets) (channel : String) : (roster.things channel).Nodup := by
  unfold Roster.things row?
  cases found : roster.rows.find? fun row => row.1 == channel with
  | none => exact List.nodup_nil
  | some row => exact sets row (List.mem_of_find?_eq_some found)

theorem connect (sets : roster.Sets) (channel thing : String) :
    (roster.connect channel thing).Sets := by
  unfold Roster.connect
  intro row member
  cases found : roster.row? channel with
  | none =>
      rw [found] at member
      rcases List.mem_append.mp member with old | new
      · exact sets row old
      · rw [List.mem_singleton.mp new]
        exact List.nodup_singleton thing
  | some listed =>
      rw [found] at member
      obtain ⟨old, stored, rfl⟩ := List.mem_map.mp member
      split
      · exact enlist_nodup thing old.2 (sets old stored)
      · exact sets old stored

theorem withdraw (sets : roster.Sets) (chosen : String → Bool) (thing : String) :
    (roster.withdraw chosen thing).Sets := by
  intro row member
  obtain ⟨old, stored, rfl⟩ := List.mem_map.mp (List.mem_filter.mp member).1
  split
  · exact (sets old stored).filter _
  · exact sets old stored

end Sets
end Roster

namespace Board

-- A channel without a row shows what a channel without things shows.
theorem thingsByChannel_eq (board : Board) (channel : String) (query : Query) :
    board.thingsByChannel channel query =
      .finish query board.things.counter
        (windowByOrdinal query (board.connectedThings channel)) := by
  unfold thingsByChannel
  cases found : board.roster.row? channel with
  | none => simp [connectedThings, Roster.things, found, windowByOrdinal_eq, finish_nil]
  | some row => rfl

theorem thingsByChannel_shows (board : Board) (channel : String) :
    Shows (board.thingsByChannel channel) (board.connectedThings channel) := by
  intro query
  rw [board.thingsByChannel_eq]
  exact finish_shows board.things.counter (board.connectedThings channel) query

theorem mem_connectedThings (board : Board) (own : board.things.Own)
    (distinct : board.things.ids.Nodup) (channel : String) (thing : Thing) :
    thing ∈ board.connectedThings channel ↔
      thing ∈ board.things.records ∧ board.roster.holds channel thing.id = true := by
  simp only [connectedThings, List.mem_filterMap, own.get?_iff distinct, Roster.holds,
    List.contains_iff_mem]
  constructor
  · rintro ⟨_, listed, stored, rfl⟩
    exact ⟨stored, listed⟩
  · rintro ⟨stored, listed⟩
    exact ⟨thing.id, listed, stored, rfl⟩

-- The records that are found have the identifiers of a part of the row, in its order.
theorem connectedThings_distinct (board : Board) (own : board.things.Own) (channel : String)
    (row : (board.roster.things channel).Nodup) :
    ((board.connectedThings channel).map Record.id).Nodup := by
  have found (ids : List String) :
      ((ids.filterMap board.things.get?).map Record.id).Sublist ids := by
    induction ids with
    | nil => exact .slnil
    | cons id rest ih =>
        cases stored : board.things.get? id with
        | none =>
            rw [List.filterMap_cons_none stored]
            exact ih.cons id
        | some thing =>
            rw [List.filterMap_cons_some stored, List.map_cons, own.get?_id id thing stored]
            exact ih.cons_cons id
  exact (found _).nodup row

theorem connectedThings_perm (board : Board) (own : board.things.Own)
    (distinct : board.things.ids.Nodup) (channel : String)
    (row : (board.roster.things channel).Nodup) :
    (board.connectedThings channel).Perm
      (board.things.records.filter fun thing => board.roster.holds channel thing.id) := by
  have once := List.Nodup.of_map Record.id (board.connectedThings_distinct own channel row)
  have stored := List.Nodup.of_map Record.id (own.records_distinct distinct)
  apply (List.perm_ext_iff_of_nodup once (stored.filter _)).mpr
  intro thing
  rw [board.mem_connectedThings own distinct, List.mem_filter]

end Board

/-- The pages of any limit tile the listable records of the listed groups, and the listable things
that the thing side connects to a channel, whose row lists a thing once. -/
theorem pages_tile :
    (∀ {α : Type} [Record α] (table : Table α), table.Own → table.ids.Nodup → ∀ groups,
      Tiles (table.pageByGroups groups) table.records fun record =>
        Record.group record ∈ groups) ∧
    ∀ board : Board, board.things.Own → board.things.ids.Nodup →
      ∀ channel, (board.roster.things channel).Nodup →
        Tiles (board.thingsByChannel channel) board.things.records fun thing =>
          board.roster.holds channel thing.id = true := by
  constructor
  · intro α _ table own distinct groups
    apply (table.pageByGroups_shows groups).tiles
    · exact (own.records_distinct distinct).sublist (List.filter_sublist.map Record.id)
    · intro record
      simp [Table.inGroups]
  · intro board own distinct channel row
    apply (board.thingsByChannel_shows channel).tiles
    · exact board.connectedThings_distinct own channel row
    · exact board.mem_connectedThings own distinct channel

def shelf : Table Channel :=
  { entries :=
      [("7", { id := "7", group := "g" }), ("x007", { id := "x007", group := "g" }),
        ("y", { id := "y", group := "g" }),
        ("18446744073709551614", { id := "18446744073709551614", group := "g" })]
    counter := 4 }

def hall : Board :=
  { things := { entries := [("1", { id := "1" }), ("2", { id := "2" })], counter := 2 }
    roster := ⟨[("c", ["3", "2"])]⟩
    bridge := .ofCapacity 1 }

theorem pages_tile_shelf :
    (shelf.Own ∧ shelf.ids.Nodup ∧
      Tiles (shelf.pageByGroups ["g"]) shelf.records fun record => Record.group record ∈ ["g"]) ∧
    (hall.things.Own ∧ hall.things.ids.Nodup ∧ (hall.roster.things "c").Nodup ∧
      Tiles (hall.thingsByChannel "c") hall.things.records fun thing =>
        hall.roster.holds "c" thing.id = true) := by
  have shelfOwn : shelf.Own := by
    unfold Table.Own
    decide
  have hallOwn : hall.things.Own := by
    unfold Table.Own
    decide
  have shelfDistinct : shelf.ids.Nodup := by decide
  have hallDistinct : hall.things.ids.Nodup := by decide
  have row : (hall.roster.things "c").Nodup := by decide
  exact ⟨⟨shelfOwn, shelfDistinct, pages_tile.1 shelf shelfOwn shelfDistinct ["g"]⟩,
    hallOwn, hallDistinct, row, pages_tile.2 hall hallOwn hallDistinct "c" row⟩

end Switchboard
