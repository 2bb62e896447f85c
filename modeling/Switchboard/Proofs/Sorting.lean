import Mathlib.Data.Prod.Lex
import Mathlib.Order.Compare
import Mathlib.Data.String.Basic
import Switchboard.Proofs.Register

/-!
The order of a page. A record stands on it by its rank: what the order names comes first and the
identifier decides ties, and descending order turns the ranks round. Ranks are totally ordered and
records of one rank have one identifier, so where identifiers are distinct a sorted list is known by
what is in it. Groups, window and filter only pick records, and so two boards that hold the same
show the same sorted pages, whatever happened on the way to either.
-/
namespace Switchboard

section Ranks
variable {α : Type} [Record α]

/-- What an order compares of a record; the part that it does not name is the same for all. -/
def rank (key : SortKey) (record : α) : Nat ×ₗ String ×ₗ String :=
  match key with
  | .name => toLex (0, toLex (Record.name record, Record.id record))
  | .id => toLex (ordinal (Record.id record), toLex ("", Record.id record))

theorem compareText_eq (a b : String) : compareText a b = cmp a b := rfl

theorem compareOrdinal_eq (a b : String) : compareOrdinal a b = cmp (ordinal a) (ordinal b) := rfl

section Pairs
variable {β γ : Type} [LinearOrder β] [LinearOrder γ]

theorem cmp_behind (a : β) (b d : γ) : cmp (toLex (a, b)) (toLex (a, d)) = cmp b d := by
  unfold cmp cmpUsing
  simp only [Prod.Lex.toLex_lt_toLex, lt_self_iff_false, false_or, true_and]

theorem cmp_toLex (a c : β) (b d : γ) :
    cmp (toLex (a, b)) (toLex (c, d)) = thenCompare (cmp a c) (cmp b d) := by
  rcases lt_trichotomy a c with below | rfl | above
  · have front : toLex (a, b) < toLex (c, d) := Prod.Lex.toLex_lt_toLex.mpr (Or.inl below)
    rw [(cmp_eq_lt_iff _ _).mpr front, (cmp_eq_lt_iff _ _).mpr below]
    rfl
  · rw [cmp_behind, cmp_self_eq_eq, thenCompare]
  · have back : toLex (c, d) < toLex (a, b) := Prod.Lex.toLex_lt_toLex.mpr (Or.inl above)
    rw [(cmp_eq_gt_iff _ _).mpr back, (cmp_eq_gt_iff _ _).mpr above]
    rfl

end Pairs

theorem compareBy_eq (key : SortKey) (a b : α) :
    compareBy key a b = cmp (rank key a) (rank key b) := by
  cases key with
  | name => rw [compareBy, rank, rank, cmp_behind, cmp_toLex, compareText_eq, compareText_eq]
  | id => rw [compareBy, rank, rank, cmp_toLex, cmp_behind, compareText_eq, compareOrdinal_eq]

theorem rank_id (key : SortKey) (a b : α) (same : rank key a = rank key b) :
    Record.id a = Record.id b := by
  cases key with
  | name => exact congrArg (fun place => (ofLex (ofLex place).2).2) same
  | id => exact congrArg (fun place => (ofLex (ofLex place).2).2) same

def Direction.Allows (direction : Direction) (a b : Nat ×ₗ String ×ₗ String) : Prop :=
  match direction with
  | .ascending => a ≤ b
  | .descending => b ≤ a

theorem inOrder_iff (key : SortKey) (direction : Direction) (a b : α) :
    inOrder key direction a b = true ↔ direction.Allows (rank key a) (rank key b) := by
  cases direction with
  | ascending =>
      rw [inOrder, compareBy_eq, bne_iff_ne, Ne, cmp_eq_gt_iff, not_lt, Direction.Allows]
  | descending =>
      rw [inOrder, compareBy_eq, bne_iff_ne, Ne, cmp_eq_lt_iff, not_lt, Direction.Allows]

theorem inOrder_trans (key : SortKey) (direction : Direction) (a b c : α)
    (first : inOrder key direction a b = true) (second : inOrder key direction b c = true) :
    inOrder key direction a c = true := by
  rw [inOrder_iff] at first second ⊢
  cases direction with
  | ascending => exact le_trans first second
  | descending => exact le_trans second first

theorem inOrder_total (key : SortKey) (direction : Direction) (a b : α) :
    (inOrder key direction a b || inOrder key direction b a) = true := by
  rw [Bool.or_eq_true, inOrder_iff, inOrder_iff]
  cases direction with
  | ascending => exact le_total _ _
  | descending => exact le_total _ _

theorem inOrder_antisymm (key : SortKey) (direction : Direction) (a b : α)
    (first : inOrder key direction a b = true) (second : inOrder key direction b a = true) :
    Record.id a = Record.id b := by
  rw [inOrder_iff] at first second
  apply rank_id key
  cases direction with
  | ascending => exact le_antisymm first second
  | descending => exact le_antisymm second first

end Ranks

section Pages
variable {α : Type} [Record α] {records others : List α}

theorem sortRecords_ordered (query : Query) (key : SortKey) (known : query.sortKey? = some key)
    (records : List α) :
    (sortRecords query records).Pairwise fun a b => inOrder key query.direction a b = true := by
  simp only [sortRecords, known]
  exact List.pairwise_mergeSort (inOrder_trans key query.direction) (inOrder_total key _) records

/-- Records in order are what any list of the same records is sorted into. -/
theorem sortRecords_eq (query : Query) (key : SortKey) (known : query.sortKey? = some key)
    (ordered : others.Pairwise fun a b => inOrder key query.direction a b = true)
    (same : records.Perm others) (distinct : (records.map Record.id).Nodup) :
    sortRecords query records = others := by
  have perm := sortRecords_perm query records
  apply List.Perm.eq_of_pairwise _ (sortRecords_ordered query key known records) ordered
  · exact perm.trans same
  · intro a b left right front back
    exact List.inj_on_of_nodup_map distinct (perm.mem_iff.mp left) (same.mem_iff.mpr right)
      (inOrder_antisymm key query.direction a b front back)

theorem sortRecords_congr (query : Query) (sorted : query.sortKey? ≠ none)
    (same : records.Perm others) (distinct : (records.map Record.id).Nodup) :
    sortRecords query records = sortRecords query others := by
  obtain ⟨key, known⟩ := Option.ne_none_iff_exists'.mp sorted
  apply sortRecords_eq query key known (sortRecords_ordered query key known others) _ distinct
  exact same.trans (sortRecords_perm query others).symm

theorem sortRecords_filter (query : Query) (sorted : query.sortKey? ≠ none) (keep : α → Bool)
    (distinct : (records.map Record.id).Nodup) :
    sortRecords query (records.filter keep) = (sortRecords query records).filter keep := by
  obtain ⟨key, known⟩ := Option.ne_none_iff_exists'.mp sorted
  apply sortRecords_eq query key known
  · exact (sortRecords_ordered query key known records).filter _
  · exact (sortRecords_perm query records).symm.filter keep
  · exact distinct.sublist (List.filter_sublist.map Record.id)

-- Window and filter keep part of the records, and the same part on either side.
theorem finish_congr (query : Query) (sorted : query.sortKey? ≠ none) (total : Nat)
    (same : records.Perm others) (distinct : (records.map Record.id).Nodup) :
    Page.finish query total (windowByOrdinal query records) =
      Page.finish query total (windowByOrdinal query others) := by
  simp only [Page.finish, filterByName, windowByOrdinal_eq]
  congr 1
  apply sortRecords_congr query sorted ((same.filter _).filter _)
  exact distinct.sublist ((List.filter_sublist.trans List.filter_sublist).map Record.id)

/-- Two tables hold the same records under the same identifiers and will number alike. -/
def Table.Agrees (table other : Table α) : Prop :=
  (∀ id, table.get? id = other.get? id) ∧ table.counter = other.counter

variable {table other : Table α}

theorem Table.Agrees.records_perm (agrees : table.Agrees other) (own : table.Own)
    (distinct : table.ids.Nodup) (otherOwn : other.Own) (otherDistinct : other.ids.Nodup) :
    table.records.Perm other.records := by
  have once := List.Nodup.of_map Record.id (own.records_distinct distinct)
  have otherOnce := List.Nodup.of_map Record.id (otherOwn.records_distinct otherDistinct)
  apply (List.perm_ext_iff_of_nodup once otherOnce).mpr
  intro record
  have here := own.get?_iff distinct (Record.id record) record
  have there := otherOwn.get?_iff otherDistinct (Record.id record) record
  rw [agrees.1] at here
  simpa using here.symm.trans there

theorem Table.inGroups_congr (groups others : List String)
    (same : ∀ group, group ∈ groups ↔ group ∈ others) :
    (Table.inGroups groups : α → Bool) = Table.inGroups others := by
  funext record
  rw [Bool.eq_iff_iff, Table.inGroups, Table.inGroups, List.contains_iff_mem,
    List.contains_iff_mem, same]

theorem Table.Agrees.pageByGroups_eq (agrees : table.Agrees other) (own : table.Own)
    (distinct : table.ids.Nodup) (otherOwn : other.Own) (otherDistinct : other.ids.Nodup)
    (query : Query) (sorted : query.sortKey? ≠ none) (groups others : List String)
    (same : ∀ group, group ∈ groups ↔ group ∈ others) :
    table.pageByGroups groups query = other.pageByGroups others query := by
  have records := agrees.records_perm own distinct otherOwn otherDistinct
  rw [table.pageByGroups_finish, other.pageByGroups_finish, agrees.2,
    Table.inGroups_congr groups others same]
  apply finish_congr query sorted other.counter (records.filter _)
  exact (own.records_distinct distinct).sublist (List.filter_sublist.map Record.id)

end Pages

namespace Board

theorem thingsByChannel_congr {board other : Board} (agrees : board.things.Agrees other.things)
    (own : board.things.Own) (distinct : board.things.ids.Nodup) (otherOwn : other.things.Own)
    (otherDistinct : other.things.ids.Nodup) (channel : String)
    (row : (board.roster.things channel).Nodup) (otherRow : (other.roster.things channel).Nodup)
    (connected : ∀ thing, board.roster.holds channel thing = other.roster.holds channel thing)
    (query : Query) (sorted : query.sortKey? ≠ none) :
    board.thingsByChannel channel query = other.thingsByChannel channel query := by
  have records := agrees.records_perm own distinct otherOwn otherDistinct
  have here := board.connectedThings_perm own distinct channel row
  have there := other.connectedThings_perm otherOwn otherDistinct channel otherRow
  simp only [connected] at here
  have same := (here.trans (records.filter _)).trans there.symm
  have once := board.connectedThings_distinct own channel row
  rw [thingsByChannel_eq, thingsByChannel_eq, agrees.2]
  exact finish_congr query sorted other.things.counter same once

end Board

theorem sortKey?_named (query : Query) (field : String) (ordered : query.order = some field)
    (named : lowerAscii field = "name" ∨ lowerAscii field = "id") : query.sortKey? ≠ none := by
  rw [Query.sortKey?, ordered, Option.bind_some, SortKey.ofText?]
  rcases named with byName | byId
  · simp [byName]
  · simp [byId]

/-- Two histories that end in the same things or channels show the same pages of groups under an
order by name or identifier, for groups that are the same as sets; and if the thing side connects
the same things to a channel, they show the same pages of it. -/
theorem sorted_pages_agree (capacity otherCapacity : Nat) (steps otherSteps : List Step)
    (query : Query) (field : String) (ordered : query.order = some field)
    (named : lowerAscii field = "name" ∨ lowerAscii field = "id") :
    let board := (Chronicle.ofSteps capacity steps).board
    let other := (Chronicle.ofSteps otherCapacity otherSteps).board
    (∀ groups others, (∀ group, group ∈ groups ↔ group ∈ others) →
      (board.things.Agrees other.things →
        board.thingsByGroups groups query = other.thingsByGroups others query) ∧
      (board.channels.Agrees other.channels →
        board.channelsByGroups groups query = other.channelsByGroups others query)) ∧
    ∀ channel, board.things.Agrees other.things →
      (∀ thing, board.roster.holds channel thing = other.roster.holds channel thing) →
      board.thingsByChannel channel query = other.thingsByChannel channel query := by
  intro board other
  have sorted := sortKey?_named query field ordered named
  obtain ⟨things, channels⟩ := Register.ofSteps_faithful capacity steps
  obtain ⟨otherThings, otherChannels⟩ := Register.ofSteps_faithful otherCapacity otherSteps
  have rows := Register.ofSteps_sets capacity steps
  have otherRows := Register.ofSteps_sets otherCapacity otherSteps
  rw [Register.ofSteps_board] at things channels otherThings otherChannels rows otherRows
  constructor
  · intro groups others same
    constructor
    · intro agrees
      exact agrees.pageByGroups_eq things.own things.distinct otherThings.own otherThings.distinct
        query sorted groups others same
    · intro agrees
      exact agrees.pageByGroups_eq channels.own channels.distinct otherChannels.own
        otherChannels.distinct query sorted groups others same
  · intro channel agrees connected
    exact Board.thingsByChannel_congr agrees things.own things.distinct otherThings.own
      otherThings.distinct channel (rows.things channel) (otherRows.things channel) connected query
      sorted

def padded : Thing := { id := "007", group := "g", name := "door", key := "k" }

def marked : Thing := { id := "x7", group := "g", name := "door", key := "l" }

def arranged (capacity : Nat) (first second : Thing) : Board :=
  (Chronicle.ofSteps capacity [.change (.saveChannels [{ id := "c" }]),
    .change (.saveThings [first, second]), .change (.connect "c" [first.id, second.id]),
    .consume, .consume]).board

def backwards : Query := { limit := 9, order := some "Name", direction := .descending }

theorem sorted_pages_agree_arranged :
    let board := arranged 2 padded marked
    let other := arranged 3 marked padded
    lowerAscii "Name" = "name" ∧
      board.things.Agrees other.things ∧ board.channels.Agrees other.channels ∧
      (∀ thing, board.roster.holds "c" thing = other.roster.holds "c" thing) ∧
      board.thingsByGroups ["g", "h", "g"] backwards = other.thingsByGroups ["h", "g"] backwards ∧
      board.channelsByGroups [""] backwards = other.channelsByGroups [""] backwards ∧
      board.thingsByChannel "c" backwards = other.thingsByChannel "c" backwards := by
  have named : lowerAscii "Name" = "name" := by decide
  have here : (arranged 2 padded marked).things = ⟨[("007", padded), ("x7", marked)], 2⟩ := rfl
  have there : (arranged 3 marked padded).things = ⟨[("x7", marked), ("007", padded)], 2⟩ := rfl
  have row : (arranged 2 padded marked).roster = ⟨[("c", ["007", "x7"])]⟩ := by decide +kernel
  have otherRow : (arranged 3 marked padded).roster = ⟨[("c", ["x7", "007"])]⟩ := by
    decide +kernel
  have things : (arranged 2 padded marked).things.Agrees (arranged 3 marked padded).things := by
    rw [here, there]
    refine ⟨fun id => ?_, rfl⟩
    by_cases first : "007" = id
    · subst first
      rfl
    · by_cases second : "x7" = id
      · subst second
        rfl
      · simp [Table.get?, first, second]
  have channel : (arranged 2 padded marked).channels = (arranged 3 marked padded).channels := rfl
  have channels : (arranged 2 padded marked).channels.Agrees (arranged 3 marked padded).channels :=
    channel ▸ ⟨fun _ => rfl, rfl⟩
  have connected : ∀ thing, (arranged 2 padded marked).roster.holds "c" thing =
      (arranged 3 marked padded).roster.holds "c" thing := by
    intro thing
    rw [row, otherRow]
    simp [Roster.holds, Roster.things, Roster.row?, Bool.or_comm]
  have groups : ∀ group, group ∈ ["g", "h", "g"] ↔ group ∈ ["h", "g"] := by
    intro group
    simp [or_comm]
  obtain ⟨byGroups, byChannel⟩ := sorted_pages_agree 2 3 _ _ backwards "Name" rfl (Or.inl named)
  exact ⟨named, things, channels, connected, (byGroups _ _ groups).1 things,
    (byGroups _ _ fun _ => Iff.rfl).2 channels, byChannel "c" things connected⟩

end Switchboard
