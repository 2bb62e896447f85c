import Switchboard.Proofs.ConnectOrder
import Switchboard.Proofs.Sorting

/-!
A page of a channel against the pages of groups. The two come from different candidates: the records
that the row of the channel names, in its order, and the records of the table, in theirs. Both hold
the same connected things, so under an order the one page is the connected part of the other, if
the groups leave nothing out. Without an order the row shows: its things come as they were
connected.
-/
namespace Switchboard

/-- What a page of a channel shows after a history. -/
structure ChannelPage (log : List Incident) (board : Board) (channel : String) (query : Query) :
    Prop where
  once : ((board.thingsByChannel channel query).items.map Thing.id).Nodup
  shown : ∀ thing, thing ∈ (board.thingsByChannel channel query).items ↔
    (thing ∈ board.things.records ∧ board.roster.holds channel thing.id = true) ∧
      query.Covers (ordinal thing.id) ∧ Passes query thing
  inTurn : appliedEvents log <+: emittedEvents log
  ordered : query.sortKey? ≠ none →
    ∀ groups, (∀ thing ∈ board.things.records, thing.group ∈ groups) →
      (board.thingsByChannel channel query).items =
        (board.thingsByGroups groups query).items.filter fun thing =>
          board.roster.holds channel thing.id
  unordered : query.sortKey? = none →
    (board.thingsByChannel channel query).items.Pairwise fun a b =>
      ∃ i j, LatestConnect log channel a.id i ∧ LatestConnect log channel b.id j ∧ i < j
  metadata : (board.thingsByChannel channel query).query = query.withTotal board.things.counter
  sameMetadata : ∀ groups,
    (board.thingsByGroups groups query).query = (board.thingsByChannel channel query).query

namespace Board
variable {board : Board}

theorem thingsByChannel_filter (own : board.things.Own) (distinct : board.things.ids.Nodup)
    (channel : String) (row : (board.roster.things channel).Nodup) (query : Query)
    (sorted : query.sortKey? ≠ none) (groups : List String)
    (all : ∀ thing ∈ board.things.records, thing.group ∈ groups) :
    (board.thingsByChannel channel query).items =
      (board.thingsByGroups groups query).items.filter fun thing =>
        board.roster.holds channel thing.id := by
  have everything : board.things.records.filter (Table.inGroups groups) = board.things.records := by
    apply List.filter_eq_self.mpr
    exact fun thing stored => List.contains_iff_mem.mpr (all thing stored)
  have stored := own.records_distinct distinct
  have connected := board.connectedThings_perm own distinct channel row
  rw [thingsByChannel_eq, thingsByGroups, Table.pageByGroups_finish, everything]
  simp only [Page.finish, Page.of, filterByName, windowByOrdinal_eq]
  rw [← sortRecords_filter query sorted _
    (stored.sublist ((List.filter_sublist.trans List.filter_sublist).map Record.id))]
  apply sortRecords_congr query sorted
  -- Whether a thing is connected may be asked before the window and the filter or after them.
  · rw [List.filter_comm fun thing : Thing => board.roster.holds channel thing.id,
      List.filter_comm fun thing : Thing => board.roster.holds channel thing.id]
    exact (connected.filter _).filter _
  · exact (board.connectedThings_distinct own channel row).sublist
      ((List.filter_sublist.trans List.filter_sublist).map Record.id)

theorem thingsByChannel_row (own : board.things.Own) (channel : String) (query : Query)
    (unsorted : query.sortKey? = none) (before : String → String → Prop)
    (row : (board.roster.things channel).Pairwise before) :
    (board.thingsByChannel channel query).items.Pairwise fun a b => before a.id b.id := by
  have listed : (board.connectedThings channel).Pairwise fun a b => before a.id b.id := by
    apply row.filterMap
    intro a b order thing found other there
    have left : thing.id = a := own.get?_id a thing found
    have right : other.id = b := own.get?_id b other there
    rw [left, right]
    exact order
  rw [thingsByChannel_eq]
  simp only [Page.finish, Page.of, sortRecords, unsorted, filterByName, windowByOrdinal_eq]
  exact listed.sublist (List.filter_sublist.trans List.filter_sublist)

end Board

/-- After every history the pages of a channel show the connected things and agree with the pages of
all groups. -/
theorem channel_pages (capacity : Nat) (steps : List Step) (channel : String) (query : Query) :
    ChannelPage (Chronicle.ofSteps capacity steps).log (Chronicle.ofSteps capacity steps).board
      channel query := by
  have faithful := (Register.ofSteps_faithful capacity steps).1
  have sets := Register.ofSteps_sets capacity steps
  rw [Register.ofSteps_board] at faithful sets
  have shows := (Chronicle.ofSteps capacity steps).board.thingsByChannel_shows channel
  have row := sets.things channel
  have lined := (Lined.ofSteps capacity steps).things channel
  constructor
  case once =>
    exact shows.items_distinct (Board.connectedThings_distinct _ faithful.own channel row) query
  case shown =>
    intro thing
    exact (shows.mem_iff query thing).trans
      (and_congr_left' (Board.mem_connectedThings _ faithful.own faithful.distinct channel thing))
  case inTurn => exact ⟨_, (ofSteps_carried capacity steps).pending.symm⟩
  case ordered =>
    exact Board.thingsByChannel_filter faithful.own faithful.distinct channel row query
  case unordered =>
    intro unsorted
    exact Board.thingsByChannel_row faithful.own channel query unsorted _ lined
  case metadata =>
    rw [Board.thingsByChannel_eq]
    rfl
  case sameMetadata =>
    intro groups
    rw [Board.thingsByChannel_eq, Board.thingsByGroups, Table.pageByGroups_finish]
    rfl

-- A thing that is connected again goes last; the table keeps its order.
example :
    let board := (Chronicle.ofSteps 4 [.change (.saveChannels [{ id := "c" }]),
      .change (.saveThings [{ id := "1", key := "k" }, { id := "2", key := "l" }]),
      .change (.connect "c" ["1", "2"]), .change (.disconnect "c" ["1"]),
      .change (.connect "c" ["1"]), .consume, .consume, .consume, .consume]).board
    (board.thingsByChannel "c" { limit := 9 }).items.map Thing.id = ["2", "1"] ∧
      (board.thingsByGroups [""] { limit := 9 }).items.map Thing.id = ["1", "2"] := by
  decide +kernel

end Switchboard
