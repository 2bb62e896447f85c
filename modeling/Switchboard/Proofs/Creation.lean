import Mathlib.Data.List.Sort
import Switchboard.Proofs.Issuance
import Switchboard.Proofs.Sorting

/-!
Tables whose records all came without an identifier. Every number in turn is then made into one, for
nobody uses the next: the identifiers in use were made from numbers that the counter has passed. So
the ordinal of a record is its place among all that were ever stored, and a window of ordinals is a
stretch of that sequence, of which a page shows what is left.
-/
namespace Switchboard

def Entry.stored? : Entry → Option String
  | .stored id => some id
  | .removed _ => none

def everStored (log : List Entry) : List String := log.filterMap Entry.stored?

@[simp] theorem everStored_append (log news : List Entry) :
    everStored (log ++ news) = everStored log ++ everStored news :=
  List.filterMap_append

@[simp] theorem everStored_stored (ids : List String) : everStored (ids.map .stored) = ids := by
  simp [everStored, Function.comp_def, Entry.stored?]

@[simp] theorem everStored_removed (ids : List String) : everStored (ids.map .removed) = [] := by
  simp [everStored, Entry.stored?]

theorem standing_sublist (log : List Entry) : (standing log).Sublist (everStored log) := by
  induction log with
  | nil => exact .slnil
  | cons entry later ih =>
      cases entry with
      | stored id =>
          unfold standing
          split
          · exact ih.cons id
          · exact ih.cons_cons id
      | removed id => exact ih

namespace Table
variable {α : Type} [Record α]

-- No number is passed over, so a batch takes the numbers that come next.
theorem assign_blank (used : List String) (counter : Nat) (batch : List α)
    (blank : ∀ record ∈ batch, Record.id record = "")
    (free : ∀ k, counter < k → numbered k ∉ used) :
    (assign used counter batch).1.map Record.id =
        (List.range' (counter + 1) batch.length).map numbered ∧
      (assign used counter batch).2 = counter + batch.length := by
  induction batch generalizing used counter with
  | nil => exact ⟨rfl, rfl⟩
  | cons first rest ih =>
      have next : freeFrom used used.length (counter + 1) = counter + 1 := by
        obtain ⟨low, _, skipped, _⟩ := freeFrom_skips used used.length (counter + 1)
        by_contra passed
        exact free _ (Nat.lt_succ_self counter) (skipped _ (Nat.le_refl _) (by omega))
      have later := ih (numbered (counter + 1) :: used) (counter + 1)
        (fun record member => blank record (List.mem_cons_of_mem _ member)) (fun k above taken => by
          rcases List.mem_cons.mp taken with same | old
          · exact absurd (numbered_injective same) (Nat.ne_of_gt above)
          · exact free k (Nat.lt_of_succ_lt above) old)
      unfold assign
      simp only [blank first List.mem_cons_self, ↓reduceIte, next, List.map_cons, Record.id_withId,
        later, List.length_cons, List.range'_succ, true_and]
      omega

theorem supplied_blank (batch : List α) (blank : ∀ record ∈ batch, Record.id record = "") :
    supplied batch = [] := by
  apply List.filter_eq_nil_iff.mpr
  intro id member
  obtain ⟨record, inside, rfl⟩ := List.mem_map.mp member
  simp [blank record inside]

theorem insertBatch_blank (table after : Table α) (batch stored : List α)
    (done : table.insertBatch batch = .ok (stored, after))
    (blank : ∀ record ∈ batch, Record.id record = "")
    (free : ∀ k, table.counter < k → numbered k ∉ table.ids) :
    stored.map Record.id = (List.range' (table.counter + 1) batch.length).map numbered ∧
      after.counter = table.counter + batch.length := by
  obtain ⟨_, _, assigned⟩ := insertBatch_ok table after batch stored done
  have made := assign_blank table.ids table.counter batch blank free
  rw [supplied_blank batch blank, List.append_nil] at assigned
  rwa [assigned] at made

-- A batch of which nothing is stored is empty.
theorem Edit.counter {before after : Table α} {news : List Entry} (edit : Edit before news after)
    (nothing : everStored news = []) : after.counter = before.counter := by
  cases edit with
  | stored batch stored after done =>
      obtain ⟨_, _, assigned⟩ := insertBatch_ok before after batch stored done
      rw [everStored_stored, List.map_eq_nil_iff] at nothing
      have length := assign_length (before.ids ++ supplied batch) before.counter batch
      rw [assigned, nothing] at length
      rw [List.eq_nil_of_length_eq_zero length.symm] at assigned
      exact (congrArg Prod.snd assigned).symm
  | changed id change keeps => rfl
  | removed id => rfl

theorem Edits.counter {before after : Table α} {news : List Entry} (edits : Edits before news after)
    (nothing : everStored news = []) : after.counter = before.counter := by
  induction edits with
  | refl => rfl
  | next edit _ ih =>
      rw [everStored_append, List.append_eq_nil_iff] at nothing
      exact (ih nothing.2).trans (edit.counter nothing.1)

end Table

/-- A table that was only ever given records without an identifier. -/
structure Sequential {α : Type} [Record α] (log : List Entry) (table : Table α) : Prop
    extends Table.Enumerates log table where
  sequence : everStored log = (List.range' 1 table.counter).map numbered

namespace Sequential
variable {α : Type} [Record α] {log : List Entry} {table : Table α}

theorem empty : Sequential [] ({} : Table α) where
  toEnumerates := .empty
  sequence := rfl

theorem edits (sequential : Sequential log table) {news : List Entry} {after : Table α}
    (edits : Table.Edits table news after) (nothing : everStored news = []) :
    Sequential (log ++ news) after where
  toEnumerates := sequential.toEnumerates.edits edits
  sequence := by
    rw [everStored_append, nothing, List.append_nil, edits.counter nothing]
    exact sequential.sequence

theorem ids_sublist (sequential : Sequential log table) : table.ids.Sublist (everStored log) :=
  sequential.order ▸ standing_sublist log

theorem free (sequential : Sequential log table) (k : Nat) (above : table.counter < k) :
    numbered k ∉ table.ids := by
  intro taken
  have made := sequential.ids_sublist.subset taken
  rw [sequential.sequence] at made
  obtain ⟨n, inside, same⟩ := List.mem_map.mp made
  rw [List.mem_range'_1, numbered_injective same] at inside
  omega

theorem stored (sequential : Sequential log table) (batch stored : List α) (after : Table α)
    (blank : ∀ record ∈ batch, Record.id record = "")
    (done : table.insertBatch batch = .ok (stored, after)) :
    Sequential (log ++ (stored.map Record.id).map .stored) after where
  toEnumerates := sequential.toEnumerates.stored batch stored after done
  sequence := by
    obtain ⟨made, counted⟩ :=
      Table.insertBatch_blank table after batch stored done blank sequential.free
    rw [everStored_append, everStored_stored, sequential.sequence, made, counted, ← List.map_append,
      Nat.add_comm table.counter 1, List.range'_append_1, Nat.add_comm]

section Windows
variable (small : table.counter < wordLimit - 1)

include small

theorem ordinals (sequential : Sequential log table) :
    (everStored log).Pairwise fun a b => ordinal a < ordinal b := by
  have ascending : Ascending 0 table.counter (everStored log) := by
    refine ⟨_, sequential.sequence, List.pairwise_lt_range', fun n member => ?_⟩
    rw [List.mem_range'_1] at member
    omega
  exact List.pairwise_map.mp (ascending.ordinals (by omega))

theorem ordinal_place (sequential : Sequential log table) (place : Nat) (id : String)
    (here : (everStored log)[place]? = some id) :
    ordinal id = place + 1 ∧ place < table.counter := by
  rw [sequential.sequence, List.getElem?_map, Option.map_eq_some_iff] at here
  obtain ⟨n, inside, rfl⟩ := here
  obtain ⟨bound, rfl⟩ := List.getElem?_eq_some_iff.mp inside
  rw [List.length_range'] at bound
  rw [List.getElem_range', ordinal_numbered _ (by omega)]
  omega

theorem mem_stretch (sequential : Sequential log table) (query : Query) (id : String)
    (member : id ∈ everStored log) :
    id ∈ ((everStored log).drop query.offset.toNat).take query.limit.toNat ↔
      query.Covers (ordinal id) := by
  obtain ⟨place, here⟩ := List.mem_iff_getElem?.mp member
  obtain ⟨number, bound⟩ := sequential.ordinal_place small place id here
  rw [number, Query.Covers, List.mem_iff_getElem?]
  simp only [List.getElem?_take, List.getElem?_drop]
  constructor
  · rintro ⟨i, there⟩
    split at there
    · have again := (sequential.ordinal_place small _ id there).1
      omega
    · cases there
  · intro covered
    refine ⟨place - query.offset.toNat, ?_⟩
    rw [if_pos (by omega), Nat.add_sub_cancel' (by omega)]
    exact here

end Windows
end Sequential

/-- The page is not arranged, or by ascending ordinals. -/
def Query.InSequence (query : Query) : Prop :=
  query.sortKey? = none ∨ (query.sortKey? = some .id ∧ query.direction = .ascending)

/-- The pages of groups of a table show windows over all that was ever stored in it. -/
structure CreationWindows {α : Type} [Record α] (table : Table α) (created : List String) : Prop where
  distinct : created.Nodup
  window : ∀ groups (query : Query), query.InSequence →
    (table.pageByGroups groups query).items =
      (((created.drop query.offset.toNat).take query.limit.toNat).filterMap table.get?).filter
        fun record => Table.inGroups groups record && passesName query record
  few : ∀ groups (query : Query), query.InSequence →
    (table.pageByGroups groups query).items.length ≤ query.limit.toNat
  total : ∀ groups query, (table.pageByGroups groups query).query.total.toNat = created.length

section Pages
variable {α : Type} [Record α] {log : List Entry} {table : Table α}

def Earlier (a b : α) : Prop := ordinal (Record.id a) < ordinal (Record.id b)

theorem eq_of_earlier (records others : List α) (ascending : records.Pairwise Earlier)
    (otherAscending : others.Pairwise Earlier)
    (same : ∀ record, record ∈ records ↔ record ∈ others) : records = others := by
  have : Std.Irrefl (@Earlier α _) := ⟨fun _ => Nat.lt_irrefl _⟩
  have : Std.Antisymm (@Earlier α _) := ⟨fun _ _ less more => absurd less (Nat.lt_asymm more)⟩
  exact ascending.eq_of_mem_iff otherAscending same

theorem sortRecords_earlier (query : Query) (inSequence : query.InSequence) (records : List α)
    (ascending : records.Pairwise Earlier) : sortRecords query records = records := by
  rcases inSequence with none | ⟨byId, upwards⟩
  · simp only [sortRecords, none]
  · simp only [sortRecords, byId, upwards]
    apply List.mergeSort_of_pairwise
    apply ascending.imp
    intro a b less
    exact (inOrder_iff _ _ a b).mpr (le_of_lt (Prod.Lex.toLex_lt_toLex.mpr (Or.inl less)))

namespace Sequential
variable (small : table.counter < wordLimit - 1)

include small

theorem records_earlier (sequential : Sequential log table) : table.records.Pairwise Earlier := by
  have ids := (sequential.ordinals small).sublist sequential.ids_sublist
  rw [← sequential.own.map_id, List.pairwise_map] at ids
  exact ids

theorem stretch_earlier (sequential : Sequential log table) (offset limit : Nat) :
    ((((everStored log).drop offset).take limit).filterMap table.get?).Pairwise Earlier := by
  have ids := (sequential.ordinals small).sublist
    ((List.take_sublist limit _).trans (List.drop_sublist offset _))
  apply ids.filterMap
  intro a b less record found other there
  rw [Earlier, sequential.own.get?_id a record found, sequential.own.get?_id b other there]
  exact less

theorem window (sequential : Sequential log table) (groups : List String) (query : Query)
    (inSequence : query.InSequence) :
    (table.pageByGroups groups query).items =
      ((((everStored log).drop query.offset.toNat).take query.limit.toNat).filterMap
        table.get?).filter
          fun record => Table.inGroups groups record && passesName query record := by
  have candidates : (filterByName query (windowByOrdinal query
      (table.records.filter (Table.inGroups groups)))).Pairwise Earlier := by
    rw [filterByName, windowByOrdinal_eq]
    exact (((sequential.records_earlier small).filter _).filter _).filter _
  rw [table.pageByGroups_finish]
  apply (sortRecords_earlier query inSequence _ candidates).trans
  apply eq_of_earlier _ _ candidates ((sequential.stretch_earlier small _ _).filter _)
  intro record
  have stretch (stored : record ∈ table.records) :
      Record.id record ∈ ((everStored log).drop query.offset.toNat).take query.limit.toNat ↔
        query.Covers (ordinal (Record.id record)) := by
    apply sequential.mem_stretch small
    apply sequential.ids_sublist.subset
    rw [← sequential.own.map_id]
    exact List.mem_map_of_mem stored
  simp only [filterByName, windowByOrdinal_eq, List.mem_filter, List.mem_filterMap,
    sequential.own.get?_iff sequential.distinct, Bool.and_eq_true, decide_eq_true_eq]
  constructor
  · rintro ⟨⟨⟨stored, listed⟩, covered⟩, passes⟩
    exact ⟨⟨_, (stretch stored).mpr covered, stored, rfl⟩, listed, passes⟩
  · rintro ⟨⟨_, inside, stored, rfl⟩, listed, passes⟩
    exact ⟨⟨⟨stored, listed⟩, (stretch stored).mp inside⟩, passes⟩

theorem windows (sequential : Sequential log table) : CreationWindows table (everStored log) := by
  constructor
  case distinct =>
    apply (sequential.ordinals small).imp
    rintro a _ less rfl
    exact Nat.lt_irrefl _ less
  case window => exact sequential.window small
  case few =>
    intro groups query inSequence
    rw [sequential.window small groups query inSequence]
    apply (List.length_filter_le _ _).trans
    exact (List.length_filterMap_le _ _).trans (List.length_take_le _ _)
  case total =>
    intro groups query
    rw [table.pageByGroups_finish, sequential.sequence, List.length_map, List.length_range']
    exact UInt64.toNat_ofNat_of_lt (by rw [wordLimit] at small; exact Nat.lt_of_lt_pred small)

end Sequential
end Pages

theorem Change.run_things_sequential {log : List Entry} (change : Change) (board : Board)
    (blank : ∀ batch, change = .saveThings batch → ∀ thing ∈ batch, thing.id = "")
    (sequential : Sequential log board.things) :
    Sequential (log ++ change.thingEntries board) (change.run board).1.things := by
  have edits := (change.edits board).1
  cases change with
  | saveThings batch =>
      simp only [thingEntries, run, Board.saveThings] at edits ⊢
      by_cases free : Board.keysFree board.things batch = true
      · rw [if_pos free] at edits ⊢
        cases inserted : board.things.insertBatch batch with
        | error error =>
            rw [inserted] at edits
            exact sequential.edits edits rfl
        | ok stored => exact sequential.stored batch stored.1 stored.2 (blank batch rfl) inserted
      · rw [if_neg free] at edits ⊢
        exact sequential.edits edits rfl
  | updateThing thing => exact sequential.edits edits rfl
  | updateKey id key => exact sequential.edits edits rfl
  | removeThings ids => exact sequential.edits edits (everStored_removed _)
  | saveChannels batch => exact sequential.edits edits rfl
  | updateChannel channel => exact sequential.edits edits rfl
  | removeChannels ids => exact sequential.edits edits rfl
  | connect channel things => exact sequential.edits edits rfl
  | disconnect channel things => exact sequential.edits edits rfl

theorem Change.run_channels_sequential {log : List Entry} (change : Change) (board : Board)
    (blank : ∀ batch, change = .saveChannels batch → ∀ channel ∈ batch, channel.id = "")
    (sequential : Sequential log board.channels) :
    Sequential (log ++ change.channelEntries board) (change.run board).1.channels := by
  have edits := (change.edits board).2
  cases change with
  | saveThings batch => exact sequential.edits edits rfl
  | updateThing thing => exact sequential.edits edits rfl
  | updateKey id key => exact sequential.edits edits rfl
  | removeThings ids => exact sequential.edits edits rfl
  | saveChannels batch =>
      simp only [channelEntries, run, Board.saveChannels] at edits ⊢
      cases inserted : board.channels.insertBatch batch with
      | error error =>
          rw [inserted] at edits
          exact sequential.edits edits rfl
      | ok stored => exact sequential.stored batch stored.1 stored.2 (blank batch rfl) inserted
  | updateChannel channel => exact sequential.edits edits rfl
  | removeChannels ids => exact sequential.edits edits (everStored_removed _)
  | connect channel things => exact sequential.edits edits rfl
  | disconnect channel things => exact sequential.edits edits rfl

namespace Register

theorem ofSteps_things_sequential (capacity : Nat) (steps : List Step)
    (blank : ∀ batch, .change (.saveThings batch) ∈ steps → ∀ thing ∈ batch, thing.id = "") :
    Sequential (ofSteps capacity steps).things (ofSteps capacity steps).board.things := by
  apply ofSteps_keeps fun register => Sequential register.things register.board.things
  · exact .empty
  · intro register change member sequential
    apply change.run_things_sequential register.board _ sequential
    rintro batch rfl
    exact blank batch member
  · intro register board same sequential
    rwa [Board.things_of_tables same]

theorem ofSteps_channels_sequential (capacity : Nat) (steps : List Step)
    (blank : ∀ batch, .change (.saveChannels batch) ∈ steps →
      ∀ channel ∈ batch, channel.id = "") :
    Sequential (ofSteps capacity steps).channels (ofSteps capacity steps).board.channels := by
  apply ofSteps_keeps fun register => Sequential register.channels register.board.channels
  · exact .empty
  · intro register change member sequential
    apply change.run_channels_sequential register.board _ sequential
    rintro batch rfl
    exact blank batch member
  · intro register board same sequential
    rwa [Board.channels_of_tables same]

/-- Of things that were all saved without an identifier the pages of groups show windows over all
that were ever saved, whatever was removed, changed or refused; and so for channels. -/
theorem creation_windows (capacity : Nat) (steps : List Step) :
    let register := ofSteps capacity steps
    ((∀ batch, .change (.saveThings batch) ∈ steps → ∀ thing ∈ batch, thing.id = "") →
      (everStored register.things).length < wordLimit - 1 →
      CreationWindows register.board.things (everStored register.things)) ∧
    ((∀ batch, .change (.saveChannels batch) ∈ steps → ∀ channel ∈ batch, channel.id = "") →
      (everStored register.channels).length < wordLimit - 1 →
      CreationWindows register.board.channels (everStored register.channels)) := by
  constructor
  · intro blank small
    have sequential := ofSteps_things_sequential capacity steps blank
    exact sequential.windows (by simpa [sequential.sequence] using small)
  · intro blank small
    have sequential := ofSteps_channels_sequential capacity steps blank
    exact sequential.windows (by simpa [sequential.sequence] using small)

def guestbook : List Step :=
  [.change (.saveThings [{ name := "a", key := "k" }, { name := "b", key := "l" }]),
    .change (.removeThings ["001"]), .change (.saveThings [{ key := "l" }]),
    .change (.saveThings [{ name := "c", key := "m" }]),
    .change (.updateThing { id := "002", name := "d", key := "l" }),
    .change (.saveChannels [{}, {}]), .change (.removeChannels ["001"])]

theorem creation_windows_guestbook :
    let register := ofSteps 1 guestbook
    (everStored register.things = ["001", "002", "003"] ∧
      CreationWindows register.board.things (everStored register.things) ∧
      (register.board.things.pageByGroups [""] { limit := 2 }).items.map Thing.name = ["d"]) ∧
    (everStored register.channels = ["001", "002"] ∧
      CreationWindows register.board.channels (everStored register.channels)) := by
  have things : everStored (ofSteps 1 guestbook).things = ["001", "002", "003"] := by
    decide +kernel
  have channels : everStored (ofSteps 1 guestbook).channels = ["001", "002"] := by
    decide +kernel
  have blankThings : ∀ batch, .change (.saveThings batch) ∈ guestbook →
      ∀ thing ∈ batch, thing.id = "" := by
    simp [guestbook]
  have blankChannels : ∀ batch, .change (.saveChannels batch) ∈ guestbook →
      ∀ channel ∈ batch, channel.id = "" := by
    simp [guestbook]
  have windows := creation_windows 1 guestbook
  exact ⟨⟨things, windows.1 blankThings (by rw [things]; decide), by decide +kernel⟩,
    channels, windows.2 blankChannels (by rw [channels]; decide)⟩

end Register
end Switchboard
