import Mathlib.Data.Prod.Lex
import Mathlib.Data.String.Basic
import Switchboard.Proofs.Register
import Switchboard.Store

/-!
All reads of the channel side answer from one relation. After every history a row of the index names
one channel, which is stored; rows that were emptied are gone. Therefore it makes no difference
whether a read looks for a channel in the row, takes the first that is stored, takes the lowest,
lists all connections or counts them.
-/
namespace Switchboard

namespace Connection

def Precedes (a b : Connection) : Prop :=
  a.channel < b.channel ∨ a.channel = b.channel ∧ a.thing < b.thing

def rank (connection : Connection) : String ×ₗ String :=
  toLex (connection.channel, connection.thing)

theorem precedes_iff (a b : Connection) : a.Precedes b ↔ a.rank < b.rank := by
  simp only [Precedes, rank, Prod.Lex.toLex_lt_toLex]

theorem before_iff (a b : Connection) : a.before b = true ↔ a.rank ≤ b.rank := by
  simp only [before, rank, Bool.or_eq_true, Bool.and_eq_true, decide_eq_true_eq, beq_iff_eq,
    Prod.Lex.toLex_le_toLex]

theorem before_trans (a b c : Connection) (first : a.before b = true) (second : b.before c = true) :
    a.before c = true := by
  rw [before_iff] at first second ⊢
  exact first.trans second

theorem before_total (a b : Connection) : (a.before b || b.before a) = true := by
  rw [Bool.or_eq_true, before_iff, before_iff]
  exact le_total a.rank b.rank

end Connection

namespace Placement

/-- Every row names one channel. -/
def Single (placement : Placement) : Prop := ∀ row ∈ placement.rows, ∃ channel, row.2 = [channel]

theorem Single.row?_cases {placement : Placement} (single : placement.Single) (thing : String) :
    placement.row? thing = none ∨ ∃ channel, placement.row? thing = some [channel] := by
  unfold row?
  cases found : placement.rows.find? fun row => row.1 == thing with
  | none => exact Or.inl rfl
  | some row =>
      obtain ⟨channel, named⟩ := single row (List.mem_of_find?_eq_some found)
      exact Or.inr ⟨channel, congrArg some named⟩

theorem Single.unplaced {placement : Placement} (single : placement.Single) (thing : String)
    (free : placement.isPlaced thing = false) : placement.row? thing = none := by
  rcases single.row?_cases thing with none | ⟨channel, row⟩
  · exact none
  · simp [isPlaced, channels, row] at free

theorem Single.place {placement : Placement} (single : placement.Single) (channel thing : String)
    (free : placement.isPlaced thing = false) : (placement.place channel thing).Single := by
  unfold Placement.place
  rw [single.unplaced thing free]
  intro row member
  rcases List.mem_append.mp member with old | new
  · exact single row old
  · rw [List.mem_singleton.mp new]
    exact ⟨channel, rfl⟩

-- What is taken out of a row empties it, and an emptied row is dropped.
theorem Single.withdraw {placement : Placement} (single : placement.Single)
    (chosen : String → Bool) (channel : String) : (placement.withdraw chosen channel).Single := by
  intro row member
  obtain ⟨changed, filled⟩ := List.mem_filter.mp member
  obtain ⟨old, stored, rfl⟩ := List.mem_map.mp changed
  obtain ⟨only, named⟩ := single old stored
  by_cases hit : chosen old.1 = true
  · by_cases same : only = channel
    · simp [hit, named, same] at filled
    · exact ⟨only, by simp [hit, named, same]⟩
  · exact ⟨only, by simp [hit, named]⟩

theorem Single.follow {placement : Placement} (single : placement.Single)
    (event : ConnectionEvent)
    (free : ∀ channel thing, event = .connect channel thing → placement.isPlaced thing.id = false) :
    (placement.follow event).Single := by
  cases event with
  | connect channel thing => exact single.place channel thing.id (free channel thing rfl)
  | disconnect channel thing => exact single.withdraw _ channel
  | channelRemoved channel => exact single.withdraw _ channel
  | void channel => exact single

/-- A thing has one channel, or none. -/
theorem Single.channels_cases {placement : Placement} (single : placement.Single)
    (thing : String) :
    (∃ channel, placement.channels thing = [channel]) ∨ placement.channels thing = [] := by
  rcases single.row?_cases thing with none | ⟨channel, row⟩
  · right
    simp [channels, none]
  · left
    exact ⟨channel, by simp [channels, row]⟩

theorem connections_length (placement : Placement) :
    placement.connections.length = placement.count := by
  simp [connections, count, List.length_flatMap]

theorem flattened_things (rows : List (String × List String))
    (each : ∀ row ∈ rows, ∃ channel, row.2 = [channel]) :
    (rows.flatMap fun row => row.2.map fun channel => Connection.mk channel row.1).map
      Connection.thing = rows.map Prod.fst := by
  induction rows with
  | nil => rfl
  | cons row rest ih =>
      obtain ⟨channel, named⟩ := each row List.mem_cons_self
      have later := ih fun row member => each row (List.mem_cons_of_mem _ member)
      simp only [List.flatMap_cons, List.map_append, List.map_cons, named, later]
      rfl

theorem Single.connections_things {placement : Placement} (single : placement.Single) :
    (placement.connections.map Connection.thing).Perm (placement.rows.map Prod.fst) := by
  rw [← flattened_things placement.rows single]
  exact (List.mergeSort_perm _ _).map Connection.thing

-- No thing is listed twice, so neither are two connections of one rank.
theorem Single.connections_increasing {placement : Placement} (single : placement.Single)
    (tidy : placement.Tidy) : placement.connections.Pairwise Connection.Precedes := by
  have sorted : placement.connections.Pairwise fun a b => a.before b = true :=
    List.pairwise_mergeSort Connection.before_trans Connection.before_total _
  have things : (placement.connections.map Connection.thing).Nodup :=
    single.connections_things.nodup_iff.mpr tidy
  have apart : placement.connections.Pairwise fun a b => a.thing ≠ b.thing :=
    List.pairwise_map.mp things
  apply sorted.imp₂ _ apart
  intro a b before different
  rw [Connection.precedes_iff]
  apply lt_of_le_of_ne ((Connection.before_iff a b).mp before)
  intro same
  exact different (congrArg (fun pair => (ofLex pair).2) same)

end Placement

structure Consistent (board : Board) : Prop where
  tidy : board.placement.Tidy
  single : board.placement.Single
  stored : ∀ link ∈ board.placement.links, link.1 ∈ board.channels.ids

namespace Consistent
variable {before : Board}

theorem empty (capacity : Nat) : Consistent (.ofCapacity capacity) where
  tidy := List.nodup_nil
  single row member := absurd member List.not_mem_nil
  stored link linked := by
    obtain ⟨row, member, _⟩ := (Placement.mem_links _ link.1 link.2).mp linked
    exact absurd member List.not_mem_nil

-- A connect finds its channel stored, and a channel that is removed takes its links along.
theorem accept (consistent : Consistent before) (event : ConnectionEvent)
    (allowed : before.Allows event) : Consistent (before.accept event) where
  tidy := consistent.tidy.follow event
  single := by
    apply consistent.single.follow event
    rintro channel thing rfl
    exact allowed.2.2
  stored link linked := by
    replace linked : link ∈ event.amend before.placement.links := by
      rw [← Placement.links_follow]
      exact linked
    cases event with
    | connect channel thing =>
        rcases linked with rfl | old
        · exact allowed.2.1
        · exact consistent.stored link old
    | disconnect channel thing => exact consistent.stored link linked.1
    | channelRemoved channel =>
        apply (Table.mem_ids_erase before.channels channel link.1).mpr
        exact ⟨consistent.stored link linked.1, linked.2⟩
    | void channel => exact allowed.elim

theorem outcome (consistent : Consistent before) {news : List Incident} {after : Board}
    (outcome : Outcome before news after) : Consistent after := by
  cases outcome with
  | deed deed =>
      cases deed with
      | kept things channels tally fresh grown unused own spared =>
          exact ⟨consistent.tidy, consistent.single,
            fun link linked => spared _ (consistent.stored link linked)⟩
      | removed id stored => exact ⟨consistent.tidy, consistent.single, consistent.stored⟩
      | emitted event allowed unsealed room => exact consistent.accept event allowed
  | barred ticket unsealed room => exact ⟨consistent.tidy, consistent.single, consistent.stored⟩
  | sealed => exact ⟨consistent.tidy, consistent.single, consistent.stored⟩
  | applied event rest first => exact ⟨consistent.tidy, consistent.single, consistent.stored⟩
  | passed ticket rest first => exact ⟨consistent.tidy, consistent.single, consistent.stored⟩

theorem ofSteps (capacity : Nat) (steps : List Step) :
    Consistent (Chronicle.ofSteps capacity steps).board :=
  Chronicle.ofSteps_keeps (fun _ board => Consistent board) empty
    (fun _ consistent done => consistent.outcome done) capacity steps

end Consistent

def Board.Lists (board : Board) (channel thing : String) : Prop :=
  Connection.mk channel thing ∈ board.connections

/-- The reads of the channel side present one relation, the listed connections. -/
structure OneRelation (board : Board) : Prop where
  index : board.placement.Tidy ∧
    ∀ row ∈ board.placement.rows, ∃ channel ∈ board.channels.ids, row.2 = [channel]
  asked : ∀ channel thing,
    (board.hasThing channel thing = .ok () ↔ board.Lists channel thing) ∧
    (board.hasThing channel thing = .error .unauthorized ↔ ¬ board.Lists channel thing)
  byThing : ∀ channel thing,
    (∃ record, board.channelByThing thing = .ok record ∧ record.id = channel) ↔
      board.Lists channel thing
  byThing_absent : ∀ thing,
    board.channelByThing thing = .error .notFound ↔ ∀ channel, ¬ board.Lists channel thing
  byKey_unknown : ∀ key,
    board.connectionByKey key = .error .notFound ↔ board.thingByKey key = .error .notFound
  byKey : ∀ key thing, board.thingByKey key = .ok thing → ∀ channel,
    board.connectionByKey key = .ok ⟨channel, thing⟩ ↔ board.Lists channel thing
  byKey_absent : ∀ key thing, board.thingByKey key = .ok thing →
    (board.connectionByKey key = .error .unauthorized ↔ ∀ channel, ¬ board.Lists channel thing)
  increasing : board.connections.Pairwise Connection.Precedes
  counted : board.connectionCount = board.connections.length
  stats : ∀ channelCache thingCache,
    (Store.mk board channelCache thingCache).stats.connections = board.connections.length

namespace Consistent
variable {board : Board}

theorem channels_cases (consistent : Consistent board) (thing : String) :
    (∃ channel, board.placement.channels thing = [channel] ∧
      ∀ other, board.Lists other thing ↔ other = channel) ∨
    (board.placement.channels thing = [] ∧ ∀ channel, ¬ board.Lists channel thing) := by
  have listed (channel : String) :
      board.Lists channel thing ↔ channel ∈ board.placement.channels thing :=
    (consistent.tidy.mem_channels channel thing).symm
  rcases consistent.single.channels_cases thing with ⟨channel, one⟩ | nothing
  · left
    refine ⟨channel, one, fun other => ?_⟩
    rw [listed, one, List.mem_singleton]
  · right
    refine ⟨nothing, fun channel linked => ?_⟩
    rw [listed, nothing] at linked
    exact List.not_mem_nil linked

theorem byThing_cases (consistent : Consistent board) (own : board.channels.Own) (thing : String) :
    (∃ record, board.channelByThing thing = .ok record ∧
      ∀ channel, board.Lists channel thing ↔ channel = record.id) ∨
    (board.channelByThing thing = .error .notFound ∧ ∀ channel, ¬ board.Lists channel thing) := by
  unfold Board.channelByThing
  rcases consistent.channels_cases thing with ⟨channel, channels, listed⟩ | ⟨channels, unlisted⟩
  · have stored : channel ∈ board.channels.ids := consistent.stored (channel, thing)
      ((listed channel).mpr rfl)
    rw [channels, List.findSome?_singleton]
    cases found : board.channels.get? channel with
    | none => exact absurd stored ((Table.get?_eq_none_iff _ _).mp found)
    | some record =>
        have named : record.id = channel := own.get?_id channel record found
        exact Or.inl ⟨record, rfl, named ▸ listed⟩
  · rw [channels]
    exact Or.inr ⟨rfl, unlisted⟩

theorem oneRelation (consistent : Consistent board) (own : board.channels.Own) :
    OneRelation board := by
  have held (channel thing : String) :
      board.placement.holds channel thing = true ↔ board.Lists channel thing :=
    consistent.tidy.holds_iff channel thing
  constructor
  case index =>
    refine ⟨consistent.tidy, fun row member => ?_⟩
    obtain ⟨channel, named⟩ := consistent.single row member
    have linked : (channel, row.1) ∈ board.placement.links :=
      (Placement.mem_links _ _ _).mpr ⟨row, member, rfl, by simp [named]⟩
    exact ⟨channel, consistent.stored _ linked, named⟩
  case asked =>
    intro channel thing
    rw [Board.hasThing_eq, ← held]
    split <;> simp [*]
  case byThing =>
    intro channel thing
    rcases consistent.byThing_cases own thing with ⟨record, found, listed⟩ | ⟨absent, unlisted⟩
    · simp [found, listed, eq_comm]
    · simp [absent, unlisted]
  case byThing_absent =>
    intro thing
    rcases consistent.byThing_cases own thing with ⟨record, found, listed⟩ | ⟨absent, unlisted⟩
    · simp [found, listed]
    · simp [absent, unlisted]
  case byKey_unknown =>
    intro key
    cases known : board.thingByKey key with
    | error error =>
        rw [board.connectionByKey_error key error known]
        simp
    | ok thing =>
        cases channels : board.placement.channels thing with
        | nil => simp [board.connectionByKey_free key thing known channels]
        | cons channel rest =>
            simp [board.connectionByKey_placed key thing channel rest known channels]
  case byKey =>
    intro key thing known channel
    rcases consistent.channels_cases thing with ⟨only, channels, listed⟩ | ⟨channels, unlisted⟩
    · rw [board.connectionByKey_placed key thing only [] known channels]
      simp [listed, eq_comm]
    · rw [board.connectionByKey_free key thing known channels]
      simp [unlisted]
  case byKey_absent =>
    intro key thing known
    rcases consistent.channels_cases thing with ⟨only, channels, listed⟩ | ⟨channels, unlisted⟩
    · rw [board.connectionByKey_placed key thing only [] known channels]
      simp [listed]
    · rw [board.connectionByKey_free key thing known channels]
      simp [unlisted]
  case increasing => exact consistent.single.connections_increasing consistent.tidy
  case counted => exact board.placement.connections_length.symm
  case stats =>
    intro channelCache thingCache
    exact board.placement.connections_length.symm

end Consistent

/-- After every history all reads of the channel side agree. -/
theorem reads_agree (capacity : Nat) (steps : List Step) :
    OneRelation (Chronicle.ofSteps capacity steps).board := by
  have own : (Chronicle.ofSteps capacity steps).board.channels.Own := by
    rw [← Register.ofSteps_board]
    exact (Register.ofSteps_faithful capacity steps).2.own
  exact (Consistent.ofSteps capacity steps).oneRelation own

end Switchboard
