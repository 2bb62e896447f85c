import Mathlib.Data.List.Nodup
import Switchboard.Board.Sync
import Switchboard.Proofs.Links
import Switchboard.Proofs.Paging

/-!
Applying an event to the thing side. It reshapes the row of its channel and nothing else, so events
of different channels can be swapped. As a set of links the rows change by the operation that the
event names, and where that operation changes no link it changes no row either, so an event that is
applied again has nothing left to do. Rows that are emptied go, those that remain keep their order.
-/
namespace Switchboard

def ConnectionEvent.reshape : ConnectionEvent → Option (List String) → Option (List String)
  | .connect _ thing, row => some (Roster.enlist thing.id (row.getD []))
  | .disconnect _ thing, row =>
    (row.map fun things => things.filter (· != thing.id)).filter fun things => !things.isEmpty
  | .channelRemoved _, _ => none
  | .void _, row => row

theorem ConnectionEvent.amend_again (event : ConnectionEvent) (links : Links) :
    event.amend (event.amend links) = event.amend links := by
  cases event with
  | connect channel thing => exact Set.insert_idem _ _
  | disconnect channel thing => exact Set.ext fun link => and_iff_left_of_imp fun kept => kept.2
  | channelRemoved channel => exact Set.ext fun link => and_iff_left_of_imp fun kept => kept.2
  | void channel => rfl

namespace Roster

/-- The rows are a map from channels to sets, none of which is empty: a channel has one row at most,
and a row lists a thing once. -/
structure Proper (roster : Roster) : Prop where
  tidy : (roster.rows.map Prod.fst).Nodup
  sets : roster.Sets
  occupied : ∀ row ∈ roster.rows, row.2 ≠ []

theorem proper_empty : ({} : Roster).Proper where
  tidy := List.nodup_nil
  sets _ member := absurd member List.not_mem_nil
  occupied _ member := absurd member List.not_mem_nil

section Rows
variable {roster : Roster}

theorem row?_connect (roster : Roster) (channel thing other : String) :
    (roster.connect channel thing).row? other =
      if other = channel then some (enlist thing ((roster.row? channel).getD []))
      else roster.row? other := by
  unfold connect
  cases found : roster.row? channel with
  | none =>
      have absent := Option.map_eq_none_iff.mp found
      simp only [row?, List.find?_append]
      by_cases same : other = channel
      · subst same
        simp [absent, enlist]
      · simp [same, Ne.symm same]
  | some things =>
      refine (find?_value_changed roster.rows channel other (enlist thing)).trans ?_
      by_cases same : other = channel
      · subst same
        rw [if_pos rfl, if_pos rfl]
        exact congrArg (Option.map (enlist thing)) found
      · rw [if_neg same, if_neg same]
        rfl

theorem row?_dropChannel (roster : Roster) (channel other : String) :
    (roster.dropChannel channel).row? other =
      if other = channel then none else roster.row? other :=
  find?_value_dropped roster.rows channel other

theorem row?_withdraw (tidy : (roster.rows.map Prod.fst).Nodup) (chosen : String → Bool)
    (thing channel : String) :
    (roster.withdraw chosen thing).row? channel =
      ((roster.row? channel).map fun things =>
        if chosen channel then things.filter (· != thing) else things).filter
          fun things => !things.isEmpty := by
  have distinct : ((roster.withdraw chosen thing).rows.map (·.1)).Nodup :=
    keys_withdrawn tidy chosen thing
  apply Option.ext
  intro left
  rw [row?, find?_value_iff distinct, Option.filter_eq_some_iff, Option.map_eq_some_iff]
  simp only [row?, find?_value_iff tidy, withdraw, List.mem_filter, List.mem_map]
  apply and_congr_left'
  constructor
  · rintro ⟨⟨name, things⟩, member, same⟩
    split at same
    next hit =>
      obtain ⟨rfl, rfl⟩ := Prod.mk.inj same
      exact ⟨things, member, if_pos hit⟩
    next miss =>
      obtain ⟨rfl, rfl⟩ := Prod.mk.inj same
      exact ⟨things, member, if_neg miss⟩
  · rintro ⟨things, member, rfl⟩
    refine ⟨(channel, things), member, ?_⟩
    split <;> rfl

end Rows

namespace Proper
variable {roster : Roster}

theorem row?_iff (proper : roster.Proper) (channel : String) (things : List String) :
    roster.row? channel = some things ↔ (channel, things) ∈ roster.rows :=
  find?_value_iff proper.tidy

theorem mem_things (proper : roster.Proper) (channel thing : String) :
    thing ∈ roster.things channel ↔ (channel, thing) ∈ roster.links :=
  (found_iff_listed proper.tidy channel thing).trans (mem_links _ _ _).symm

-- Rows that are empty after the withdrawal are dropped everywhere, but only the channel's can be.
theorem row?_disconnect (proper : roster.Proper) (channel thing other : String) :
    (roster.disconnect channel thing).row? other =
      if other = channel then
        ((roster.row? other).map fun things => things.filter (· != thing)).filter
          fun things => !things.isEmpty
      else roster.row? other := by
  rw [disconnect, row?_withdraw proper.tidy]
  by_cases same : other = channel
  · simp [same]
  · rw [if_neg same]
    cases found : roster.row? other with
    | none => rfl
    | some things =>
        have occupied := proper.occupied _ ((proper.row?_iff other things).mp found)
        simp [same, occupied]

theorem row?_apply (proper : roster.Proper) (event : ConnectionEvent) (channel : String) :
    (roster.apply event).row? channel =
      if channel = event.channel then event.reshape (roster.row? channel)
      else roster.row? channel := by
  cases event with
  | connect name thing =>
      refine (roster.row?_connect name thing.id channel).trans ?_
      by_cases same : channel = name
      · subst same
        rfl
      · rw [if_neg same]
        exact (if_neg same).symm
  | disconnect name thing => exact proper.row?_disconnect name thing.id channel
  | channelRemoved name => exact roster.row?_dropChannel name channel
  | void name => exact (ite_self _).symm

theorem connect (proper : roster.Proper) (channel thing : String) :
    (roster.connect channel thing).Proper := by
  have sets := proper.sets.connect channel thing
  unfold Roster.connect at sets ⊢
  cases found : roster.row? channel with
  | none =>
      rw [found] at sets
      refine ⟨keys_added proper.tidy (Option.map_eq_none_iff.mp found) [thing], sets, ?_⟩
      intro row member
      rcases List.mem_append.mp member with old | new
      · exact proper.occupied row old
      · rw [List.mem_singleton.mp new]
        exact List.cons_ne_nil thing []
  | some things =>
      rw [found] at sets
      refine ⟨?_, sets, ?_⟩
      · rw [keys_changed (fun row => row.1 == channel) (enlist thing)]
        exact proper.tidy
      · intro row member
        obtain ⟨old, stored, rfl⟩ := List.mem_map.mp member
        split
        · exact List.ne_nil_of_mem ((mem_enlist thing old.2 thing).mpr (Or.inr rfl))
        · exact proper.occupied old stored

theorem withdraw (proper : roster.Proper) (chosen : String → Bool) (thing : String) :
    (roster.withdraw chosen thing).Proper where
  tidy := keys_withdrawn proper.tidy chosen thing
  sets := proper.sets.withdraw chosen thing
  occupied row member empty := by
    have kept := (List.mem_filter.mp member).2
    rw [empty] at kept
    exact Bool.false_ne_true kept

theorem dropChannel (proper : roster.Proper) (channel : String) :
    (roster.dropChannel channel).Proper where
  tidy := proper.tidy.sublist (List.filter_sublist.map Prod.fst)
  sets row member := proper.sets row (List.mem_filter.mp member).1
  occupied row member := proper.occupied row (List.mem_filter.mp member).1

theorem apply (proper : roster.Proper) (event : ConnectionEvent) :
    (roster.apply event).Proper := by
  cases event with
  | connect channel thing => exact proper.connect channel thing.id
  | disconnect channel thing => exact proper.withdraw (· == channel) thing.id
  | channelRemoved channel => exact proper.dropChannel channel
  | void channel => exact proper

theorem connect_linked (proper : roster.Proper) (channel thing : String)
    (linked : (channel, thing) ∈ roster.links) : roster.connect channel thing = roster := by
  obtain ⟨row, member, named, listed⟩ := (roster.mem_links channel thing).mp linked
  have found : roster.row? channel = some row.2 :=
    (proper.row?_iff channel row.2).mpr (named ▸ member)
  have same : roster.rows.map
      (fun row => if row.1 == channel then (row.1, enlist thing row.2) else row) = roster.rows := by
    refine (List.map_congr_left fun other stored => ?_).trans (List.map_id _)
    by_cases hit : other.1 = channel
    · have only : other = row :=
        List.inj_on_of_nodup_map proper.tidy stored member (hit.trans named.symm)
      rw [if_pos (beq_iff_eq.mpr hit), enlist, only, if_pos (List.contains_iff_mem.mpr listed)]
      rfl
    · exact if_neg fun equal => hit (beq_iff_eq.mp equal)
  rw [Roster.connect, found]
  exact congrArg Roster.mk same

theorem disconnect_absent (proper : roster.Proper) (channel thing : String)
    (absent : (channel, thing) ∉ roster.links) : roster.disconnect channel thing = roster := by
  have same : roster.rows.map (fun row =>
      if row.1 == channel then (row.1, row.2.filter (· != thing)) else row) = roster.rows := by
    refine (List.map_congr_left fun row stored => ?_).trans (List.map_id _)
    by_cases hit : row.1 = channel
    · rw [if_pos (beq_iff_eq.mpr hit), List.filter_eq_self.mpr]
      · rfl
      · intro other listed
        refine bne_iff_ne.mpr fun equal => absent ?_
        exact (roster.mem_links channel thing).mpr ⟨row, stored, hit, equal ▸ listed⟩
    · exact if_neg fun equal => hit (beq_iff_eq.mp equal)
  have occupied : roster.rows.filter (fun row => !row.2.isEmpty) = roster.rows := by
    refine List.filter_eq_self.mpr fun row stored => ?_
    simpa using proper.occupied row stored
  exact congrArg Roster.mk (same.symm ▸ occupied)

theorem dropChannel_absent (proper : roster.Proper) (channel : String)
    (absent : ∀ thing, (channel, thing) ∉ roster.links) : roster.dropChannel channel = roster := by
  refine congrArg Roster.mk (List.filter_eq_self.mpr fun row stored => ?_)
  refine bne_iff_ne.mpr fun named => ?_
  obtain ⟨thing, listed⟩ := List.exists_mem_of_ne_nil row.2 (proper.occupied row stored)
  exact absent thing ((roster.mem_links channel thing).mpr ⟨row, stored, named, listed⟩)

theorem apply_settled (proper : roster.Proper) (event : ConnectionEvent)
    (settled : event.amend roster.links = roster.links) : roster.apply event = roster := by
  cases event with
  | connect channel thing =>
      exact proper.connect_linked channel thing.id (settled ▸ Set.mem_insert _ _)
  | disconnect channel thing =>
      refine proper.disconnect_absent channel thing.id fun linked => ?_
      rw [← settled] at linked
      exact linked.2 rfl
  | channelRemoved channel =>
      refine proper.dropChannel_absent channel fun thing linked => ?_
      rw [← settled] at linked
      exact linked.2 rfl
  | void channel => rfl

theorem apply_again (proper : roster.Proper) (event : ConnectionEvent) :
    (roster.apply event).apply event = roster.apply event := by
  apply (proper.apply event).apply_settled event
  rw [links_apply, event.amend_again]

theorem apply_comm (proper : roster.Proper) (first second : ConnectionEvent)
    (apart : first.channel ≠ second.channel) :
    ((roster.apply first).apply second).row? = ((roster.apply second).apply first).row? := by
  funext channel
  simp only [(proper.apply first).row?_apply, (proper.apply second).row?_apply, proper.row?_apply]
  by_cases own : channel = first.channel
  · have other : channel ≠ second.channel := own ▸ apart
    rw [if_pos own, if_neg other, if_pos own, if_neg other]
  · rw [if_neg own, if_neg own]

end Proper

section Order

/-- What is left of a row stands first and in its order; a thing that is new to it comes last. -/
def KeepsOrder (before after : List String) : Prop :=
  ∃ newcomer : Option String,
    after = before.filter (fun thing => after.contains thing) ++ newcomer.toList ∧
      ∀ thing ∈ newcomer, thing ∉ before

theorem keepsOrder_filter (before : List String) (stays : String → Bool) :
    KeepsOrder before (before.filter stays) := by
  refine ⟨none, ?_, fun _ member => nomatch member⟩
  rw [Option.toList_none, List.append_nil]
  apply List.filter_congr
  intro thing member
  rw [Bool.eq_iff_iff, List.contains_iff_mem, List.mem_filter]
  exact ⟨fun kept => ⟨member, kept⟩, fun both => both.2⟩

theorem keepsOrder_refl (row : List String) : KeepsOrder row row := by
  have whole := keepsOrder_filter row fun _ => true
  rwa [List.filter_true] at whole

theorem keepsOrder_enlist (thing : String) (before : List String) :
    KeepsOrder before (enlist thing before) := by
  unfold enlist
  by_cases there : before.contains thing = true
  · rw [if_pos there]
    exact keepsOrder_refl before
  · rw [if_neg there]
    refine ⟨some thing, ?_, fun other same => ?_⟩
    · rw [List.filter_eq_self.mpr, Option.toList_some]
      intro other member
      exact List.contains_iff_mem.mpr (List.mem_append_left _ member)
    · rw [Option.mem_some] at same
      exact fun member => there (List.contains_iff_mem.mpr (same ▸ member))

theorem reshape_keepsOrder (event : ConnectionEvent) (row : Option (List String)) :
    KeepsOrder (row.getD []) ((event.reshape row).getD []) := by
  cases event with
  | connect channel thing => exact keepsOrder_enlist thing.id (row.getD [])
  | disconnect channel thing =>
      have left : ((ConnectionEvent.disconnect channel thing).reshape row).getD [] =
          (row.getD []).filter (· != thing.id) := by
        cases row with
        | none => rfl
        | some things =>
            simp only [ConnectionEvent.reshape, Option.map_some, Option.filter_some,
              Option.getD_some]
            cases rest : things.filter (· != thing.id) <;> rfl
      rw [left]
      exact keepsOrder_filter (row.getD []) _
  | channelRemoved channel =>
      have none := keepsOrder_filter (row.getD []) fun _ => false
      rwa [List.filter_false] at none
  | void channel => exact keepsOrder_refl (row.getD [])

theorem Proper.apply_keepsOrder {roster : Roster} (proper : roster.Proper)
    (event : ConnectionEvent) (channel : String) :
    KeepsOrder (roster.things channel) ((roster.apply event).things channel) := by
  simp only [things, proper.row?_apply]
  split
  · exact reshape_keepsOrder event (roster.row? channel)
  · exact keepsOrder_refl _

end Order
end Roster

theorem Board.applyEvent_applied (board : Board) (event : ConnectionEvent) (kind : EventKind) :
    (board.applyEvent event).tally.applied.get kind =
      board.tally.applied.get kind +
        if event.isConnect && event.thing?.isNone then 0
        else if event.kind = kind then 1 else 0 := by
  cases event with
  | void channel => rfl
  | connect channel thing => exact KindCounts.get_bump board.tally.applied .connect kind
  | disconnect channel thing => exact KindCounts.get_bump board.tally.applied .disconnect kind
  | channelRemoved channel => exact KindCounts.get_bump board.tally.applied .channelRemoved kind

/-- Applying an event is the set operation that it names, on absent channels and things too. The
rows stay proper and in order; the same event again changes nothing, events of different channels
can be swapped, and more links before are more links after. -/
theorem events_amend_rosters (board : Board) (proper : board.roster.Proper) :
    (∀ channel thing,
      (channel, thing) ∈ board.roster.links ↔ thing ∈ board.roster.things channel) ∧
    (∀ channel thing,
      (board.applyEvent (.connect channel thing)).roster.links =
          insert (channel, thing.id) board.roster.links ∧
        (board.applyEvent (.disconnect channel thing)).roster.links =
          board.roster.links \ {(channel, thing.id)}) ∧
    (∀ channel,
      (board.applyEvent (.channelRemoved channel)).roster.links =
          {link ∈ board.roster.links | link.1 ≠ channel} ∧
        (board.applyEvent (.void channel)).roster.links = board.roster.links) ∧
    (∀ event kind,
      (board.applyEvent event).tally.applied.get kind =
        board.tally.applied.get kind +
          if event.isConnect && event.thing?.isNone then 0
          else if event.kind = kind then 1 else 0) ∧
    (∀ event,
      (board.applyEvent event).roster.Proper ∧
        (∀ channel, Roster.KeepsOrder (board.roster.things channel)
          ((board.applyEvent event).roster.things channel)) ∧
        ((board.applyEvent event).applyEvent event).roster = (board.applyEvent event).roster) ∧
    (∀ first second : ConnectionEvent, first.channel ≠ second.channel →
      ((board.applyEvent first).applyEvent second).roster.row? =
        ((board.applyEvent second).applyEvent first).roster.row?) ∧
    ∀ (more : Board) (event : ConnectionEvent), board.roster.links ⊆ more.roster.links →
      (board.applyEvent event).roster.links ⊆ (more.applyEvent event).roster.links := by
  have amended (board : Board) (event : ConnectionEvent) :
      (board.applyEvent event).roster.links = event.amend board.roster.links :=
    board.roster.links_apply event
  refine ⟨fun channel thing => (proper.mem_things channel thing).symm,
    fun channel thing => ⟨amended board _, amended board _⟩,
    fun channel => ⟨amended board _, amended board _⟩, board.applyEvent_applied,
    fun event => ⟨proper.apply event, proper.apply_keepsOrder event, proper.apply_again event⟩,
    proper.apply_comm, fun more event within => ?_⟩
  rw [amended board, amended more]
  exact event.amend_mono within

def foyer : Board :=
  { roster := ⟨[("c", ["t", "u"]), ("d", ["v"])]⟩, bridge := .ofCapacity 1 }

theorem events_amend_rosters_foyer :
    foyer.roster.Proper ∧
    (foyer.applyEvent (.disconnected "d" "v")).roster.links = foyer.roster.links \ {("d", "v")} ∧
    (foyer.applyEvent (.disconnected "d" "v")).roster.Proper ∧
    ((foyer.applyEvent (.channelRemoved "c")).applyEvent (.connect "d" { id := "t" })).roster.row? =
      ((foyer.applyEvent (.connect "d" { id := "t" })).applyEvent
        (.channelRemoved "c")).roster.row? ∧
    foyer.roster.links ⊆ (foyer.applyEvent (.connect "e" { id := "t" })).roster.links ∧
    (foyer.applyEvent (.channelRemoved "c")).roster.links ⊆
      ((foyer.applyEvent (.connect "e" { id := "t" })).applyEvent
        (.channelRemoved "c")).roster.links := by
  have proper : foyer.roster.Proper :=
    { tidy := by decide
      sets := by
        unfold Roster.Sets
        decide
      occupied := by decide }
  obtain ⟨_, adds, _, _, each, swaps, grows⟩ := events_amend_rosters foyer proper
  have more : foyer.roster.links ⊆
      (foyer.applyEvent (.connect "e" { id := "t" })).roster.links := by
    rw [(adds "e" { id := "t" }).1]
    exact Set.subset_insert _ _
  exact ⟨proper, (adds "d" { id := "v" }).2, (each (.disconnected "d" "v")).1,
    swaps (.channelRemoved "c") (.connect "d" { id := "t" }) (by decide), more,
    grows _ (.channelRemoved "c") more⟩

end Switchboard
