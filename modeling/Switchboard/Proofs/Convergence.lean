import Mathlib.Data.List.Induction
import Switchboard.Proofs.Chronicle

/-!
The thing side trails the channel side by the events on the bridge. After `k` applied events its
links are within those that the channel side had right after the `k`-th emission, and a link that
it lacks was taken from it by the removal of the thing. What is left on the bridge is exactly what
was emitted and not yet applied, so once that is nothing both sides agree but for removed things.
-/
namespace Switchboard

def Incident.emitted? : Incident → Option ConnectionEvent
  | .emitted event _ => some event
  | _ => none

def Incident.applied? : Incident → Option ConnectionEvent
  | .applied event => some event
  | _ => none

def Incident.side? : Incident → Option Placement
  | .emitted _ side => some side
  | _ => none

def emittedEvents (log : List Incident) : List ConnectionEvent := log.filterMap Incident.emitted?

def appliedEvents (log : List Incident) : List ConnectionEvent := log.filterMap Incident.applied?

/-- The channel side before any event and right after every emission. -/
def sides (log : List Incident) : List Placement := {} :: log.filterMap Incident.side?

def Bridge.pending (bridge : Bridge) : List ConnectionEvent := bridge.queue.filterMap Parcel.event?

def replay (events : List ConnectionEvent) : Links :=
  events.foldl (fun links event => event.amend links) ∅

/-- The application of a connect event for a link. -/
def AppliesConnect (channel thing : String) (incident : Incident) : Prop :=
  ∃ record, incident = .applied (.connect channel record) ∧ record.id = thing

/-- The thing was removed after the latest connect event of the link had been applied. -/
def RemovedSince (channel thing : String) (log : List Incident) : Prop :=
  ∃ earlier connect later, log = earlier ++ connect :: later ∧
    AppliesConnect channel thing connect ∧
    (∀ incident ∈ later, ¬ AppliesConnect channel thing incident) ∧ .removed thing ∈ later

theorem replay_append (events : List ConnectionEvent) (event : ConnectionEvent) :
    replay (events ++ [event]) = event.amend (replay events) := by
  simp [replay]

-- A link can only come from a connect event; all other events take links away.
theorem replay_connected (events : List ConnectionEvent) (channel thing : String)
    (linked : (channel, thing) ∈ replay events) :
    ∃ record, .connect channel record ∈ events ∧ record.id = thing := by
  induction events using List.reverseRecOn with
  | nil => exact absurd linked (Set.notMem_empty _)
  | append_singleton events event ih =>
      rw [replay_append] at linked
      have before : (channel, thing) ∈ replay events →
          ∃ record, .connect channel record ∈ events ++ [event] ∧ record.id = thing := by
        intro old
        obtain ⟨record, member, named⟩ := ih old
        exact ⟨record, List.mem_append_left _ member, named⟩
      cases event with
      | connect other record =>
          rcases linked with same | old
          · obtain ⟨rfl, rfl⟩ := Prod.mk.inj same
            exact ⟨record, by simp, rfl⟩
          · exact before old
      | disconnect other record => exact before linked.1
      | channelRemoved other => exact before linked.1
      | void other => exact before linked

theorem exists_latest {α : Type} (hit : α → Prop) (items : List α)
    (some_ : ∃ item ∈ items, hit item) :
    ∃ earlier item later, items = earlier ++ item :: later ∧ hit item ∧
      ∀ other ∈ later, ¬ hit other := by
  classical
  induction items with
  | nil =>
      obtain ⟨_, member, _⟩ := some_
      cases member
  | cons first rest ih =>
      by_cases again : ∃ item ∈ rest, hit item
      · obtain ⟨earlier, item, later, same, struck, last⟩ := ih again
        exact ⟨first :: earlier, item, later, by simp [same], struck, last⟩
      · obtain ⟨item, member, struck⟩ := some_
        rcases List.mem_cons.mp member with rfl | inRest
        · exact ⟨[], item, rest, rfl, struck, fun other inside also => again ⟨other, inside, also⟩⟩
        · exact absurd ⟨item, inRest, struck⟩ again

theorem RemovedSince.append {channel thing : String} {log news : List Incident}
    (since : RemovedSince channel thing log)
    (quiet : ∀ incident ∈ news, ¬ AppliesConnect channel thing incident) :
    RemovedSince channel thing (log ++ news) := by
  obtain ⟨earlier, connect, later, rfl, applied, last, removed⟩ := since
  refine ⟨earlier, connect, later ++ news, by simp, applied, ?_, List.mem_append_left _ removed⟩
  intro incident member
  rcases List.mem_append.mp member with old | new
  · exact last incident old
  · exact quiet incident new

theorem removed_now (channel thing : String) (log : List Incident)
    (linked : (channel, thing) ∈ replay (appliedEvents log)) :
    RemovedSince channel thing (log ++ [.removed thing]) := by
  obtain ⟨record, member, named⟩ := replay_connected _ channel thing linked
  obtain ⟨incident, inside, told⟩ := List.mem_filterMap.mp member
  have applies : AppliesConnect channel thing incident := by
    cases incident with
    | applied event =>
        cases told
        exact ⟨record, rfl, named⟩
    | saved => cases told
    | removed => cases told
    | emitted => cases told
  obtain ⟨earlier, connect, later, rfl, hit, last⟩ :=
    exists_latest (AppliesConnect channel thing) log ⟨incident, inside, applies⟩
  refine ⟨earlier, connect, later ++ [.removed thing], by simp, hit, ?_, by simp⟩
  intro other member
  rcases List.mem_append.mp member with old | new
  · exact last other old
  · rw [List.mem_singleton.mp new]
    rintro ⟨_, same, _⟩
    cases same

/-- The channel side is what was emitted, and the bridge carries what was not yet applied. -/
structure Carried (log : List Incident) (board : Board) : Prop where
  pending : emittedEvents log = appliedEvents log ++ board.bridge.pending
  counted : (sides log).length = (emittedEvents log).length + 1
  replayed : ∀ k side, (sides log)[k]? = some side →
    side.links = replay ((emittedEvents log).take k)
  current : (sides log).getLast? = some board.placement

/-- The thing side is what was applied, but for the links of removed things. -/
structure Trailing (log : List Incident) (board : Board) : Prop where
  within : board.roster.links ⊆ replay (appliedEvents log)
  missing : ∀ channel thing, (channel, thing) ∈ replay (appliedEvents log) →
    (channel, thing) ∉ board.roster.links → RemovedSince channel thing log

theorem emittedEvents_append (log news : List Incident) :
    emittedEvents (log ++ news) = emittedEvents log ++ emittedEvents news :=
  List.filterMap_append

theorem appliedEvents_append (log news : List Incident) :
    appliedEvents (log ++ news) = appliedEvents log ++ appliedEvents news :=
  List.filterMap_append

theorem sides_append (log news : List Incident) :
    sides (log ++ news) = sides log ++ news.filterMap Incident.side? := by
  simp [sides]

@[simp] theorem emittedEvents_emitted (log : List Incident) (event : ConnectionEvent)
    (side : Placement) :
    emittedEvents (log ++ [.emitted event side]) = emittedEvents log ++ [event] :=
  emittedEvents_append log _

@[simp] theorem appliedEvents_emitted (log : List Incident) (event : ConnectionEvent)
    (side : Placement) : appliedEvents (log ++ [.emitted event side]) = appliedEvents log :=
  (appliedEvents_append log _).trans (List.append_nil _)

@[simp] theorem sides_emitted (log : List Incident) (event : ConnectionEvent) (side : Placement) :
    sides (log ++ [.emitted event side]) = sides log ++ [side] :=
  sides_append log _

@[simp] theorem emittedEvents_applied (log : List Incident) (event : ConnectionEvent) :
    emittedEvents (log ++ [.applied event]) = emittedEvents log :=
  (emittedEvents_append log _).trans (List.append_nil _)

@[simp] theorem appliedEvents_applied (log : List Incident) (event : ConnectionEvent) :
    appliedEvents (log ++ [.applied event]) = appliedEvents log ++ [event] :=
  appliedEvents_append log _

@[simp] theorem sides_applied (log : List Incident) (event : ConnectionEvent) :
    sides (log ++ [.applied event]) = sides log :=
  (sides_append log _).trans (List.append_nil _)

def Aside (incident : Incident) : Prop :=
  incident.emitted? = none ∧ incident.applied? = none ∧ incident.side? = none

theorem saved_aside (fresh : List String) :
    ∀ incident ∈ fresh.map Incident.saved, Aside incident := by
  intro incident member
  obtain ⟨_, _, rfl⟩ := List.mem_map.mp member
  exact ⟨rfl, rfl, rfl⟩

theorem removed_aside (id : String) : ∀ incident ∈ [Incident.removed id], Aside incident := by
  intro incident member
  rw [List.mem_singleton.mp member]
  exact ⟨rfl, rfl, rfl⟩

theorem nothing_aside : ∀ incident ∈ ([] : List Incident), Aside incident :=
  fun _ member => absurd member List.not_mem_nil

theorem emittedEvents_aside (log news : List Incident) (aside : ∀ incident ∈ news, Aside incident) :
    emittedEvents (log ++ news) = emittedEvents log := by
  have none : emittedEvents news = [] :=
    List.filterMap_eq_nil_iff.mpr fun incident member => (aside incident member).1
  rw [emittedEvents_append, none, List.append_nil]

theorem appliedEvents_aside (log news : List Incident) (aside : ∀ incident ∈ news, Aside incident) :
    appliedEvents (log ++ news) = appliedEvents log := by
  have none : appliedEvents news = [] :=
    List.filterMap_eq_nil_iff.mpr fun incident member => (aside incident member).2.1
  rw [appliedEvents_append, none, List.append_nil]

section Steps
variable {log : List Incident} {before : Board}

theorem carried_start (capacity : Nat) : Carried [] (.ofCapacity capacity) where
  pending := rfl
  counted := rfl
  replayed k side at_ := by
    obtain ⟨bound, rfl⟩ := List.getElem?_eq_some_iff.mp at_
    ext ⟨channel, thing⟩
    simp [sides, emittedEvents, replay, Placement.mem_links, Listed]
  current := rfl

theorem Carried.links_placement (carried : Carried log before) :
    before.placement.links = replay (emittedEvents log) := by
  have last := carried.current
  rw [List.getLast?_eq_getElem?] at last
  rw [carried.replayed _ _ last, carried.counted]
  simp

theorem Carried.aside (carried : Carried log before) (news : List Incident) (after : Board)
    (aside : ∀ incident ∈ news, Aside incident) (placement : after.placement = before.placement)
    (pending : after.bridge.pending = before.bridge.pending) : Carried (log ++ news) after := by
  have noSide : news.filterMap Incident.side? = [] :=
    List.filterMap_eq_nil_iff.mpr fun incident member => (aside incident member).2.2
  have emitted := emittedEvents_aside log news aside
  have same : sides (log ++ news) = sides log := by
    rw [sides_append, noSide, List.append_nil]
  constructor
  · rw [emitted, appliedEvents_aside log news aside, pending]
    exact carried.pending
  · rw [emitted, same]
    exact carried.counted
  · rw [emitted, same]
    exact carried.replayed
  · rw [same, placement]
    exact carried.current

theorem Carried.emitted (carried : Carried log before) (event : ConnectionEvent) :
    Carried (log ++ [.emitted event (before.placement.follow event)]) (before.accept event) where
  pending := by
    have queued : (before.accept event).bridge.pending = before.bridge.pending ++ [event] := by
      simp [Board.accept, Bridge.pending, Parcel.event?]
    rw [emittedEvents_emitted, appliedEvents_emitted, queued, carried.pending, List.append_assoc]
  counted := by simp [carried.counted]
  replayed k side at_ := by
    rw [sides_emitted] at at_
    rw [emittedEvents_emitted]
    by_cases old : k < (sides log).length
    · rw [List.getElem?_append_left old] at at_
      rw [List.take_append_of_le_length (by rw [carried.counted] at old; omega)]
      exact carried.replayed k side at_
    · -- The side that was just recorded: it follows the event from the replay of all before it.
      obtain ⟨bound, rfl⟩ := List.getElem?_eq_some_iff.mp at_
      have last : k = (sides log).length := by
        simp only [List.length_append, List.length_singleton] at bound
        omega
      subst last
      rw [List.getElem_concat_length rfl, List.take_of_length_le (by simp [carried.counted]),
        replay_append, ← carried.links_placement, Placement.links_follow]
  current := by
    rw [sides_emitted]
    exact List.getLast?_concat

theorem Carried.applied (carried : Carried log before) (event : ConnectionEvent)
    (rest : List Parcel) (first : before.bridge.queue = .event event :: rest) :
    Carried (log ++ [.applied event])
      ({ before with bridge := { before.bridge with queue := rest } }.applyEvent event) where
  pending := by
    have queued : before.bridge.pending = event :: rest.filterMap Parcel.event? := by
      simp [Bridge.pending, first, Parcel.event?]
    rw [emittedEvents_applied, appliedEvents_applied, carried.pending, queued, List.append_assoc]
    rfl
  counted := by simpa using carried.counted
  replayed := by simpa using carried.replayed
  current := by
    rw [sides_applied]
    exact carried.current

theorem Trailing.aside (trailing : Trailing log before) (news : List Incident) (after : Board)
    (aside : ∀ incident ∈ news, Aside incident) (roster : after.roster = before.roster) :
    Trailing (log ++ news) after where
  within := by
    rw [appliedEvents_aside log news aside, roster]
    exact trailing.within
  missing channel thing linked absent := by
    rw [appliedEvents_aside log news aside] at linked
    rw [roster] at absent
    apply (trailing.missing channel thing linked absent).append
    rintro incident member ⟨record, rfl, _⟩
    cases (aside _ member).2.1

theorem Trailing.removed (trailing : Trailing log before) (thing : String) (after : Board)
    (roster : after.roster = before.roster.dropThing thing) :
    Trailing (log ++ [.removed thing]) after where
  within := by
    rw [appliedEvents_aside log _ (removed_aside thing), roster, Roster.links_dropThing]
    exact fun link linked => trailing.within linked.1
  missing channel other linked absent := by
    rw [appliedEvents_aside log _ (removed_aside thing)] at linked
    rw [roster, Roster.links_dropThing] at absent
    by_cases same : other = thing
    · exact same ▸ removed_now channel other log linked
    · apply (trailing.missing channel other linked fun held => absent ⟨held, same⟩).append
      rintro incident member ⟨record, rfl, _⟩
      cases List.mem_singleton.mp member

theorem Trailing.emitted (trailing : Trailing log before) (event : ConnectionEvent)
    (side : Placement) (after : Board) (roster : after.roster = before.roster) :
    Trailing (log ++ [.emitted event side]) after where
  within := by
    rw [appliedEvents_emitted, roster]
    exact trailing.within
  missing channel thing linked absent := by
    rw [appliedEvents_emitted] at linked
    rw [roster] at absent
    apply (trailing.missing channel thing linked absent).append
    rintro incident member ⟨record, rfl, _⟩
    cases List.mem_singleton.mp member

-- Both sides take the event by the same set operation, which is monotone.
theorem Trailing.applied (trailing : Trailing log before) (event : ConnectionEvent) (after : Board)
    (roster : after.roster = before.roster.apply event) :
    Trailing (log ++ [.applied event]) after where
  within := by
    rw [appliedEvents_applied, replay_append, roster, Roster.links_apply]
    exact event.amend_mono trailing.within
  missing channel thing linked absent := by
    rw [appliedEvents_applied, replay_append] at linked
    rw [roster, Roster.links_apply] at absent
    obtain ⟨held, lacked, other⟩ := event.amend_gap linked absent
    apply (trailing.missing channel thing held lacked).append
    rintro incident member ⟨record, rfl, rfl⟩
    cases List.mem_singleton.mp member
    exact other channel record rfl rfl

end Steps

theorem carried_outcome {log news : List Incident} {before after : Board}
    (carried : Carried log before) (outcome : Outcome before news after) :
    Carried (log ++ news) after := by
  cases outcome with
  | deed deed =>
      cases deed with
      | kept things channels tally fresh => exact carried.aside _ _ (saved_aside fresh) rfl rfl
      | removed id stored => exact carried.aside _ _ (removed_aside id) rfl rfl
      | emitted event allowed unsealed room => exact carried.emitted event
  | barred ticket unsealed room =>
      exact carried.aside _ _ nothing_aside rfl (by simp [Bridge.pending, Parcel.event?])
  | sealed => exact carried.aside _ _ nothing_aside rfl rfl
  | applied event rest first => exact carried.applied event rest first
  | passed ticket rest first =>
      refine carried.aside _ _ nothing_aside rfl ?_
      simp only [Bridge.pending, first]
      rfl

theorem trailing_outcome {log news : List Incident} {before after : Board}
    (trailing : Trailing log before) (outcome : Outcome before news after) :
    Trailing (log ++ news) after := by
  cases outcome with
  | deed deed =>
      cases deed with
      | kept things channels tally fresh => exact trailing.aside _ _ (saved_aside fresh) rfl
      | removed id stored => exact trailing.removed id _ rfl
      | emitted event allowed unsealed room => exact trailing.emitted event _ _ rfl
  | barred ticket unsealed room => exact trailing.aside _ _ nothing_aside rfl
  | sealed => exact trailing.aside _ _ nothing_aside rfl
  | applied event rest first => exact trailing.applied event _ rfl
  | passed ticket rest first => exact trailing.aside _ _ nothing_aside rfl

theorem ofSteps_carried (capacity : Nat) (steps : List Step) :
    Carried (Chronicle.ofSteps capacity steps).log (Chronicle.ofSteps capacity steps).board :=
  Chronicle.ofSteps_keeps Carried carried_start (fun _ => carried_outcome) capacity steps

theorem ofSteps_trailing (capacity : Nat) (steps : List Step) :
    Trailing (Chronicle.ofSteps capacity steps).log (Chronicle.ofSteps capacity steps).board := by
  refine Chronicle.ofSteps_keeps Trailing (fun capacity => ?_) (fun _ => trailing_outcome)
    capacity steps
  constructor
  · intro link linked
    simp [Roster.links, Roster.pairs, Board.ofCapacity] at linked
  · exact fun channel thing linked => absurd linked (Set.notMem_empty _)

theorem drained_sides {log : List Incident} {board : Board} (carried : Carried log board)
    (trailing : Trailing log board) (drained : board.bridge.pending = []) :
    (sides log)[(appliedEvents log).length]? = some board.placement ∧
    board.roster.links ⊆ board.placement.links ∧
    ∀ thing, .removed thing ∉ log → ∀ channel,
      (channel, thing) ∈ board.roster.links ↔ (channel, thing) ∈ board.placement.links := by
  have all : emittedEvents log = appliedEvents log := by
    simpa [drained] using carried.pending
  have linked : board.placement.links = replay (appliedEvents log) :=
    all ▸ carried.links_placement
  refine ⟨?_, linked ▸ trailing.within, ?_⟩
  · have last := carried.current
    rw [List.getLast?_eq_getElem?, carried.counted, all] at last
    simpa using last
  · intro thing stays channel
    rw [linked]
    refine ⟨fun held => trailing.within held, fun replayed => ?_⟩
    by_contra absent
    obtain ⟨earlier, connect, later, rfl, _, _, removed⟩ :=
      trailing.missing channel thing replayed absent
    exact stays (List.mem_append_right _ (List.mem_cons_of_mem _ removed))

/-- The thing side is within what the channel side was after as many emissions as have been
applied, and lacks of it only links whose thing was removed after their latest connect had been
applied. Once the bridge carries no event, the sides agree on every thing that was never removed,
and without removals they are the same. -/
theorem sides_converge (capacity : Nat) (steps : List Step) :
    let log := (Chronicle.ofSteps capacity steps).log
    let board := (Chronicle.ofSteps capacity steps).board
    (∃ side, (sides log)[(appliedEvents log).length]? = some side ∧
      board.roster.links ⊆ side.links ∧
      ∀ channel thing, (channel, thing) ∈ side.links → (channel, thing) ∉ board.roster.links →
        RemovedSince channel thing log) ∧
    (board.bridge.pending = [] →
      (sides log)[(appliedEvents log).length]? = some board.placement ∧
      board.roster.links ⊆ board.placement.links ∧
      (∀ thing, .removed thing ∉ log → ∀ channel,
        (channel, thing) ∈ board.roster.links ↔ (channel, thing) ∈ board.placement.links) ∧
      ((∀ thing, .removed thing ∉ log) → board.roster.links = board.placement.links)) := by
  intro log board
  have carried : Carried log board := ofSteps_carried capacity steps
  have trailing : Trailing log board := ofSteps_trailing capacity steps
  constructor
  · have reached : (appliedEvents log).length < (sides log).length := by
      rw [carried.counted, carried.pending, List.length_append]
      omega
    have replayed : ((sides log)[(appliedEvents log).length]).links =
        replay (appliedEvents log) := by
      rw [carried.replayed _ _ (List.getElem?_eq_getElem reached), carried.pending]
      simp
    refine ⟨_, List.getElem?_eq_getElem reached, ?_, ?_⟩
    · rw [replayed]
      exact trailing.within
    · rw [replayed]
      exact trailing.missing
  · intro drained
    obtain ⟨current, within, agree⟩ := drained_sides carried trailing drained
    refine ⟨current, within, agree, fun stays => ?_⟩
    ext ⟨channel, thing⟩
    exact agree thing (stays thing) channel

def bereft : List Step :=
  [.change (.saveChannels [{ id := "c" }]),
    .change (.saveThings [{ id := "t", key := "k" }, { id := "u", key := "l" }]),
    .change (.connect "c" ["t", "u"]), .consume, .consume, .change (.removeThings ["t"])]

theorem sides_converge_bereft :
    (Chronicle.ofSteps 2 bereft).board.bridge.pending = [] ∧
      .removed "u" ∉ (Chronicle.ofSteps 2 bereft).log ∧
      (("c", "u") ∈ (Chronicle.ofSteps 2 bereft).board.roster.links ↔
        ("c", "u") ∈ (Chronicle.ofSteps 2 bereft).board.placement.links) := by
  have drained : (Chronicle.ofSteps 2 bereft).board.bridge.pending = [] := rfl
  have logged : (Chronicle.ofSteps 2 bereft).log =
      [.saved "t", .saved "u",
        .emitted (.connect "c" { id := "t", key := "k" }) ⟨[("t", ["c"])]⟩,
        .emitted (.connect "c" { id := "u", key := "l" }) ⟨[("t", ["c"]), ("u", ["c"])]⟩,
        .applied (.connect "c" { id := "t", key := "k" }),
        .applied (.connect "c" { id := "u", key := "l" }), .removed "t"] := rfl
  have stays : .removed "u" ∉ (Chronicle.ofSteps 2 bereft).log := by
    rw [logged]
    simp
  exact ⟨drained, stays, ((sides_converge 2 bereft).2 drained).2.2.1 "u" stays "c"⟩

end Switchboard
