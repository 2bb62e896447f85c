import Mathlib.Data.List.Infix
import Switchboard.Proofs.Service

/-!
What was emitted is what was applied and then the rest, in one order, and a barrier stands in the
rest where it was put. Every act keeps that: an operation adds at the end, the consumer moves the
head of the rest over, and being cut off turns the rest into what is lost. So a barrier that is told
has everything before it applied, and a consumer that ends by itself leaves nothing.
-/
namespace Switchboard

def carriedEvents (parcels : List Parcel) : List ConnectionEvent := parcels.filterMap Parcel.event?

/-- The barriers among parcels, each with all events in front of it. -/
def marks (events : List ConnectionEvent) : List Parcel → List (Nat × List ConnectionEvent)
  | [] => []
  | .event event :: rest => marks (events ++ [event]) rest
  | .barrier ticket :: rest => (ticket, events) :: marks events rest

theorem carriedEvents_append (parcels later : List Parcel) :
    carriedEvents (parcels ++ later) = carriedEvents parcels ++ carriedEvents later :=
  List.filterMap_append

theorem carriedEvents_events (events : List ConnectionEvent) :
    carriedEvents (events.map .event) = events := by
  induction events with
  | nil => rfl
  | cons event rest ih => exact congrArg (event :: ·) ih

theorem marks_append (events : List ConnectionEvent) (parcels later : List Parcel) :
    marks events (parcels ++ later) =
      marks events parcels ++ marks (events ++ carriedEvents parcels) later := by
  induction parcels generalizing events with
  | nil => simp [marks, carriedEvents]
  | cons parcel rest ih =>
      cases parcel with
      | event event => simpa [marks, carriedEvents, Parcel.event?] using ih (events ++ [event])
      | barrier ticket => exact congrArg ((ticket, events) :: ·) (ih events)

theorem marks_events (before events : List ConnectionEvent) :
    marks before (events.map .event) = [] := by
  induction events generalizing before with
  | nil => rfl
  | cons event rest ih => exact ih (before ++ [event])

/-- From one bridge to another by nothing but events that were taken while it was open. -/
structure Bridge.Took (before : Bridge) (events : List ConnectionEvent) (after : Bridge) :
    Prop where
  grown : after = { before with queue := before.queue ++ events.map .event }
  unsealed : before.closed = true → events = []

theorem Bridge.Took.trans {before middle after : Bridge} {events later : List ConnectionEvent}
    (first : before.Took events middle) (second : middle.Took later after) :
    before.Took (events ++ later) after where
  grown := by rw [second.grown, first.grown]; simp
  unsealed sealed := by
    have still : middle.closed = true := by rw [first.grown]; exact sealed
    rw [first.unsealed sealed, second.unsealed still]
    rfl

theorem Deed.took {before after : Board} {news : List Incident} (deed : Deed before news after) :
    before.bridge.Took (emittedEvents news) after.bridge ∧ appliedEvents news = [] := by
  cases deed with
  | kept things channels tally fresh =>
      have quiet : emittedEvents (fresh.map .saved) = [] :=
        List.filterMap_eq_nil_iff.mpr fun incident member => (saved_aside fresh incident member).1
      refine ⟨⟨?_, fun _ => quiet⟩, appliedEvents_aside [] _ (saved_aside fresh)⟩
      rw [quiet]
      simp
  | removed id stored =>
      refine ⟨⟨?_, fun _ => rfl⟩, rfl⟩
      change before.bridge = { before.bridge with queue := before.bridge.queue ++ [] }
      rw [List.append_nil]
  | emitted event allowed unsealed room =>
      refine ⟨⟨rfl, fun sealed => ?_⟩, rfl⟩
      exact absurd sealed (by simp [unsealed])

theorem Passage.took {before after : Board} {news : List Incident}
    (passage : Passage Deed before news after) :
    before.bridge.Took (emittedEvents news) after.bridge ∧ appliedEvents news = [] := by
  induction passage with
  | refl board => exact ⟨⟨by simp [emittedEvents], fun _ => rfl⟩, rfl⟩
  | next deed _ ih =>
      obtain ⟨took, quiet⟩ := deed.took
      obtain ⟨later, still⟩ := ih
      rw [emittedEvents_append, appliedEvents_append, quiet, still]
      exact ⟨took.trans later, rfl⟩

def Incident.alter (roster : Roster) : Incident → Roster
  | .applied event => roster.apply event
  | .removed thing => roster.dropThing thing
  | _ => roster

theorem alter_saved (fresh : List String) (roster : Roster) :
    (fresh.map Incident.saved).foldl Incident.alter roster = roster := by
  induction fresh with
  | nil => rfl
  | cons id rest ih => exact ih

theorem Passage.alters {before after : Board} {news : List Incident}
    (passage : Passage Deed before news after) :
    after.roster = news.foldl Incident.alter before.roster := by
  induction passage with
  | refl board => rfl
  | next deed _ ih =>
      rw [List.foldl_append, ih]
      congr 1
      cases deed with
      | kept things channels tally fresh => exact (alter_saved fresh _).symm
      | removed id stored => rfl
      | emitted event allowed unsealed room => rfl

theorem Phase.idle_not_serving (phase : Phase) (idle : phase.atWork = false) :
    phase ≠ .serving := by
  rintro rfl
  cases idle

namespace Service

/-- Nothing is lost, doubled or out of order: what was emitted is what was applied and then the
rest, and every barrier is where it was put until it is handled. -/
structure Accounted (service : Service) : Prop where
  own : service.bench.board.things.Own
  roster : service.bench.board.roster = service.log.foldl Incident.alter {}
  events : service.accepted =
    service.applied ++ carriedEvents (service.lost ++ service.parcels)
  barriers : ∃ handled, service.barriers =
      handled ++ marks service.applied (service.lost ++ service.parcels) ∧
    ∀ mark ∈ handled, (mark.1, true) ∈ service.bench.settled ∧ mark.2 <+: service.applied
  answered : ∀ ticket, (ticket, true) ∈ service.bench.settled →
    ∃ before, (ticket, before) ∈ service.barriers ∧ before <+: service.applied
  fresh : ∀ mark ∈ service.barriers, mark.1 < service.bench.nextTicket
  distinct : (service.barriers.map Prod.fst).Nodup
  hand : service.bench.inbox.length ≤ 1
  spared : service.phase ≠ .cutOff → service.lost = []
  sealed : service.bench.board.bridge.closed = true ↔ service.phase ≠ .serving
  emptied : service.phase.atWork = false → service.parcels = []

section Acts
variable {service : Service}

-- New events go to the end of the rest, where no barrier is behind them.
theorem Accounted.change (accounted : Accounted service) (change : Change) :
    Accounted (service.change change) := by
  have passage := change.run_passage service.bench.board accounted.own
  obtain ⟨⟨grown, unsealed⟩, quiet⟩ := passage.took
  have applied : (service.change change).applied = service.applied := by
    change appliedEvents (service.log ++ _) = _
    rw [appliedEvents_append, quiet, List.append_nil]
    rfl
  have parcels : (service.change change).parcels =
      service.parcels ++ (emittedEvents (change.notes service.bench.board)).map .event := by
    change service.bench.inbox ++ (change.run service.bench.board).1.bridge.queue = _
    rw [grown, parcels, List.append_assoc]
  have rest : (service.change change).lost ++ (service.change change).parcels =
      (service.lost ++ service.parcels) ++
        (emittedEvents (change.notes service.bench.board)).map .event := by
    rw [parcels, ← List.append_assoc]
    rfl
  obtain ⟨handled, split, done⟩ := accounted.barriers
  -- No barrier is among the new parcels, so the marks are those that there were.
  exact { accounted with
    own := (passage.mono .deed).own accounted.own
    roster := by
      change (change.run service.bench.board).1.roster = (service.log ++ _).foldl Incident.alter {}
      rw [List.foldl_append, ← accounted.roster]
      exact passage.alters
    events := by
      change emittedEvents (service.log ++ _) = _
      rw [emittedEvents_append, rest, applied, carriedEvents_append, carriedEvents_events,
        ← List.append_assoc, ← accounted.events]
      rfl
    barriers := by
      refine ⟨handled, ?_, applied ▸ done⟩
      rw [rest, applied, marks_append, marks_events, List.append_nil]
      exact split
    answered := applied ▸ accounted.answered
    sealed := by
      change (change.run service.bench.board).1.bridge.closed = true ↔ _
      rw [grown]
      exact accounted.sealed
    emptied := by
      intro idle
      have sealed := accounted.sealed.mpr (service.phase.idle_not_serving idle)
      rw [parcels, unsealed sealed, accounted.emptied idle]
      rfl }

-- A new barrier has all that was emitted in front of it, applied or not.
theorem Accounted.flush (accounted : Accounted service) : Accounted service.flush := by
  obtain ⟨handled, split, done⟩ := accounted.barriers
  rcases service.flush_cases with ⟨sealed, same⟩ | ⟨_, same⟩ | ⟨unsealed, same⟩
  · rw [same]
    exact { accounted with
      barriers := ⟨handled, split, fun mark member =>
        ⟨List.mem_append_left _ (done mark member).1, (done mark member).2⟩⟩
      answered := by
        intro ticket settled
        rcases List.mem_append.mp settled with old | new
        · exact accounted.answered ticket old
        · simp at new
      fresh := fun mark member => Nat.lt_succ_of_lt (accounted.fresh mark member) }
  · rw [same]
    exact accounted
  -- The barrier is queued, so the consumer has not sealed the bridge yet.
  · have serving : service.phase = .serving := by
      by_contra other
      have sealed := accounted.sealed.mpr other
      rw [unsealed] at sealed
      cases sealed
    rw [same]
    exact { accounted with
      events := by
        change service.accepted = service.applied ++
          carriedEvents (service.lost ++ (service.bench.inbox ++ (_ ++ [.barrier _])))
        rw [← List.append_assoc, ← List.append_assoc, carriedEvents_append, List.append_assoc,
          accounted.events]
        simp [parcels, carriedEvents, Parcel.event?]
      barriers := by
        refine ⟨handled, ?_, done⟩
        change service.barriers ++ [(_, service.accepted)] = handled ++
          marks service.applied (service.lost ++ (service.bench.inbox ++ (_ ++ [.barrier _])))
        rw [← List.append_assoc service.bench.inbox, ← List.append_assoc service.lost, marks_append,
          split, accounted.events, List.append_assoc]
        rfl
      answered := by
        intro ticket settled
        obtain ⟨before, member, within⟩ := accounted.answered ticket settled
        exact ⟨before, List.mem_append_left _ member, within⟩
      fresh := by
        intro mark member
        rcases List.mem_append.mp member with old | new
        · exact Nat.lt_succ_of_lt (accounted.fresh mark old)
        · rw [List.mem_singleton.mp new]
          exact Nat.lt_succ_self _
      distinct := by
        rw [List.map_append]
        refine List.nodup_append.mpr ⟨accounted.distinct, List.nodup_singleton _, ?_⟩
        intro ticket old other new
        obtain ⟨mark, member, rfl⟩ := List.mem_map.mp old
        rw [List.mem_singleton.mp new]
        exact Nat.ne_of_lt (accounted.fresh mark member)
      emptied := fun idle => absurd serving (service.phase.idle_not_serving idle) }

theorem Accounted.take (accounted : Accounted service) : Accounted service.take := by
  rcases service.take_cases with ⟨same, _⟩ | ⟨parcel, rest, working, none, waiting, same⟩
  · rw [same]
    exact accounted
  · have events := accounted.events
    have barriers := accounted.barriers
    have ahead : service.parcels = [parcel] ++ rest := by
      rw [parcels, none, waiting]
      rfl
    rw [ahead] at events barriers
    rw [same]
    exact { accounted with
      events := events
      barriers := barriers
      hand := Nat.le_refl 1
      emptied := fun idle => absurd (working.symm.trans idle) (by simp) }

theorem Accounted.whole (accounted : Accounted service) (working : service.phase.atWork = true) :
    service.lost = [] := by
  refine accounted.spared fun cut => ?_
  rw [cut] at working
  cases working

-- The head of the rest goes over to what is applied, or its mark to those that are handled.
theorem Accounted.handle (accounted : Accounted service) : Accounted service.handle := by
  rcases service.handle_cases accounted.hand with
    same | ⟨event, working, held, same⟩ | ⟨ticket, working, held, same⟩
  · rw [same]
    exact accounted
  · have whole := accounted.whole working
    have events := accounted.events
    obtain ⟨handled, split, done⟩ := accounted.barriers
    rw [parcels, whole, held] at events split
    have later {before : List ConnectionEvent} (within : before <+: service.applied) :
        before <+: appliedEvents (service.log ++ [.applied event]) := by
      rw [appliedEvents_applied]
      exact within.trans (List.prefix_append _ _)
    rw [same]
    exact { accounted with
      roster := by
        change service.bench.board.roster.apply event = (service.log ++ _).foldl Incident.alter {}
        rw [List.foldl_append, ← accounted.roster]
        rfl
      events := by
        change emittedEvents (service.log ++ [.applied event]) =
          appliedEvents (service.log ++ [.applied event]) ++ carriedEvents (service.lost ++ _)
        rw [emittedEvents_applied, appliedEvents_applied, whole, List.append_assoc]
        exact events
      barriers := by
        refine ⟨handled, ?_, fun mark member => ⟨(done mark member).1, later (done mark member).2⟩⟩
        change service.barriers = handled ++
          marks (appliedEvents (service.log ++ [.applied event])) (service.lost ++ _)
        rw [appliedEvents_applied, whole]
        exact split
      answered := by
        intro ticket settled
        obtain ⟨before, member, within⟩ := accounted.answered ticket settled
        exact ⟨before, member, later within⟩
      hand := Nat.zero_le 1
      emptied := fun idle => absurd (working.symm.trans idle) (by simp) }
  · have whole := accounted.whole working
    have events := accounted.events
    obtain ⟨handled, split, done⟩ := accounted.barriers
    rw [parcels, whole, held] at events split
    rw [same]
    exact { accounted with
      events := by
        change service.accepted = service.applied ++ carriedEvents (service.lost ++ _)
        rw [whole]
        exact events
      barriers := by
        refine ⟨handled ++ [(ticket, service.applied)], ?_, fun mark member => ?_⟩
        · change service.barriers = _ ++ marks service.applied (service.lost ++ _)
          rw [whole, List.append_assoc]
          exact split
        · rcases List.mem_append.mp member with old | new
          · exact ⟨List.mem_append_left _ (done mark old).1, (done mark old).2⟩
          · rw [List.mem_singleton.mp new]
            exact ⟨List.mem_append_right _ (List.mem_singleton_self _), List.prefix_refl _⟩
      answered := by
        intro other settled
        rcases List.mem_append.mp settled with old | new
        · exact accounted.answered other old
        · obtain ⟨rfl, _⟩ := Prod.mk.inj (List.mem_singleton.mp new)
          refine ⟨service.applied, ?_, List.prefix_refl _⟩
          change (other, service.applied) ∈ service.barriers
          rw [split]
          exact List.mem_append_right _ List.mem_cons_self
      hand := Nat.zero_le 1
      emptied := fun idle => absurd (working.symm.trans idle) (by simp) }

theorem Accounted.sealOff (accounted : Accounted service) : Accounted service.sealOff := by
  unfold Service.sealOff
  split
  next ready =>
    have serving : service.phase = .serving :=
      of_decide_eq_true (Bool.and_eq_true_iff.mp (Bool.and_eq_true_iff.mp ready).1).1
    exact { accounted with
      spared := fun _ => accounted.spared (by simp [serving])
      sealed := ⟨by simp, fun _ => rfl⟩
      emptied := by simp [Phase.atWork] }
  next => exact accounted

theorem Accounted.finish (accounted : Accounted service) : Accounted service.finish := by
  unfold Service.finish
  split
  next done =>
    obtain ⟨front, drained⟩ := Bool.and_eq_true_iff.mp done
    obtain ⟨phase, empty⟩ := Bool.and_eq_true_iff.mp front
    have draining : service.phase = .draining := of_decide_eq_true phase
    exact { accounted with
      spared := fun _ => accounted.spared (by simp [draining])
      sealed := ⟨by simp, fun _ => accounted.sealed.mpr (by simp [draining])⟩
      emptied := by
        intro _
        change service.bench.inbox ++ service.bench.board.bridge.queue = []
        rw [List.isEmpty_iff.mp empty, List.isEmpty_iff.mp drained]
        rfl }
  next => exact accounted

-- What was at hand becomes what was lost, so the sum of the two stays what it was.
theorem Accounted.cutOff (accounted : Accounted service) : Accounted service.cutOff := by
  unfold Service.cutOff
  split
  next late =>
    have working := (Bool.and_eq_true_iff.mp late).1
    have whole := accounted.whole working
    have events := accounted.events
    obtain ⟨handled, split, done⟩ := accounted.barriers
    rw [whole] at events split
    let emptied : Bench := { service.bench.settle false service.bench.inbox with inbox := [] }
    have told {ticket : Nat} : (ticket, true) ∈ emptied.close.settled ↔
        (ticket, true) ∈ service.bench.settled := by
      simp [emptied, Bench.close, Bench.settle]
    have same : service.parcels ++ [] = service.parcels := List.append_nil _
    exact { accounted with
      events := by
        change service.accepted = service.applied ++ carriedEvents (service.parcels ++ [])
        rw [same]
        exact events
      barriers := by
        refine ⟨handled, ?_, fun mark member => ?_⟩
        · change service.barriers = handled ++ marks service.applied (service.parcels ++ [])
          rw [same]
          exact split
        · exact ⟨told.mpr (done mark member).1, (done mark member).2⟩
      answered := fun ticket settled => accounted.answered ticket (told.mp settled)
      hand := Nat.zero_le 1
      spared := fun other => absurd rfl other
      sealed := ⟨by simp, fun _ => rfl⟩
      emptied := fun _ => rfl }
  next => exact accounted

theorem Accounted.act (accounted : Accounted service) (next : Act) :
    Accounted (service.act next) := by
  cases next with
  | change change => exact accounted.change change
  | flush => exact accounted.flush
  | take => exact accounted.take
  | handle => exact accounted.handle
  | signal => exact { accounted with }
  | sealOff => exact accounted.sealOff
  | finish => exact accounted.finish
  | cutOff => exact accounted.cutOff

end Acts

theorem accounted_start (capacity : Nat) :
    Accounted { bench := { board := .ofCapacity capacity } } where
  own := Table.own_empty
  roster := rfl
  events := rfl
  barriers := ⟨[], rfl, fun _ member => absurd member List.not_mem_nil⟩
  answered := fun _ settled => absurd settled List.not_mem_nil
  fresh := fun _ member => absurd member List.not_mem_nil
  distinct := List.nodup_nil
  hand := Nat.zero_le 1
  spared := fun _ => rfl
  sealed := ⟨by simp [Board.ofCapacity, Bridge.ofCapacity], fun other => absurd rfl other⟩
  emptied := by simp [Phase.atWork]

theorem ofActs_accounted (capacity : Nat) (acts : List Act) : Accounted (ofActs capacity acts) := by
  suffices played : ∀ service, Accounted service → Accounted (acts.foldl act service) from
    played _ (accounted_start capacity)
  induction acts with
  | nil => exact fun _ accounted => accounted
  | cons next rest ih => exact fun service accounted => ih (service.act next) (accounted.act next)

/-- What is promised of a consumer at any time. -/
structure Delivers (service : Service) : Prop where
  roster : service.bench.board.roster = service.log.foldl Incident.alter {}
  inOrder : service.applied <+: service.accepted
  /-- What is not applied is in the hand or on the bridge, if the consumer was not cut off. -/
  rest : service.accepted = service.applied ++ carriedEvents service.lost ++
    carriedEvents service.bench.inbox ++ service.bench.board.bridge.pending
  spared : service.phase ≠ .cutOff → service.lost = []
  hand : service.bench.inbox.length ≤ 1
  /-- A barrier that is told was queued once, and all that was emitted before is applied. -/
  told : ∀ ticket, (ticket, true) ∈ service.bench.settled →
    ∃ before, (∀ other, (ticket, other) ∈ service.barriers ↔ other = before) ∧
      before <+: service.applied
  ended : service.phase = .ended → service.applied = service.accepted ∧
    ∀ mark ∈ service.barriers, (mark.1, true) ∈ service.bench.settled
  /-- Once the bridge is sealed it answers everybody that it is closed. -/
  closed : service.phase ≠ .serving →
    (∀ event, (service.bench.board.emit event).2 = .refused .bridgeClosed) ∧
      ∀ ticket, (service.bench.board.flush ticket).2 = .refused .bridgeClosed

theorem Accounted.told {service : Service} (accounted : Accounted service) (ticket : Nat)
    (settled : (ticket, true) ∈ service.bench.settled) :
    ∃ before, (∀ other, (ticket, other) ∈ service.barriers ↔ other = before) ∧
      before <+: service.applied := by
  obtain ⟨before, member, within⟩ := accounted.answered ticket settled
  refine ⟨before, fun other => ⟨fun again => ?_, fun same => same ▸ member⟩, within⟩
  exact (Prod.mk.inj (List.inj_on_of_nodup_map accounted.distinct again member rfl)).2

theorem Accounted.ended {service : Service} (accounted : Accounted service)
    (ended : service.phase = .ended) : service.applied = service.accepted ∧
      ∀ mark ∈ service.barriers, (mark.1, true) ∈ service.bench.settled := by
  have nothing : service.lost ++ service.parcels = [] := by
    rw [accounted.spared (by simp [ended]), accounted.emptied (by rw [ended]; rfl)]
    rfl
  obtain ⟨handled, split, done⟩ := accounted.barriers
  have events := accounted.events
  rw [nothing] at events split
  refine ⟨by rw [events]; exact (List.append_nil _).symm, fun mark member => ?_⟩
  rw [split, marks, List.append_nil] at member
  exact (done mark member).1

/-- Events are delivered once and in order, barriers are told in time, and a consumer that ends by
itself leaves nothing behind. -/
theorem delivery (capacity : Nat) (acts : List Act) : Delivers (ofActs capacity acts) := by
  have accounted := ofActs_accounted capacity acts
  generalize ofActs capacity acts = service at accounted
  constructor
  case roster => exact accounted.roster
  case inOrder =>
    rw [accounted.events]
    exact List.prefix_append _ _
  case rest =>
    rw [accounted.events, carriedEvents_append, parcels, carriedEvents_append]
    simp only [List.append_assoc]
    rfl
  case spared => exact accounted.spared
  case hand => exact accounted.hand
  case told => exact accounted.told
  case ended => exact accounted.ended
  case closed =>
    intro late
    have sealed := accounted.sealed.mpr late
    constructor
    · intro event
      simp only [Board.emit, Bridge.send, sealed, ↓reduceIte]
    · intro ticket
      simp only [Board.flush, Bridge.send, sealed, ↓reduceIte]

def lastOrders : List Act :=
  [.change (.saveChannels [{ id := "c" }]), .change (.saveThings [{ id := "t", key := "k" }]),
    .change (.connect "c" ["t"]), .flush, .signal, .sealOff, .take, .handle, .take, .handle,
    .finish]

theorem delivery_lastOrders :
    (ofActs 2 lastOrders).phase = .ended ∧
      (ofActs 2 lastOrders).accepted = [.connect "c" { id := "t", key := "k" }] ∧
      (ofActs 2 lastOrders).applied = (ofActs 2 lastOrders).accepted ∧
      (0, true) ∈ (ofActs 2 lastOrders).bench.settled := by
  have ended : (ofActs 2 lastOrders).phase = .ended := rfl
  obtain ⟨all, told⟩ := (delivery 2 lastOrders).ended ended
  refine ⟨ended, rfl, all, ?_⟩
  exact told (0, [.connect "c" { id := "t", key := "k" }]) (List.mem_singleton_self _)

end Service
end Switchboard
