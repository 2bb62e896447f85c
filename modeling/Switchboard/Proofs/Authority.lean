import Switchboard.Proofs.Convergence

/-!
Whom the channel side vouches for. It answers for a channel and a thing as long as the last event
about the two is a connect, and a connect needs a stored thing. Removing the thing is no such event:
nobody tells the channel side, and what is saved under the same identifier later is vouched for
without a connect of its own. The statements below say exactly when the connect is the present
thing's own.
-/
namespace Switchboard

/-- An event that settles whether a thing is connected to a channel. -/
def ConnectionEvent.Concerns (channel thing : String) : ConnectionEvent → Prop
  | .connect other record => other = channel ∧ record.id = thing
  | .disconnect other record => other = channel ∧ record.id = thing
  | .channelRemoved other => other = channel
  | .void _ => False

def Settles (channel thing : String) (incident : Incident) : Prop :=
  ∃ event side, incident = .emitted event side ∧ event.Concerns channel thing

/-- A thing was saved under an identifier and not removed since, whatever was noticed later. -/
def StoredSince (thing : String) (log later : List Incident) : Prop :=
  ∃ earlier, log = earlier ++ .saved thing :: later ∧ .saved thing ∉ later ∧ .removed thing ∉ later

/-- The thing that is stored now was connected to the channel after it was saved. -/
def ConnectedSinceSaved (channel thing : String) (log : List Incident) : Prop :=
  ∃ later, StoredSince thing log later ∧
    ∃ record side, .emitted (.connect channel record) side ∈ later ∧ record.id = thing

/-- The log at the connect that settled a link, and the log since. -/
structure Granted (channel thing : String) (log earlier later : List Incident) : Prop where
  connect : ∃ record side, log = earlier ++ .emitted (.connect channel record) side :: later ∧
    record.id = thing
  unsettled : ∀ incident ∈ later, ¬ Settles channel thing incident
  stored : ∃ since, StoredSince thing earlier since

theorem ConnectionEvent.amend_origin (event : ConnectionEvent) {links : Links}
    {channel thing : String} (linked : (channel, thing) ∈ event.amend links) :
    (∃ record, event = .connect channel record ∧ record.id = thing) ∨
    ((channel, thing) ∈ links ∧ ¬ event.Concerns channel thing) := by
  cases event with
  | connect other record =>
      by_cases same : other = channel ∧ record.id = thing
      · obtain ⟨rfl, rfl⟩ := same
        exact Or.inl ⟨record, rfl, rfl⟩
      · refine Or.inr ⟨linked.resolve_left ?_, same⟩
        rintro ⟨rfl, rfl⟩
        exact same ⟨rfl, rfl⟩
  | disconnect other record =>
      refine Or.inr ⟨linked.1, ?_⟩
      rintro ⟨rfl, rfl⟩
      exact linked.2 rfl
  | channelRemoved other => exact Or.inr ⟨linked.1, fun same => linked.2 same.symm⟩
  | void other => exact Or.inr ⟨linked, id⟩

theorem StoredSince.append {thing : String} {log later news : List Incident}
    (since : StoredSince thing log later) (saved : .saved thing ∉ news)
    (removed : .removed thing ∉ news) : StoredSince thing (log ++ news) (later ++ news) := by
  obtain ⟨earlier, rfl, notSaved, notRemoved⟩ := since
  refine ⟨earlier, by simp, fun member => ?_, fun member => ?_⟩
  · exact (List.mem_append.mp member).elim notSaved saved
  · exact (List.mem_append.mp member).elim notRemoved removed

theorem Granted.append {channel thing : String} {log earlier later news : List Incident}
    (granted : Granted channel thing log earlier later)
    (quiet : ∀ incident ∈ news, ¬ Settles channel thing incident) :
    Granted channel thing (log ++ news) earlier (later ++ news) where
  connect := by
    obtain ⟨record, side, rfl, named⟩ := granted.connect
    exact ⟨record, side, by simp, named⟩
  unsettled incident member :=
    (List.mem_append.mp member).elim (granted.unsettled incident) (quiet incident)
  stored := granted.stored

/-! The invariant: every link of the channel side was granted, and a thing that was not removed
since was not saved again and is still stored. -/

structure Vouched (log : List Incident) (board : Board) : Prop where
  stored : ∀ thing ∈ board.things.ids, ∃ later, StoredSince thing log later
  granted : ∀ channel thing, (channel, thing) ∈ board.placement.links →
    ∃ earlier later, Granted channel thing log earlier later ∧
      (.removed thing ∉ later → .saved thing ∉ later ∧ thing ∈ board.things.ids)

section Steps
variable {log : List Incident} {before : Board}

theorem Vouched.granted_append (vouched : Vouched log before) {channel thing : String}
    (linked : (channel, thing) ∈ before.placement.links) (news : List Incident) (after : Board)
    (quiet : ∀ incident ∈ news, ¬ Settles channel thing incident)
    (still : thing ∈ before.things.ids → .removed thing ∉ news →
      .saved thing ∉ news ∧ thing ∈ after.things.ids) :
    ∃ earlier later, Granted channel thing (log ++ news) earlier later ∧
      (.removed thing ∉ later → .saved thing ∉ later ∧ thing ∈ after.things.ids) := by
  obtain ⟨earlier, later, granted, once⟩ := vouched.granted channel thing linked
  refine ⟨earlier, later ++ news, granted.append quiet, fun stays => ?_⟩
  obtain ⟨notSaved, held⟩ := once fun removed => stays (List.mem_append_left _ removed)
  obtain ⟨unsaved, kept⟩ := still held fun removed => stays (List.mem_append_right _ removed)
  exact ⟨fun member => (List.mem_append.mp member).elim notSaved unsaved, kept⟩

theorem Vouched.kept (vouched : Vouched log before) (after : Board) (fresh : List String)
    (grown : after.things.ids = before.things.ids ++ fresh)
    (unused : ∀ id ∈ fresh, id ∉ before.things.ids)
    (placement : after.placement = before.placement) :
    Vouched (log ++ fresh.map .saved) after where
  stored thing stored := by
    rw [grown] at stored
    by_cases new : thing ∈ fresh
    -- A batch may save many things; the record starts at the last save of this one.
    · obtain ⟨earlier, incident, later, split, rfl, last⟩ := exists_latest (· = .saved thing)
        (fresh.map Incident.saved) ⟨_, List.mem_map.mpr ⟨thing, new, rfl⟩, rfl⟩
      refine ⟨later, log ++ earlier, by rw [split]; simp, fun member => last _ member rfl, ?_⟩
      intro member
      have inside : Incident.removed thing ∈ fresh.map Incident.saved := by
        rw [split]
        exact List.mem_append_right _ (List.mem_cons_of_mem _ member)
      simp at inside
    · obtain ⟨later, since⟩ :=
        vouched.stored thing ((List.mem_append.mp stored).resolve_right new)
      exact ⟨later ++ fresh.map .saved, since.append (by simpa using new) (by simp)⟩
  granted channel thing linked := by
    apply vouched.granted_append (placement ▸ linked)
    · rintro incident member ⟨event, side, rfl, _⟩
      simp at member
    · intro held _
      refine ⟨fun member => ?_, grown ▸ List.mem_append_left _ held⟩
      exact unused thing (by simpa using member) held

theorem Vouched.removed (vouched : Vouched log before) (id : String) (after : Board)
    (things : after.things = before.things.erase id)
    (placement : after.placement = before.placement) :
    Vouched (log ++ [.removed id]) after where
  stored thing stored := by
    rw [things, Table.mem_ids_erase] at stored
    obtain ⟨later, since⟩ := vouched.stored thing stored.1
    exact ⟨later ++ [.removed id], since.append (by simp) (by simpa using stored.2)⟩
  granted channel thing linked := by
    apply vouched.granted_append (placement ▸ linked)
    · rintro incident member ⟨event, side, rfl, _⟩
      simp at member
    · intro held stays
      refine ⟨by simp, ?_⟩
      rw [things, Table.mem_ids_erase]
      exact ⟨held, by simpa using stays⟩

theorem Vouched.emitted (vouched : Vouched log before) (event : ConnectionEvent)
    (allowed : before.Allows event) :
    Vouched (log ++ [.emitted event (before.placement.follow event)]) (before.accept event) where
  stored thing stored := by
    obtain ⟨later, since⟩ := vouched.stored thing stored
    exact ⟨_, since.append (by simp) (by simp)⟩
  granted channel thing linked := by
    replace linked : (channel, thing) ∈ event.amend before.placement.links := by
      rw [← Placement.links_follow]
      exact linked
    -- The link is this event's own, or it is an older one that the event does not concern.
    rcases event.amend_origin linked with ⟨record, rfl, rfl⟩ | ⟨old, apart⟩
    · have held : record.id ∈ before.things.ids := Table.get?_stored _ _ _ allowed.1
      refine ⟨log, [], ⟨⟨record, _, rfl, rfl⟩, by simp, vouched.stored record.id held⟩, fun _ => ?_⟩
      exact ⟨List.not_mem_nil, held⟩
    · apply vouched.granted_append old
      · intro incident member
        rw [List.mem_singleton.mp member]
        rintro ⟨_, _, same, concerns⟩
        cases same
        exact apart concerns
      · exact fun held _ => ⟨by simp, held⟩

theorem Vouched.onward (vouched : Vouched log before) (news : List Incident) (after : Board)
    (arrivals : ∀ incident ∈ news, ∃ event, incident = .applied event)
    (things : after.things = before.things) (placement : after.placement = before.placement) :
    Vouched (log ++ news) after where
  stored thing stored := by
    obtain ⟨later, since⟩ := vouched.stored thing (things ▸ stored)
    refine ⟨later ++ news, since.append (fun member => ?_) fun member => ?_⟩
    · obtain ⟨_, same⟩ := arrivals _ member
      cases same
    · obtain ⟨_, same⟩ := arrivals _ member
      cases same
  granted channel thing linked := by
    apply vouched.granted_append (placement ▸ linked)
    · rintro incident member ⟨_, _, rfl, _⟩
      obtain ⟨_, same⟩ := arrivals _ member
      cases same
    · refine fun held _ => ⟨fun member => ?_, things ▸ held⟩
      obtain ⟨_, same⟩ := arrivals _ member
      cases same

end Steps

theorem vouched_outcome {log news : List Incident} {before after : Board}
    (_ : before.things.Own) (vouched : Vouched log before) (outcome : Outcome before news after) :
    Vouched (log ++ news) after := by
  cases outcome with
  | deed deed =>
      cases deed with
      | kept things channels tally fresh grown unused kept spared =>
          exact vouched.kept _ fresh grown unused rfl
      | removed id stored => exact vouched.removed id _ rfl rfl
      | emitted event allowed unsealed room => exact vouched.emitted event allowed
  | barred ticket unsealed room => exact vouched.onward [] _ (by simp) rfl rfl
  | sealed => exact vouched.onward [] _ (by simp) rfl rfl
  | applied event rest first => exact vouched.onward [.applied event] _ (by simp) rfl rfl
  | passed ticket rest first => exact vouched.onward [] _ (by simp) rfl rfl

theorem ofSteps_vouched (capacity : Nat) (steps : List Step) :
    Vouched (Chronicle.ofSteps capacity steps).log (Chronicle.ofSteps capacity steps).board := by
  refine Chronicle.ofSteps_keeps Vouched (fun capacity => ?_) vouched_outcome capacity steps
  refine ⟨fun thing stored => absurd stored List.not_mem_nil, fun channel thing linked => ?_⟩
  obtain ⟨row, member, _⟩ := (Placement.mem_links _ _ _).mp linked
  exact absurd member List.not_mem_nil

namespace Board

theorem hasThing_linked (board : Board) (channel thing : String)
    (answered : board.hasThing channel thing = .ok ()) :
    (channel, thing) ∈ board.placement.links := by
  rw [hasThing_eq] at answered
  split at answered
  next held => exact board.placement.channels_linked channel thing (List.contains_iff_mem.mp held)
  next => cases answered

theorem connectionByKey_linked (board : Board) (key channel thing : String)
    (answered : board.connectionByKey key = .ok ⟨channel, thing⟩) :
    (channel, thing) ∈ board.placement.links := by
  have listed := (board.connectionByKey_ok key channel thing answered).2
  exact board.placement.channels_linked channel thing listed

theorem connectionByKey_thing (board : Board) (key channel thing : String)
    (answered : board.connectionByKey key = .ok ⟨channel, thing⟩) :
    ∃ record ∈ board.things.records, record.id = thing ∧ record.key = key := by
  have known := (board.connectionByKey_ok key channel thing answered).1
  unfold thingByKey at known
  cases found : board.things.records.find? fun record => record.key == key with
  | none =>
      rw [found] at known
      cases known
  | some record =>
      rw [found] at known
      have keyed : record.key = key := by simpa using List.find?_some found
      exact ⟨record, List.mem_of_find?_eq_some found, Except.ok.inj known, keyed⟩

end Board

theorem StoredSince.suffix {thing : String} {log later : List Incident}
    (since : StoredSince thing log later) : .saved thing :: later <:+ log := by
  obtain ⟨earlier, rfl, _⟩ := since
  exact List.suffix_append earlier _

theorem StoredSince.unique {thing : String} {log one other : List Incident}
    (first : StoredSince thing log one) (second : StoredSince thing log other) : one = other := by
  obtain ⟨_, _, once, _⟩ := id first
  obtain ⟨_, _, again, _⟩ := id second
  rcases List.suffix_or_suffix_of_suffix first.suffix second.suffix with shorter | shorter
  · rcases List.suffix_cons_iff.mp shorter with same | within
    · exact (List.cons.inj same).2
    · exact absurd (within.subset List.mem_cons_self) again
  · rcases List.suffix_cons_iff.mp shorter with same | within
    · exact (List.cons.inj same).2.symm
    · exact absurd (within.subset List.mem_cons_self) once

-- Of the save and the connect the later one decides: a removal lies behind it or it does not.
theorem Granted.connectedSinceSaved_iff {channel thing : String} {log earlier later : List Incident}
    (granted : Granted channel thing log earlier later)
    (once : .removed thing ∉ later → .saved thing ∉ later) :
    ConnectedSinceSaved channel thing log ↔ .removed thing ∉ later := by
  obtain ⟨record, side, split, named⟩ := granted.connect
  constructor
  · rintro ⟨since, stored, other, otherSide, connected, same⟩ removed
    have behind : later <:+ log := ⟨earlier ++ [.emitted (.connect channel record) side], by
      rw [split, List.append_assoc, List.singleton_append]⟩
    have ahead : since <:+ log := (List.suffix_cons _ _).trans stored.suffix
    obtain ⟨_, _, _, notRemoved⟩ := stored
    rcases List.suffix_or_suffix_of_suffix behind ahead with within | within
    · exact notRemoved (within.subset removed)
    · exact granted.unsettled _ (within.subset connected) ⟨_, _, rfl, rfl, same⟩
  · intro stays
    obtain ⟨since, stored⟩ := granted.stored
    have onward : StoredSince thing log
        (since ++ .emitted (.connect channel record) side :: later) :=
      split ▸ stored.append (by simpa using once stays) (by simpa using stays)
    exact ⟨_, onward, record, side, by simp, named⟩

/-- Whoever is vouched for was connected as a stored thing, by the latest event about the link; it
was the thing stored now unless a removal came in between. Whoever is vouched for by a key is stored
with that key. -/
theorem vouched_connected (capacity : Nat) (steps : List Step) (channel thing : String)
    (answered : (Chronicle.ofSteps capacity steps).board.hasThing channel thing = .ok () ∨
      ∃ key, (Chronicle.ofSteps capacity steps).board.connectionByKey key = .ok ⟨channel, thing⟩) :
    (∃ earlier later, Granted channel thing (Chronicle.ofSteps capacity steps).log earlier later ∧
      (ConnectedSinceSaved channel thing (Chronicle.ofSteps capacity steps).log ↔
        .removed thing ∉ later)) ∧
    ∀ key, (Chronicle.ofSteps capacity steps).board.connectionByKey key = .ok ⟨channel, thing⟩ →
      ∃ record ∈ (Chronicle.ofSteps capacity steps).board.things.records,
        record.id = thing ∧ record.key = key := by
  refine ⟨?_, fun key => Board.connectionByKey_thing _ key channel thing⟩
  have linked : (channel, thing) ∈ (Chronicle.ofSteps capacity steps).board.placement.links := by
    rcases answered with answered | ⟨key, answered⟩
    · exact Board.hasThing_linked _ channel thing answered
    · exact Board.connectionByKey_linked _ key channel thing answered
  obtain ⟨earlier, later, granted, once⟩ :=
    (ofSteps_vouched capacity steps).granted channel thing linked
  exact ⟨earlier, later, granted, granted.connectedSinceSaved_iff fun stays => (once stays).1⟩

/-- A thing that takes the identifier of a removed one, which was connected. -/
def successor : List Step :=
  [.change (.saveChannels [{ id := "c" }]), .change (.saveThings [{ id := "t", key := "old" }]),
    .change (.connect "c" ["t"]), .consume, .change (.removeThings ["t"]),
    .change (.saveThings [{ id := "t", key := "new" }])]

/-- A thing that is given the key of another one, which is connected. -/
def namesake : List Step :=
  [.change (.saveChannels [{ id := "c" }]),
    .change (.saveThings [{ id := "t", key := "k" }, { id := "u", key := "own" }]),
    .change (.connect "c" ["t"]), .change (.updateThing { id := "u", key := "k" })]

theorem vouched_connected_successor :
    (Chronicle.ofSteps 1 successor).board.connectionByKey "new" = .ok ⟨"c", "t"⟩ ∧
    (∃ earlier later, Granted "c" "t" (Chronicle.ofSteps 1 successor).log earlier later ∧
      (ConnectedSinceSaved "c" "t" (Chronicle.ofSteps 1 successor).log ↔ .removed "t" ∉ later)) ∧
    ∀ key, (Chronicle.ofSteps 1 successor).board.connectionByKey key = .ok ⟨"c", "t"⟩ →
      ∃ record ∈ (Chronicle.ofSteps 1 successor).board.things.records,
        record.id = "t" ∧ record.key = key :=
  have answered : (Chronicle.ofSteps 1 successor).board.connectionByKey "new" = .ok ⟨"c", "t"⟩ :=
    rfl
  ⟨answered, vouched_connected 1 successor "c" "t" (Or.inr ⟨"new", answered⟩)⟩

/-- Neither a new thing under an old identifier nor a thing with another's key was connected. -/
theorem unconnected_vouched :
    ((Chronicle.ofSteps 1 successor).board.things.get? "t" = some { id := "t", key := "new" } ∧
      (Chronicle.ofSteps 1 successor).board.hasThing "c" "t" = .ok () ∧
      (Chronicle.ofSteps 1 successor).board.connectionByKey "new" = .ok ⟨"c", "t"⟩ ∧
      ¬ ConnectedSinceSaved "c" "t" (Chronicle.ofSteps 1 successor).log) ∧
    ((Chronicle.ofSteps 1 namesake).board.things.get? "u" = some { id := "u", key := "k" } ∧
      (Chronicle.ofSteps 1 namesake).board.connectionByKey "k" = .ok ⟨"c", "t"⟩ ∧
      ¬ ConnectedSinceSaved "c" "u" (Chronicle.ofSteps 1 namesake).log) := by
  refine ⟨⟨rfl, rfl, rfl, ?_⟩, rfl, rfl, ?_⟩
  · rintro ⟨later, stored, record, side, connected, _⟩
    have last : StoredSince "t" (Chronicle.ofSteps 1 successor).log [] :=
      ⟨(Chronicle.ofSteps 1 successor).log.dropLast, rfl, List.not_mem_nil, List.not_mem_nil⟩
    rw [stored.unique last] at connected
    exact absurd connected List.not_mem_nil
  · rintro ⟨later, stored, record, side, connected, named⟩
    have noticed := (List.suffix_cons _ _).trans stored.suffix |>.subset connected
    have logged : (Chronicle.ofSteps 1 namesake).log =
        [.saved "t", .saved "u", .emitted (.connect "c" { id := "t", key := "k" })
          ⟨[("t", ["c"])]⟩] := rfl
    rw [logged] at noticed
    simp at noticed
    simp [noticed] at named

end Switchboard
