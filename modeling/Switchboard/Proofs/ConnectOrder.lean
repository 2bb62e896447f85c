import Mathlib.Order.Lattice.Nat
import Switchboard.Proofs.Agreement
import Switchboard.Proofs.Convergence

/-!
The order of the rows. A thing is connected only where it is not placed, so the link that a connect
event adds is not there when the event is emitted, nor when it is applied: the thing goes to the end
of its row, behind things whose connects were emitted before. All else that happens to a row takes
things out of it. So every row lists its things in the order of their latest connects.
-/
namespace Switchboard

/-- The event at a place connects the thing to the channel. -/
def ConnectsAt (events : List ConnectionEvent) (channel thing : String) (k : Nat) : Prop :=
  ∃ record, events[k]? = some (.connect channel record) ∧ record.id = thing

def Latest (events : List ConnectionEvent) (channel thing : String) (k : Nat) : Prop :=
  IsGreatest {k | ConnectsAt events channel thing k} k

/-- Of the connects of a link that have been applied, the latest was the emission at a place. -/
def LatestConnect (log : List Incident) (channel thing : String) (k : Nat) : Prop :=
  IsGreatest {k | k < (appliedEvents log).length ∧ ConnectsAt (emittedEvents log) channel thing k} k

section Places
variable {events : List ConnectionEvent} {event : ConnectionEvent} {channel thing : String}
  {k : Nat}

theorem ConnectsAt.lt (connects : ConnectsAt events channel thing k) : k < events.length := by
  obtain ⟨record, here, _⟩ := connects
  exact (List.getElem?_eq_some_iff.mp here).1

theorem connectsAt_front (later : List ConnectionEvent) :
    ConnectsAt events channel thing k ↔
      k < events.length ∧ ConnectsAt (events ++ later) channel thing k := by
  constructor
  · intro connects
    have bound := connects.lt
    refine ⟨bound, ?_⟩
    rwa [ConnectsAt, List.getElem?_append_left bound]
  · rintro ⟨bound, connects⟩
    rwa [ConnectsAt, List.getElem?_append_left bound] at connects

theorem connectsAt_append :
    ConnectsAt (events ++ [event]) channel thing k ↔ ConnectsAt events channel thing k ∨
      (k = events.length ∧ ∃ record, event = .connect channel record ∧ record.id = thing) := by
  constructor
  · intro connects
    have bound := connects.lt
    rw [List.length_append, List.length_singleton] at bound
    by_cases old : k < events.length
    · exact Or.inl ((connectsAt_front [event]).mpr ⟨old, connects⟩)
    · have last : k = events.length := by omega
      obtain ⟨record, here, named⟩ := connects
      rw [last, List.getElem?_concat_length, Option.some.injEq] at here
      exact Or.inr ⟨last, record, here, named⟩
  · rintro (old | ⟨rfl, record, rfl, named⟩)
    · exact ((connectsAt_front [event]).mp old).2
    · exact ⟨record, List.getElem?_concat_length, named⟩

theorem Latest.lt (latest : Latest events channel thing k) : k < events.length :=
  ConnectsAt.lt latest.1

theorem latest_append (other : ∀ record, event = .connect channel record → record.id ≠ thing) :
    Latest (events ++ [event]) channel thing k ↔ Latest events channel thing k := by
  have same : {k | ConnectsAt (events ++ [event]) channel thing k} =
      {k | ConnectsAt events channel thing k} := by
    ext k
    refine connectsAt_append.trans ⟨fun either => ?_, Or.inl⟩
    rcases either with old | ⟨_, record, connects, named⟩
    · exact old
    · exact absurd named (other record connects)
  rw [Latest, Latest, same]

theorem latest_last (record : Thing)
    (latest : Latest (events ++ [.connect channel record]) channel record.id k) :
    k = events.length := by
  have last : ConnectsAt (events ++ [.connect channel record]) channel record.id events.length :=
    connectsAt_append.mpr (Or.inr ⟨rfl, record, rfl, rfl⟩)
  have reached := latest.2 last
  have bound := latest.lt
  rw [List.length_append, List.length_singleton] at bound
  omega

theorem latest_of_linked (linked : (channel, thing) ∈ replay events) :
    ∃ k, Latest events channel thing k := by
  obtain ⟨record, member, named⟩ := replay_connected events channel thing linked
  obtain ⟨k, here⟩ := List.mem_iff_getElem?.mp member
  have connected : {k | ConnectsAt events channel thing k}.Nonempty := ⟨k, record, here, named⟩
  have bounded : BddAbove {k | ConnectsAt events channel thing k} :=
    ⟨events.length, fun _ connects => Nat.le_of_lt (ConnectsAt.lt connects)⟩
  exact ⟨_, Nat.sSup_mem connected bounded, fun _ connects => le_csSup bounded connects⟩

end Places

namespace Roster

/-- Every row lists its things in the order of their last connects. -/
def InLine (events : List ConnectionEvent) (roster : Roster) : Prop :=
  ∀ row ∈ roster.rows, row.2.Pairwise fun a b =>
    ∀ i j, Latest events row.1 a i → Latest events row.1 b j → i < j

namespace InLine
variable {roster : Roster} {events : List ConnectionEvent}

theorem shrink (inLine : roster.InLine events) (fewer : Roster)
    (part : ∀ row ∈ fewer.rows, ∃ old ∈ roster.rows, old.1 = row.1 ∧ row.2.Sublist old.2) :
    fewer.InLine events := by
  intro row member
  obtain ⟨old, stored, named, within⟩ := part row member
  rw [← named]
  exact (inLine old stored).sublist within

theorem withdraw (inLine : roster.InLine events) (chosen : String → Bool) (thing : String) :
    (roster.withdraw chosen thing).InLine events := by
  apply inLine.shrink
  intro row member
  obtain ⟨old, stored, rfl⟩ := List.mem_map.mp (List.mem_filter.mp member).1
  refine ⟨old, stored, ?_⟩
  by_cases hit : chosen old.1 = true
  · rw [if_pos hit]
    exact ⟨rfl, List.filter_sublist⟩
  · rw [if_neg hit]
    exact ⟨rfl, .refl _⟩

theorem dropChannel (inLine : roster.InLine events) (channel : String) :
    (roster.dropChannel channel).InLine events :=
  fun row member => inLine row (List.mem_filter.mp member).1

theorem row (inLine : roster.InLine events) (event : ConnectionEvent)
    (row : String × List String) (member : row ∈ roster.rows)
    (other : ∀ thing ∈ row.2, ∀ record, event = .connect row.1 record → record.id ≠ thing) :
    row.2.Pairwise fun a b => ∀ i j, Latest (events ++ [event]) row.1 a i →
      Latest (events ++ [event]) row.1 b j → i < j := by
  apply (inLine row member).imp_of_mem
  intro a b left right order
  simp only [latest_append (other a left), latest_append (other b right)]
  exact order

theorem quiet (inLine : roster.InLine events) (event : ConnectionEvent)
    (quiet : ∀ channel record, event ≠ .connect channel record) :
    roster.InLine (events ++ [event]) := by
  intro row member
  apply inLine.row event row member
  exact fun _ _ record connects => absurd connects (quiet row.1 record)

-- The thing goes to the end of its row, and its last connect is the last of all.
theorem connect (inLine : roster.InLine events) (channel : String) (record : Thing)
    (free : (channel, record.id) ∉ roster.links) :
    (roster.connect channel record.id).InLine (events ++ [.connect channel record]) := by
  have unlisted (row : String × List String) (member : row ∈ roster.rows) :
      channel = row.1 → record.id ∉ row.2 := by
    rintro rfl listed
    exact free ((mem_links roster _ _).mpr ⟨row, member, rfl, listed⟩)
  have old (row : String × List String) (member : row ∈ roster.rows) :=
    inLine.row (.connect channel record) row member (by
      rintro _ listed _ ⟨⟩ rfl
      exact unlisted row member rfl listed)
  intro row member
  unfold Roster.connect at member
  cases found : roster.row? channel with
  | none =>
      rw [found] at member
      rcases List.mem_append.mp member with stored | new
      · exact old row stored
      · rw [List.mem_singleton.mp new]
        exact List.pairwise_singleton _ _
  | some listed =>
      rw [found] at member
      obtain ⟨same, stored, rfl⟩ := List.mem_map.mp member
      by_cases hit : same.1 = channel
      · have new : record.id ∉ same.2 := unlisted same stored hit.symm
        simp only [hit, beq_self_eq_true, ↓reduceIte, enlist, List.contains_iff_mem, new]
        refine List.pairwise_append.mpr ⟨hit ▸ old same stored, List.pairwise_singleton _ _, ?_⟩
        intro a front b back i j earlier later
        rw [List.mem_singleton.mp back] at later
        have different : record.id ≠ a := fun equal => new (equal ▸ front)
        have before : Latest events channel a i :=
          (latest_append fun _ connects => by cases connects; exact different).mp earlier
        exact latest_last record later ▸ before.lt
      · simp only [beq_iff_eq, hit, ↓reduceIte]
        exact old same stored

theorem apply (inLine : roster.InLine events) (event : ConnectionEvent)
    (free : ∀ channel record, event = .connect channel record →
      (channel, record.id) ∉ roster.links) :
    (roster.apply event).InLine (events ++ [event]) := by
  cases event with
  | connect channel record => exact inLine.connect channel record (free channel record rfl)
  | disconnect channel record => exact (inLine.quiet _ (by simp)).withdraw _ record.id
  | channelRemoved channel => exact (inLine.quiet _ (by simp)).dropChannel channel
  | void channel => exact inLine.quiet _ (by simp)

end InLine
end Roster

/-- No link was there when its connect was emitted. -/
def Spaced (events : List ConnectionEvent) : Prop :=
  ∀ k channel record, events[k]? = some (.connect channel record) →
    (channel, record.id) ∉ replay (events.take k)

theorem Spaced.append {events : List ConnectionEvent} (spaced : Spaced events)
    (event : ConnectionEvent)
    (free : ∀ channel record, event = .connect channel record →
      (channel, record.id) ∉ replay events) :
    Spaced (events ++ [event]) := by
  intro k channel record here
  have connects : ConnectsAt (events ++ [event]) channel record.id k := ⟨record, here, rfl⟩
  rcases connectsAt_append.mp connects with old | ⟨rfl, other, rfl, named⟩
  · obtain ⟨before, there, same⟩ := old
    rw [← same, List.take_append_of_le_length (ConnectsAt.lt ⟨before, there, rfl⟩).le]
    exact spaced k channel before there
  · rw [← named, List.take_left]
    exact free channel other rfl

/-- Connects are spaced on the way to the board, and so its rows are in line. -/
structure Lined (log : List Incident) (board : Board) : Prop
    extends Carried log board, Trailing log board, Consistent board where
  spaced : Spaced (emittedEvents log)
  inLine : board.roster.InLine (appliedEvents log)

namespace Lined
variable {log news : List Incident} {before after : Board}

theorem aside (lined : Lined log before) (news : List Incident)
    (aside : ∀ incident ∈ news, Aside incident) :
    Spaced (emittedEvents (log ++ news)) ∧
      before.roster.InLine (appliedEvents (log ++ news)) := by
  rw [emittedEvents_aside log news aside, appliedEvents_aside log news aside]
  exact ⟨lined.spaced, lined.inLine⟩

theorem emitted (lined : Lined log before) (event : ConnectionEvent)
    (allowed : before.Allows event) : Spaced (emittedEvents log ++ [event]) := by
  apply lined.spaced.append
  rintro channel record rfl linked
  rw [← lined.toCarried.links_placement] at linked
  have placed := (lined.tidy.isPlaced_iff record.id).mpr ⟨channel, linked⟩
  exact absurd placed (by simp [allowed.2.2])

-- What is applied is the emission that comes after all that have been applied.
theorem applied (lined : Lined log before) (event : ConnectionEvent) (rest : List Parcel)
    (first : before.bridge.queue = .event event :: rest) :
    (before.roster.apply event).InLine (appliedEvents log ++ [event]) := by
  have emissions : emittedEvents log =
      appliedEvents log ++ event :: rest.filterMap Parcel.event? := by
    rw [lined.pending, Bridge.pending, first]
    rfl
  apply lined.inLine.apply
  rintro channel record rfl linked
  apply lined.spaced (appliedEvents log).length channel record
  · rw [emissions, List.getElem?_append_right (Nat.le_refl _), Nat.sub_self]
    rfl
  · rw [emissions, List.take_left]
    exact lined.within linked

theorem outcome (lined : Lined log before) (outcome : Outcome before news after) :
    Lined (log ++ news) after := by
  suffices kept : Spaced (emittedEvents (log ++ news)) ∧
      after.roster.InLine (appliedEvents (log ++ news)) from
    { carried_outcome lined.toCarried outcome, trailing_outcome lined.toTrailing outcome,
      lined.toConsistent.outcome outcome with spaced := kept.1, inLine := kept.2 }
  cases outcome with
  | deed deed =>
      cases deed with
      | kept things channels tally fresh => exact lined.aside _ (saved_aside fresh)
      | removed id stored =>
          have noted := lined.aside _ (removed_aside id)
          exact ⟨noted.1, noted.2.withdraw _ id⟩
      | emitted event allowed unsealed room =>
          rw [emittedEvents_emitted, appliedEvents_emitted]
          exact ⟨lined.emitted event allowed, lined.inLine⟩
  | barred ticket unsealed room => exact lined.aside _ nothing_aside
  | sealed => exact lined.aside _ nothing_aside
  | applied event rest first =>
      rw [emittedEvents_applied, appliedEvents_applied]
      exact ⟨lined.spaced, lined.applied event rest first⟩
  | passed ticket rest first => exact lined.aside _ nothing_aside

theorem ofSteps (capacity : Nat) (steps : List Step) :
    Lined (Chronicle.ofSteps capacity steps).log (Chronicle.ofSteps capacity steps).board := by
  apply Chronicle.ofSteps_keeps Lined
  · intro capacity
    exact { ofSteps_carried capacity [], ofSteps_trailing capacity [],
      Consistent.empty capacity with
      spaced := fun k channel record here => by cases here
      inLine := fun row member => absurd member List.not_mem_nil }
  · exact fun _ lined done => lined.outcome done

theorem latest_iff (lined : Lined log before) (channel thing : String) (k : Nat) :
    LatestConnect log channel thing k ↔ Latest (appliedEvents log) channel thing k := by
  have same : {k | k < (appliedEvents log).length ∧
      ConnectsAt (emittedEvents log) channel thing k} =
        {k | ConnectsAt (appliedEvents log) channel thing k} := by
    ext k
    rw [lined.pending]
    exact (connectsAt_front before.bridge.pending).symm
  rw [LatestConnect, Latest, same]

theorem things (lined : Lined log before) (channel : String) :
    (before.roster.things channel).Pairwise fun a b =>
      ∃ i j, LatestConnect log channel a i ∧ LatestConnect log channel b j ∧ i < j := by
  simp only [lined.latest_iff]
  unfold Roster.things Roster.row?
  cases found : before.roster.rows.find? fun row => row.1 == channel with
  | none => exact List.Pairwise.nil
  | some row =>
      have member := List.mem_of_find?_eq_some found
      have named : row.1 = channel := by simpa using List.find?_some found
      apply (lined.inLine row member).imp_of_mem
      intro a b left right order
      have latest (thing : String) (listed : thing ∈ row.2) :
          ∃ k, Latest (appliedEvents log) channel thing k :=
        latest_of_linked
          (lined.within ((before.roster.mem_links _ _).mpr ⟨row, member, named, listed⟩))
      obtain ⟨i, first⟩ := latest a left
      obtain ⟨j, second⟩ := latest b right
      subst named
      exact ⟨i, j, first, second, order i j first second⟩

end Lined
end Switchboard
