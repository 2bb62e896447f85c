import Mathlib.Data.Set.Insert
import Switchboard.Event
import Switchboard.Placement
import Switchboard.Proofs.Rows

/-!
Both sides of the connections as sets of links from a channel to a thing. The rows of the two sides
are keyed the opposite way round, yet an event amends both sets alike: `amend` is the set operation
that its name says. Order, rows and the pruning of emptied rows are lost in this view on purpose.
-/
namespace Switchboard

abbrev Links := Set (String × String)

def ConnectionEvent.amend : ConnectionEvent → Links → Links
  | .connect channel thing, links => insert (channel, thing.id) links
  | .disconnect channel thing, links => links \ {(channel, thing.id)}
  | .channelRemoved channel, links => {link ∈ links | link.1 ≠ channel}
  | .void _, links => links

theorem ConnectionEvent.amend_mono (event : ConnectionEvent) {fewer more : Links}
    (within : fewer ⊆ more) : event.amend fewer ⊆ event.amend more := by
  cases event with
  | connect channel thing => exact Set.insert_subset_insert within
  | disconnect channel thing => exact fun link member => ⟨within member.1, member.2⟩
  | channelRemoved channel => exact fun link member => ⟨within member.1, member.2⟩
  | void channel => exact within

/-- An event leaves a gap only where one was, and never at the link that it connects. -/
theorem ConnectionEvent.amend_gap (event : ConnectionEvent) {fewer more : Links}
    {link : String × String} (linked : link ∈ event.amend more)
    (absent : link ∉ event.amend fewer) :
    link ∈ more ∧ link ∉ fewer ∧
      ∀ channel thing, event = .connect channel thing → link ≠ (channel, thing.id) := by
  cases event with
  | connect channel thing =>
      have other : link ≠ (channel, thing.id) := fun same => absent (Or.inl same)
      refine ⟨linked.resolve_left other, fun held => absent (Or.inr held), ?_⟩
      rintro _ _ ⟨rfl, rfl⟩
      exact other
  | disconnect channel thing =>
      exact ⟨linked.1, fun held => absent ⟨held, linked.2⟩, by simp⟩
  | channelRemoved channel =>
      exact ⟨linked.1, fun held => absent ⟨held, linked.2⟩, by simp⟩
  | void channel => exact ⟨linked, absent, by simp⟩

/-! Rows that are keyed by one end of the links and list the other. -/
section Rows

def Listed (rows : List (String × List String)) (key value : String) : Prop :=
  ∃ row ∈ rows, row.1 = key ∧ value ∈ row.2

theorem listed_append (rows : List (String × List String)) (key value k v : String) :
    Listed (rows ++ [(key, [value])]) k v ↔ Listed rows k v ∨ (k = key ∧ v = value) := by
  simp only [Listed, List.mem_append, List.mem_singleton]
  constructor
  · rintro ⟨row, old | rfl, rfl, inside⟩
    · exact Or.inl ⟨row, old, rfl, inside⟩
    · exact Or.inr ⟨rfl, by simpa using inside⟩
  · rintro (⟨row, member, rfl, inside⟩ | ⟨rfl, rfl⟩)
    · exact ⟨row, Or.inl member, rfl, inside⟩
    · exact ⟨_, Or.inr rfl, rfl, by simp⟩

-- The row is there, so the added value has a place to go.
theorem listed_enlist (enlist : List String → List String) (value key : String)
    (rows : List (String × List String))
    (adds : ∀ row v, v ∈ enlist row ↔ v ∈ row ∨ v = value)
    (present : ∃ row ∈ rows, row.1 = key) (k v : String) :
    Listed (rows.map fun row => if row.1 == key then (row.1, enlist row.2) else row) k v ↔
      Listed rows k v ∨ (k = key ∧ v = value) := by
  simp only [Listed, List.mem_map]
  constructor
  · rintro ⟨_, ⟨row, member, rfl⟩, rfl, inside⟩
    by_cases hit : row.1 = key
    · simp only [hit, beq_self_eq_true, ↓reduceIte, adds] at inside ⊢
      rcases inside with old | new
      · exact Or.inl ⟨row, member, hit, old⟩
      · exact Or.inr ⟨trivial, new⟩
    · simp only [hit, beq_iff_eq, ↓reduceIte] at inside ⊢
      exact Or.inl ⟨row, member, rfl, inside⟩
  · rintro (⟨row, member, rfl, inside⟩ | ⟨rfl, rfl⟩)
    · refine ⟨_, ⟨row, member, rfl⟩, ?_, ?_⟩ <;> split
      · rfl
      · rfl
      · exact (adds _ _).mpr (Or.inl inside)
      · exact inside
    · obtain ⟨row, member, hit⟩ := present
      exact ⟨_, ⟨row, member, rfl⟩, by simp [hit], by simp [hit, adds]⟩

-- Dropping the rows that are emptied loses no link: an empty row lists nothing.
theorem listed_withdrawn (chosen : String → Bool) (value : String)
    (rows : List (String × List String)) (k v : String) :
    Listed ((rows.map fun row =>
        if chosen row.1 then (row.1, row.2.filter (· != value)) else row).filter
      fun row => !row.2.isEmpty) k v ↔
      Listed rows k v ∧ ¬ (chosen k = true ∧ v = value) := by
  simp only [Listed, List.mem_filter, List.mem_map]
  constructor
  · rintro ⟨_, ⟨⟨row, member, rfl⟩, _⟩, rfl, inside⟩
    by_cases hit : chosen row.1 = true
    · simp only [hit, ↓reduceIte, List.mem_filter, bne_iff_ne] at inside ⊢
      exact ⟨⟨row, member, rfl, inside.1⟩, fun both => inside.2 both.2⟩
    · simp only [hit, Bool.false_eq_true, ↓reduceIte] at inside ⊢
      exact ⟨⟨row, member, rfl, inside⟩, fun both => both.1⟩
  · rintro ⟨⟨row, member, rfl, inside⟩, other⟩
    have kept : v ∈ (if chosen row.1 then (row.1, row.2.filter (· != value)) else row).2 := by
      by_cases hit : chosen row.1 = true
      · simp only [hit, ↓reduceIte, List.mem_filter, bne_iff_ne]
        exact ⟨inside, fun same => other ⟨hit, same⟩⟩
      · simpa [hit] using inside
    refine ⟨_, ⟨⟨row, member, rfl⟩, ?_⟩, ?_, kept⟩
    · simp only [Bool.not_eq_true', List.isEmpty_eq_false_iff]
      exact List.ne_nil_of_mem kept
    · split <;> rfl

theorem listed_drop (rows : List (String × List String)) (key k v : String) :
    Listed (rows.filter fun row => row.1 != key) k v ↔ Listed rows k v ∧ k ≠ key := by
  simp only [Listed, List.mem_filter, bne_iff_ne]
  constructor
  · rintro ⟨row, ⟨member, other⟩, rfl, inside⟩
    exact ⟨⟨row, member, rfl, inside⟩, other⟩
  · rintro ⟨⟨row, member, rfl, inside⟩, other⟩
    exact ⟨row, ⟨member, other⟩, rfl, inside⟩

theorem keys_changed (chosen : String × List String → Bool) (change : List String → List String)
    (rows : List (String × List String)) :
    (rows.map fun row => if chosen row then (row.1, change row.2) else row).map Prod.fst =
      rows.map Prod.fst := by
  rw [List.map_map]
  apply List.map_congr_left
  intro row _
  by_cases hit : chosen row = true <;> simp [hit]

theorem found_listed {rows : List (String × List String)} {key value : String}
    (member : value ∈ ((rows.find? fun row => row.1 == key).map (·.2)).getD []) :
    Listed rows key value := by
  cases found : rows.find? fun row => row.1 == key with
  | none =>
      rw [found] at member
      exact absurd member List.not_mem_nil
  | some row =>
      rw [found] at member
      obtain ⟨stored, named⟩ := find?_key found
      exact ⟨row, stored, named, member⟩

-- Of several rows with one key a search sees the first only.
theorem found_iff_listed {rows : List (String × List String)}
    (distinct : (rows.map Prod.fst).Nodup) (key value : String) :
    value ∈ ((rows.find? fun row => row.1 == key).map (·.2)).getD [] ↔ Listed rows key value := by
  refine ⟨found_listed, fun ⟨row, stored, named, listed⟩ => ?_⟩
  rw [(find?_key_iff distinct).mpr ⟨stored, named⟩]
  exact listed

theorem keys_added {rows : List (String × List String)} (distinct : (rows.map Prod.fst).Nodup)
    {key : String} (absent : (rows.find? fun row => row.1 == key) = none) (values : List String) :
    ((rows ++ [(key, values)]).map Prod.fst).Nodup := by
  rw [List.map_append]
  refine distinct.append (List.nodup_singleton key) (List.disjoint_singleton.mpr fun member => ?_)
  obtain ⟨row, inside, named⟩ := List.mem_map.mp member
  exact List.find?_eq_none.mp absent row inside (beq_iff_eq.mpr named)

theorem keys_withdrawn {rows : List (String × List String)} (distinct : (rows.map Prod.fst).Nodup)
    (chosen : String → Bool) (value : String) :
    (((rows.map fun row =>
        if chosen row.1 then (row.1, row.2.filter (· != value)) else row).filter
      fun row => !row.2.isEmpty).map Prod.fst).Nodup := by
  refine List.Nodup.sublist (List.filter_sublist.map Prod.fst) ?_
  rw [keys_changed (fun row => chosen row.1) fun values => values.filter (· != value)]
  exact distinct

end Rows

namespace Roster

def links (roster : Roster) : Links := {link | link ∈ roster.pairs}

theorem mem_links (roster : Roster) (channel thing : String) :
    (channel, thing) ∈ roster.links ↔ Listed roster.rows channel thing := by
  simp only [links, pairs, Listed, Set.mem_ofPred_eq, List.mem_flatMap, List.mem_map, Prod.mk.injEq]
  constructor
  · rintro ⟨row, member, _, inside, rfl, rfl⟩
    exact ⟨row, member, rfl, inside⟩
  · rintro ⟨row, member, rfl, inside⟩
    exact ⟨row, member, thing, inside, rfl, rfl⟩

theorem mem_enlist (thing : String) (row : List String) (other : String) :
    other ∈ enlist thing row ↔ other ∈ row ∨ other = thing := by
  unfold enlist
  by_cases there : thing ∈ row
  · simp only [List.contains_iff_mem, there, ↓reduceIte]
    exact ⟨Or.inl, fun either => either.elim id fun same => same ▸ there⟩
  · simp [there]

theorem listed_connect (roster : Roster) (channel thing c t : String) :
    Listed (roster.connect channel thing).rows c t ↔
      Listed roster.rows c t ∨ (c = channel ∧ t = thing) := by
  unfold connect row?
  cases found : roster.rows.find? fun row => row.1 == channel with
  | none => exact listed_append roster.rows channel thing c t
  | some row =>
      exact listed_enlist (enlist thing) thing channel roster.rows (mem_enlist thing)
        ⟨row, List.mem_of_find?_eq_some found, by simpa using List.find?_some found⟩ c t

theorem listed_withdraw (roster : Roster) (chosen : String → Bool) (thing c t : String) :
    Listed (roster.withdraw chosen thing).rows c t ↔
      Listed roster.rows c t ∧ ¬ (chosen c = true ∧ t = thing) :=
  listed_withdrawn chosen thing roster.rows c t

theorem links_dropThing (roster : Roster) (thing : String) :
    (roster.dropThing thing).links = {link ∈ roster.links | link.2 ≠ thing} := by
  ext ⟨c, t⟩
  rw [mem_links]
  change Listed _ c t ↔ (c, t) ∈ roster.links ∧ t ≠ thing
  rw [mem_links, dropThing, listed_withdraw]
  simp

/-- Applying an event is the set operation that it names. -/
theorem links_apply (roster : Roster) (event : ConnectionEvent) :
    (roster.apply event).links = event.amend roster.links := by
  ext ⟨c, t⟩
  cases event with
  | connect channel thing =>
      simp only [apply, ConnectionEvent.amend, Set.mem_insert_iff, Prod.mk.injEq, mem_links]
      rw [listed_connect, or_comm]
  | disconnect channel thing =>
      simp only [apply, ConnectionEvent.amend, Set.mem_sdiff, Set.mem_singleton_iff, Prod.mk.injEq,
        mem_links]
      rw [disconnect, listed_withdraw]
      simp only [beq_iff_eq]
  | channelRemoved channel =>
      change (c, t) ∈ _ ↔ (c, t) ∈ roster.links ∧ c ≠ channel
      rw [mem_links, mem_links]
      exact listed_drop roster.rows channel c t
  | void channel => rfl

end Roster

namespace Placement

def links (placement : Placement) : Links :=
  {link | Connection.mk link.1 link.2 ∈ placement.connections}

def follow (placement : Placement) : ConnectionEvent → Placement
  | .connect channel thing => placement.place channel thing.id
  | .disconnect channel thing => placement.unplace channel thing.id
  | .channelRemoved channel => placement.dropChannel channel
  | .void _ => placement

theorem mem_links (placement : Placement) (channel thing : String) :
    (channel, thing) ∈ placement.links ↔ Listed placement.rows thing channel := by
  simp only [links, connections, Listed, Set.mem_ofPred_eq, List.mem_mergeSort, List.mem_flatMap,
    List.mem_map, Connection.mk.injEq]
  constructor
  · rintro ⟨row, member, _, inside, rfl, rfl⟩
    exact ⟨row, member, rfl, inside⟩
  · rintro ⟨row, member, rfl, inside⟩
    exact ⟨row, member, channel, inside, rfl, rfl⟩

theorem mem_enlist (channel : String) (row : List String) (other : String) :
    other ∈ enlist channel row ↔ other ∈ row ∨ other = channel := by
  induction row with
  | nil => simp [enlist]
  | cons first rest ih =>
      unfold enlist
      split
      next => simp [or_comm]
      next =>
        split
        next same =>
          subst same
          simp only [List.mem_cons]
          exact ⟨Or.inl, fun either => either.elim id Or.inl⟩
        next => simp only [List.mem_cons, ih, or_assoc]

theorem listed_place (placement : Placement) (channel thing t c : String) :
    Listed (placement.place channel thing).rows t c ↔
      Listed placement.rows t c ∨ (t = thing ∧ c = channel) := by
  unfold place row?
  cases found : placement.rows.find? fun row => row.1 == thing with
  | none => exact listed_append placement.rows thing channel t c
  | some row =>
      exact listed_enlist (enlist channel) channel thing placement.rows (mem_enlist channel)
        ⟨row, List.mem_of_find?_eq_some found, by simpa using List.find?_some found⟩ t c

theorem listed_withdraw (placement : Placement) (chosen : String → Bool) (channel t c : String) :
    Listed (placement.withdraw chosen channel).rows t c ↔
      Listed placement.rows t c ∧ ¬ (chosen t = true ∧ c = channel) :=
  listed_withdrawn chosen channel placement.rows t c

/-- Recording an event on the channel side amends its links as applying it amends the roster's. -/
theorem links_follow (placement : Placement) (event : ConnectionEvent) :
    (placement.follow event).links = event.amend placement.links := by
  ext ⟨c, t⟩
  cases event with
  | connect channel thing =>
      simp only [follow, ConnectionEvent.amend, Set.mem_insert_iff, Prod.mk.injEq, mem_links]
      rw [listed_place, or_comm, and_comm]
  | disconnect channel thing =>
      simp only [follow, ConnectionEvent.amend, Set.mem_sdiff, Set.mem_singleton_iff, Prod.mk.injEq,
        mem_links]
      rw [unplace, listed_withdraw, and_comm (a := c = channel)]
      simp only [beq_iff_eq]
  | channelRemoved channel =>
      change (c, t) ∈ _ ↔ (c, t) ∈ placement.links ∧ c ≠ channel
      rw [mem_links, mem_links, follow, dropChannel, listed_withdraw]
      simp
  | void channel => rfl

def Tidy (placement : Placement) : Prop := (placement.rows.map Prod.fst).Nodup

theorem Tidy.place {placement : Placement} (tidy : placement.Tidy) (channel thing : String) :
    (placement.place channel thing).Tidy := by
  unfold Tidy Placement.place row?
  cases found : placement.rows.find? fun row => row.1 == thing with
  | none => exact keys_added tidy found [channel]
  | some _ =>
      change ((placement.rows.map _).map Prod.fst).Nodup
      rw [keys_changed (fun row => row.1 == thing) (enlist channel)]
      exact tidy

theorem Tidy.withdraw {placement : Placement} (tidy : placement.Tidy) (chosen : String → Bool)
    (channel : String) : (placement.withdraw chosen channel).Tidy :=
  keys_withdrawn tidy chosen channel

theorem Tidy.follow {placement : Placement} (tidy : placement.Tidy) (event : ConnectionEvent) :
    (placement.follow event).Tidy := by
  cases event with
  | connect channel thing => exact tidy.place channel thing.id
  | disconnect channel thing => exact tidy.withdraw _ channel
  | channelRemoved channel => exact tidy.withdraw _ channel
  | void channel => exact tidy

theorem channels_linked (placement : Placement) (channel thing : String)
    (member : channel ∈ placement.channels thing) : (channel, thing) ∈ placement.links :=
  (mem_links _ _ _).mpr (found_listed member)

theorem Tidy.mem_channels {placement : Placement} (tidy : placement.Tidy) (channel thing : String) :
    channel ∈ placement.channels thing ↔ (channel, thing) ∈ placement.links :=
  (found_iff_listed tidy thing channel).trans (mem_links _ _ _).symm

theorem Tidy.holds_iff {placement : Placement} (tidy : placement.Tidy) (channel thing : String) :
    placement.holds channel thing = true ↔ (channel, thing) ∈ placement.links := by
  rw [holds, List.contains_iff_mem, tidy.mem_channels]

theorem Tidy.isPlaced_iff {placement : Placement} (tidy : placement.Tidy) (thing : String) :
    placement.isPlaced thing = true ↔ ∃ channel, (channel, thing) ∈ placement.links := by
  simp only [isPlaced, Bool.not_eq_true', List.isEmpty_eq_false_iff_exists_mem, tidy.mem_channels]

end Placement
end Switchboard
