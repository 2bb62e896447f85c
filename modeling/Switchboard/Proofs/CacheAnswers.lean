import Switchboard.Proofs.Recollection
import Switchboard.Proofs.Rows

/-!
What the caches answer after a history. A key leads to the thing that it was last saved for, until
that thing is removed: a removal goes by the thing and takes all keys that lead to it at that time,
and no others. A channel has the thing of the last step about it, if that was a connect; it makes no
difference which thing a disconnect names.
-/
namespace Switchboard

namespace Lookup

/-- Every name has one text. -/
def Single (lookup : Lookup) : Prop := (lookup.rows.map (·.1)).Nodup

theorem Single.erase {lookup : Lookup} (single : lookup.Single) (name : String) :
    (lookup.erase name).Single :=
  single.sublist (List.filter_sublist.map _)

theorem Single.eraseText {lookup : Lookup} (single : lookup.Single) (text : String) :
    (lookup.eraseText text).Single :=
  single.sublist (List.filter_sublist.map _)

theorem Single.set {lookup : Lookup} (single : lookup.Single) (name text : String) :
    (lookup.set name text).Single := by
  refine List.nodup_cons.mpr ⟨fun again => ?_, single.erase name⟩
  obtain ⟨row, kept, same⟩ := List.mem_map.mp again
  exact bne_iff_ne.mp (List.mem_filter.mp kept).2 same

theorem Single.get?_iff {lookup : Lookup} (single : lookup.Single) (name text : String) :
    lookup.get? name = some text ↔ (name, text) ∈ lookup.rows :=
  find?_value_iff single

theorem Single.get?_eraseText {lookup : Lookup} (single : lookup.Single)
    (text name other : String) :
    (lookup.eraseText text).get? name = some other ↔
      lookup.get? name = some other ∧ other ≠ text := by
  have kept := (Single.eraseText single text).get?_iff name other
  rw [kept, single.get?_iff, Lookup.eraseText, List.mem_filter, bne_iff_ne]

end Lookup

namespace ThingCache

/-- A history saves a key for a thing, and after that neither saves the key again nor removes the
thing. -/
def KeptKey (steps : List ThingCacheStep) (key id : String) : Prop :=
  ∃ earlier later, steps = earlier ++ .save key id :: later ∧
    (∀ other, .save key other ∉ later) ∧ .remove id ∉ later

theorem keptKey_iff (steps : List ThingCacheStep) (key id : String) :
    KeptKey steps key id ↔
      Decided (· = .save key id)
        (fun step => (∃ other, step = .save key other) ∨ step = .remove id) steps := by
  constructor
  · rintro ⟨earlier, later, rfl, saved, removed⟩
    refine ⟨earlier, _, later, rfl, rfl, ?_⟩
    rintro step inside (⟨other, rfl⟩ | rfl)
    · exact saved other inside
    · exact removed inside
  · rintro ⟨earlier, _, later, rfl, rfl, after⟩
    exact ⟨earlier, later, rfl, fun other inside => after _ inside (Or.inl ⟨other, rfl⟩),
      fun inside => after _ inside (Or.inr rfl)⟩

theorem ofSteps_single (steps : List ThingCacheStep) : (ofSteps steps).ids.Single := by
  induction steps using List.reverseRecOn with
  | nil => exact List.nodup_nil
  | append_singleton steps step ih =>
      rw [ofSteps_append]
      cases step with
      | save key id => exact ih.set key id
      | remove id => exact ih.eraseText id
      | saveRole group member role => exact ih
      | removeRole group member => exact ih

theorem perform_ids (cache : ThingCache) (single : cache.ids.Single) (step : ThingCacheStep)
    (key id : String) :
    (cache.perform step).ids.get? key = some id ↔
      step = .save key id ∨
        (¬ ((∃ other, step = .save key other) ∨ step = .remove id) ∧
          cache.ids.get? key = some id) := by
  cases step with
  | save saved thing =>
      rw [perform, save, Lookup.get?_set]
      by_cases same : key = saved
      · subst same
        simp
      · simp [same, Ne.symm same]
  | remove thing =>
      rw [perform, remove, single.get?_eraseText]
      simp [and_comm, eq_comm]
  | saveRole group member role => simp [perform, saveRole]
  | removeRole group member => simp [perform, removeRole]

theorem ids_keptKey (steps : List ThingCacheStep) (key id : String) :
    (ofSteps steps).ids.get? key = some id ↔ KeptKey steps key id := by
  induction steps using List.reverseRecOn with
  | nil => simp [ofSteps, Lookup.get?, KeptKey]
  | append_singleton steps step ih =>
      rw [ofSteps_append, perform_ids _ (ofSteps_single steps), ih, keptKey_iff, keptKey_iff,
        decided_append]

theorem id_ok_iff (cache : ThingCache) (key id : String) :
    cache.id key = .ok id ↔ cache.ids.get? key = some id := by
  unfold ThingCache.id
  cases cache.ids.get? key <;> simp [orNotFound]

theorem id_notFound_iff (cache : ThingCache) (key : String) :
    cache.id key = .error .notFound ↔ ∀ id, cache.id key ≠ .ok id := by
  unfold ThingCache.id
  cases cache.ids.get? key <;> simp [orNotFound]

theorem id_remove (steps : List ThingCacheStep) (key id : String) :
    ((ofSteps steps).id key = .ok id →
      (ofSteps (steps ++ [.remove id])).id key = .error .notFound) ∧
    ((ofSteps steps).id key ≠ .ok id →
      (ofSteps (steps ++ [.remove id])).id key = (ofSteps steps).id key) := by
  have after (other : String) : (ofSteps (steps ++ [.remove id])).ids.get? key = some other ↔
      (ofSteps steps).ids.get? key = some other ∧ other ≠ id := by
    rw [ofSteps_append]
    exact (ofSteps_single steps).get?_eraseText id key other
  rw [id_ok_iff]
  constructor
  · intro led
    rw [id_notFound_iff]
    intro other found
    obtain ⟨before, different⟩ := (after other).mp ((id_ok_iff _ _ _).mp found)
    exact different (Option.some.inj (before.symm.trans led))
  · intro apart
    have same : (ofSteps (steps ++ [.remove id])).ids.get? key = (ofSteps steps).ids.get? key := by
      ext other
      refine (after other).trans ⟨And.left, fun before => ⟨before, ?_⟩⟩
      rintro rfl
      exact apart ((id_ok_iff _ _ _).mpr before)
    rw [ThingCache.id, ThingCache.id, same]

end ThingCache

def ChannelCacheStep.channel : ChannelCacheStep → String
  | .connect channel _ => channel
  | .disconnect channel _ => channel
  | .remove channel => channel

namespace ChannelCache

def ofSteps (steps : List ChannelCacheStep) : ChannelCache := steps.foldl perform {}

theorem ofSteps_append (steps : List ChannelCacheStep) (step : ChannelCacheStep) :
    ofSteps (steps ++ [step]) = (ofSteps steps).perform step := List.foldl_append

def lastAbout? (steps : List ChannelCacheStep) (channel : String) : Option ChannelCacheStep :=
  (steps.filter fun step => step.channel == channel).getLast?

theorem lastAbout?_append (steps : List ChannelCacheStep) (step : ChannelCacheStep)
    (channel : String) :
    lastAbout? (steps ++ [step]) channel =
      if step.channel = channel then some step else lastAbout? steps channel := by
  by_cases about : step.channel = channel <;> simp [lastAbout?, about]

theorem perform_seen (cache : ChannelCache) (step : ChannelCacheStep) (channel thing : String) :
    (cache.perform step).seen.get? channel = some thing ↔
      if step.channel = channel then step = .connect channel thing
      else cache.seen.get? channel = some thing := by
  cases step with
  | connect named other =>
      rw [perform, connect, Lookup.get?_set, ChannelCacheStep.channel]
      by_cases same : named = channel
      · simp [same]
      · simp [same, Ne.symm same]
  | disconnect named other =>
      rw [perform, disconnect, remove, Lookup.get?_erase, ChannelCacheStep.channel]
      by_cases same : named = channel
      · simp [same]
      · simp [same, Ne.symm same]
  | remove named =>
      rw [perform, remove, Lookup.get?_erase, ChannelCacheStep.channel]
      by_cases same : named = channel
      · simp [same]
      · simp [same, Ne.symm same]

theorem hasThing_lastAbout (steps : List ChannelCacheStep) (channel thing : String) :
    (ofSteps steps).hasThing channel thing = true ↔
      lastAbout? steps channel = some (.connect channel thing) := by
  rw [hasThing, beq_iff_eq]
  induction steps using List.reverseRecOn with
  | nil => simp [ofSteps, Lookup.get?, lastAbout?]
  | append_singleton steps step ih =>
      rw [ofSteps_append, perform_seen, lastAbout?_append]
      by_cases about : step.channel = channel
      · simp [about]
      · simpa [about] using ih

end ChannelCache

/-- The thing cache answers for a key with the thing it was last saved for, as long as neither the
key was saved again nor the thing removed, and knows nothing of it otherwise; a removal loses
exactly the keys that lead to the thing at that time. The channel cache has a thing on a channel
exactly if the last step about the channel connected the two. -/
theorem histories_answered (steps : List ThingCacheStep) (visits : List ChannelCacheStep) :
    (∀ key id, (ThingCache.ofSteps steps).id key = .ok id ↔ ThingCache.KeptKey steps key id) ∧
    (∀ key, (ThingCache.ofSteps steps).id key = .error .notFound ↔
      ∀ id, ¬ ThingCache.KeptKey steps key id) ∧
    (∀ key id,
      ((ThingCache.ofSteps steps).id key = .ok id →
        (ThingCache.ofSteps (steps ++ [.remove id])).id key = .error .notFound) ∧
      ((ThingCache.ofSteps steps).id key ≠ .ok id →
        (ThingCache.ofSteps (steps ++ [.remove id])).id key =
          (ThingCache.ofSteps steps).id key)) ∧
    ∀ channel thing, (ChannelCache.ofSteps visits).hasThing channel thing = true ↔
      ChannelCache.lastAbout? visits channel = some (.connect channel thing) := by
  have found (key id : String) :
      (ThingCache.ofSteps steps).id key = .ok id ↔ ThingCache.KeptKey steps key id := by
    rw [ThingCache.id_ok_iff, ThingCache.ids_keptKey]
  refine ⟨found, fun key => ?_, ThingCache.id_remove steps, ChannelCache.hasThing_lastAbout visits⟩
  rw [ThingCache.id_notFound_iff]
  exact forall_congr' fun id => not_congr (found key id)

-- A key that was given to another thing outlives the removal of the first; and a disconnect clears
-- a channel whatever thing it names.
example :
    (ThingCache.ofSteps [.save "k" "a", .save "l" "a", .save "k" "b", .remove "a"]).ids.rows =
        [("k", "b")] ∧
      (ChannelCache.ofSteps [.connect "c" "t", .disconnect "c" "u"]).hasThing "c" "t" = false := by
  decide

end Switchboard
