import Mathlib.Data.List.Basic
import Mathlib.Data.List.Induction
import Switchboard.Cache
import Switchboard.Proofs.Rows

/-!
What the caches remember of their histories. A role is kept under its group and member joined by a
colon, so what is found is the last role saved under the joined name. That is the last one saved for
the member in the group as long as no other pair of the history is joined to the same name, as it is
where no group has a colon in it; a group with a colon can lend its roles to strangers.
-/
namespace Switchboard

namespace Lookup

theorem get?_erase (lookup : Lookup) (name other : String) :
    (lookup.erase name).get? other = if other = name then none else lookup.get? other :=
  find?_value_dropped lookup.rows name other

theorem get?_set (lookup : Lookup) (name text other : String) :
    (lookup.set name text).get? other = if other = name then some text else lookup.get? other := by
  by_cases same : other = name
  · simp [set, get?, same]
  · have kept := lookup.get?_erase name other
    rw [if_neg same] at kept
    simpa [set, get?, same, Ne.symm same] using kept

end Lookup

/-- A history has a step that decides, and none after it that bears on the matter. -/
def Decided {α : Type} (decides bears : α → Prop) (steps : List α) : Prop :=
  ∃ earlier step later, steps = earlier ++ step :: later ∧ decides step ∧
    ∀ other ∈ later, ¬ bears other

theorem decided_append {α : Type} (decides bears : α → Prop) (steps : List α) (step : α) :
    Decided decides bears (steps ++ [step]) ↔
      decides step ∨ (¬ bears step ∧ Decided decides bears steps) := by
  constructor
  · rintro ⟨earlier, decisive, later, same, hit, after⟩
    induction later using List.reverseRecOn with
    | nil =>
        obtain ⟨_, last⟩ := List.append_inj' same rfl
        exact Or.inl (List.singleton_inj.mp last ▸ hit)
    | append_singleton later last _ =>
        rw [← List.cons_append, ← List.append_assoc] at same
        obtain ⟨front, back⟩ := List.append_inj' same rfl
        refine Or.inr ⟨?_, earlier, decisive, later, front, hit, fun other inside => ?_⟩
        · rw [List.singleton_inj.mp back]
          exact after last (by simp)
        · exact after other (List.mem_append_left _ inside)
  · rintro (hit | ⟨aside, earlier, decisive, later, rfl, hit, after⟩)
    · exact ⟨steps, step, [], rfl, hit, fun _ inside => absurd inside List.not_mem_nil⟩
    · refine ⟨earlier, decisive, later ++ [step], by simp, hit, fun other inside => ?_⟩
      rcases List.mem_append.mp inside with old | new
      · exact after other old
      · exact List.mem_singleton.mp new ▸ aside

def ThingCacheStep.member? : ThingCacheStep → Option (String × String)
  | .saveRole group member _ => some (group, member)
  | .removeRole group member => some (group, member)
  | .save _ _ => none
  | .remove _ => none

def ThingCacheStep.roleName? (step : ThingCacheStep) : Option String :=
  step.member?.map fun pair => ThingCache.roleName pair.1 pair.2

namespace ThingCache

def ofSteps (steps : List ThingCacheStep) : ThingCache := steps.foldl perform {}

theorem ofSteps_append (steps : List ThingCacheStep) (step : ThingCacheStep) :
    ofSteps (steps ++ [step]) = (ofSteps steps).perform step := List.foldl_append

-- A step leaves alone every role that it does not name.
theorem perform_other (cache : ThingCache) (step : ThingCacheStep) (name : String)
    (other : step.roleName? ≠ some name) :
    (cache.perform step).roles.get? name = cache.roles.get? name := by
  cases step with
  | save key id => rfl
  | remove id => rfl
  | saveRole group member role =>
      have different : name ≠ roleName group member := fun same => other (congrArg some same.symm)
      exact (Lookup.get?_set _ _ _ _).trans (if_neg different)
  | removeRole group member =>
      have different : name ≠ roleName group member := fun same => other (congrArg some same.symm)
      exact (Lookup.get?_erase _ _ _).trans (if_neg different)

/-- A history saves a role under a name, and nothing after that names it. -/
def LastNamed (steps : List ThingCacheStep) (name role : String) : Prop :=
  ∃ earlier group member later, steps = earlier ++ .saveRole group member role :: later ∧
    roleName group member = name ∧ ∀ step ∈ later, step.roleName? ≠ some name

theorem lastNamed_iff (steps : List ThingCacheStep) (name role : String) :
    LastNamed steps name role ↔
      Decided (fun step => ∃ group member, step = .saveRole group member role ∧
        roleName group member = name) (fun step => step.roleName? = some name) steps := by
  constructor
  · rintro ⟨earlier, group, member, later, rfl, named, after⟩
    exact ⟨earlier, _, later, rfl, ⟨group, member, rfl, named⟩, after⟩
  · rintro ⟨earlier, _, later, rfl, ⟨group, member, rfl, named⟩, after⟩
    exact ⟨earlier, group, member, later, rfl, named, after⟩

theorem lastNamed_append (steps : List ThingCacheStep) (step : ThingCacheStep)
    (name role : String) :
    LastNamed (steps ++ [step]) name role ↔
      (∃ group member, step = .saveRole group member role ∧ roleName group member = name) ∨
      (step.roleName? ≠ some name ∧ LastNamed steps name role) := by
  rw [lastNamed_iff, decided_append, ← lastNamed_iff]

/-- The role under a name is the last one that was saved under it. -/
theorem roles_lastNamed (steps : List ThingCacheStep) (name role : String) :
    (ofSteps steps).roles.get? name = some role ↔ LastNamed steps name role := by
  induction steps using List.reverseRecOn with
  | nil => simp [ofSteps, Lookup.get?, LastNamed]
  | append_singleton steps step ih =>
      rw [ofSteps_append, lastNamed_append, ← ih]
      by_cases named : step.roleName? = some name
      · cases step with
        | save key id => cases named
        | remove id => cases named
        | saveRole group member text =>
            obtain rfl : roleName group member = name := Option.some.inj named
            have found := Lookup.get?_set (ofSteps steps).roles (roleName group member) text
              (roleName group member)
            rw [if_pos rfl] at found
            simp [perform, saveRole, found, named]
        | removeRole group member =>
            obtain rfl : roleName group member = name := Option.some.inj named
            have lost := Lookup.get?_erase (ofSteps steps).roles (roleName group member)
              (roleName group member)
            rw [if_pos rfl] at lost
            simp [perform, removeRole, lost, named]
      · rw [perform_other _ _ _ named]
        have saves : ¬ ∃ group member, step = .saveRole group member role ∧
            roleName group member = name := by
          rintro ⟨group, member, rfl, same⟩
          exact named (congrArg some same)
        simp [saves, named]

/-- A history saves a role for a member in a group, and nothing after that is about the two. -/
def LastSaved (steps : List ThingCacheStep) (group member role : String) : Prop :=
  ∃ earlier later, steps = earlier ++ .saveRole group member role :: later ∧
    ∀ step ∈ later, step.member? ≠ some (group, member)

/-- No other group and member of a history are joined to the name of these. -/
def Apart (steps : List ThingCacheStep) (group member : String) : Prop :=
  ∀ step ∈ steps, ∀ pair, step.member? = some pair →
    roleName pair.1 pair.2 = roleName group member → pair = (group, member)

theorem Apart.roleName?_iff {steps : List ThingCacheStep} {group member : String}
    (apart : Apart steps group member) {step : ThingCacheStep} (inside : step ∈ steps) :
    step.roleName? = some (roleName group member) ↔ step.member? = some (group, member) := by
  constructor
  · intro named
    obtain ⟨pair, about, same⟩ := Option.map_eq_some_iff.mp named
    rw [about, apart step inside pair about same]
  · intro about
    rw [ThingCacheStep.roleName?, about, Option.map_some]

theorem Apart.lastNamed_iff {steps : List ThingCacheStep} {group member : String}
    (apart : Apart steps group member) (role : String) :
    LastNamed steps (roleName group member) role ↔ LastSaved steps group member role := by
  constructor
  · rintro ⟨earlier, first, second, later, rfl, named, after⟩
    obtain ⟨rfl, rfl⟩ : first = group ∧ second = member := by
      have same := apart (.saveRole first second role) (by simp) (first, second) rfl named
      exact ⟨congrArg Prod.fst same, congrArg Prod.snd same⟩
    refine ⟨earlier, later, rfl, fun step inside about => after step inside ?_⟩
    exact (apart.roleName?_iff (by simp [inside])).mpr about
  · rintro ⟨earlier, later, rfl, after⟩
    refine ⟨earlier, group, member, later, rfl, rfl, fun step inside named => after step inside ?_⟩
    exact (apart.roleName?_iff (by simp [inside])).mp named

/-- As long as no other pair of the history is joined to the name of a member in a group, the role
found for the two is the last one saved for them, and none where there is none. -/
theorem role_lastSaved (steps : List ThingCacheStep) (group member : String)
    (apart : Apart steps group member) :
    (∀ role, (ofSteps steps).role group member = .ok role ↔ LastSaved steps group member role) ∧
    ((¬ ∃ role, LastSaved steps group member role) →
      (ofSteps steps).role group member = .error .notFound) := by
  have found (role : String) : (ofSteps steps).roles.get? (roleName group member) = some role ↔
      LastSaved steps group member role :=
    (roles_lastNamed steps _ role).trans (apart.lastNamed_iff role)
  unfold ThingCache.role
  cases kept : (ofSteps steps).roles.get? (roleName group member) with
  | none =>
      have nothing : ¬ ∃ role, LastSaved steps group member role := by
        rintro ⟨role, saved⟩
        exact absurd ((found role).mpr saved) (by simp [kept])
      refine ⟨fun role => ?_, fun _ => rfl⟩
      exact iff_of_false (fun answer => nomatch answer) fun saved => nothing ⟨role, saved⟩
  | some text =>
      refine ⟨fun role => ?_, fun nothing => absurd ⟨text, (found text).mp kept⟩ nothing⟩
      rw [← found role, kept]
      simp [orNotFound]

-- Groups without a colon keep names apart.
theorem roleName_injective {first second : String} (plain : ':' ∉ first.toList)
    (plainToo : ':' ∉ second.toList) {one other : String}
    (same : roleName first one = roleName second other) : first = second ∧ one = other := by
  have joined : first.toList ++ ':' :: one.toList = second.toList ++ ':' :: other.toList := by
    simpa [roleName] using congrArg String.toList same
  have before {cs rest : List Char} (plain : ':' ∉ cs) :
      (cs ++ ':' :: rest).takeWhile (· != ':') = cs := by
    have differs : ∀ c ∈ cs, (c != ':') = true :=
      fun c inside => bne_iff_ne.mpr fun hit => plain (hit ▸ inside)
    rw [List.takeWhile_append_of_pos differs]
    simp
  have front : first.toList = second.toList := by
    rw [← before plain, joined, before plainToo]
  rw [front, List.append_cancel_left_eq, List.cons.injEq] at joined
  exact ⟨String.toList_inj.mp front, String.toList_inj.mp joined.2⟩

theorem apart_of_plain (steps : List ThingCacheStep) (group member : String)
    (plain : ':' ∉ group.toList)
    (allPlain : ∀ step ∈ steps, ∀ pair, step.member? = some pair → ':' ∉ pair.1.toList) :
    Apart steps group member := by
  intro step inside pair about same
  obtain ⟨front, back⟩ := roleName_injective (allPlain step inside pair about) plain same
  exact Prod.ext front back

/-- A role saved in the group `a:b` is found in the group `a`, for a member of whom the history says
nothing. -/
theorem role_of_stranger :
    let steps := [ThingCacheStep.saveRole "a:b" "c" "admin"]
    (ofSteps steps).role "a" "b:c" = .ok "admin" ∧
      ∀ step ∈ steps, step.member? ≠ some ("a", "b:c") := by
  decide

end ThingCache
end Switchboard
