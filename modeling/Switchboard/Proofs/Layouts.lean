import Switchboard.Json.Fields
import Switchboard.Json.Layout

/-!
Fields in their order against fields by their names. A layout takes the fields of an object one
after another, and each of them changes a draft. In an object that gives every known name at most
once the order does not matter: if a draft is told by the names that were seen, and every slot takes
the draft of the names before it to the draft with its own, then the reading succeeds with the draft
of all known names that are there.
-/
namespace Switchboard.Json

/-- The names are text, the known ones do not repeat, and nothing is broken. -/
structure Legible (known : List String) (fields : List (Option String × Datum))
    (names : List String) : Prop where
  named : namesOf? fields = some names
  once : ∀ name ∈ known, names.count name ≤ 1
  whole : Datum.fieldsAreWhole fields = true

theorem namesOf?_cons (name : Option String) (datum : Datum)
    (rest : List (Option String × Datum)) :
    namesOf? ((name, datum) :: rest) = name.bind fun first => (namesOf? rest).map (first :: ·) := by
  cases name with
  | none => rfl
  | some first => cases named : rest.mapM (·.1) <;> simp [namesOf?, named]

theorem mem_of_lookup? {name : String} {datum : Datum} {fields : List (Option String × Datum)}
    (found : lookup? name fields = some datum) : (some name, datum) ∈ fields := by
  obtain ⟨⟨given, _⟩, first, rfl⟩ := Option.map_eq_some_iff.mp found
  have hit : given = some name := by simpa using List.find?_some first
  exact hit ▸ List.mem_of_find?_eq_some first

namespace Legible
variable {known : List String}

theorem head {name : Option String} {datum : Datum} {rest : List (Option String × Datum)}
    {names : List String} (legible : Legible known ((name, datum) :: rest) names) :
    ∃ first others, name = some first ∧ names = first :: others ∧ datum.isWhole = true ∧
      Legible known rest others := by
  have named := legible.named
  have whole := legible.whole
  rw [namesOf?_cons, Option.bind_eq_some_iff] at named
  obtain ⟨first, rfl, named⟩ := named
  obtain ⟨others, later, rfl⟩ := Option.map_eq_some_iff.mp named
  rw [Datum.fieldsAreWhole, Bool.and_eq_true] at whole
  refine ⟨first, others, rfl, rfl, whole.1, later, fun other member => ?_, whole.2⟩
  exact Nat.le_trans List.count_le_count_cons (legible.once other member)

theorem mem_names {fields : List (Option String × Datum)} {names : List String}
    (legible : Legible known fields names) {name : String} {datum : Datum}
    (there : (some name, datum) ∈ fields) : name ∈ names := by
  induction fields generalizing names with
  | nil => cases there
  | cons field rest ih =>
      obtain ⟨first, others, named, rfl, _, later⟩ := legible.head
      rcases List.mem_cons.mp there with rfl | inside
      · cases named
        exact List.mem_cons_self
      · exact List.mem_cons_of_mem _ (ih later inside)

theorem lookup?_mem {fields : List (Option String × Datum)} {names : List String}
    (legible : Legible known fields names) {name : String} {datum : Datum} (member : name ∈ known)
    (there : (some name, datum) ∈ fields) : lookup? name fields = some datum := by
  induction fields generalizing names with
  | nil => cases there
  | cons field rest ih =>
      obtain ⟨first, others, named, rfl, _, later⟩ := legible.head
      have once := legible.once name member
      rw [lookup?, List.find?_cons]
      rcases List.mem_cons.mp there with rfl | inside
      · simp
      · have again : 0 < others.count name := List.count_pos_iff.mpr (later.mem_names inside)
        have other : first ≠ name := by
          rintro rfl
          rw [List.count_cons_self] at once
          omega
        simp only [named, Option.some.injEq, other, decide_false]
        exact ih later inside

theorem lookup?_isSome {fields : List (Option String × Datum)} {names : List String}
    (legible : Legible known fields names) {name : String} (there : name ∈ names) :
    (lookup? name fields).isSome = true := by
  induction fields generalizing names with
  | nil =>
      have nothing : names = [] := (Option.some.inj legible.named).symm
      rw [nothing] at there
      cases there
  | cons field rest ih =>
      obtain ⟨first, others, named, rfl, _, later⟩ := legible.head
      rw [lookup?, List.find?_cons]
      by_cases hit : first = name
      · simp [named, hit]
      · simp only [named, Option.some.injEq, hit, decide_false]
        exact ih later ((List.mem_cons.mp there).resolve_left (Ne.symm hit))

end Legible

namespace Layout
variable {ε σ : Type} {layout : Layout ε σ}

theorem slot?_some {name : String} {slot : Slot ε σ} (found : layout.slot? name = some slot) :
    slot ∈ layout.slots ∧ slot.name = name :=
  ⟨List.mem_of_find?_eq_some found, by simpa using List.find?_some found⟩

theorem slot?_none {name : String} (missing : layout.slot? name = none) :
    ∀ slot ∈ layout.slots, slot.name ≠ name := by
  simpa [slot?] using missing

-- By the fields; the names in front of them are seen, and no known one of these is seen again.
theorem named_ok (layout : Layout ε σ) (draft : List String → σ)
    (fields : List (Option String × Datum)) (names seen : List String)
    (legible : Legible (layout.slots.map Slot.name) fields names)
    (apart : ∀ name ∈ seen, name ∉ names)
    (takes : ∀ slot ∈ layout.slots, ∀ datum, (some slot.name, datum) ∈ fields →
      ∀ seen, slot.take datum (draft seen) = .ok (draft (slot.name :: seen)))
    (required : ∀ slot ∈ layout.slots, slot.required = true →
      slot.name ∈ seen ∨ slot.name ∈ names) :
    ∃ final, layout.named seen fields (draft seen) = .ok (draft final) ∧
      ∀ slot ∈ layout.slots, slot.name ∈ seen ∨ slot.name ∈ names → slot.name ∈ final := by
  induction fields generalizing names seen with
  | nil =>
      have nothing : names = [] := (Option.some.inj legible.named).symm
      subst nothing
      refine ⟨seen, ?_, fun slot member there => by simpa using there⟩
      have complete : (layout.slots.all fun slot =>
          !slot.required || seen.contains slot.name) = true := by
        rw [List.all_eq_true]
        intro slot member
        by_cases needed : slot.required = true
        · simpa [needed] using required slot member needed
        · simp [needed]
      rw [named, if_pos complete]
  | cons field rest ih =>
      obtain ⟨name, datum⟩ := field
      obtain ⟨first, others, rfl, rfl, whole, later⟩ := legible.head
      have takesLater : ∀ slot ∈ layout.slots, ∀ datum, (some slot.name, datum) ∈ rest →
          ∀ seen, slot.take datum (draft seen) = .ok (draft (slot.name :: seen)) :=
        fun slot member datum there => takes slot member datum (List.mem_cons_of_mem _ there)
      rw [named]
      cases found : layout.slot? first with
      | none =>
          have unknown {slot : Slot ε σ} (member : slot ∈ layout.slots)
              (there : slot.name ∈ seen ∨ slot.name ∈ first :: others) :
              slot.name ∈ seen ∨ slot.name ∈ others := by
            simpa [slot?_none found slot member] using there
          obtain ⟨final, done, all⟩ := ih others seen later
            (fun name before after => apart name before (List.mem_cons_of_mem _ after)) takesLater
            fun slot member needed => unknown member (required slot member needed)
          simp only [whole, ↓reduceIte]
          exact ⟨final, done, fun slot member there => all slot member (unknown member there)⟩
      | some slot =>
          obtain ⟨known, rfl⟩ := slot?_some found
          have fresh : seen.contains slot.name = false := by
            simpa using fun before => apart slot.name before List.mem_cons_self
          have once : slot.name ∉ others := by
            have count := legible.once slot.name (List.mem_map_of_mem known)
            rw [List.count_cons_self] at count
            exact List.count_eq_zero.mp (by omega)
          have shift {other : String} :
              other ∈ slot.name :: seen ∨ other ∈ others ↔
                other ∈ seen ∨ other ∈ slot.name :: others := by
            simp only [List.mem_cons, or_assoc, or_left_comm]
          obtain ⟨final, done, all⟩ := ih others (slot.name :: seen) later
            (by
              intro name before after
              rcases List.mem_cons.mp before with rfl | earlier
              · exact once after
              · exact apart name earlier (List.mem_cons_of_mem _ after))
            takesLater fun slot member needed => shift.mpr (required slot member needed)
          simp only [fresh, takes slot known datum List.mem_cons_self seen, Bool.false_eq_true,
            ↓reduceIte]
          exact ⟨final, done, fun slot member there => all slot member (shift.mpr there)⟩

theorem read_ok (layout : Layout ε σ) (draft : List String → σ) (result : σ)
    {fields : List (Option String × Datum)} {names : List String}
    (legible : Legible (layout.slots.map Slot.name) fields names)
    (takes : ∀ slot ∈ layout.slots, ∀ datum, (some slot.name, datum) ∈ fields →
      ∀ seen, slot.take datum (draft seen) = .ok (draft (slot.name :: seen)))
    (required : ∀ slot ∈ layout.slots, slot.required = true → slot.name ∈ names)
    (finished : ∀ final, (∀ name ∈ layout.slots.map Slot.name, name ∈ names → name ∈ final) →
      draft final = result) :
    layout.read (draft []) (.object fields) = .ok result := by
  obtain ⟨final, done, all⟩ := layout.named_ok draft fields names [] legible
    (fun _ member => absurd member List.not_mem_nil) takes
    fun slot member needed => Or.inr (required slot member needed)
  have complete : draft final = result := by
    apply finished
    intro name known there
    obtain ⟨slot, member, rfl⟩ := List.mem_map.mp known
    exact all slot member (Or.inr there)
  rw [← complete]
  exact done

end Layout
end Switchboard.Json
