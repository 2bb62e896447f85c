import Mathlib.Data.List.Nodup

/-!
Rows that are looked for by a key. A search stops at the first row with the key; where no two rows
have one key, that row is the only one. A change to the rows of one key, in place or by dropping
them, is seen by the searches for that key alone.
-/
namespace Switchboard

section Keyed
variable {Row : Type} {key : Row → String} {rows : List Row} {wanted : String} {row : Row}

theorem find?_key (found : (rows.find? fun row => key row == wanted) = some row) :
    row ∈ rows ∧ key row = wanted := by
  have hit := List.find?_some found
  exact ⟨List.mem_of_find?_eq_some found, beq_iff_eq.mp hit⟩

theorem find?_key_iff (apart : (rows.map key).Nodup) :
    (rows.find? fun row => key row == wanted) = some row ↔ row ∈ rows ∧ key row = wanted := by
  refine ⟨find?_key, fun ⟨member, keyed⟩ => ?_⟩
  cases found : rows.find? fun row => key row == wanted with
  | none => exact absurd (beq_iff_eq.mpr keyed) (List.find?_eq_none.mp found row member)
  | some first =>
      obtain ⟨inside, hit⟩ := find?_key found
      rw [List.inj_on_of_nodup_map apart inside member (hit.trans keyed.symm)]

end Keyed

section Valued
variable {Value : Type} {rows : List (String × Value)} {wanted : String} {value : Value}

theorem find?_value (found : (rows.find? fun row => row.1 == wanted).map (·.2) = some value) :
    (wanted, value) ∈ rows := by
  obtain ⟨row, first, rfl⟩ := Option.map_eq_some_iff.mp found
  obtain ⟨member, rfl⟩ := find?_key first
  exact member

theorem find?_value_iff (apart : (rows.map (·.1)).Nodup) :
    (rows.find? fun row => row.1 == wanted).map (·.2) = some value ↔ (wanted, value) ∈ rows := by
  refine ⟨find?_value, fun member => ?_⟩
  rw [(find?_key_iff apart).mpr ⟨member, rfl⟩]
  rfl

theorem find?_value_changed (rows : List (String × Value)) (name wanted : String)
    (change : Value → Value) :
    ((rows.map fun row => if row.1 == name then (row.1, change row.2) else row).find?
        fun row => row.1 == wanted).map (·.2) =
      if wanted = name then ((rows.find? fun row => row.1 == wanted).map (·.2)).map change
      else (rows.find? fun row => row.1 == wanted).map (·.2) := by
  induction rows with
  | nil => simp
  | cons row rest ih =>
      by_cases hit : row.1 = wanted
      · by_cases changed : wanted = name
        · simp [hit, changed]
        · simp [hit, changed]
      · by_cases changed : row.1 = name
        · have missed : name ≠ wanted := fun same => hit (changed.trans same)
          simpa [hit, changed, missed] using ih
        · simpa [hit, changed] using ih

theorem find?_value_dropped (rows : List (String × Value)) (name wanted : String) :
    ((rows.filter fun row => row.1 != name).find? fun row => row.1 == wanted).map (·.2) =
      if wanted = name then none else (rows.find? fun row => row.1 == wanted).map (·.2) := by
  rw [List.find?_filter]
  by_cases same : wanted = name
  · rw [if_pos same, Option.map_eq_none_iff, List.find?_eq_none]
    simp [same]
  · rw [if_neg same]
    congr 2
    funext row
    by_cases hit : row.1 = wanted <;> simp [hit, same]

end Valued
end Switchboard
