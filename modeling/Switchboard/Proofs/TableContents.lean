import Switchboard.Proofs.Rows
import Switchboard.Table

/-!
Which identifiers a table holds after each operation. An entry is found under the identifier of its
record as long as every operation stores records under their own; `Own` says so and is kept by
storing, replacing, changing in place and erasing alike.
-/
namespace Switchboard.Table

variable {α : Type}

theorem contains_iff (table : Table α) (id : String) :
    table.contains id = true ↔ id ∈ table.ids := by
  simp [contains]

theorem contains_false_iff (table : Table α) (id : String) :
    table.contains id = false ↔ id ∉ table.ids := by
  rw [← contains_iff, Bool.not_eq_true]

theorem get?_mem (table : Table α) (id : String) (record : α)
    (found : table.get? id = some record) : (id, record) ∈ table.entries :=
  find?_value found

theorem get?_eq_none_iff (table : Table α) (id : String) :
    table.get? id = none ↔ id ∉ table.ids := by
  simp only [get?, ids, Option.map_eq_none_iff, List.find?_eq_none, beq_iff_eq, List.mem_map,
    not_exists, not_and]

theorem get?_stored (table : Table α) (id : String) (record : α)
    (found : table.get? id = some record) : id ∈ table.ids :=
  List.mem_map.mpr ⟨(id, record), get?_mem table id record found, rfl⟩

theorem retrieve_ok_iff (table : Table α) (id : String) (record : α) :
    table.retrieve id = .ok record ↔ table.get? id = some record := by
  unfold retrieve
  cases table.get? id <;> simp

theorem ids_modify (table : Table α) (id : String) (change : α → α) :
    (table.modify id change).ids = table.ids := by
  simp only [modify, ids, List.map_map]
  apply List.map_congr_left
  intro entry _
  by_cases hit : entry.1 = id <;> simp [hit]

theorem ids_erase (table : Table α) (id : String) :
    (table.erase id).ids = table.ids.filter (· != id) := by
  simp only [erase, ids, List.filter_map]
  rfl

theorem mem_ids_erase (table : Table α) (id other : String) :
    other ∈ (table.erase id).ids ↔ other ∈ table.ids ∧ other ≠ id := by
  rw [ids_erase, List.mem_filter, bne_iff_ne]

theorem size_eq (table : Table α) : table.size = table.ids.length := by
  simp [size, ids]

theorem size_erase {table : Table α} (distinct : table.ids.Nodup) {id : String}
    (stored : id ∈ table.ids) : (table.erase id).size + 1 = table.size := by
  rw [size_eq, size_eq, ids_erase, ← distinct.erase_eq_filter, List.length_erase_of_mem stored]
  exact Nat.sub_add_cancel (List.length_pos_of_mem stored)

theorem remove_eq (table : Table α) (id : String) :
    (id ∈ table.ids ∧ ∃ record, table.remove id = .ok (record, table.erase id)) ∨
    (id ∉ table.ids ∧ table.remove id = .error .notFound) := by
  cases found : table.get? id with
  | some record =>
      exact Or.inl ⟨get?_stored table id record found, record, by simp [remove, found]⟩
  | none =>
      exact Or.inr ⟨(get?_eq_none_iff table id).mp found, by simp [remove, found]⟩

section Records
variable [Record α]

/-- Every record is stored under its own identifier. -/
def Own (table : Table α) : Prop := ∀ entry ∈ table.entries, entry.1 = Record.id entry.2

theorem Own.get?_id {table : Table α} (own : table.Own) (id : String) (record : α)
    (found : table.get? id = some record) : Record.id record = id :=
  (own (id, record) (get?_mem table id record found)).symm

theorem Own.map_id {table : Table α} (own : table.Own) :
    table.records.map Record.id = table.ids := by
  rw [records, ids, List.map_map]
  apply List.map_congr_left
  intro entry member
  exact (own entry member).symm

theorem Own.get?_iff {table : Table α} (own : table.Own) (distinct : table.ids.Nodup) (id : String)
    (record : α) : table.get? id = some record ↔ record ∈ table.records ∧ Record.id record = id := by
  constructor
  · intro found
    have member := get?_mem table id record found
    exact ⟨List.mem_map.mpr ⟨(id, record), member, rfl⟩, own.get?_id id record found⟩
  · rintro ⟨member, rfl⟩
    obtain ⟨entry, stored, rfl⟩ := List.mem_map.mp member
    have named : entry.1 = Record.id entry.2 := own entry stored
    exact (find?_value_iff distinct).mpr (named ▸ stored)

theorem own_empty : ({} : Table α).Own := by
  intro entry member
  cases member

theorem Own.erase {table : Table α} (own : table.Own) (id : String) : (table.erase id).Own :=
  fun entry member => own entry (List.mem_filter.mp member).1

theorem Own.modify {table : Table α} (own : table.Own) (id : String) (change : α → α)
    (keeps : ∀ record, Record.id record = id → Record.id (change record) = id) :
    (table.modify id change).Own := by
  intro entry member
  obtain ⟨old, stored, rfl⟩ := List.mem_map.mp member
  have named := own old stored
  by_cases hit : old.1 = id
  · simp only [hit, beq_self_eq_true, ↓reduceIte]
    exact (keeps old.2 (named.symm.trans hit)).symm
  · simpa [hit] using named

theorem insertBatch_entries (table after : Table α) (batch stored : List α)
    (done : table.insertBatch batch = .ok (stored, after)) :
    after.entries = table.entries ++ stored.map fun record => (Record.id record, record) := by
  unfold insertBatch at done
  split at done
  · cases done
    rfl
  · cases done

theorem insertBatch_ids (table after : Table α) (batch stored : List α)
    (done : table.insertBatch batch = .ok (stored, after)) :
    after.ids = table.ids ++ stored.map Record.id := by
  simp [ids, insertBatch_entries table after batch stored done, Function.comp_def]

theorem insertBatch_records (table after : Table α) (batch stored : List α)
    (done : table.insertBatch batch = .ok (stored, after)) :
    after.records = table.records ++ stored := by
  simp [records, insertBatch_entries table after batch stored done, Function.comp_def]

theorem insertBatch_conflict (table : Table α) (batch : List α) (error : Error)
    (failed : table.insertBatch batch = .error error) : error = .conflict := by
  unfold insertBatch at failed
  split at failed
  · cases failed
  · cases failed
    rfl

theorem Own.insertBatch {table : Table α} (own : table.Own) (after : Table α)
    (batch stored : List α) (done : table.insertBatch batch = .ok (stored, after)) : after.Own := by
  intro entry member
  rw [insertBatch_entries table after batch stored done] at member
  rcases List.mem_append.mp member with old | new
  · exact own entry old
  · obtain ⟨record, _, rfl⟩ := List.mem_map.mp new
    rfl

theorem replace_eq (table : Table α) (record : α) :
    (Record.id record ∈ table.ids ∧
      table.replace record = .ok (table.modify (Record.id record) fun _ => record)) ∨
    (Record.id record ∉ table.ids ∧ table.replace record = .error .notFound) := by
  by_cases stored : Record.id record ∈ table.ids
  · exact Or.inl ⟨stored, by simp [replace, (contains_iff table _).mpr stored]⟩
  · exact Or.inr ⟨stored, by simp [replace, (contains_false_iff table _).mpr stored]⟩

end Records
end Switchboard.Table
