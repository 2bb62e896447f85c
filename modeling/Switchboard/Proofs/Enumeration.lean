import Switchboard.Proofs.FreshIdentifiers
import Switchboard.Proofs.Paging

/-!
The order of a table. Every record that is stored and every one that is taken out is entered in a
log. An entry stands as long as no later one takes its identifier out again, and the table
enumerates exactly what stands, in the order of the log: a batch goes to the end, a record that is
changed keeps its place, and one that is stored again after its removal goes last.
-/
namespace Switchboard

inductive Entry where
  | stored (id : String)
  | removed (id : String)
  deriving DecidableEq

/-- The identifiers that were stored and not taken out since, in the order of their storing. -/
def standing : List Entry → List String
  | [] => []
  | .stored id :: later =>
    if .removed id ∈ later then standing later else id :: standing later
  | .removed _ :: later => standing later

theorem standing_stored (ids : List String) : standing (ids.map .stored) = ids := by
  induction ids with
  | nil => rfl
  | cons id rest ih =>
      have stays : .removed id ∉ rest.map Entry.stored := by simp
      simp only [List.map_cons, standing, stays, ↓reduceIte, ih]

theorem standing_append_stored (log : List Entry) (ids : List String) :
    standing (log ++ ids.map .stored) = standing log ++ ids := by
  induction log with
  | nil => exact standing_stored ids
  | cons entry later ih =>
      cases entry with
      | stored id =>
          have same : .removed id ∈ later ++ ids.map .stored ↔ .removed id ∈ later := by simp
          simp only [List.cons_append, standing, same, ih]
          split
          · rfl
          · rfl
      | removed id => exact ih

theorem standing_append_removed (log : List Entry) (id : String) :
    standing (log ++ [.removed id]) = (standing log).filter (· != id) := by
  induction log with
  | nil => rfl
  | cons entry later ih =>
      cases entry with
      | stored other =>
          have now : .removed other ∈ later ++ [.removed id] ↔
              .removed other ∈ later ∨ other = id := by simp
          simp only [List.cons_append, standing, now, ih]
          -- What was taken out before stays out; what stands falls if it has the identifier.
          by_cases before : .removed other ∈ later
          · simp [before]
          · by_cases same : other = id
            · subst same
              simp [before]
            · simp [before, same]
      | removed other => exact ih

namespace Table
variable {α : Type} [Record α]

/-- All that one operation does to a table at once, with what is entered of it. -/
inductive Edit (before : Table α) : List Entry → Table α → Prop where
  | stored (batch stored : List α) (after : Table α)
      (done : before.insertBatch batch = .ok (stored, after)) :
      Edit before ((stored.map Record.id).map .stored) after
  | changed (id : String) (change : α → α)
      (keeps : ∀ record, Record.id record = id → Record.id (change record) = id) :
      Edit before [] (before.modify id change)
  | removed (id : String) : Edit before [.removed id] (before.erase id)

theorem Edit.replaced {before after : Table α} (record : α)
    (done : before.replace record = .ok after) : Edit before [] after := by
  rcases replace_eq before record with ⟨_, replaced⟩ | ⟨_, failed⟩
  · rw [replaced] at done
    cases done
    exact .changed (Record.id record) _ fun _ _ => rfl
  · rw [failed] at done
    cases done

inductive Edits : Table α → List Entry → Table α → Prop where
  | refl (table : Table α) : Edits table [] table
  | next {before middle after : Table α} {news later : List Entry} :
      Edit before news middle → Edits middle later after → Edits before (news ++ later) after

theorem Edits.single {before after : Table α} {news : List Entry} (edit : Edit before news after) :
    Edits before news after := by
  simpa using next edit (refl after)

/-- A table says what its log says. -/
structure Enumerates (log : List Entry) (table : Table α) : Prop where
  own : table.Own
  distinct : table.ids.Nodup
  named : "" ∉ table.ids
  order : table.ids = standing log

namespace Enumerates
variable {log : List Entry} {before : Table α}

theorem empty : Enumerates [] ({} : Table α) where
  own := own_empty
  distinct := List.nodup_nil
  named := List.not_mem_nil
  order := rfl

theorem stored (enumerates : Enumerates log before) (batch stored : List α) (after : Table α)
    (done : before.insertBatch batch = .ok (stored, after)) :
    Enumerates (log ++ (stored.map Record.id).map .stored) after := by
  have grown := insertBatch_ids before after batch stored done
  constructor
  case own => exact enumerates.own.insertBatch after batch stored done
  case distinct => exact insertBatch_nodup enumerates.distinct after batch stored done
  case named =>
    rw [grown]
    intro blank
    rcases List.mem_append.mp blank with old | new
    · exact enumerates.named old
    · obtain ⟨record, member, same⟩ := List.mem_map.mp new
      exact insertBatch_named before after batch stored done record member same
  case order => rw [grown, enumerates.order, standing_append_stored]

theorem changed (enumerates : Enumerates log before) (id : String) (change : α → α)
    (keeps : ∀ record, Record.id record = id → Record.id (change record) = id) :
    Enumerates log (before.modify id change) := by
  have same := ids_modify before id change
  constructor
  case own => exact enumerates.own.modify id change keeps
  case distinct => exact same ▸ enumerates.distinct
  case named => exact same ▸ enumerates.named
  case order => exact same ▸ enumerates.order

theorem removed (enumerates : Enumerates log before) (id : String) :
    Enumerates (log ++ [.removed id]) (before.erase id) := by
  have left := ids_erase before id
  constructor
  case own => exact enumerates.own.erase id
  case distinct => exact left ▸ enumerates.distinct.filter _
  case named =>
    rw [left]
    exact fun blank => enumerates.named (List.mem_filter.mp blank).1
  case order => rw [left, enumerates.order, standing_append_removed]

theorem edit (enumerates : Enumerates log before) {news : List Entry} {after : Table α}
    (edit : Edit before news after) : Enumerates (log ++ news) after := by
  cases edit with
  | stored batch stored after done => exact enumerates.stored batch stored after done
  | changed id change keeps => exact (List.append_nil log).symm ▸ enumerates.changed id change keeps
  | removed id => exact enumerates.removed id

theorem edits {news : List Entry} {after : Table α} (edits : Edits before news after)
    (enumerates : Enumerates log before) : Enumerates (log ++ news) after := by
  induction edits generalizing log with
  | refl => exact (List.append_nil log).symm ▸ enumerates
  | next edit _ ih =>
      rw [← List.append_assoc]
      exact ih (enumerates.edit edit)

end Enumerates
end Table

/-- The reads of a table are views of one list: the records that stand in the log, in its order, each
under its own identifier. A table of more records than there are 64-bit numbers would have places
where no page can begin. -/
structure InOrder {α : Type} [Record α] (log : List Entry) (table : Table α)
    (byId : String → Except Error α) (byPlace : Query → Page α) : Prop where
  own : table.Own
  named : ∀ record ∈ table.records, Record.id record ≠ ""
  distinct : (table.records.map Record.id).Nodup
  order : table.records.map Record.id = standing log
  found : ∀ id record, byId id = .ok record ↔ record ∈ table.records ∧ Record.id record = id
  joined : ∀ query : Query, query.limit ≠ 0 → table.size ≤ wordLimit →
    allItems byPlace query = table.records

theorem Table.Enumerates.inOrder {α : Type} [Record α] {log : List Entry} {table : Table α}
    (enumerates : Enumerates log table) : InOrder log table table.retrieve table.pageByPlace := by
  have ids := enumerates.own.map_id
  constructor
  case own => exact enumerates.own
  case named =>
    intro record member blank
    exact enumerates.named (ids ▸ List.mem_map.mpr ⟨record, member, blank⟩)
  case distinct => exact ids ▸ enumerates.distinct
  case order => exact ids.trans enumerates.order
  case found =>
    intro id record
    rw [retrieve_ok_iff, enumerates.own.get?_iff enumerates.distinct]
  case joined => exact table.pageByPlace_joins

end Switchboard
