import Mathlib.Data.List.Induction
import Mathlib.Data.List.Nodup
import Switchboard.Json.Value

/-!
Values and what is read from data for its contents. A value whose objects give every name once is
read back from its own datum where there is room for its depth; and whatever is read gives every
name once in each of its objects and is no deeper than the room that there was.
-/
namespace Switchboard.Json

namespace Value

/-- What holds of a value as soon as it holds of the parts of the value holds of every value. -/
theorem byParts {motive : Value → Prop} (null : motive .null) (bool : ∀ b, motive (.bool b))
    (number : ∀ n, motive (.number n)) (string : ∀ s, motive (.string s))
    (array : ∀ items, (∀ item ∈ items, motive item) → motive (.array items))
    (object : ∀ fields, (∀ field ∈ fields, motive field.2) → motive (.object fields))
    (value : Value) : motive value :=
  @Value.rec motive (fun items => ∀ item ∈ items, motive item)
    (fun fields => ∀ field ∈ fields, motive field.2) (fun field => motive field.2)
    null bool number string array object
    (fun _ member => absurd member List.not_mem_nil)
    (fun _ _ first rest => List.forall_mem_cons.mpr ⟨first, rest⟩)
    (fun _ member => absurd member List.not_mem_nil)
    (fun _ _ first rest => List.forall_mem_cons.mpr ⟨first, rest⟩)
    (fun _ _ part => part) value

mutual

def every (holds : Value → Bool) : Value → Bool
  | .array items => holds (.array items) && everyItem holds items
  | .object fields => holds (.object fields) && everyField holds fields
  | value => holds value

def everyItem (holds : Value → Bool) : List Value → Bool
  | [] => true
  | item :: rest => every holds item && everyItem holds rest

def everyField (holds : Value → Bool) : List (String × Value) → Bool
  | [] => true
  | (_, value) :: rest => every holds value && everyField holds rest

end

mutual

def depth : Value → Nat
  | .array items => depthOfItems items + 1
  | .object fields => depthOfFields fields + 1
  | _ => 0

def depthOfItems : List Value → Nat
  | [] => 0
  | item :: rest => max (depth item) (depthOfItems rest)

def depthOfFields : List (String × Value) → Nat
  | [] => 0
  | (_, value) :: rest => max (depth value) (depthOfFields rest)

end

/-- Every object of the value gives every name once. -/
def isDistinct : Value → Bool := every fun part =>
  match part with
  | .object fields => decide (fields.map (·.1)).Nodup
  | _ => true

theorem everyItem_iff (holds : Value → Bool) (items : List Value) :
    everyItem holds items = true ↔ ∀ item ∈ items, item.every holds = true := by
  induction items with
  | nil => simp [everyItem]
  | cons item rest ih => simp [everyItem, ih]

theorem everyField_iff (holds : Value → Bool) (fields : List (String × Value)) :
    everyField holds fields = true ↔ ∀ field ∈ fields, field.2.every holds = true := by
  induction fields with
  | nil => simp [everyField]
  | cons field rest ih => simp [everyField, ih]

theorem every_array (holds : Value → Bool) (items : List Value) :
    (Value.array items).every holds = true ↔
      holds (.array items) = true ∧ ∀ item ∈ items, item.every holds = true := by
  rw [every, Bool.and_eq_true, everyItem_iff]

theorem every_object (holds : Value → Bool) (fields : List (String × Value)) :
    (Value.object fields).every holds = true ↔
      holds (.object fields) = true ∧ ∀ field ∈ fields, field.2.every holds = true := by
  rw [every, Bool.and_eq_true, everyField_iff]

theorem isDistinct_array (items : List Value) :
    (Value.array items).isDistinct = true ↔ ∀ item ∈ items, item.isDistinct = true := by
  simp [isDistinct, every_array]

theorem isDistinct_object (fields : List (String × Value)) :
    (Value.object fields).isDistinct = true ↔
      (fields.map (·.1)).Nodup ∧ ∀ field ∈ fields, field.2.isDistinct = true := by
  simp [isDistinct, every_object]

theorem depthOfItems_le (items : List Value) (room : Nat) :
    depthOfItems items ≤ room ↔ ∀ item ∈ items, item.depth ≤ room := by
  induction items with
  | nil => simp [depthOfItems]
  | cons item rest ih => rw [depthOfItems, Nat.max_le, ih, List.forall_mem_cons]

theorem depthOfFields_le (fields : List (String × Value)) (room : Nat) :
    depthOfFields fields ≤ room ↔ ∀ field ∈ fields, field.2.depth ≤ room := by
  induction fields with
  | nil => simp [depthOfFields]
  | cons field rest ih => rw [depthOfFields, Nat.max_le, ih, List.forall_mem_cons]

theorem toDatums_eq (items : List Value) : toDatums items = items.map toDatum := by
  induction items with
  | nil => rfl
  | cons item rest ih => rw [toDatums, ih, List.map_cons]

theorem toDatumFields_eq (fields : List (String × Value)) :
    toDatumFields fields = fields.map fun field => (some field.1, field.2.toDatum) := by
  induction fields with
  | nil => rfl
  | cons field rest ih => rw [toDatumFields, ih, List.map_cons]

end Value

namespace Object
variable {α : Type}

theorem put_new (name : String) (value : α) (fields : List (String × α))
    (fresh : name ∉ fields.map (·.1)) : put name value fields = fields ++ [(name, value)] := by
  induction fields with
  | nil => rfl
  | cons field rest ih =>
      simp only [List.map_cons, List.mem_cons, not_or] at fresh
      rw [put, if_neg (Ne.symm fresh.1), ih fresh.2, List.cons_append]

theorem ofPairs_append (pairs : List (String × α)) (pair : String × α) :
    ofPairs (pairs ++ [pair]) = put pair.1 pair.2 (ofPairs pairs) := by
  simp [ofPairs]

-- Pairs that give every name once are an object as they stand.
theorem ofPairs_distinct (pairs : List (String × α)) (distinct : (pairs.map (·.1)).Nodup) :
    ofPairs pairs = pairs := by
  induction pairs using List.reverseRecOn with
  | nil => rfl
  | append_singleton pairs pair ih =>
      rw [List.map_append, List.nodup_append] at distinct
      obtain ⟨before, _, apart⟩ := distinct
      have fresh : pair.1 ∉ pairs.map (·.1) := fun old => apart _ old _ (by simp) rfl
      rw [ofPairs_append, ih before, put_new _ _ _ fresh]

theorem put_names (name : String) (value : α) (fields : List (String × α))
    (known : name ∈ fields.map (·.1)) :
    (put name value fields).map (·.1) = fields.map (·.1) := by
  induction fields with
  | nil => cases known
  | cons field rest ih =>
      rw [put]
      by_cases hit : field.1 = name
      · simp [hit]
      · have later : name ∈ rest.map (·.1) := by simpa [Ne.symm hit] using known
        simp [hit, ih later]

theorem mem_put (name : String) (value : α) (fields : List (String × α)) (field : String × α)
    (member : field ∈ put name value fields) : field = (name, value) ∨ field ∈ fields := by
  induction fields with
  | nil => exact Or.inl (List.mem_singleton.mp member)
  | cons first rest ih =>
      rw [put] at member
      split at member
      · rcases List.mem_cons.mp member with new | old
        · exact Or.inl new
        · exact Or.inr (List.mem_cons_of_mem _ old)
      · rcases List.mem_cons.mp member with same | later
        · exact Or.inr (same ▸ List.mem_cons_self)
        · exact (ih later).imp_right (List.mem_cons_of_mem _)

/-- However often names repeat, an object gives every name once and nothing that was not given. -/
theorem ofPairs_sound (pairs : List (String × α)) :
    ((ofPairs pairs).map (·.1)).Nodup ∧ ∀ field ∈ ofPairs pairs, field ∈ pairs := by
  induction pairs using List.reverseRecOn with
  | nil => exact ⟨List.nodup_nil, fun field member => member⟩
  | append_singleton pairs pair ih =>
      obtain ⟨distinct, given⟩ := ih
      rw [ofPairs_append]
      constructor
      · by_cases known : pair.1 ∈ (ofPairs pairs).map (·.1)
        · rwa [put_names _ _ _ known]
        · rw [put_new _ _ _ known, List.map_append]
          refine List.nodup_append.mpr ⟨distinct, by simp, fun name old other new same => known ?_⟩
          obtain rfl : other = pair.1 := List.mem_singleton.mp new
          exact same ▸ old
      · intro field member
        rcases mem_put _ _ _ field member with new | old
        · exact List.mem_append_right _ (List.mem_singleton.mpr new)
        · exact List.mem_append_left _ (given field old)

end Object

section
variable {α β : Type}

theorem mapM_written (read : β → Option α) (write : α → β) (items : List α)
    (each : ∀ item ∈ items, read (write item) = some item) :
    (items.map write).mapM read = some items := by
  induction items with
  | nil => rfl
  | cons item rest ih =>
      obtain ⟨first, later⟩ := List.forall_mem_cons.mp each
      simp [first, ih later]

theorem mem_mapM {read : β → Option α} {data : List β} {items : List α}
    (all : data.mapM read = some items) : ∀ item ∈ items, ∃ datum, read datum = some item := by
  induction data generalizing items with
  | nil =>
      cases all
      exact fun item member => absurd member List.not_mem_nil
  | cons datum rest ih =>
      simp only [List.mapM_cons, Option.bind_eq_bind, Option.pure_def, Option.bind_eq_some_iff,
        Option.some.injEq] at all
      obtain ⟨first, readFirst, later, readLater, rfl⟩ := all
      exact List.forall_mem_cons.mpr ⟨⟨datum, readFirst⟩, ih readLater⟩

end

namespace Datum

def field? (room : Nat) (field : Option String × Datum) : Option (String × Value) := do
  let name ← field.1
  let value ← field.2.value? room
  pure (name, value)

theorem values?_eq (room : Nat) (items : List Datum) :
    values? room items = items.mapM (value? room) := by
  induction items with
  | nil => rfl
  | cons item rest ih => rw [values?, ih, List.mapM_cons]

theorem fields?_eq (room : Nat) (fields : List (Option String × Datum)) :
    fields? room fields = fields.mapM (field? room) := by
  induction fields with
  | nil => rfl
  | cons field rest ih =>
      rw [fields?, ih, List.mapM_cons]
      simp [field?, Option.bind_assoc]

theorem value?_of_field? {room : Nat} {field : Option String × Datum} {pair : String × Value}
    (read : field? room field = some pair) : field.2.value? room = some pair.2 := by
  simp only [field?, Option.bind_eq_bind, Option.pure_def, Option.bind_eq_some_iff,
    Option.some.injEq] at read
  obtain ⟨_, _, value, read, rfl⟩ := read
  exact read

end Datum

-- The datum of a value has the value for its contents.
theorem Value.value?_toDatum (value : Value) (room : Nat) (distinct : value.isDistinct = true)
    (fits : value.depth ≤ room) : value.toDatum.value? room = some value := by
  induction value using Value.byParts generalizing room with
  | null => rfl
  | bool b => rfl
  | number n => rfl
  | string s => rfl
  | array items ih =>
      rw [Value.isDistinct_array] at distinct
      cases room with
      | zero => simp [Value.depth] at fits
      | succ room =>
          have shallow := (Value.depthOfItems_le items room).mp (by simpa [Value.depth] using fits)
          have inside := mapM_written (Datum.value? room) toDatum items fun item member =>
            ih item member room (distinct item member) (shallow item member)
          rw [toDatum, Datum.value?, toDatums_eq, Datum.values?_eq, inside, Option.map_some]
  | object fields ih =>
      obtain ⟨names, parts⟩ := (Value.isDistinct_object fields).mp distinct
      cases room with
      | zero => simp [Value.depth] at fits
      | succ room =>
          have shallow := (Value.depthOfFields_le fields room).mp
            (by simpa [Value.depth] using fits)
          have inside := mapM_written (Datum.field? room)
            (fun field : String × Value => (some field.1, field.2.toDatum)) fields
            fun field member => by
              simp [Datum.field?, ih field member room (parts field member) (shallow field member)]
          rw [toDatum, Datum.value?, toDatumFields_eq, Datum.fields?_eq, inside, Option.map_some,
            Object.ofPairs_distinct fields names]

-- The induction is on the room, of which every level of a datum takes one.
theorem Datum.value?_sound (room : Nat) (datum : Datum) (value : Value)
    (read : datum.value? room = some value) : value.isDistinct = true ∧ value.depth ≤ room := by
  induction room using Nat.strongRecOn generalizing datum value with
  | ind room ih =>
      cases datum with
      | null =>
          cases read
          exact ⟨rfl, Nat.zero_le room⟩
      | bool b =>
          cases read
          exact ⟨rfl, Nat.zero_le room⟩
      | number n =>
          obtain ⟨n, _, rfl⟩ := Option.map_eq_some_iff.mp read
          exact ⟨rfl, Nat.zero_le room⟩
      | string s =>
          obtain ⟨s, _, rfl⟩ := Option.map_eq_some_iff.mp read
          exact ⟨rfl, Nat.zero_le room⟩
      | broken => cases read
      | array items =>
          cases room with
          | zero => cases read
          | succ room =>
              obtain ⟨values, readItems, rfl⟩ := Option.map_eq_some_iff.mp read
              have sound : ∀ part ∈ values, part.isDistinct = true ∧ part.depth ≤ room := by
                intro part member
                rw [Datum.values?_eq] at readItems
                obtain ⟨item, readPart⟩ := mem_mapM readItems part member
                exact ih room (Nat.lt_succ_self room) item part readPart
              rw [Value.isDistinct_array, Value.depth, Nat.add_le_add_iff_right,
                Value.depthOfItems_le]
              exact ⟨fun part member => (sound part member).1,
                fun part member => (sound part member).2⟩
      | object fields =>
          cases room with
          | zero => cases read
          | succ room =>
              obtain ⟨pairs, readFields, rfl⟩ := Option.map_eq_some_iff.mp read
              obtain ⟨names, given⟩ := Object.ofPairs_sound pairs
              have sound : ∀ field ∈ Object.ofPairs pairs,
                  field.2.isDistinct = true ∧ field.2.depth ≤ room := by
                intro field member
                rw [Datum.fields?_eq] at readFields
                obtain ⟨item, readField⟩ := mem_mapM readFields field (given field member)
                exact ih room (Nat.lt_succ_self room) item.2 field.2
                  (Datum.value?_of_field? readField)
              rw [Value.isDistinct_object, Value.depth, Nat.add_le_add_iff_right,
                Value.depthOfFields_le]
              exact ⟨⟨names, fun field member => (sound field member).1⟩,
                fun field member => (sound field member).2⟩

end Switchboard.Json
