import Switchboard.Proofs.Rendering
import Switchboard.Record.Document

/-!
Records survive their text. A form says how records of a kind are written and read and which
metadata they carry; a page has the form of its items and its query. What is asked of a form (a
record is read back from its own datum, and whatever is read can be written within the same depth)
is shown kind by kind, and passes from items to pages; the texts then follow for all forms alike.
-/
namespace Switchboard

namespace Json

theorem namesOf?_toDatumFields (fields : List (String × Value)) :
    namesOf? (Value.toDatumFields fields) = some (fields.map (·.1)) := by
  induction fields with
  | nil => rfl
  | cons field rest ih =>
      rw [namesOf?] at ih ⊢
      simp [Value.toDatumFields, ih]

theorem lookup?_toDatumFields (name : String) (fields : List (String × Value)) :
    lookup? name (Value.toDatumFields fields) = (fields.lookup name).map Value.toDatum := by
  induction fields with
  | nil => rfl
  | cons field rest ih =>
      obtain ⟨other, value⟩ := field
      rw [lookup?] at ih ⊢
      by_cases hit : other = name
      · simp [Value.toDatumFields, hit]
      · have miss : (name == other) = false := beq_false_of_ne (Ne.symm hit)
        simp [Value.toDatumFields, List.lookup_cons, hit, miss, ih]

theorem namedFields?_toDatumFields (known : List String) (fields : List (String × Value))
    (distinct : (fields.map (·.1)).Nodup) :
    namedFields? known (Value.toDatumFields fields) =
      some (known.map fun name => (fields.lookup name).map Value.toDatum) := by
  have once (name : String) : repeats name (fields.map (·.1)) = false :=
    decide_eq_false (Nat.not_lt.mpr (List.nodup_iff_count_le_one.mp distinct name))
  simp [namedFields?, namesOf?_toDatumFields, once, lookup?_toDatumFields]

theorem recordFields?_object (known : List String) (room : Nat) (fields : List (String × Value))
    (distinct : (fields.map (·.1)).Nodup) :
    (Value.object fields).toDatum.recordFields? known (room + 1) =
      some (known.map fun name => (fields.lookup name).map Value.toDatum) :=
  namedFields?_toDatumFields known fields distinct

theorem Datum.uint64?_ofUInt64 (n : UInt64) : (Value.ofUInt64 n).toDatum.uint64? = some n := by
  have below : (n.toNat : Int) < 18446744073709551616 := by
    have := n.toNat_lt
    omega
  simp [Value.ofUInt64, Value.toDatum, Datum.uint64?, Datum.natBelow?, below]

theorem Value.isIntegral_ofUInt64 (n : UInt64) : (Value.ofUInt64 n).isIntegral = true := by
  have below : n.toNat < twoTo 64 := n.toNat_lt
  have above : -(twoTo 63 : Int) ≤ n.toNat := by omega
  simp [Value.isIntegral, Value.every, Value.ofUInt64, Number.fits, above, below]

theorem Value.isIntegral_textField (name text : String) :
    (textField name text).2.isIntegral = true := rfl

theorem Datum.object?_toDatum (room : Nat) (fields : Object)
    (distinct : (Value.object fields).isDistinct = true)
    (fits : (Value.object fields).depth ≤ room) :
    (Value.object fields).toDatum.object? room = some fields := by
  rw [Datum.object?, Value.value?_toDatum _ room distinct fits]

-- Absent metadata is written as an object too, which takes a level of its own.
theorem metadata_sound {room : Nat} {given : Option Datum} {fields : Object} (held : 1 ≤ room)
    (read : withDefault [] (Datum.object? room) given = some fields) :
    (Value.object fields).isDistinct = true ∧ (Value.object fields).depth ≤ room := by
  cases given with
  | none =>
      cases read
      exact ⟨rfl, held⟩
  | some datum =>
      simp only [withDefault, Datum.object?] at read
      split at read
      next fields' value =>
        cases read
        exact Datum.value?_sound room datum _ value
      next => cases read

end Json

open Json

/-- How the records of a kind are written and read, the metadata that they carry, and the levels
that the least of them takes. -/
structure Form (α : Type) where
  write : α → Value
  read : Nat → Datum → Option α
  metadata : α → List Object
  least : Nat

namespace Form
variable {α : Type}

def thing : Form Thing := ⟨Thing.toValue, Thing.ofDatum?, fun thing => [thing.metadata], 2⟩

def channel : Form Channel :=
  ⟨Channel.toValue, Channel.ofDatum?, fun channel => [channel.metadata], 2⟩

def connection : Form Connection := ⟨Connection.toValue, Connection.ofDatum?, fun _ => [], 1⟩

def query : Form Query := ⟨Query.toValue, Query.ofDatum?, fun _ => [], 1⟩

def page (item : Form α) : Form (Page α) :=
  ⟨Page.toValue item.write, Page.ofDatum? item.read, fun page => page.items.flatMap item.metadata,
    item.least + 2⟩

def Carries (form : Form α) (holds : Value → Bool) (a : α) : Prop :=
  ∀ fields ∈ form.metadata a, holds (.object fields) = true

instance (form : Form α) (holds : Value → Bool) (a : α) : Decidable (form.Carries holds a) :=
  inferInstanceAs (Decidable (∀ fields ∈ form.metadata a, holds (.object fields) = true))

def text (form : Form α) (a : α) : String := (form.write a).render

def readText? (form : Form α) : String → Option α := Switchboard.readText? form.read

def rewrite? (form : Form α) (text : String) : Option String := (form.readText? text).map form.text

structure Lawful (form : Form α) : Prop where
  reads : ∀ a room, form.Carries Value.isDistinct a → (form.write a).depth ≤ room →
    form.read room (form.write a).toDatum = some a
  integral : ∀ a, form.Carries Value.isIntegral a → (form.write a).isIntegral = true
  sound : ∀ room datum a, form.least ≤ room → form.read room datum = some a →
    form.Carries Value.isDistinct a ∧ (form.write a).depth ≤ room

end Form

theorem Thing.recordFields?_toValue (thing : Thing) (room : Nat) :
    thing.toValue.toDatum.recordFields? Thing.fieldNames (room + 1) =
      some [some (.string (some thing.id)), some (.string (some thing.group)),
        some (.string (some thing.name)), some (.string (some thing.key)),
        some (Value.object thing.metadata).toDatum] := by
  rw [Thing.toValue, recordFields?_object _ _ _ (by simp [textField])]
  simp [Thing.fieldNames, textField, List.lookup_cons, Value.toDatum]

theorem Thing.depth_toValue (thing : Thing) :
    thing.toValue.depth = (Value.object thing.metadata).depth + 1 := by
  simp [Thing.toValue, textField, Value.depth, Value.depthOfFields]

theorem Channel.recordFields?_toValue (channel : Channel) (room : Nat) :
    channel.toValue.toDatum.recordFields? Channel.fieldNames (room + 1) =
      some [some (.string (some channel.id)), some (.string (some channel.group)),
        some (.string (some channel.name)), some (Value.object channel.metadata).toDatum] := by
  rw [Channel.toValue, recordFields?_object _ _ _ (by simp [textField])]
  simp [Channel.fieldNames, textField, List.lookup_cons, Value.toDatum]

theorem Channel.depth_toValue (channel : Channel) :
    channel.toValue.depth = (Value.object channel.metadata).depth + 1 := by
  simp [Channel.toValue, textField, Value.depth, Value.depthOfFields]

theorem Connection.recordFields?_toValue (connection : Connection) (room : Nat) :
    connection.toValue.toDatum.recordFields? Connection.fieldNames (room + 1) =
      some [some (.string (some connection.channel)),
        some (.string (some connection.thing))] := by
  rw [Connection.toValue, recordFields?_object _ _ _ (by simp [textField])]
  simp [Connection.fieldNames, textField, List.lookup_cons, Value.toDatum]

-- What things and channels share: one object of metadata, a level below the record.
theorem Form.Lawful.ofMetadata {α : Type} {form : Form α} (kept : α → Object)
    (metadata : ∀ a, form.metadata a = [kept a]) (least : form.least = 2)
    (depth : ∀ a, (form.write a).depth = (Value.object (kept a)).depth + 1)
    (reads : ∀ a room, (Value.object (kept a)).toDatum.object? room = some (kept a) →
      form.read (room + 1) (form.write a).toDatum = some a)
    (integral : ∀ a, (Value.object (kept a)).isIntegral = true →
      (form.write a).isIntegral = true)
    (found : ∀ room datum a, form.read room datum = some a →
      ∃ given, withDefault [] (Datum.object? (room - 1)) given = some (kept a)) :
    form.Lawful where
  reads := by
    intro a room distinct fits
    rw [depth] at fits
    obtain ⟨room, rfl⟩ : ∃ less, room = less + 1 := ⟨room - 1, by omega⟩
    have given : kept a ∈ form.metadata a := metadata a ▸ List.mem_cons_self
    exact reads a room (Datum.object?_toDatum room (kept a) (distinct _ given)
      (Nat.le_of_add_le_add_right fits))
  integral a carried := integral a (carried _ (metadata a ▸ List.mem_cons_self))
  sound := by
    intro room datum a held read
    obtain ⟨given, read⟩ := found room datum a read
    obtain ⟨distinct, fits⟩ := metadata_sound (by omega) read
    constructor
    · intro fields member
      rw [metadata] at member
      exact List.mem_singleton.mp member ▸ distinct
    · rw [depth]
      omega

theorem Form.thing_lawful : Form.thing.Lawful := by
  refine .ofMetadata Thing.metadata (fun _ => rfl) rfl Thing.depth_toValue ?reads ?integral ?found
  case reads =>
    intro thing room metadata
    change Thing.ofDatum? (room + 1) thing.toValue.toDatum = some thing
    rw [Thing.ofDatum?, Thing.recordFields?_toValue]
    simp [withDefault, required, Datum.string?, metadata]
  case integral =>
    intro thing metadata
    refine (Value.isIntegral_object _).mpr ?_
    simp [Value.isIntegral_textField, metadata]
  case found =>
    intro room datum thing read
    change Thing.ofDatum? room datum = some thing at read
    rw [Thing.ofDatum?] at read
    split at read
    next =>
      simp only [Option.bind_eq_bind, Option.pure_def, Option.bind_eq_some_iff,
        Option.some.injEq] at read
      obtain ⟨_, _, _, _, _, _, _, _, metadata, given, rfl⟩ := read
      exact ⟨_, given⟩
    next => cases read

theorem Form.channel_lawful : Form.channel.Lawful := by
  refine .ofMetadata Channel.metadata (fun _ => rfl) rfl Channel.depth_toValue ?reads ?integral
    ?found
  case reads =>
    intro channel room metadata
    change Channel.ofDatum? (room + 1) channel.toValue.toDatum = some channel
    rw [Channel.ofDatum?, Channel.recordFields?_toValue]
    simp [withDefault, Datum.string?, metadata]
  case integral =>
    intro channel metadata
    refine (Value.isIntegral_object _).mpr ?_
    simp [Value.isIntegral_textField, metadata]
  case found =>
    intro room datum channel read
    change Channel.ofDatum? room datum = some channel at read
    rw [Channel.ofDatum?] at read
    split at read
    next =>
      simp only [Option.bind_eq_bind, Option.pure_def, Option.bind_eq_some_iff,
        Option.some.injEq] at read
      obtain ⟨_, _, _, _, _, _, metadata, given, rfl⟩ := read
      exact ⟨_, given⟩
    next => cases read

theorem Form.connection_lawful : Form.connection.Lawful where
  reads := by
    intro connection room _ fits
    change 1 ≤ room at fits
    change Connection.ofDatum? room connection.toValue.toDatum = some connection
    obtain ⟨room, rfl⟩ := Nat.exists_eq_add_of_le' fits
    rw [Connection.ofDatum?, Connection.recordFields?_toValue]
    rfl
  integral connection _ := rfl
  sound room datum connection held read := ⟨nofun, held⟩

-- The names that are written, in the order in which they are known.
theorem Query.names_sublist (query : Query) :
    (query.toFields.map (·.1)).Sublist Query.fieldNames := by
  obtain ⟨total, offset, limit, name, order, direction⟩ := query
  cases name <;> cases order <;> simp [toFields, optionalField, textField, fieldNames]

theorem Query.names_distinct (query : Query) : (query.toFields.map (·.1)).Nodup :=
  query.names_sublist.nodup (by decide)

theorem Direction.ofDatum?_label (isNothing : Datum → Bool) (direction : Direction) :
    ofDatum? isNothing (.string (some direction.label)) = some direction := by
  cases direction <;> rfl

-- What is found of a query that was written, under each name that is known.
theorem Query.lookup_toFields (query : Query) :
    (fieldNames.map fun name => (query.toFields.lookup name).map Value.toDatum) =
      [some (Value.ofUInt64 query.total).toDatum, some (Value.ofUInt64 query.offset).toDatum,
        some (Value.ofUInt64 query.limit).toDatum, query.name.map fun text => .string (some text),
        query.order.map fun text => .string (some text),
        some (.string (some query.direction.label))] := by
  obtain ⟨total, offset, limit, name, order, direction⟩ := query
  have string (text : String) : (Value.string text).toDatum = .string (some text) := rfl
  cases name <;> cases order <;>
    simp [toFields, optionalField, textField, fieldNames, List.lookup_cons, string]

theorem Query.ofFields?_lookup (isNothing : Datum → Bool) (query : Query) :
    ofFields? isNothing (fieldNames.map fun name =>
      (query.toFields.lookup name).map Value.toDatum) = some query := by
  have number (n : UInt64) :
      withDefault 0 Datum.uint64? (some (Value.ofUInt64 n).toDatum) = some n := by
    rw [withDefault, Datum.uint64?_ofUInt64]
  have optional (text : Option String) :
      withDefault none Datum.optionalString? (text.map fun text => .string (some text)) =
        some text := by
    cases text <;> rfl
  have direction : withDefault .ascending (Direction.ofDatum? isNothing)
      (some (.string (some query.direction.label))) = some query.direction := by
    rw [withDefault, Direction.ofDatum?_label]
  rw [query.lookup_toFields, ofFields?, number, number, number, optional, optional, direction]
  rfl

-- The fields of a query hold neither arrays nor objects.
theorem Query.plain (query : Query) : ∀ field ∈ query.toFields,
    field.2.depth = 0 ∧ field.2.isDistinct = true ∧ field.2.isIntegral = true := by
  have text (name text : String) : (textField name text).2.depth = 0 ∧
      (textField name text).2.isDistinct = true ∧ (textField name text).2.isIntegral = true :=
    ⟨rfl, rfl, rfl⟩
  have number (n : UInt64) : (Value.ofUInt64 n).depth = 0 ∧
      (Value.ofUInt64 n).isDistinct = true ∧ (Value.ofUInt64 n).isIntegral = true :=
    ⟨rfl, rfl, Value.isIntegral_ofUInt64 n⟩
  obtain ⟨total, offset, limit, name, order, direction⟩ := query
  cases name <;> cases order <;> simp [toFields, optionalField, text, number]

theorem Query.depthOfFields (query : Query) : Value.depthOfFields query.toFields = 0 :=
  Nat.le_zero.mp ((Value.depthOfFields_le _ 0).mpr fun field member =>
    Nat.le_of_eq (query.plain field member).1)

theorem Query.depth_toValue (query : Query) : query.toValue.depth = 1 := by
  rw [toValue, Value.depth, query.depthOfFields]

theorem Form.query_lawful : Form.query.Lawful where
  reads := by
    intro query room _ fits
    change query.toValue.depth ≤ room at fits
    change Query.ofDatum? room query.toValue.toDatum = some query
    rw [Query.depth_toValue] at fits
    obtain ⟨room, rfl⟩ := Nat.exists_eq_add_of_le' fits
    rw [Query.ofDatum?, Query.toValue, recordFields?_object _ _ _ query.names_distinct]
    rw [Option.bind_some, query.ofFields?_lookup]
  integral query _ := (Value.isIntegral_object _).mpr fun field member =>
    (query.plain field member).2.2
  sound := by
    intro room datum query held read
    refine ⟨nofun, ?_⟩
    change query.toValue.depth ≤ room
    rw [Query.depth_toValue]
    exact held

section
variable {α : Type}

namespace Page
variable (page : Page α) (write : α → Value)

theorem toValue_depth : (page.toValue write).depth =
    Value.depthOfItems (page.items.map write) + 2 := by
  simp [toValue, Value.depth, Value.depthOfFields, page.query.depthOfFields]

theorem depth_toValue (room : Nat) :
    (page.toValue write).depth ≤ room + 2 ↔ ∀ item ∈ page.items, (write item).depth ≤ room := by
  rw [toValue_depth, Nat.add_le_add_iff_right, Value.depthOfItems_le]
  exact List.forall_mem_map

theorem items_unknown : "items" ∉ page.query.toFields.map (·.1) := fun known =>
  absurd (page.query.names_sublist.subset known) (by decide)

theorem names_distinct :
    ((("items", Value.array (page.items.map write)) :: page.query.toFields).map (·.1)).Nodup :=
  List.nodup_cons.mpr ⟨page.items_unknown, page.query.names_distinct⟩

-- The query is found beside the items as it is found alone.
theorem namedFields?_toFields :
    namedFields? ("items" :: Query.fieldNames) (Value.toDatumFields
        (("items", Value.array (page.items.map write)) :: page.query.toFields)) =
      some (some (Value.array (page.items.map write)).toDatum ::
        Query.fieldNames.map fun name => (page.query.toFields.lookup name).map Value.toDatum) := by
  have beside (name : String) (known : name ∈ Query.fieldNames) :
      (("items", Value.array (page.items.map write)) :: page.query.toFields).lookup name =
        page.query.toFields.lookup name := by
    have miss : (name == "items") = false := by
      refine beq_false_of_ne ?_
      rintro rfl
      exact absurd known (by decide)
    rw [List.lookup_cons, miss]
  rw [namedFields?_toDatumFields _ _ (page.names_distinct write), List.map_cons,
    List.map_congr_left fun name known => congrArg _ (beside name known)]
  rfl

theorem all_besideItems (room : Nat) :
    (Value.toDatumFields
      (("items", Value.array (page.items.map write)) :: page.query.toFields)).all
      (besideItems room) = true := by
  rw [Value.toDatumFields_eq, List.all_eq_true]
  intro field member
  obtain ⟨field, written, rfl⟩ := List.mem_map.mp member
  rcases List.mem_cons.mp written with rfl | beside
  · rfl
  · obtain ⟨shallow, distinct, _⟩ := page.query.plain field beside
    have read := field.2.value?_toDatum room distinct (shallow ▸ Nat.zero_le room)
    simp [besideItems, read]

theorem read_items {item : Nat → Datum → Option α} {room : Nat} {datum : Datum} {page : Page α}
    (read : ofDatum? item (room + 2) datum = some page) :
    ∀ record ∈ page.items, ∃ given, item room given = some record := by
  rw [ofDatum?.eq_def] at read
  split at read
  next same =>
    cases same
    split at read
    next =>
      split at read
      next items rest _ =>
        simp only [Option.bind_eq_bind, Option.pure_def, Option.bind_eq_some_iff,
          Option.some.injEq] at read
        obtain ⟨records, given, _, _, rfl⟩ := read
        cases items with
        | none => cases given
        | some items =>
            cases items with
            | array data => exact mem_mapM given
            | _ => cases given
      next => cases read
    next => cases read
  next => cases read

end Page

theorem Form.Lawful.page {item : Form α} (lawful : item.Lawful) : (Form.page item).Lawful where
  reads := by
    intro page room distinct fits
    change (page.toValue item.write).depth ≤ room at fits
    change Page.ofDatum? item.read room (page.toValue item.write).toDatum = some page
    have held : 2 ≤ room := by
      rw [Page.toValue_depth] at fits
      exact Nat.le_of_add_left_le fits
    obtain ⟨room, rfl⟩ := Nat.exists_eq_add_of_le' held
    have shallow := (page.depth_toValue item.write room).mp fits
    have items : Datum.list? (item.read room)
        (Value.array (page.items.map item.write)).toDatum = some page.items := by
      rw [Value.toDatum, Value.toDatums_eq, List.map_map, Datum.list?]
      refine mapM_written _ _ _ fun record member => ?_
      refine lawful.reads record room ?_ (shallow record member)
      exact fun fields given => distinct fields (List.mem_flatMap.mpr ⟨record, member, given⟩)
    rw [Page.toValue, Value.toDatum, Page.ofDatum?, if_pos (page.all_besideItems _ _),
      page.namedFields?_toFields]
    simp [required, items, Query.ofFields?_lookup]
  integral := by
    intro page integral
    refine (Value.isIntegral_object _).mpr (List.forall_mem_cons.mpr ⟨?_, ?_⟩)
    · refine (Value.isIntegral_array _).mpr (List.forall_mem_map.mpr fun record member => ?_)
      refine lawful.integral record ?_
      exact fun fields given => integral fields (List.mem_flatMap.mpr ⟨record, member, given⟩)
    · exact fun field member => (page.query.plain field member).2.2
  sound := by
    intro room datum page held read
    obtain ⟨room, rfl⟩ := Nat.exists_eq_add_of_le' (Nat.le_of_add_left_le held)
    have roomy : item.least ≤ room := Nat.le_of_add_le_add_right held
    change Page.ofDatum? item.read (room + 2) datum = some page at read
    have sound (record : α) (member : record ∈ page.items) :
        item.Carries Value.isDistinct record ∧ (item.write record).depth ≤ room := by
      obtain ⟨given, readRecord⟩ := Page.read_items read record member
      exact lawful.sound room given record roomy readRecord
    constructor
    · intro fields given
      obtain ⟨record, member, inner⟩ := List.mem_flatMap.mp given
      exact (sound record member).1 fields inner
    · exact (page.depth_toValue item.write room).mpr fun record member => (sound record member).2

/-- What the records of a form are owed: those whose metadata gives every name once and holds no
numbers but integers, and whose text is no deeper than texts are read, are read back from that text;
and however such a record was written when it was read, its text from then on stays as it is. -/
structure Form.Survives (form : Form α) : Prop where
  record : ∀ a, form.Carries Value.isDistinct a → form.Carries Value.isIntegral a →
    (form.write a).depth ≤ depthLimit → form.readText? (form.text a) = some a
  text : ∀ text a, form.readText? text = some a → form.Carries Value.isIntegral a →
    form.readText? (form.text a) = some a ∧ form.rewrite? (form.text a) = some (form.text a)

theorem Form.Lawful.survives {form : Form α} (lawful : form.Lawful)
    (least : form.least ≤ depthLimit) : form.Survives := by
  have record (a : α) (distinct : form.Carries Value.isDistinct a)
      (integral : form.Carries Value.isIntegral a) (fits : (form.write a).depth ≤ depthLimit) :
      form.readText? (form.text a) = some a := by
    rw [Form.readText?, Switchboard.readText?, Form.text,
      Json.read_render _ (lawful.integral a integral)]
    exact lawful.reads a depthLimit distinct fits
  refine ⟨record, fun text a read integral => ?_⟩
  obtain ⟨datum, _, given⟩ := Option.bind_eq_some_iff.mp read
  obtain ⟨distinct, fits⟩ := lawful.sound depthLimit datum a least given
  have again := record a distinct integral fits
  exact ⟨again, by rw [Form.rewrite?, again, Option.map_some]⟩

end

/-- Things, channels, connections, queries, and pages of things and of channels survive their
text. -/
theorem records_survive :
    Form.thing.Survives ∧ Form.channel.Survives ∧ Form.connection.Survives ∧
      Form.query.Survives ∧ (Form.page Form.thing).Survives ∧ (Form.page Form.channel).Survives :=
  ⟨Form.thing_lawful.survives (by decide), Form.channel_lawful.survives (by decide),
    Form.connection_lawful.survives (by decide), Form.query_lawful.survives (by decide),
    Form.thing_lawful.page.survives (by decide), Form.channel_lawful.page.survives (by decide)⟩

-- A page with a quoted key and nested metadata.
theorem records_survive_nested :
    let page : Page Thing := ⟨[⟨"001", "", "a \"b\" \\", "k\n",
      [("z", .array [.object [], .number (.int (-5))]), ("a", .string "é")]⟩],
      ⟨7, 0, 18446744073709551615, none, some "name", .descending⟩⟩
    (Form.page Form.thing).readText? ((Form.page Form.thing).text page) = some page :=
  records_survive.2.2.2.2.1.record _ (by decide) (by decide) (by decide)

end Switchboard
