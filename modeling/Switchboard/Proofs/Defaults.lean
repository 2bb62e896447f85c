import Switchboard.Config.Document
import Switchboard.Proofs.Documents
import Switchboard.Proofs.Entries

/-!
Settings that a document leaves out. The configuration that is read has a default for each of them,
so a document into which the defaults are written is read alike, as a settings file or as a document
in JSON. What is read is accepted if it breaks no rule, and else refused for the first rule that it
breaks.
-/
namespace Switchboard

open Json

namespace Json

def lacking (defaults : List (String × Value)) (fields : List (Option String × Datum)) :
    List (String × Value) :=
  defaults.filter fun field => (lookup? field.1 fields).isNone

/-- Changes what the fields of an object have for a name, and adds the defaults that they lack. -/
def fillFields (parts : String → Datum → Datum) (defaults : List (String × Value))
    (fields : List (Option String × Datum)) : List (Option String × Datum) :=
  fields.map (fun field => (field.1, field.1.elim field.2 fun name => parts name field.2)) ++
    Value.toDatumFields (lacking defaults fields)

/-- Writes the fields of a value into an object that lacks them. -/
def fillIn (parts : String → Datum → Datum) : Value → Datum → Datum
  | .object defaults, .object fields => .object (fillFields parts defaults fields)
  | _, datum => datum

variable {parts : String → Datum → Datum} {defaults : List (String × Value)}
  {fields : List (Option String × Datum)}

theorem lookup?_append (name : String) (fields more : List (Option String × Datum)) :
    lookup? name (fields ++ more) = (lookup? name fields).or (lookup? name more) := by
  simp only [lookup?, List.find?_append, Option.map_or]

theorem lookup?_parts (name : String) (fields : List (Option String × Datum)) :
    lookup? name
        (fields.map fun field => (field.1, field.1.elim field.2 fun name => parts name field.2)) =
      (lookup? name fields).map (parts name) := by
  induction fields with
  | nil => rfl
  | cons field rest ih =>
      rw [List.map_cons, lookup?, lookup?, List.find?_cons, List.find?_cons]
      by_cases hit : field.1 = some name
      · simp [hit]
      · simp only [hit, decide_false]
        exact ih

theorem lookup_lacking (name : String) (absent : lookup? name fields = none) :
    (lacking defaults fields).lookup name = defaults.lookup name := by
  induction defaults with
  | nil => rfl
  | cons field rest ih =>
      obtain ⟨other, value⟩ := field
      rw [lacking, List.filter_cons]
      by_cases hit : name = other
      · subst hit
        simp [absent]
      · have miss : (name == other) = false := beq_false_of_ne hit
        rw [List.lookup_cons, miss]
        split
        · rw [List.lookup_cons, miss]
          exact ih
        · exact ih

theorem lookup?_fillFields (name : String) :
    lookup? name (fillFields parts defaults fields) =
      ((lookup? name fields).map (parts name)).or ((defaults.lookup name).map Value.toDatum) := by
  rw [fillFields, lookup?_append, lookup?_parts, lookup?_toDatumFields]
  cases found : lookup? name fields with
  | some datum => rfl
  | none => rw [lookup_lacking name found]

theorem fieldsAreWhole_iff (fields : List (Option String × Datum)) :
    Datum.fieldsAreWhole fields = true ↔ ∀ field ∈ fields, field.2.isWhole = true := by
  induction fields with
  | nil => simp [Datum.fieldsAreWhole]
  | cons field rest ih => simp [Datum.fieldsAreWhole, ih]

theorem fieldsAreWhole_fillFields
    (keeps : ∀ name datum, datum.isWhole = true → (parts name datum).isWhole = true)
    (whole : ∀ field ∈ defaults, field.2.toDatum.isWhole = true)
    (fieldsWhole : Datum.fieldsAreWhole fields = true) :
    Datum.fieldsAreWhole (fillFields parts defaults fields) = true := by
  rw [fieldsAreWhole_iff] at fieldsWhole ⊢
  rw [fillFields, Value.toDatumFields_eq]
  intro field member
  rcases List.mem_append.mp member with there | added
  · obtain ⟨⟨name, datum⟩, inside, rfl⟩ := List.mem_map.mp there
    cases name with
    | none => exact fieldsWhole _ inside
    | some name => exact keeps name datum (fieldsWhole _ inside)
  · obtain ⟨missing, inside, rfl⟩ := List.mem_map.mp added
    exact whole missing (List.mem_of_mem_filter inside)

theorem isWhole_fillIn
    (keeps : ∀ name datum, datum.isWhole = true → (parts name datum).isWhole = true)
    (whole : ∀ field ∈ defaults, field.2.toDatum.isWhole = true) (datum : Datum)
    (datumWhole : datum.isWhole = true) :
    (fillIn parts (.object defaults) datum).isWhole = true := by
  cases datum with
  | object fields => exact fieldsAreWhole_fillFields keeps whole datumWhole
  | _ => exact datumWhole

theorem namesOf?_fillFields {names : List String} (named : namesOf? fields = some names) :
    namesOf? (fillFields parts defaults fields) =
      some (names ++ (lacking defaults fields).map (·.1)) := by
  have added := namesOf?_toDatumFields (lacking defaults fields)
  rw [namesOf?] at named added ⊢
  simp [fillFields, List.mapM_append, List.mapM_map, Function.comp_def, named, added]

-- A name is among those that are there or among those that are added, and not twice in either.
theorem Legible.fillFields {known names : List String} (legible : Legible known fields names)
    (distinct : (defaults.map (·.1)).Nodup)
    (keeps : ∀ name datum, datum.isWhole = true → (parts name datum).isWhole = true)
    (whole : ∀ field ∈ defaults, field.2.toDatum.isWhole = true) :
    Legible known (fillFields parts defaults fields)
      (names ++ (lacking defaults fields).map (·.1)) where
  named := namesOf?_fillFields legible.named
  once name member := by
    rw [List.count_append]
    by_cases there : name ∈ names
    · have absent : name ∉ (lacking defaults fields).map (·.1) := by
        intro added
        obtain ⟨field, inside, rfl⟩ := List.mem_map.mp added
        have missing := (List.mem_filter.mp inside).2
        rw [Option.isNone_eq_false_iff.mpr (legible.lookup?_isSome there)] at missing
        cases missing
      rw [List.count_eq_zero.mpr absent]
      exact legible.once name member
    · have single : ((lacking defaults fields).map (·.1)).Nodup :=
        distinct.sublist (List.filter_sublist.map _)
      rw [List.count_eq_zero.mpr there, Nat.zero_add]
      exact List.nodup_iff_count_le_one.mp single name
  whole := fieldsAreWhole_fillFields keeps whole legible.whole

theorem given?_fillFields {β : Type} {spec : Datum → Option β} {name : String} {value : Option β}
    (typed : given? spec (lookup? name fields) = some value) (default : Value)
    (written : defaults.lookup name = some default) (content : β)
    (reads : spec default.toDatum = some content) (change : β → β)
    (changed : ∀ datum b, spec datum = some b → spec (parts name datum) = some (change b)) :
    given? spec (lookup? name (fillFields parts defaults fields)) =
      some (some ((value.map change).getD content)) := by
  rw [lookup?_fillFields, written]
  rcases given?_some typed with ⟨absent, rfl⟩ | ⟨datum, b, found, rfl, read⟩
  · simp [absent, given?, reads]
  · simp [found, given?, changed datum b read]

theorem given?_kept {β : Type} {spec : Datum → Option β} {name : String} {value : Option β}
    (typed : given? spec (lookup? name fields) = some value)
    (kept : ∀ datum, parts name datum = datum) (default : Value)
    (written : defaults.lookup name = some default) {content : β}
    (reads : spec default.toDatum = some content) :
    given? spec (lookup? name (fillFields parts defaults fields)) =
      some (some (value.getD content)) := by
  have same (datum : Datum) (b : β) (read : spec datum = some b) :
      spec (parts name datum) = some (id b) := (kept datum).symm ▸ read
  simpa using given?_fillFields typed default written content reads id same

end Json

namespace Server

def defaults : List (String × Value) :=
  [("port", .ofUInt16 standard.port), ("cert_path", .string standard.certificate),
    ("key_path", .string standard.privateKey), ("stop_wait_time", .string standard.stopWait.text)]

theorem standard_toValue : standard.toValue = .object defaults := rfl

theorem defaults_whole : ∀ field ∈ defaults, field.2.toDatum.isWhole = true := by decide

def filled : Datum → Datum := fillIn (fun _ => id) standard.toValue

theorem Entries.Given.filled {entries : Entries} {fields : List (Option String × Datum)}
    {names : List String} (all : entries.Given fields names) :
    (Entries.ofServer (entries.withDefaults standard)).Given
      (fillFields (fun _ => id) defaults fields)
      (names ++ (lacking defaults fields).map (·.1)) := by
  refine ⟨all.toLegible.fillFields (by decide) (fun _ _ whole => whole) defaults_whole,
    ?_, ?_, ?_, ?_⟩
  · exact given?_kept all.port (fun _ => rfl) (.ofUInt16 standard.port) rfl (by decide)
  · exact given?_kept all.certificate (fun _ => rfl) (.string standard.certificate) rfl rfl
  · exact given?_kept all.privateKey (fun _ => rfl) (.string standard.privateKey) rfl rfl
  · exact given?_kept all.stopWait (fun _ => rfl) (.string standard.stopWait.text) rfl
      (by decide +kernel)

theorem ofDatum?_filled {datum : Datum} {entries : Entries}
    (typed : Entries.ofDatum? datum = some entries) :
    Entries.ofDatum? (filled datum) = some (.ofServer (entries.withDefaults standard)) := by
  obtain ⟨fields, names, rfl, all⟩ := Entries.ofDatum?_iff.mp typed
  rw [filled, standard_toValue]
  exact Entries.ofDatum?_iff.mpr ⟨_, _, rfl, all.filled⟩

end Server

namespace Metrics

def defaults : List (String × Value) :=
  [("enabled", .bool standard.enabled), ("port", .ofUInt16 standard.port)]

theorem standard_toValue : standard.toValue = .object defaults := rfl

theorem defaults_whole : ∀ field ∈ defaults, field.2.toDatum.isWhole = true := by decide

def filled : Datum → Datum := fillIn (fun _ => id) standard.toValue

theorem Entries.Given.filled {entries : Entries} {fields : List (Option String × Datum)}
    {names : List String} (all : entries.Given fields names) :
    (Entries.ofMetrics (entries.withDefaults standard)).Given
      (fillFields (fun _ => id) defaults fields)
      (names ++ (lacking defaults fields).map (·.1)) := by
  refine ⟨all.toLegible.fillFields (by decide) (fun _ _ whole => whole) defaults_whole, ?_, ?_⟩
  · exact given?_kept all.enabled (fun _ => rfl) (.bool standard.enabled) rfl rfl
  · exact given?_kept all.port (fun _ => rfl) (.ofUInt16 standard.port) rfl (by decide)

theorem ofDatum?_filled {datum : Datum} {entries : Entries}
    (typed : Entries.ofDatum? datum = some entries) :
    Entries.ofDatum? (filled datum) = some (.ofMetrics (entries.withDefaults standard)) := by
  obtain ⟨fields, names, rfl, all⟩ := Entries.ofDatum?_iff.mp typed
  rw [filled, standard_toValue]
  exact Entries.ofDatum?_iff.mpr ⟨_, _, rfl, all.filled⟩

end Metrics

namespace Config

def defaults : List (String × Value) :=
  [("log_level", .string standard.logLevel), ("bridge_capacity", .ofUInt64 standard.bridgeCapacity),
    ("server", standard.server.toValue), ("metrics", standard.metrics.toValue)]

theorem standard_toValue : standard.toValue = .object defaults := rfl

theorem defaults_whole : ∀ field ∈ defaults, field.2.toDatum.isWhole = true := by decide

/-- What a part of a configuration is when its own defaults are written into it. -/
def filledPart (name : String) : Datum → Datum :=
  if name = "server" then Server.filled
  else if name = "metrics" then Metrics.filled
  else id

def filled : Datum → Datum := fillIn filledPart standard.toValue

theorem filledPart_whole (name : String) (datum : Datum) (whole : datum.isWhole = true) :
    (filledPart name datum).isWhole = true := by
  unfold filledPart
  split
  · rw [Server.filled, Server.standard_toValue]
    exact isWhole_fillIn (fun _ _ whole => whole) Server.defaults_whole datum whole
  · split
    · rw [Metrics.filled, Metrics.standard_toValue]
      exact isWhole_fillIn (fun _ _ whole => whole) Metrics.defaults_whole datum whole
    · exact whole

theorem Entries.Given.filled {entries : Entries} {fields : List (Option String × Datum)}
    {names : List String} (all : entries.Given fields names) :
    (entries.completed standard).Given (fillFields filledPart defaults fields)
      (names ++ (lacking defaults fields).map (·.1)) := by
  refine ⟨all.toLegible.fillFields (by decide) filledPart_whole defaults_whole, ?_, ?_, ?_, ?_⟩
  · exact given?_kept all.logLevel (fun _ => rfl) (.string standard.logLevel) rfl rfl
  · exact given?_kept all.bridgeCapacity (fun _ => rfl) (.ofUInt64 standard.bridgeCapacity) rfl
      (by decide)
  · have part : given? Server.Entries.ofDatum?
        (lookup? "server" (fillFields filledPart defaults fields)) = _ :=
      given?_fillFields all.server standard.server.toValue rfl (.ofServer standard.server)
        (by decide +kernel) (fun part => .ofServer (part.withDefaults .standard))
        fun _ _ => Server.ofDatum?_filled
    simp only [part, completed, withDefaults]
    cases entries.server <;> rfl
  · have part : given? Metrics.Entries.ofDatum?
        (lookup? "metrics" (fillFields filledPart defaults fields)) = _ :=
      given?_fillFields all.metrics standard.metrics.toValue rfl (.ofMetrics standard.metrics)
        (by decide +kernel) (fun part => .ofMetrics (part.withDefaults .standard))
        fun _ _ => Metrics.ofDatum?_filled
    simp only [part, completed, withDefaults]
    cases entries.metrics <;> rfl

theorem ofDatum?_filled {datum : Datum} {entries : Entries}
    (typed : Entries.ofDatum? datum = some entries) :
    Entries.ofDatum? (filled datum) = some (entries.completed standard) := by
  obtain ⟨fields, names, rfl, all⟩ := Entries.ofDatum?_iff.mp typed
  rw [filled, standard_toValue]
  exact Entries.ofDatum?_iff.mpr ⟨_, _, rfl, all.filled⟩

end Config

namespace Config

/-- The conditions on the settings of a process. -/
structure Acceptable (config : Config) : Prop where
  capacity : 0 < config.bridgeCapacity
  logLevel : ∃ c ∈ config.logLevel.toList, isWhite c = false
  port : config.server.port ≠ 0
  paired : isBlankText config.server.certificate = true ↔
    isBlankText config.server.privateKey = true
  metrics : config.metrics.enabled = true →
    config.metrics.port ≠ 0 ∧ config.metrics.port ≠ config.server.port

def Violates (config : Config) : Defect → Prop
  | .noCapacity => config.bridgeCapacity = 0
  | .noLogLevel => ∀ c ∈ config.logLevel.toList, isWhite c = true
  | .noPort => config.server.port = 0
  | .certificateWithoutKey =>
    ¬ (isBlankText config.server.certificate = true ↔ isBlankText config.server.privateKey = true)
  | .noMetricsPort => config.metrics.enabled = true ∧ config.metrics.port = 0
  | .sharedPort => config.metrics.enabled = true ∧ config.metrics.port = config.server.port

def Defect.earlier : Defect → List Defect
  | .noCapacity => []
  | .noLogLevel => [.noCapacity]
  | .noPort => [.noCapacity, .noLogLevel]
  | .certificateWithoutKey => [.noCapacity, .noLogLevel, .noPort]
  | .noMetricsPort => [.noCapacity, .noLogLevel, .noPort, .certificateWithoutKey]
  | .sharedPort => [.noCapacity, .noLogLevel, .noPort, .certificateWithoutKey, .noMetricsPort]

/-- A rule is broken, and none of those that come before it. -/
def FirstBroken (config : Config) (rule : Defect) : Prop :=
  config.Violates rule ∧ ∀ other ∈ rule.earlier, ¬ config.Violates other

theorem rules_split (rule : Defect) : ∃ later, rules = rule.earlier ++ rule :: later := by
  cases rule <;> exact ⟨_, rfl⟩

theorem Defect.not_earlier (rule : Defect) : rule ∉ rule.earlier := by
  cases rule <;> decide

theorem breaks_iff (config : Config) (rule : Defect) :
    config.breaks rule = true ↔ config.Violates rule := by
  cases rule with
  | noCapacity => simp [breaks, Violates]
  | noLogLevel => simp [breaks, Violates, isBlankText]
  | noPort => simp [breaks, Violates]
  | certificateWithoutKey =>
      simp only [breaks, Violates, Server.hasCertificate, Server.hasPrivateKey]
      cases isBlankText config.server.certificate <;>
        cases isBlankText config.server.privateKey <;> simp
  | noMetricsPort => simp [breaks, Violates]
  | sharedPort => simp [breaks, Violates]

theorem defect?_none_iff (config : Config) :
    config.defect? = none ↔ ∀ rule, ¬ config.Violates rule := by
  rw [defect?, List.find?_eq_none]
  constructor
  · intro kept rule broken
    exact kept rule (by cases rule <;> decide) ((config.breaks_iff rule).mpr broken)
  · exact fun kept rule _ broken => kept rule ((config.breaks_iff rule).mp broken)

theorem defect?_some_iff (config : Config) (rule : Defect) :
    config.defect? = some rule ↔ config.FirstBroken rule := by
  obtain ⟨later, listed⟩ := rules_split rule
  constructor
  · intro found
    refine ⟨(config.breaks_iff rule).mp (List.find?_some found), fun other member violated => ?_⟩
    rw [defect?, listed, List.find?_append] at found
    cases first : rule.earlier.find? config.breaks with
    | none =>
        have kept := List.find?_eq_none.mp first other member
        exact kept ((config.breaks_iff other).mpr violated)
    | some chosen =>
        -- The one that is found in front is the rule itself.
        rw [first] at found
        cases found
        exact rule.not_earlier (List.mem_of_find?_eq_some first)
  · rintro ⟨broken, kept⟩
    rw [defect?, List.find?_eq_some_iff_append]
    refine ⟨(config.breaks_iff rule).mpr broken, rule.earlier, later, listed, ?_⟩
    intro other member
    have unbroken := mt (config.breaks_iff other).mp (kept other member)
    simpa using unbroken

theorem acceptable_iff (config : Config) :
    config.Acceptable ↔ ∀ rule, ¬ config.Violates rule := by
  constructor
  · intro acceptable rule violated
    cases rule with
    | noCapacity => exact absurd acceptable.capacity (by rw [violated]; decide)
    | noLogLevel =>
        obtain ⟨c, member, visible⟩ := acceptable.logLevel
        cases (violated c member).symm.trans visible
    | noPort => exact acceptable.port violated
    | certificateWithoutKey => exact violated acceptable.paired
    | noMetricsPort => exact (acceptable.metrics violated.1).1 violated.2
    | sharedPort => exact (acceptable.metrics violated.1).2 violated.2
  · intro kept
    constructor
    case capacity => exact UInt64.pos_iff_ne_zero.mpr (kept .noCapacity)
    case logLevel =>
      have visible : isBlankText config.logLevel = false :=
        Bool.not_eq_true _ ▸ fun blank => kept .noLogLevel (List.all_eq_true.mp blank)
      simpa [isBlankText] using visible
    case port => exact kept .noPort
    case paired => exact Decidable.not_not.mp (kept .certificateWithoutKey)
    case metrics =>
      exact fun enabled => ⟨fun none => kept .noMetricsPort ⟨enabled, none⟩,
        fun shared => kept .sharedPort ⟨enabled, shared⟩⟩

theorem validated_acceptable {config : Config} (acceptable : config.Acceptable) :
    config.validated = .ok config := by
  rw [validated, (config.defect?_none_iff).mpr (config.acceptable_iff.mp acceptable)]

theorem validated_broken {config : Config} (refused : ¬ config.Acceptable) :
    ∃ rule, config.FirstBroken rule ∧ config.validated = .error (.defect rule) := by
  rw [acceptable_iff, ← defect?_none_iff] at refused
  obtain ⟨rule, found⟩ := Option.ne_none_iff_exists'.mp refused
  exact ⟨rule, (config.defect?_some_iff rule).mp found, by rw [validated, found]⟩

theorem ofText_entries {text : String} {datum : Datum} {entries : Entries}
    (read : Toml.read text = some datum) (typed : Entries.ofDatum? datum = some entries) :
    ofText text = (entries.withDefaults standard).validated := by
  have config := ofDatum_entries .settingsFile typed fun main => by cases main
  rw [ofText, read]
  simp only [orMalformed, config, bind, Except.bind]

-- A document is read before it is known to end well, and this one does.
theorem readText_entries {text : String} {datum : Datum} {entries : Entries}
    (read : Json.read text = some datum) (typed : Entries.ofDatum? datum = some entries)
    (main : entries.logLevel ≠ none ∧ entries.bridgeCapacity ≠ none) :
    readText text = .ok (entries.withDefaults standard) := by
  simp only [Json.read] at read
  split at read
  next clean =>
    cases read
    have config := ofDatum_entries .document typed fun _ => main
    simp only [readText, clean, config, bind, Except.bind, ↓reduceIte, pure, Except.pure]
  next => cases read

end Config

/-- A settings file whose fields are of their types is accepted as the given settings over the
defaults if these meet the conditions, and otherwise refused for the first rule that they break. The
same comes of its contents with every default written into them, of any file that gives all these
settings, and of any document in JSON that gives them, when it is checked after it is read. -/
theorem settings_read_alike (text : String) (datum : Datum) (entries : Config.Entries)
    (read : Toml.read text = some datum)
    (typed : Config.Entries.ofDatum? datum = some entries) :
    let config := entries.withDefaults .standard
    let complete := entries.completed .standard
    (config.Acceptable ↔ Config.ofText text = .ok config) ∧
    (¬ config.Acceptable →
      ∃ rule, config.FirstBroken rule ∧ Config.ofText text = .error (.defect rule)) ∧
    (Config.ofDatum .settingsFile (Config.filled datum)).bind Config.validated =
      Config.ofText text ∧
    (∀ full whole, Toml.read full = some whole →
      Config.Entries.ofDatum? whole = some complete → Config.ofText full = Config.ofText text) ∧
    ∀ json whole, Json.read json = some whole → Config.Entries.ofDatum? whole = some complete →
      (Config.readText json).bind Config.validated = Config.ofText text := by
  intro config complete
  have answer : Config.ofText text = config.validated := Config.ofText_entries read typed
  have filled := Config.ofDatum_entries .settingsFile (Config.ofDatum?_filled typed)
    fun main => by cases main
  rw [answer]
  refine ⟨⟨Config.validated_acceptable, fun accepted => ?_⟩, Config.validated_broken, ?_, ?_, ?_⟩
  · by_cases acceptable : config.Acceptable
    · exact acceptable
    · obtain ⟨rule, _, refused⟩ := Config.validated_broken acceptable
      cases accepted.symm.trans refused
  · rw [filled]
    rfl
  · intro full whole said given
    rw [Config.ofText_entries said given, Config.Entries.withDefaults_completed]
  · intro json whole said given
    rw [Config.readText_entries said given ⟨Option.some_ne_none _, Option.some_ne_none _⟩]
    rfl

def onePort : String := "[server]\nport = 9000\n"

def everySetting : String :=
  "\x7b\"log_level\":\"info\",\"bridge_capacity\":1024,\"server\":\x7b\"port\":9000," ++
    "\"cert_path\":\"\",\"key_path\":\"\",\"stop_wait_time\":\"5s\"\x7d," ++
    "\"metrics\":\x7b\"enabled\":false,\"port\":8878\x7d\x7d"

theorem settings_read_alike_onePort :
    let entries : Config.Entries := { server := some { port := some 9000 } }
    (Toml.read onePort).bind Config.Entries.ofDatum? = some entries ∧
      Config.ofText onePort = .ok { server := { port := 9000 } } ∧
      (Config.readText everySetting).bind Config.validated = Config.ofText onePort := by
  intro entries
  have given : (Toml.read onePort).bind Config.Entries.ofDatum? = some entries := by
    decide +kernel
  have whole : (Json.read everySetting).bind Config.Entries.ofDatum? =
      some (entries.completed .standard) := by
    decide +kernel
  obtain ⟨datum, read, typed⟩ := Option.bind_eq_some_iff.mp given
  obtain ⟨said, reads, complete⟩ := Option.bind_eq_some_iff.mp whole
  obtain ⟨accepts, _, _, _, document⟩ := settings_read_alike onePort datum entries read typed
  have acceptable : (entries.withDefaults .standard).Acceptable := by
    constructor
    case capacity => decide
    case logLevel => exact ⟨'i', by decide, by decide⟩
    case port => decide
    case paired => decide
    case metrics => decide
  exact ⟨given, accepts.mp acceptable, document everySetting said reads complete⟩

end Switchboard
