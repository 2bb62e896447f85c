import Switchboard.Config.Document
import Switchboard.Proofs.Layouts

/-!
The settings that a document gives. They are told by its names alone: every known setting is there
once and of its type, or it is left out, and a whole part may be left out too. The reading in the
order of the fields comes to the same: what is given stands over the defaults.
-/
namespace Switchboard

open Json

/-- A field that may be left out, and is of its type if it is there. -/
def Json.given? {α : Type} (read : Datum → Option α) : Option Datum → Option (Option α)
  | none => some none
  | some datum => (read datum).map some

/-- The data of the known names of an object in which nothing is broken. -/
def Json.Datum.parts? (known : List String) : Datum → Option (List (Option Datum))
  | .object fields => if Datum.fieldsAreWhole fields then namedFields? known fields else none
  | _ => none

def Duration.ofDatum? (datum : Datum) : Option Duration := (ofDatum datum).toOption

namespace Server

def fieldNames : List String := ["port", "cert_path", "key_path", "stop_wait_time"]

structure Entries where
  port : Option UInt16 := none
  certificate : Option String := none
  privateKey : Option String := none
  stopWait : Option Duration := none
  deriving DecidableEq

namespace Entries

def ofDatum? (datum : Datum) : Option Entries :=
  match datum.parts? fieldNames with
  | some [port, certificate, privateKey, stopWait] => do
    let port ← given? Datum.uint16? port
    let certificate ← given? Datum.string? certificate
    let privateKey ← given? Datum.string? privateKey
    let stopWait ← given? Duration.ofDatum? stopWait
    pure ⟨port, certificate, privateKey, stopWait⟩
  | _ => none

def withDefaults (entries : Entries) (defaults : Server) : Server :=
  ⟨entries.port.getD defaults.port, entries.certificate.getD defaults.certificate,
    entries.privateKey.getD defaults.privateKey, entries.stopWait.getD defaults.stopWait⟩

def ofServer (server : Server) : Entries :=
  ⟨some server.port, some server.certificate, some server.privateKey, some server.stopWait⟩

end Entries
end Server

namespace Metrics

def fieldNames : List String := ["enabled", "port"]

structure Entries where
  enabled : Option Bool := none
  port : Option UInt16 := none
  deriving DecidableEq

namespace Entries

def ofDatum? (datum : Datum) : Option Entries :=
  match datum.parts? fieldNames with
  | some [enabled, port] => do
    let enabled ← given? Datum.bool? enabled
    let port ← given? Datum.uint16? port
    pure ⟨enabled, port⟩
  | _ => none

def withDefaults (entries : Entries) (defaults : Metrics) : Metrics :=
  ⟨entries.enabled.getD defaults.enabled, entries.port.getD defaults.port⟩

def ofMetrics (metrics : Metrics) : Entries := ⟨some metrics.enabled, some metrics.port⟩

end Entries
end Metrics

namespace Config

def fieldNames : List String := ["log_level", "bridge_capacity", "server", "metrics"]

/-- The settings that a document gives. A part that is there may be empty. -/
structure Entries where
  logLevel : Option String := none
  bridgeCapacity : Option UInt64 := none
  server : Option Server.Entries := none
  metrics : Option Metrics.Entries := none
  deriving DecidableEq

namespace Entries

def ofDatum? (datum : Datum) : Option Entries :=
  match datum.parts? fieldNames with
  | some [logLevel, bridgeCapacity, server, metrics] => do
    let logLevel ← given? Datum.string? logLevel
    let bridgeCapacity ← given? Datum.uint64? bridgeCapacity
    let server ← given? Server.Entries.ofDatum? server
    let metrics ← given? Metrics.Entries.ofDatum? metrics
    pure ⟨logLevel, bridgeCapacity, server, metrics⟩
  | _ => none

def withDefaults (entries : Entries) (defaults : Config) : Config :=
  ⟨entries.logLevel.getD defaults.logLevel, entries.bridgeCapacity.getD defaults.bridgeCapacity,
    (entries.server.getD {}).withDefaults defaults.server,
    (entries.metrics.getD {}).withDefaults defaults.metrics⟩

def completed (entries : Entries) (defaults : Config) : Entries :=
  let config := entries.withDefaults defaults
  ⟨some config.logLevel, some config.bridgeCapacity, some (.ofServer config.server),
    some (.ofMetrics config.metrics)⟩

theorem withDefaults_completed (entries : Entries) (defaults other : Config) :
    (entries.completed defaults).withDefaults other = entries.withDefaults defaults := rfl

end Entries
end Config

theorem Json.given?_some {α : Type} {read : Datum → Option α} {datum : Option Datum}
    {value : Option α} (typed : given? read datum = some value) :
    (datum = none ∧ value = none) ∨
      ∃ found content, datum = some found ∧ value = some content ∧ read found = some content := by
  cases datum with
  | none => exact Or.inl ⟨rfl, (Option.some.inj typed).symm⟩
  | some found =>
      obtain ⟨content, done, rfl⟩ := Option.map_eq_some_iff.mp typed
      exact Or.inr ⟨found, content, rfl, rfl, done⟩

theorem Json.Datum.parts?_iff {known : List String} {datum : Datum}
    {parts : List (Option Datum)} :
    datum.parts? known = some parts ↔
      ∃ fields names, datum = .object fields ∧ Legible known fields names ∧
        parts = known.map (lookup? · fields) := by
  constructor
  · intro found
    cases datum with
    | object fields =>
        simp only [parts?, namedFields?] at found
        split at found
        next whole =>
          obtain ⟨names, named, found⟩ := Option.bind_eq_some_iff.mp found
          split at found
          next => cases found
          next single =>
            have once : ∀ name ∈ known, names.count name ≤ 1 := by simpa [repeats] using single
            exact ⟨fields, names, rfl, ⟨named, once, whole⟩, (Option.some.inj found).symm⟩
        next => cases found
    | _ => cases found
  · rintro ⟨fields, names, rfl, legible, rfl⟩
    have single : ∀ name ∈ known, repeats name names = false := by
      simpa [repeats] using legible.once
    simpa [parts?, namedFields?, legible.whole, legible.named] using single

def settingAfter {α : Type} (name : String) (value : Option α) (default : α)
    (seen : List String) : α :=
  if name ∈ seen then value.getD default else default

section Slots
variable {α β σ : Type} {known names : List String} {fields : List (Option String × Datum)}
  {name : String} {spec : Datum → Option β} {value : Option β}

theorem Json.Legible.mem_given (legible : Legible known fields names)
    (typed : given? spec (lookup? name fields) = some value) (there : value ≠ none) :
    name ∈ names := by
  rcases given?_some typed with ⟨_, absent⟩ | ⟨datum, content, found, _, _⟩
  · exact absurd absent there
  · exact legible.mem_names (mem_of_lookup? found)

theorem Json.Legible.setting_given (legible : Legible known fields names)
    (typed : given? spec (lookup? name fields) = some value) (default : β) {final : List String}
    (read : name ∈ names → name ∈ final) :
    settingAfter name value default final = value.getD default := by
  unfold settingAfter
  split
  next => rfl
  next missing =>
    cases value with
    | none => rfl
    | some content =>
        have there : name ∈ names := legible.mem_given typed (Option.some_ne_none content)
        exact absurd (read there) missing

@[simp] theorem configSlot_name (required : Bool) (read : Datum → Except ConfigFault α)
    (put : α → σ → σ) : (configSlot name required read put).name = name := rfl

@[simp] theorem plainSlot_name (read : Datum → Option α) (put : α → σ → σ) :
    (plainSlot name read put).name = name := rfl

theorem configSlot_takes {required : Bool} {read : Datum → Except ConfigFault α}
    {put : α → σ → σ} {draft : List String → σ} (legible : Legible known fields names)
    (member : name ∈ known) (typed : given? spec (lookup? name fields) = some value)
    (content : β → α) (reads : ∀ datum b, spec datum = some b → read datum = .ok (content b))
    (puts : ∀ b, value = some b → ∀ seen, put (content b) (draft seen) = draft (name :: seen))
    (datum : Datum) (there : (some name, datum) ∈ fields) (seen : List String) :
    (configSlot name required read put).take datum (draft seen) = .ok (draft (name :: seen)) := by
  have found := legible.lookup?_mem member there
  rcases given?_some typed with ⟨absent, _⟩ | ⟨other, b, same, given, done⟩
  · cases absent.symm.trans found
  · cases same.symm.trans found
    rw [← puts b given seen]
    simp only [configSlot, reads datum b done, Except.map]

end Slots

theorem orMalformed_some {α : Type} {read : Datum → Option α} (datum : Datum) (content : α)
    (done : read datum = some content) : orMalformed (read datum) = .ok content := by
  rw [done]
  rfl

theorem Duration.ofDatum?_some (datum : Datum) (duration : Duration)
    (done : ofDatum? datum = some duration) : ofDatum datum = .ok duration := by
  unfold ofDatum? at done
  cases read : ofDatum datum with
  | error fault => simp [read, Except.toOption] at done
  | ok other => simpa [read, Except.toOption] using done

namespace Server.Entries

structure Given (entries : Entries) (fields : List (Option String × Datum))
    (names : List String) : Prop extends Legible fieldNames fields names where
  port : given? Datum.uint16? (lookup? "port" fields) = some entries.port
  certificate : given? Datum.string? (lookup? "cert_path" fields) = some entries.certificate
  privateKey : given? Datum.string? (lookup? "key_path" fields) = some entries.privateKey
  stopWait : given? Duration.ofDatum? (lookup? "stop_wait_time" fields) = some entries.stopWait

theorem ofDatum?_iff {datum : Datum} {entries : Entries} :
    ofDatum? datum = some entries ↔
      ∃ fields names, datum = .object fields ∧ entries.Given fields names := by
  constructor
  · intro typed
    unfold ofDatum? at typed
    cases found : datum.parts? fieldNames with
    | none => simp [found] at typed
    | some parts =>
        obtain ⟨fields, names, rfl, legible, rfl⟩ := Datum.parts?_iff.mp found
        rw [found] at typed
        simp only [fieldNames, List.map_cons, List.map_nil, Option.bind_eq_bind,
          Option.bind_eq_some_iff] at typed
        obtain ⟨_, port, _, certificate, _, privateKey, _, stopWait, same⟩ := typed
        cases same
        exact ⟨fields, names, rfl, legible, port, certificate, privateKey, stopWait⟩
  · rintro ⟨fields, names, rfl, all⟩
    rw [ofDatum?, Datum.parts?_iff.mpr ⟨fields, names, rfl, all.toLegible, rfl⟩]
    simp [fieldNames, all.port, all.certificate, all.privateKey, all.stopWait]

def draft (entries : Entries) (seen : List String) : Server :=
  ⟨settingAfter "port" entries.port standard.port seen,
    settingAfter "cert_path" entries.certificate standard.certificate seen,
    settingAfter "key_path" entries.privateKey standard.privateKey seen,
    settingAfter "stop_wait_time" entries.stopWait standard.stopWait seen⟩

variable {entries : Entries} {fields : List (Option String × Datum)} {names : List String}

theorem Given.takes (all : entries.Given fields names) :
    ∀ slot ∈ slots, ∀ datum, (some slot.name, datum) ∈ fields → ∀ seen,
      slot.take datum (entries.draft seen) = .ok (entries.draft (slot.name :: seen)) := by
  simp only [slots, List.forall_mem_cons, List.not_mem_nil, false_implies, implies_true, and_true,
    plainSlot_name, configSlot_name]
  refine ⟨configSlot_takes all.toLegible (by decide) all.port id orMalformed_some ?_,
    configSlot_takes all.toLegible (by decide) all.certificate id orMalformed_some ?_,
    configSlot_takes all.toLegible (by decide) all.privateKey id orMalformed_some ?_,
    configSlot_takes all.toLegible (by decide) all.stopWait id Duration.ofDatum?_some ?_⟩
  all_goals
    intro content given seen
    simp [draft, settingAfter, given]

theorem Given.draft_final (all : entries.Given fields names) {final : List String}
    (read : ∀ name ∈ fieldNames, name ∈ names → name ∈ final) :
    entries.draft final = entries.withDefaults standard := by
  simp only [fieldNames, List.forall_mem_cons] at read
  obtain ⟨port, certificate, privateKey, stopWait, _⟩ := read
  rw [draft, withDefaults, all.setting_given all.port _ port,
    all.setting_given all.certificate _ certificate,
    all.setting_given all.privateKey _ privateKey, all.setting_given all.stopWait _ stopWait]

end Server.Entries

theorem Server.slots_optional : ∀ slot ∈ slots, slot.required = false := by decide

theorem Server.ofDatum_entries (medium : Medium) {datum : Datum} {entries : Entries}
    (typed : Entries.ofDatum? datum = some entries) :
    ofDatum medium datum = .ok (entries.withDefaults standard) := by
  obtain ⟨fields, names, rfl, all⟩ := Entries.ofDatum?_iff.mp typed
  apply (medium.layout slots).read_ok entries.draft _ all.toLegible all.takes
  · exact fun slot member needed => absurd needed (by simp [slots_optional slot member])
  · exact fun final read => all.draft_final read

namespace Metrics.Entries

structure Given (entries : Entries) (fields : List (Option String × Datum))
    (names : List String) : Prop extends Legible fieldNames fields names where
  enabled : given? Datum.bool? (lookup? "enabled" fields) = some entries.enabled
  port : given? Datum.uint16? (lookup? "port" fields) = some entries.port

theorem ofDatum?_iff {datum : Datum} {entries : Entries} :
    ofDatum? datum = some entries ↔
      ∃ fields names, datum = .object fields ∧ entries.Given fields names := by
  constructor
  · intro typed
    unfold ofDatum? at typed
    cases found : datum.parts? fieldNames with
    | none => simp [found] at typed
    | some parts =>
        obtain ⟨fields, names, rfl, legible, rfl⟩ := Datum.parts?_iff.mp found
        rw [found] at typed
        simp only [fieldNames, List.map_cons, List.map_nil, Option.bind_eq_bind,
          Option.bind_eq_some_iff] at typed
        obtain ⟨_, enabled, _, port, same⟩ := typed
        cases same
        exact ⟨fields, names, rfl, legible, enabled, port⟩
  · rintro ⟨fields, names, rfl, all⟩
    rw [ofDatum?, Datum.parts?_iff.mpr ⟨fields, names, rfl, all.toLegible, rfl⟩]
    simp [fieldNames, all.enabled, all.port]

def draft (entries : Entries) (seen : List String) : Metrics :=
  ⟨settingAfter "enabled" entries.enabled standard.enabled seen,
    settingAfter "port" entries.port standard.port seen⟩

variable {entries : Entries} {fields : List (Option String × Datum)} {names : List String}

theorem Given.takes (all : entries.Given fields names) :
    ∀ slot ∈ slots, ∀ datum, (some slot.name, datum) ∈ fields → ∀ seen,
      slot.take datum (entries.draft seen) = .ok (entries.draft (slot.name :: seen)) := by
  simp only [slots, List.forall_mem_cons, List.not_mem_nil, false_implies, implies_true, and_true,
    plainSlot_name]
  refine ⟨configSlot_takes all.toLegible (by decide) all.enabled id orMalformed_some ?_,
    configSlot_takes all.toLegible (by decide) all.port id orMalformed_some ?_⟩
  all_goals
    intro content given seen
    simp [draft, settingAfter, given]

theorem Given.draft_final (all : entries.Given fields names) {final : List String}
    (read : ∀ name ∈ fieldNames, name ∈ names → name ∈ final) :
    entries.draft final = entries.withDefaults standard := by
  simp only [fieldNames, List.forall_mem_cons] at read
  obtain ⟨enabled, port, _⟩ := read
  rw [draft, withDefaults, all.setting_given all.enabled _ enabled,
    all.setting_given all.port _ port]

end Metrics.Entries

theorem Metrics.slots_optional : ∀ slot ∈ slots, slot.required = false := by decide

theorem Metrics.ofDatum_entries (medium : Medium) {datum : Datum} {entries : Entries}
    (typed : Entries.ofDatum? datum = some entries) :
    ofDatum medium datum = .ok (entries.withDefaults standard) := by
  obtain ⟨fields, names, rfl, all⟩ := Entries.ofDatum?_iff.mp typed
  apply (medium.layout slots).read_ok entries.draft _ all.toLegible all.takes
  · exact fun slot member needed => absurd needed (by simp [slots_optional slot member])
  · exact fun final read => all.draft_final read

namespace Config.Entries

structure Given (entries : Entries) (fields : List (Option String × Datum))
    (names : List String) : Prop extends Legible fieldNames fields names where
  logLevel : given? Datum.string? (lookup? "log_level" fields) = some entries.logLevel
  bridgeCapacity :
    given? Datum.uint64? (lookup? "bridge_capacity" fields) = some entries.bridgeCapacity
  server : given? Server.Entries.ofDatum? (lookup? "server" fields) = some entries.server
  metrics : given? Metrics.Entries.ofDatum? (lookup? "metrics" fields) = some entries.metrics

theorem ofDatum?_iff {datum : Datum} {entries : Entries} :
    ofDatum? datum = some entries ↔
      ∃ fields names, datum = .object fields ∧ entries.Given fields names := by
  constructor
  · intro typed
    unfold ofDatum? at typed
    cases found : datum.parts? fieldNames with
    | none => simp [found] at typed
    | some parts =>
        obtain ⟨fields, names, rfl, legible, rfl⟩ := Datum.parts?_iff.mp found
        rw [found] at typed
        simp only [fieldNames, List.map_cons, List.map_nil, Option.bind_eq_bind,
          Option.bind_eq_some_iff] at typed
        obtain ⟨_, logLevel, _, bridgeCapacity, _, server, _, metrics, same⟩ := typed
        cases same
        exact ⟨fields, names, rfl, legible, logLevel, bridgeCapacity, server, metrics⟩
  · rintro ⟨fields, names, rfl, all⟩
    rw [ofDatum?, Datum.parts?_iff.mpr ⟨fields, names, rfl, all.toLegible, rfl⟩]
    simp [fieldNames, all.logLevel, all.bridgeCapacity, all.server, all.metrics]

def draft (entries : Entries) (seen : List String) : Config :=
  ⟨settingAfter "log_level" entries.logLevel standard.logLevel seen,
    settingAfter "bridge_capacity" entries.bridgeCapacity standard.bridgeCapacity seen,
    (settingAfter "server" entries.server {} seen).withDefaults .standard,
    (settingAfter "metrics" entries.metrics {} seen).withDefaults .standard⟩

variable {entries : Entries} {fields : List (Option String × Datum)} {names : List String}

theorem Given.takes (all : entries.Given fields names) (medium : Medium) :
    ∀ slot ∈ slots medium, ∀ datum, (some slot.name, datum) ∈ fields → ∀ seen,
      slot.take datum (entries.draft seen) = .ok (entries.draft (slot.name :: seen)) := by
  simp only [slots, List.forall_mem_cons, List.not_mem_nil, false_implies, implies_true, and_true,
    configSlot_name]
  refine ⟨configSlot_takes all.toLegible (by decide) all.logLevel id orMalformed_some ?_,
    configSlot_takes all.toLegible (by decide) all.bridgeCapacity id orMalformed_some ?_,
    configSlot_takes all.toLegible (by decide) all.server (·.withDefaults .standard)
      (fun _ _ => Server.ofDatum_entries medium) ?_,
    configSlot_takes all.toLegible (by decide) all.metrics (·.withDefaults .standard)
      (fun _ _ => Metrics.ofDatum_entries medium) ?_⟩
  all_goals
    intro content given seen
    simp [draft, settingAfter, given]

theorem Given.draft_final (all : entries.Given fields names) {final : List String}
    (read : ∀ name ∈ fieldNames, name ∈ names → name ∈ final) :
    entries.draft final = entries.withDefaults standard := by
  simp only [fieldNames, List.forall_mem_cons] at read
  obtain ⟨logLevel, bridgeCapacity, server, metrics, _⟩ := read
  rw [draft, withDefaults, all.setting_given all.logLevel _ logLevel,
    all.setting_given all.bridgeCapacity _ bridgeCapacity,
    all.setting_given all.server _ server, all.setting_given all.metrics _ metrics]
  rfl

theorem Given.required (all : entries.Given fields names) (medium : Medium)
    (main : medium = .document → entries.logLevel ≠ none ∧ entries.bridgeCapacity ≠ none) :
    ∀ slot ∈ slots medium, slot.required = true → slot.name ∈ names := by
  simp only [slots, List.forall_mem_cons, List.not_mem_nil, false_implies, implies_true, and_true]
  refine ⟨fun needed => ?_, fun needed => ?_, Bool.false_ne_true.elim, Bool.false_ne_true.elim⟩
  · exact all.mem_given all.logLevel (main (beq_iff_eq.mp needed)).1
  · exact all.mem_given all.bridgeCapacity (main (beq_iff_eq.mp needed)).2

end Config.Entries

/-- Read field by field, a configuration is the given settings over the defaults. -/
theorem Config.ofDatum_entries (medium : Medium) {datum : Datum} {entries : Entries}
    (typed : Entries.ofDatum? datum = some entries)
    (main : medium = .document → entries.logLevel ≠ none ∧ entries.bridgeCapacity ≠ none) :
    ofDatum medium datum = .ok (entries.withDefaults standard) := by
  obtain ⟨fields, names, rfl, all⟩ := Entries.ofDatum?_iff.mp typed
  exact (medium.layout (slots medium)).read_ok entries.draft _ all.toLegible (all.takes medium)
    (all.required medium main) fun final read => all.draft_final read

end Switchboard
