import Switchboard.Proofs.Defaults
import Switchboard.Proofs.DurationText

/-!
A configuration survives its text. It is written with every setting, so the defaults fill in nothing
when it is read, and each setting comes back as it was: numbers as integers of their width, texts
whatever characters they hold, and the waiting time as the units it was split into.
-/
namespace Switchboard

namespace Json

theorem Value.isWhole_toDatum (value : Value) : value.toDatum.isWhole = true := by
  induction value using Value.byParts with
  | null => rfl
  | bool b => rfl
  | number n => rfl
  | string s => rfl
  | array items ih =>
      rw [toDatum, toDatums_eq, Datum.isWhole]
      induction items with
      | nil => rfl
      | cons item rest later =>
          obtain ⟨first, others⟩ := List.forall_mem_cons.mp ih
          simp [Datum.areWhole, first, later others]
  | object fields ih =>
      rw [toDatum, toDatumFields_eq, Datum.isWhole, fieldsAreWhole_iff]
      intro field member
      obtain ⟨written, inside, rfl⟩ := List.mem_map.mp member
      exact ih written inside

theorem Datum.parts?_toDatum (known : List String) (fields : List (String × Value))
    (distinct : (fields.map (·.1)).Nodup) :
    (Value.object fields).toDatum.parts? known =
      some (known.map fun name => (fields.lookup name).map Value.toDatum) := by
  have whole := Value.isWhole_toDatum (.object fields)
  rw [Value.toDatum, Datum.isWhole] at whole
  rw [Value.toDatum, parts?, if_pos whole, namedFields?_toDatumFields known fields distinct]

theorem Datum.uint16?_ofUInt16 (n : UInt16) : (Value.ofUInt16 n).toDatum.uint16? = some n := by
  have below : (n.toNat : Int) < 65536 := by
    have := n.toNat_lt
    omega
  simp [Value.ofUInt16, Value.toDatum, Datum.uint16?, Datum.natBelow?, below]

theorem Value.isIntegral_ofUInt16 (n : UInt16) : (Value.ofUInt16 n).isIntegral = true := by
  have below : n.toNat < twoTo 64 := Nat.lt_trans n.toNat_lt (by decide)
  have above : -(twoTo 63 : Int) ≤ n.toNat := by omega
  simp [Value.isIntegral, Value.every, Value.ofUInt16, Number.fits, above, below]

end Json

open Json

theorem Duration.ofDatum?_text (duration : Duration) :
    ofDatum? (.string (some duration.text)) = some duration := by
  simp [ofDatum?, ofDatum, Datum.string?, ofText_text, Except.toOption]

namespace Server

theorem toValue_integral (server : Server) : server.toValue.isIntegral = true := by
  have string (text : String) : (Value.string text).isIntegral = true := rfl
  refine (Value.isIntegral_object _).mpr ?_
  simp [Value.isIntegral_ofUInt16, string]

theorem entries_toValue (server : Server) :
    Entries.ofDatum? server.toValue.toDatum = some (.ofServer server) := by
  have string (text : String) : (Value.string text).toDatum = .string (some text) := rfl
  rw [Entries.ofDatum?, toValue, Datum.parts?_toDatum _ _ (by simp)]
  simp [fieldNames, List.lookup_cons, given?, Datum.uint16?_ofUInt16, string, Datum.string?,
    Duration.ofDatum?_text, Entries.ofServer]

end Server

namespace Metrics

theorem toValue_integral (metrics : Metrics) : metrics.toValue.isIntegral = true := by
  have bool (b : Bool) : (Value.bool b).isIntegral = true := rfl
  refine (Value.isIntegral_object _).mpr ?_
  simp [Value.isIntegral_ofUInt16, bool]

theorem entries_toValue (metrics : Metrics) :
    Entries.ofDatum? metrics.toValue.toDatum = some (.ofMetrics metrics) := by
  have bool (b : Bool) : (Value.bool b).toDatum = .bool b := rfl
  rw [Entries.ofDatum?, toValue, Datum.parts?_toDatum _ _ (by simp)]
  simp [fieldNames, List.lookup_cons, given?, Datum.uint16?_ofUInt16, bool, Datum.bool?,
    Entries.ofMetrics]

end Metrics

namespace Config

theorem toValue_integral (config : Config) : config.toValue.isIntegral = true := by
  have string (text : String) : (Value.string text).isIntegral = true := rfl
  refine (Value.isIntegral_object _).mpr ?_
  simp [Value.isIntegral_ofUInt64, config.server.toValue_integral,
    config.metrics.toValue_integral, string]

theorem entries_toValue (config : Config) :
    Entries.ofDatum? config.toValue.toDatum = some (({} : Entries).completed config) := by
  have string (text : String) : (Value.string text).toDatum = .string (some text) := rfl
  rw [Entries.ofDatum?, toValue, Datum.parts?_toDatum _ _ (by simp)]
  simp [fieldNames, List.lookup_cons, given?, string, Datum.string?, Datum.uint64?_ofUInt64,
    config.server.entries_toValue, config.metrics.entries_toValue, Entries.completed,
    Entries.withDefaults, Server.Entries.withDefaults, Metrics.Entries.withDefaults]

end Config

/-- Every configuration is read back from the document that it is written as, and its waiting time
from the text that stands there: the units of that text come to the whole of it. -/
theorem settings_survive (config : Config) :
    Config.readText config.toValue.render = .ok config ∧
      Duration.ofText config.server.stopWait.text = .ok config.server.stopWait ∧
      Duration.total config.server.stopWait.shown = config.server.stopWait.nanoseconds := by
  refine ⟨?_, Duration.ofText_text _, Duration.total_shown _⟩
  have read := Json.read_render config.toValue config.toValue_integral
  exact Config.readText_entries read config.entries_toValue
    ⟨Option.some_ne_none _, Option.some_ne_none _⟩

end Switchboard
