import Switchboard.CommandLine

/-!
Which configurations a process is started with. What is loaded breaks no rule, and without a port
among the arguments it is served as it is. A port among them takes its place after the rules were
checked: the only rule that it can break is the one that keeps it apart from the metrics port, and
it breaks that one exactly where the two meet.
-/
namespace Switchboard

namespace Config

theorem isValid_iff (config : Config) :
    config.isValid = true ↔ ∀ rule, config.breaks rule = false := by
  simp only [isValid, defect?, Option.isNone_iff_eq_none, List.find?_eq_none, Bool.not_eq_true]
  constructor
  · intro kept rule
    exact kept rule (by cases rule <;> decide)
  · exact fun kept rule _ => kept rule

theorem validated_ok {config served : Config} (done : config.validated = .ok served) :
    served = config ∧ served.isValid = true := by
  unfold validated at done
  split at done
  next none =>
    cases done
    exact ⟨rfl, by simp [isValid, none]⟩
  next => cases done

theorem ofText_valid {text : String} {config : Config} (done : ofText text = .ok config) :
    config.isValid = true := by
  unfold ofText at done
  cases document : orMalformed (Toml.read text) with
  | error fault => simp [document, bind, Except.bind] at done
  | ok datum =>
      cases settings : ofDatum .settingsFile datum with
      | error fault => simp [document, settings, bind, Except.bind] at done
      | ok raw =>
          simp only [document, settings, bind, Except.bind] at done
          exact (validated_ok done).2

-- Another port in place of the server's keeps every rule but the one about both ports.
theorem isValid_withPort {config : Config} (valid : config.isValid = true) {port : UInt16}
    (given : port ≠ 0) :
    ({ config with server := { config.server with port := port } } : Config).isValid = true ↔
      ¬ (config.metrics.enabled = true ∧ config.metrics.port = port) := by
  rw [isValid_iff] at valid ⊢
  constructor
  · rintro kept ⟨enabled, meets⟩
    have apart := kept .sharedPort
    simp [breaks, enabled, meets] at apart
  · intro apart rule
    cases rule with
    | noPort => simpa [breaks] using given
    | sharedPort =>
        simp only [breaks, Bool.and_eq_false_iff, beq_eq_false_iff_ne]
        by_cases enabled : config.metrics.enabled = true
        · exact Or.inr fun meets => apart ⟨enabled, meets⟩
        · exact Or.inl (Bool.not_eq_true _ ▸ enabled)
    | noCapacity => exact valid .noCapacity
    | noLogLevel => exact valid .noLogLevel
    | certificateWithoutKey => exact valid .certificateWithoutKey
    | noMetricsPort => exact valid .noMetricsPort

end Config

namespace CommandLine

theorem fromContents_valid {path : String} {contents : Except String String} {config : Config}
    (done : fromContents path contents = .ok config) : config.isValid = true := by
  unfold fromContents at done
  split at done
  · cases done
  · split at done
    next read =>
      cases done
      exact Config.ofText_valid read
    next => cases done

theorem load_valid (around : Surroundings Id) (args : List String) {config : Config}
    (loaded : (load around args : Id (Except String Config)) = .ok config) :
    config.isValid = true := by
  unfold load at loaded
  split at loaded
  next path _ => exact fromContents_valid loaded
  next =>
    dsimp only [bind, pure] at loaded
    split at loaded
    next => exact fromContents_valid loaded
    next =>
      cases loaded
      decide

theorem port?_ne_zero {text : String} {port : UInt16} (read : port? text = some port) :
    port ≠ 0 := by
  simp only [port?, Option.ite_none_right_eq_some, Bool.and_eq_true, bne_iff_ne,
    decide_eq_true_eq] at read
  obtain ⟨⟨⟨_, positive⟩, small⟩, same⟩ := read
  cases same
  intro zero
  have value := congrArg UInt16.toNat zero
  rw [UInt16.toNat_ofNat_of_lt' small] at value
  exact positive value

theorem withPort_ok {args : List String} {loaded config : Config}
    (done : withPort args loaded = .ok config) :
    (valueOf? "--port" args = none ∧ config = loaded) ∨
      ∃ text port, valueOf? "--port" args = some (some text) ∧ port? text = some port ∧
        config = { loaded with server := { loaded.server with port := port } } := by
  unfold withPort at done
  split at done
  next absent =>
    cases done
    exact Or.inl ⟨absent, rfl⟩
  next => cases done
  next text given =>
    split at done
    next port number =>
      cases done
      exact Or.inr ⟨text, port, given, number, rfl⟩
    next => cases done

theorem launch_serve {around : Surroundings Id} {args : List String} {config : Config}
    (served : launch around args = .serve config) :
    ∃ loaded, (load around args : Id (Except String Config)) = .ok loaded ∧
      withPort args loaded = .ok config := by
  unfold launch at served
  split at served
  · cases served
  · dsimp only [bind, pure] at served
    split at served
    · cases served
    next ported =>
      cases read : (load around args : Id (Except String Config)) with
      | error message =>
          rw [read] at ported
          cases ported
      | ok loaded =>
          rw [read] at ported
          split at served
          · cases served
          · cases served
            exact ⟨loaded, rfl, ported⟩

/-- What is served was loaded, and breaks no rule as it was loaded. It is served as it is if no port
is given; with a port in its place the configuration is valid unless metrics are served there. -/
theorem served_valid (around : Surroundings Id) (args : List String) (config : Config)
    (served : launch around args = .serve config) :
    ∃ loaded, (load around args : Id (Except String Config)) = .ok loaded ∧ loaded.isValid = true ∧
      ((valueOf? "--port" args = none ∧ config = loaded) ∨
        ∃ text port, valueOf? "--port" args = some (some text) ∧ port? text = some port ∧
          config = { loaded with server := { loaded.server with port := port } } ∧
          (config.isValid = true ↔
            ¬ (loaded.metrics.enabled = true ∧ loaded.metrics.port = port))) := by
  obtain ⟨loaded, read, ported⟩ := launch_serve served
  have valid : loaded.isValid = true := load_valid around args read
  refine ⟨loaded, read, valid, ?_⟩
  rcases withPort_ok ported with same | ⟨text, port, given, number, rfl⟩
  · exact Or.inl same
  · exact Or.inr ⟨text, port, given, number, rfl,
      Config.isValid_withPort valid (port?_ne_zero number)⟩

/-- A valid configuration that serves metrics on port 9000 is started on that port too. -/
theorem port_meets_metrics :
    let config : Config := { metrics := { enabled := true, port := 9000 } }
    config.isValid = true ∧
      (withPort ["--port", "9000"] config).toOption.map Config.defect? =
        some (some .sharedPort) := by
  decide +kernel

end CommandLine
end Switchboard
