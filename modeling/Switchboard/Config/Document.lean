import Switchboard.Config
import Switchboard.Duration.Reading
import Switchboard.Json.Fields
import Switchboard.Json.Layout
import Switchboard.Json.Reader
import Switchboard.Toml.Document

/-!
Configurations as documents. A document in JSON has to give the log level and the capacity; a file
of settings may leave out anything. The parts for the server and the metrics have a default for
each of their fields. What was read is checked by the rules of `Config.defect?` in both cases.
-/
namespace Switchboard

open Json

/-- Why a document is refused: it does not have the form of a configuration, or its configuration
breaks a rule. `overflow` is the one duration that cannot be held. -/
inductive ConfigFault where
  | malformed
  | overflow
  | defect (broken : Config.Defect)
  deriving DecidableEq, Repr

def orMalformed {α : Type} : Option α → Except ConfigFault α
  | some value => .ok value
  | none => .error .malformed

/-- What a configuration is written in: a document gives its main settings, and arrays in it have
no surplus items; a settings file may leave out anything. -/
inductive Medium where
  | document | settingsFile
  deriving DecidableEq, Repr

def Duration.ofDatum (datum : Datum) : Except ConfigFault Duration :=
  match datum.string? with
  | none => .error .malformed
  | some text =>
    match ofText text with
    | .ok duration => .ok duration
    | .error .malformed => .error .malformed
    | .error .carry => .error .overflow

def configSlot {α σ : Type} (name : String) (required : Bool) (read : Datum → Except ConfigFault α)
    (put : α → σ → σ) : Slot ConfigFault σ :=
  ⟨name, required, fun datum draft => (read datum).map fun value => put value draft⟩

def plainSlot {α σ : Type} (name : String) (read : Datum → Option α) (put : α → σ → σ) :
    Slot ConfigFault σ :=
  configSlot name false (fun datum => orMalformed (read datum)) put

def Medium.layout {σ : Type} (medium : Medium) (slots : List (Slot ConfigFault σ)) :
    Layout ConfigFault σ :=
  ⟨slots, medium == .settingsFile, .malformed⟩

namespace Server

def standard : Server := {}

def slots : List (Slot ConfigFault Server) :=
  [plainSlot "port" Datum.uint16? fun port server => { server with port := port },
    plainSlot "cert_path" Datum.string? fun path server => { server with certificate := path },
    plainSlot "key_path" Datum.string? fun path server => { server with privateKey := path },
    configSlot "stop_wait_time" false Duration.ofDatum fun time server =>
      { server with stopWait := time }]

def ofDatum (medium : Medium) (datum : Datum) : Except ConfigFault Server :=
  (medium.layout slots).read standard datum

def toValue (server : Server) : Value :=
  .object [("port", .ofUInt16 server.port), ("cert_path", .string server.certificate),
    ("key_path", .string server.privateKey), ("stop_wait_time", .string server.stopWait.text)]

end Server

namespace Metrics

def standard : Metrics := {}

def slots : List (Slot ConfigFault Metrics) :=
  [plainSlot "enabled" Datum.bool? fun enabled metrics => { metrics with enabled := enabled },
    plainSlot "port" Datum.uint16? fun port metrics => { metrics with port := port }]

def ofDatum (medium : Medium) (datum : Datum) : Except ConfigFault Metrics :=
  (medium.layout slots).read standard datum

def toValue (metrics : Metrics) : Value :=
  .object [("enabled", .bool metrics.enabled), ("port", .ofUInt16 metrics.port)]

end Metrics

namespace Config

def standard : Config := {}

def slots (medium : Medium) : List (Slot ConfigFault Config) :=
  let main := medium == .document
  [configSlot "log_level" main (fun datum => orMalformed datum.string?) fun level config =>
      { config with logLevel := level },
    configSlot "bridge_capacity" main (fun datum => orMalformed datum.uint64?)
      fun capacity config => { config with bridgeCapacity := capacity },
    configSlot "server" false (Server.ofDatum medium) fun server config =>
      { config with server := server },
    configSlot "metrics" false (Metrics.ofDatum medium) fun metrics config =>
      { config with metrics := metrics }]

def ofDatum (medium : Medium) (datum : Datum) : Except ConfigFault Config :=
  (medium.layout (slots medium)).read standard datum

def toValue (config : Config) : Value :=
  .object [("log_level", .string config.logLevel),
    ("bridge_capacity", .ofUInt64 config.bridgeCapacity), ("server", config.server.toValue),
    ("metrics", config.metrics.toValue)]

/-- Reads the configuration in a document. The first thing that is wrong decides, be it the form of
the text or a setting. -/
def readText (text : String) : Except ConfigFault Config := do
  let reading := readAhead text
  let config ← ofDatum .document reading.datum
  if reading.clean then pure config else throw .malformed

def validated (config : Config) : Except ConfigFault Config :=
  match config.defect? with
  | none => .ok config
  | some broken => .error (.defect broken)

def ofText (text : String) : Except ConfigFault Config := do
  (← ofDatum .settingsFile (← orMalformed (Toml.read text))).validated

end Config

def ConfigFault.message : ConfigFault → String
  | .malformed => "Failed to parse configuration TOML"
  | .overflow => "Failed to parse configuration TOML"
  | .defect broken => broken.message

end Switchboard
