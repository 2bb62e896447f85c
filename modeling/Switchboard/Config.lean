import Switchboard.Bridge
import Switchboard.Duration
import Switchboard.Text

/-!
Settings of a serving process. `Config.defect?` names the first rule that a configuration breaks;
the rules are checked in one fixed order, the capacity first and the metrics ports last. The rules
on the metrics port hold only where metrics are served.
-/
namespace Switchboard

structure Server where
  port : UInt16 := 8180
  /-- Path of the certificate; blank for none. -/
  certificate : String := ""
  privateKey : String := ""
  stopWait : Duration := .ofSeconds 5
  deriving DecidableEq, Repr

structure Metrics where
  enabled : Bool := false
  port : UInt16 := 8878
  deriving DecidableEq, Repr

structure Config where
  logLevel : String := "info"
  bridgeCapacity : UInt64 := UInt64.ofNat Bridge.defaultCapacity
  server : Server := {}
  metrics : Metrics := {}
  deriving DecidableEq, Repr

def Server.hasCertificate (server : Server) : Bool := !isBlankText server.certificate

def Server.hasPrivateKey (server : Server) : Bool := !isBlankText server.privateKey

def Server.tlsEnabled (server : Server) : Bool := server.hasCertificate && server.hasPrivateKey

namespace Config

inductive Defect where
  | noCapacity | noLogLevel | noPort | certificateWithoutKey | noMetricsPort | sharedPort
  deriving DecidableEq, Repr

def Defect.message : Defect → String
  | .noCapacity => "bridge_capacity cannot be 0"
  | .noLogLevel => "log_level cannot be empty"
  | .noPort => "server.port cannot be 0"
  | .certificateWithoutKey => "server.cert_path and server.key_path must be set together"
  | .noMetricsPort => "metrics.port cannot be 0"
  | .sharedPort => "metrics.port cannot be the same as the main server port"

def breaks (config : Config) : Defect → Bool
  | .noCapacity => config.bridgeCapacity == 0
  | .noLogLevel => isBlankText config.logLevel
  | .noPort => config.server.port == 0
  | .certificateWithoutKey => config.server.hasCertificate != config.server.hasPrivateKey
  | .noMetricsPort => config.metrics.enabled && config.metrics.port == 0
  | .sharedPort => config.metrics.enabled && config.metrics.port == config.server.port

/-- The rules in the order in which they are checked. -/
def rules : List Defect :=
  [.noCapacity, .noLogLevel, .noPort, .certificateWithoutKey, .noMetricsPort, .sharedPort]

def defect? (config : Config) : Option Defect := rules.find? config.breaks

def isValid (config : Config) : Bool := config.defect?.isNone

end Config
end Switchboard
