import Switchboard.Config.Document
import Switchboard.FileTree

/-!
What the arguments ask for: the version, or to serve with a configuration, unless something is
wrong. The version wins over all else. The configuration comes from the file that is named, else
from `config.toml` if it is there, else it is all defaults; a port among the arguments then takes
the place of the one configured. Each flag counts where it occurs first. The rules of a
configuration are not checked again after that.
-/
namespace Switchboard

/-- What a process can ask the system about its files. A failure has the system's reason. -/
structure Surroundings (m : Type → Type) where
  read : String → m (Except String String)
  reach : String → m (Except String Unit)

def FileTree.surroundings (tree : FileTree) : Surroundings Id := ⟨tree.read, tree.reach⟩

inductive Launch where
  | version
  | refused (message : String)
  | serve (config : Config)

namespace Launch

def versionText : String := "0.3.1"

def output : Launch → String
  | .version => "Thingstore version " ++ versionText ++ "\n"
  | .refused _ => ""
  | .serve _ => ""

def complaint : Launch → String
  | .version => ""
  | .refused message => message
  | .serve _ => ""

/-- The code that the process ends with. Serving ends well, also where a port is taken, except
that no bridge has room for more than `Bridge.greatestCapacity`. -/
def exitCode : Launch → UInt32
  | .version => 0
  | .refused _ => 1
  | .serve config =>
    if config.bridgeCapacity.toNat ≤ Bridge.greatestCapacity then 0 else 101

end Launch

namespace CommandLine

/-- The argument after the first occurrence of a flag: `none` without the flag, `some none` if the
flag comes last. -/
def valueOf? (flag : String) : List String → Option (Option String)
  | [] => none
  | arg :: rest => if arg = flag then some rest.head? else valueOf? flag rest

def port? (text : String) : Option UInt16 :=
  let digits :=
    match text.toList with
    | '+' :: rest => rest
    | cs => cs
  let n := Decimal.value digits
  if !digits.isEmpty && digits.all Char.isDigit && n != 0 && n < 65536 then
    some (UInt16.ofNat n)
  else none

def withPort (args : List String) (config : Config) : Except String Config :=
  match valueOf? "--port" args with
  | none => .ok config
  | some none => .error "--port flag requires a value\n"
  | some (some text) =>
    match port? text with
    | some port => .ok { config with server := { config.server with port := port } }
    | none => .error ("Invalid port number: " ++ text ++ "\n")

def defaultPath : String := "config.toml"

def cannotLoad (reason : String) : String := "Failed to load configuration: " ++ reason ++ "\n"

def fromContents (path : String) : Except String String → Except String Config
  | .error reason =>
    .error (cannotLoad ("Failed to read config file at '" ++ path ++ "': " ++ reason))
  | .ok contents =>
    match Config.ofText contents with
    | .ok config => .ok config
    | .error fault =>
      .error (cannotLoad ("Invalid configuration in '" ++ path ++ "': " ++ fault.message))

def requiredFiles (config : Config) : List String :=
  if config.server.tlsEnabled then [config.server.certificate, config.server.privateKey] else []

def cannotReach (path reason : String) : String :=
  "Error: TLS file '" ++ path ++ "' is not accessible\n\nCaused by:\n    " ++ reason ++ "\n"

variable {m : Type → Type} [Monad m]

def load (around : Surroundings m) (args : List String) : m (Except String Config) := do
  match (valueOf? "--config" args).join with
  | some path => pure (fromContents path (← around.read path))
  | none =>
    match ← around.reach defaultPath with
    | .ok _ => pure (fromContents defaultPath (← around.read defaultPath))
    | .error _ => pure (.ok .standard)

def checkFiles (around : Surroundings m) : List String → m (Except String Unit)
  | [] => pure (.ok ())
  | path :: rest => do
    match ← around.reach path with
    | .ok _ => checkFiles around rest
    | .error reason => pure (.error (cannotReach path reason))

def launch (around : Surroundings m) (args : List String) : m Launch := do
  if args.contains "--version" then pure .version
  else
    match (← load around args).bind (withPort args) with
    | .error message => pure (.refused message)
    | .ok config =>
      match ← checkFiles around (requiredFiles config) with
      | .error message => pure (.refused message)
      | .ok _ => pure (.serve config)

end CommandLine
end Switchboard
