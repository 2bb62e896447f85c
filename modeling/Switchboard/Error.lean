/-!
Why an operation is refused. `Error.message` is the text that a caller is shown.
-/
namespace Switchboard

inductive Error where
  | notFound
  | conflict
  | unauthorized
  | invalidRequest (text : String)
  | bridgeClosed
  | client (text : String)
  | internal (text : String)
  deriving DecidableEq, Repr

namespace Error

def message : Error → String
  | .notFound => "entity not found"
  | .conflict => "entity already exists"
  | .unauthorized => "missing or invalid credentials provided"
  | .invalidRequest text => "Invalid request: " ++ text
  | .bridgeClosed => "connection bridge is closed"
  | .client text => "HTTP client error: " ++ text
  | .internal text => "Internal Error: " ++ text

def kind : Error → String
  | .notFound => "NotFound"
  | .conflict => "Conflict"
  | .unauthorized => "Authorization"
  | .invalidRequest _ => "InvalidRequest"
  | .bridgeClosed => "BridgeClosed"
  | .client _ => "HttpClientError"
  | .internal _ => "Internal"

def ofJson (message : String) : Error :=
  .internal ("JSON serialization/deserialization error: " ++ message)

end Error
end Switchboard
