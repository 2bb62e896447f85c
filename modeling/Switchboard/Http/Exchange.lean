import Switchboard.Decimal
import Switchboard.Http.Response
import Switchboard.Http.Target

/-!
The text of an exchange over a connection that carries one request: what is asked is read from the
first line of the request, and the response is written with its length and closes the connection.
-/
namespace Switchboard.Http

structure Asked where
  method : String
  path : String
  deriving DecidableEq, Repr

def lineEnd : String := "\r\n"

def isWholeHead (text : String) : Bool := 1 < (text.splitOn (lineEnd ++ lineEnd)).length

def Asked.ofHead? (text : String) : Option Asked :=
  match (text.splitOn lineEnd).head?.map (·.splitOn " ") with
  | some [method, target, _] =>
    if isToken method then (Target.read? target).map fun path => ⟨method, path⟩ else none
  | _ => none

namespace Response

def reason : Nat → String
  | 200 => "OK"
  | 400 => "Bad Request"
  | 404 => "Not Found"
  | 405 => "Method Not Allowed"
  | 503 => "Service Unavailable"
  | _ => ""

def badRequest : Response := ⟨400, none, ""⟩

def fieldLine (name value : String) : String := name ++ ": " ++ value ++ lineEnd

def contentLine (response : Response) : String :=
  match response.contentType with
  | some type => fieldLine "content-type" type
  | none => ""

def allowLine (response : Response) : String :=
  if response.status = 405 then fieldLine "allow" "GET,HEAD" else ""

def text (response : Response) : String :=
  "HTTP/1.1 " ++ Decimal.text response.status ++ " " ++ reason response.status ++ lineEnd
    ++ response.contentLine ++ response.allowLine
    ++ fieldLine "content-length" (Decimal.text response.body.utf8ByteSize)
    ++ fieldLine "connection" "close" ++ lineEnd ++ response.body

/-- The response to a request text, where `resource?` says what there is to get. -/
def ofRequest (resource? : String → Option Response) (request : String) : Response :=
  match Asked.ofHead? request with
  | none => .badRequest
  | some asked => .ofResource asked.method (resource? asked.path)

end Response
end Switchboard.Http
