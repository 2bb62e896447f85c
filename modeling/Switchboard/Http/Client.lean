import Switchboard.Error
import Switchboard.Http.Url

/-!
Requests to other servers. The method is checked first, then the headers in their order, then the
address; a request that passes can still fail to reach anybody. A header takes the place of an
earlier one with the same name in any case. The content type is JSON unless a header says
otherwise, and credentials in the address are told in a header of their own unless one says
otherwise.
-/
namespace Switchboard.Http

structure Header where
  name : String
  value : String
  deriving DecidableEq, Repr

structure Request where
  method : String
  url : Url
  headers : List Header
  body : String
  deriving DecidableEq, Repr

/-- Why no request is made. It is refused, or there are more headers than a map of them can hold,
at which the client panics. -/
inductive Failure where
  | refused (error : Error)
  | overfull
  deriving DecidableEq, Repr

def lowerName (name : String) : String := String.ofList (name.toList.map Char.toLower)

namespace Header

/-- How many headers a map of them can hold: three quarters of `2 ^ 15`. -/
def limit : Nat := 24576

def ofPair (name value : String) : Except Error Header :=
  if !isToken name || 65535 < name.length then
    .error (.invalidRequest ("invalid header name '" ++ name ++ "'"))
  else if !isFieldValue value then
    .error (.invalidRequest ("invalid value for header '" ++ lowerName name ++ "'"))
  else .ok ⟨lowerName name, value⟩

def hasName (name : String) (headers : List Header) : Bool := headers.any (·.name == name)

/-- Adds a header in place of the one with its name, if there is one. -/
def put (header : Header) (headers : List Header) : List Header :=
  if hasName header.name headers then
    headers.map fun other => if other.name == header.name then header else other
  else headers ++ [header]

def putEach (headers others : List Header) : List Header :=
  headers.foldl (fun done header => put header done) others

/-- Adds a header unless there is one with its name. -/
def putDefault (header : Header) (headers : List Header) : List Header :=
  if hasName header.name headers then headers else headers ++ [header]

def jsonContent : Header := ⟨"content-type", "application/json"⟩

def ofPairs (pairs : List (String × String)) : Except Failure (List Header) :=
  -- Room for all entries and the content type is asked for before any entry is looked at.
  if limit < pairs.length + 1 then .error .overfull
  else
    match pairs.mapM fun pair => ofPair pair.1 pair.2 with
    | .error e => .error (.refused e)
    | .ok headers => .ok (putDefault jsonContent (putEach headers []))

def ofCredentials (credentials : Credentials) : Option Header :=
  credentials.authorization?.map fun value => ⟨"authorization", value⟩

def isOuterBlank (c : Char) : Bool := c == ' ' || c == '\t'

def strip (value : String) : String :=
  String.ofList (((value.toList.dropWhile isOuterBlank).reverse.dropWhile isOuterBlank).reverse)

end Header

namespace Request

def badMethod (method : String) : Failure :=
  .refused (.invalidRequest ("invalid HTTP method '" ++ method ++ "'"))

def badUrl (url : Url) : Failure :=
  .refused (.client ("builder error for url (" ++ url.text ++ ")"))

/-- The request to an address, which has to be one that can be asked over HTTP. The headers have to
leave room for the one that says what is accepted, which is added as soon as the scheme is known to
be right. -/
def toAddress (method body : String) (headers : List Header) (address : Url) :
    Except Failure Request :=
  let url := address.withoutCredentials
  let headers := Header.putEach headers (Header.ofCredentials address.credentials).toList
  if Header.limit < headers.length then .error .overfull
  else if !url.isWeb then .error (badUrl url)
  else if Header.limit ≤ headers.length then .error .overfull
  else if url.isRequestable then .ok ⟨method, url, headers, body⟩
  else .error (badUrl url)

def ofParts (method url body : String) (headers : List (String × String)) :
    Except Failure Request := do
  if isToken method then
    let headers ← Header.ofPairs headers
    match Url.ofText? url with
    | some address => toAddress method body headers address
    | none => throw (.refused (.client "builder error"))
  else throw (badMethod method)

/-- The headers as they arrive, apart from those that say where and how long the request is. -/
def arriving (request : Request) : List Header :=
  let sent := Header.putDefault ⟨"accept", "*/*"⟩ request.headers
  (sent.filter fun header => !(["host", "content-length"].contains header.name)).map fun header =>
    { header with value := Header.strip header.value }

/-- Sends a request to whoever answers at its address, and gives the body of the answer whatever
its status. -/
def send (deliver : Request → Option String) (request : Request) : Except Error String :=
  match deliver request with
  | some body => .ok body
  | none => .error (.client ("error sending request for url (" ++ request.url.text ++ ")"))

end Request
end Switchboard.Http
