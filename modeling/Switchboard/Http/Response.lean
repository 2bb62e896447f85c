/-!
Answers to requests for a resource that can only be read. GET gives the resource, HEAD the same
without its body, and every other method is refused.
-/
namespace Switchboard.Http

structure Response where
  status : Nat
  contentType : Option String
  body : String
  deriving DecidableEq, Repr

namespace Response

def plainText (status : Nat) (body : String) : Response :=
  ⟨status, some "text/plain; charset=utf-8", body⟩

def json (body : String) : Response := ⟨200, some "application/json", body⟩

def notFound : Response := ⟨404, none, ""⟩

def methodNotAllowed : Response := ⟨405, none, ""⟩

def withoutBody (response : Response) : Response := { response with body := "" }

/-- The answer to a method when a GET would be answered by `resource`; `none` if there is none. -/
def ofResource (method : String) (resource : Option Response) : Response :=
  match resource with
  | none => .notFound
  | some response =>
    if method = "GET" then response
    else if method = "HEAD" then response.withoutBody
    else .methodNotAllowed

end Response

end Switchboard.Http
