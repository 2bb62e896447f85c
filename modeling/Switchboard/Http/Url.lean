import Switchboard.Http.Credentials
import Switchboard.Http.Host
import Switchboard.Http.Path

/-!
Addresses of resources. Reading drops white space at the ends and tabs and line ends anywhere; it
writes the scheme and the host in lower case, leaves out the port that the scheme implies, resolves
the path and encodes what its place reserves. An address without a scheme is none.
-/
namespace Switchboard.Http

structure Url where
  scheme : String
  credentials : Credentials
  host : Option (List Char)
  port : Option Nat
  path : List Char
  query : Option (List Char)
  fragment : Option (List Char)
  deriving DecidableEq, Repr

namespace Url

def impliedPorts : List (String × Nat) :=
  [("http", 80), ("https", 443), ("ws", 80), ("wss", 443), ("ftp", 21)]

def impliedPort? (scheme : String) : Option Nat :=
  (impliedPorts.find? fun entry => entry.1 == scheme).map (·.2)

def isSpecial (scheme : String) : Bool := scheme == "file" || (impliedPort? scheme).isSome

def isWeb (url : Url) : Bool := url.scheme == "http" || url.scheme == "https"

def isSlash (special : Bool) (c : Char) : Bool := c == '/' || (special && c == '\\')

def isAfterAuthority (special : Bool) (c : Char) : Bool :=
  isSlash special c || c == '?' || c == '#'

def tidy (cs : List Char) : List Char :=
  let outer (c : Char) : Bool := c.toNat ≤ 32
  let trimmed := ((cs.dropWhile outer).reverse.dropWhile outer).reverse
  trimmed.filter fun c => !(['\t', '\n', '\r'].contains c)

def scheme? (cs : List Char) : Option (String × List Char) :=
  let scheme := cs.takeWhile fun c => c.isAlphanum || c == '+' || c == '-' || c == '.'
  match scheme.head?, cs.drop scheme.length with
  | some first, ':' :: rest =>
    if first.isAlpha then some (String.ofList (scheme.map Char.toLower), rest) else none
  | _, _ => none

/-! The parts of an authority. Each reader gives what it read and the text after it. -/

/-- Reads up to the last `@` of an authority. An empty part before it has to have a host after
it, unless the address ends there. -/
def credentials? (special : Bool) (cs : List Char) : Option (Credentials × List Char) :=
  let authority := cs.takeWhile fun c => !isAfterAuthority special c
  let host := (authority.reverse.takeWhile (· != '@')).reverse
  if host.length = authority.length then some ({}, cs)
  else
    let user := authority.take (authority.length - host.length - 1)
    let rest := cs.drop (user.length + 1)
    if user.isEmpty && (rest.head?.map (isAfterAuthority special)).getD false then none
    else some (.ofText user, rest)

/-- Cuts a text where its host ends. A colon between brackets does not end it. -/
def spanHost (special : Bool) : Bool → List Char → List Char × List Char
  | _, [] => ([], [])
  | bracketed, c :: rest =>
    if isAfterAuthority special c || (c == ':' && !bracketed) then ([], c :: rest)
    else
      let tail := spanHost special (if c == '[' then true else bracketed && c != ']') rest
      (c :: tail.1, tail.2)

/-- Reads a port, if a colon announces one; it may be empty, and may be the implied one. -/
def port? (implied : Option Nat) : List Char → Option (Option Nat × List Char)
  | ':' :: cs =>
    let digits := cs.takeWhile Char.isDigit
    let rest := cs.drop digits.length
    let port := Decimal.value digits
    if 65535 < port || !(rest.head?.map (isAfterAuthority true)).getD true then none
    else some (if digits.isEmpty || implied == some port then none else some port, rest)
  | cs => some (none, cs)

def opaqueHost? (text : List Char) : Option (List Char) :=
  if text.any fun c => c == '\x00' || (31 < c.toNat && c != '%' && c.toNat != 127
      && Domain.isForbidden c) then none
  else some (Percent.encode Percent.isControl text)

def host? (special : Bool) (text : List Char) : Option (List Char) :=
  match text with
  | '[' :: rest =>
    if rest.getLast? = some ']' then (Host.eight? rest.dropLast).map Host.text else none
  | _ => if special then (Host.name? text).map Host.text else opaqueHost? text

structure Tail where
  path : List Char
  query : Option (List Char)
  fragment : Option (List Char)

def tail (special : Bool) (cs : List Char) : Tail :=
  let fragment := cutAt '#' cs
  let query := cutAt '?' fragment.1
  ⟨query.1, query.2.map (Percent.encode (Percent.isReservedInQuery special)),
    fragment.2.map (Percent.encode Percent.isReservedInFragment)⟩

def slashed (special : Bool) (cs : List Char) : List Char :=
  cs.map fun c => if isSlash special c then '/' else c

/-- A path after an authority; with `special` there is one even if none is written. -/
def pathText (special : Bool) (cs : List Char) : List Char :=
  match slashed special cs with
  | '/' :: rest => (Trail.ofText false rest).text false
  | [] => if special then ['/'] else []
  | rest => (Trail.ofText false rest).text false

def withAuthority (scheme : String) (cs : List Char) : Option Url := do
  let special := isSpecial scheme
  let (credentials, rest) ← credentials? special cs
  let (hostText, rest) := spanHost special false rest
  if hostText.isEmpty && (special || rest.head? == some ':' || !credentials.isEmpty) then none
  else
    let host ← host? special hostText
    let (port, rest) ← port? (impliedPort? scheme) rest
    let tail := tail special rest
    pure ⟨scheme, credentials, some host, port, pathText special tail.path, tail.query,
      tail.fragment⟩

/-- The host of a file's address and what follows it, if the address names one. A drive letter is
no host, and neither is the machine itself. -/
def fileHost? (cs : List Char) : Option (List Char × List Char) := do
  let (hostText, rest) := cs.span fun c => !isAfterAuthority true c
  if hostText.isEmpty then pure ([], rest)
  else if hostText.length = 2 && Trail.hasDriveLetter hostText then pure ([], cs)
  else
    let host ← host? true hostText
    pure (if host = "localhost".toList then [] else host, rest)

def file (cs : List Char) : Option Url := do
  let (host, rest) ←
    match cs with
    | first :: second :: rest =>
      if isSlash true first && isSlash true second then fileHost? rest
      else pure ([], if isSlash true first then second :: rest else cs)
    | [c] => pure ([], if isSlash true c then [] else [c])
    | [] => pure ([], [])
  let tail := tail true rest
  let path :=
    match host, slashed true tail.path with
    | _ :: _, '/' :: path => path
    | _, path => path
  let trail := Trail.ofText true path
  pure ⟨"file", {}, some (if trail.drive then [] else host), none, trail.text true, tail.query,
    tail.fragment⟩

def plain (scheme : String) (cs : List Char) : Url :=
  let tail := tail false cs
  let path :=
    match tail.path with
    | '/' :: rest => (Trail.ofText false rest).text false
    | opaquePath => Percent.encode Percent.isControl opaquePath
  ⟨scheme, {}, none, none, path, tail.query, tail.fragment⟩

def ofText? (text : String) : Option Url := do
  let (scheme, rest) ← scheme? (tidy text.toList)
  if scheme = "file" then file rest
  else if isSpecial scheme then withAuthority scheme (rest.dropWhile (isSlash true))
  else
    match rest with
    | '/' :: '/' :: rest => withAuthority scheme rest
    | _ => pure (plain scheme rest)

def withoutCredentials (url : Url) : Url :=
  if url.credentials.login?.isSome then { url with credentials := {} } else url

def target (url : Url) : String := String.ofList (url.path ++ optionalPart '?' url.query)

/-- What stands between the scheme and the path. Without an authority a point keeps two slashes
at the head of a path from announcing one. -/
def authorityText (url : Url) : List Char :=
  match url.host, url.path with
  | none, '/' :: '/' :: _ => ['/', '.']
  | none, _ => []
  | some host, _ =>
    '/' :: '/' :: (url.credentials.text ++ host ++ optionalPart ':' (url.port.map Decimal.digits))

def text (url : Url) : String :=
  String.ofList (url.scheme.toList ++ ':' :: (url.authorityText ++ url.path
    ++ optionalPart '?' url.query ++ optionalPart '#' url.fragment))

def lengthLimit : Nat := 65534

/-- Whether a request can be made to an address: its host has to keep to characters that may stand
there unquoted. -/
def isRequestable (url : Url) : Bool :=
  url.isWeb && url.text.length ≤ lengthLimit
    && !((url.host.getD []).any fun c => ['"', '\x60', '\x7b', '\x7d'].contains c)

end Url
end Switchboard.Http
