import Switchboard.Http.Percent

/-!
What a request asks for. A target is a path with a query, a whole address, an authority alone, or a
star. Its path ends before its query or fragment and is compared as it stands; an address without a
path has the path `/`, and an authority alone has an empty one.
-/
namespace Switchboard.Http.Target

def lengthLimit : Nat := 65534

def schemeLimit : Nat := 64

/-- Characters of a path and a query; a few stand only in one of them. -/
def isChar (inQuery : Bool) (c : Char) : Bool :=
  32 < c.toNat && c != '<' && c != '>' && (if inQuery then c != '"' else c != '\x60')

/-- The path before a query or fragment, if both are well-formed. What follows a `#` does not
matter. -/
def path? (cs : List Char) : Option (List Char) :=
  let sent := cs.takeWhile (· != '#')
  let path := sent.takeWhile (· != '?')
  if path.all (isChar false) && (sent.drop path.length).all (isChar true) then some path else none

def isSchemeChar (c : Char) : Bool := c.isAlphanum || c == '+' || c == '-' || c == '.'

def afterScheme? (cs : List Char) : Option (List Char) :=
  match cs.dropWhile isSchemeChar with
  | ':' :: '/' :: '/' :: rest => some rest
  | _ => none

def isAuthorityChar (c : Char) : Bool :=
  c.isAlphanum || ['!', '$', '%', '&', '\'', '(', ')', '*', '+', ',', '-', '.', ':', ';', '=', '@',
    '[', ']', '_', '~'].contains c

/-- What is known about an authority up to some place: the colons and whether there was a percent
sign since the last `@` or closing bracket, and the brackets. -/
structure Scan where
  colons : Nat := 0
  percent : Bool := false
  opened : Bool := false
  closed : Bool := false

def colonLimit : Nat := 8

def Scan.step (scan : Scan) (c : Char) : Option Scan :=
  if c == ':' then
    if scan.colons < colonLimit then some { scan with colons := scan.colons + 1 } else none
  else if c == '%' then some { scan with percent := true }
  else if c == '@' then some { scan with colons := 0, percent := false }
  else if c == '[' then
    if scan.percent || scan.opened then none else some { scan with opened := true }
  else if c == ']' then
    if scan.opened && !scan.closed then some ⟨0, false, true, true⟩ else none
  else if isAuthorityChar c then some scan
  else none

def isAuthority (cs : List Char) : Bool :=
  match cs.foldlM Scan.step {} with
  | none => false
  | some scan =>
    scan.opened == scan.closed && scan.colons ≤ 1 && !scan.percent && cs.getLast? != some '@'

def isAfterAuthority (c : Char) : Bool := c == '/' || c == '?' || c == '#'

def ofAddress? (cs : List Char) : Option (List Char) :=
  let authority := cs.takeWhile fun c => !isAfterAuthority c
  if authority.isEmpty || !isAuthority authority then none
  else (path? (cs.drop authority.length)).map fun path => if path.isEmpty then ['/'] else path

def read? (text : String) : Option String :=
  let cs := text.toList
  if cs.isEmpty || lengthLimit < text.utf8ByteSize then none
  else if cs = ['*'] then some text
  else if cs.head? = some '/' then (path? cs).map String.ofList
  else
    match afterScheme? cs with
    | some rest =>
      if schemeLimit < (cs.takeWhile isSchemeChar).length then none
      else (ofAddress? rest).map String.ofList
    | none => if isAuthority cs then some "" else none

end Switchboard.Http.Target
