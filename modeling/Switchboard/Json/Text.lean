import Switchboard.Hex
import Switchboard.Json.Fault

/-!
Strings in quotes. Writing escapes the quote, the backslash and the characters below space, and
nothing else. Reading goes in two steps: `pieces` cuts the text at its escapes up to the closing
quote, and `decode` joins the code units that escapes name. A string that is only skipped needs
the first step alone.
-/
namespace Switchboard.Json.Text

def escape (c : Char) : List Char :=
  if c = '"' then ['\\', '"']
  else if c = '\\' then ['\\', '\\']
  else if c = '\n' then ['\\', 'n']
  else if c = '\r' then ['\\', 'r']
  else if c = '\t' then ['\\', 't']
  else if c = '\x08' then ['\\', 'b']
  else if c = '\x0c' then ['\\', 'f']
  else if c.toNat < 32 then
    ['\\', 'u', '0', '0', Hex.digit (c.toNat / 16), Hex.digit (c.toNat % 16)]
  else [c]

def encode (cs : List Char) : List Char := cs.flatMap escape

def quoted (s : String) : List Char := '"' :: (encode s.toList ++ ['"'])

def short? (c : Char) : Option Char :=
  if c = '"' then some '"'
  else if c = '\\' then some '\\'
  else if c = '/' then some '/'
  else if c = 'n' then some '\n'
  else if c = 'r' then some '\r'
  else if c = 't' then some '\t'
  else if c = 'b' then some '\x08'
  else if c = 'f' then some '\x0c'
  else none

def hexUnit? (a b c d : Char) : Option Nat := do
  let a ← Hex.value? a
  let b ← Hex.value? b
  let c ← Hex.value? c
  let d ← Hex.value? d
  pure (4096 * a + 256 * b + 16 * c + d)

/-- A character as it stands, one written by a short escape, or a code unit in four digits, each
with the text that begins with it. -/
inductive Piece where
  | plain (c : Char) (here : List Char)
  | short (c : Char) (here : List Char)
  | unit (n : Nat) (here : List Char)

/-- What ends a string: the closing quote and what follows it, or a fault and how many bytes the
offending thing takes when only its beginning is looked at. -/
inductive Ending where
  | closed (here rest : List Char)
  | broken (fault : Fault) (here : List Char)

def badUnit (rest : List Char) : Fault :=
  if byteLength rest < 4 then ⟨.endInString, [], 0⟩ else ⟨.badEscape, rest, 4⟩

def pieces : List Char → List Piece × Ending
  | [] => ([], .broken ⟨.endInString, [], 0⟩ [])
  | '"' :: rest => ([], .closed ('"' :: rest) rest)
  | '\\' :: 'u' :: a :: b :: c :: d :: rest =>
    match hexUnit? a b c d with
    | some n =>
      let tail := pieces rest
      (.unit n ('\\' :: 'u' :: a :: b :: c :: d :: rest) :: tail.1, tail.2)
    | none => ([], .broken (badUnit (a :: b :: c :: d :: rest)) [])
  | '\\' :: 'u' :: rest => ([], .broken (badUnit rest) [])
  | '\\' :: c :: rest =>
    match short? c with
    | some meant =>
      let tail := pieces rest
      (.short meant ('\\' :: c :: rest) :: tail.1, tail.2)
    | none => ([], .broken ⟨.badEscape, '\\' :: c :: rest, 2⟩ ('\\' :: c :: rest))
  | '\\' :: [] => ([], .broken ⟨.endInString, [], 0⟩ [])
  | c :: rest =>
    if c.toNat < 32 then ([], .broken ⟨.controlCharacter, c :: rest, 1⟩ (c :: rest))
    else
      let tail := pieces rest
      (.plain c (c :: rest) :: tail.1, tail.2)

def isLeading (n : Nat) : Bool := 0xD800 ≤ n && n ≤ 0xDBFF

def isTrailing (n : Nat) : Bool := 0xDC00 ≤ n && n ≤ 0xDFFF

def joinUnits (leading trailing : Nat) : Char :=
  Char.ofNat ((leading - 0xD800) * 1024 + (trailing - 0xDC00) + 0x10000)

def brokenPair (here : List Char) : Fault :=
  ⟨.brokenPair, here, if here.head? = some '\\' then 2 else 1⟩

/-- The characters that pieces denote; code units above the basic plane come in pairs. -/
def decode (ending : Ending) : List Piece → Except Fault (List Char)
  | [] =>
    match ending with
    | .closed _ _ => .ok []
    | .broken fault _ => .error fault
  | .plain c _ :: rest => (decode ending rest).map (c :: ·)
  | .short c _ :: rest => (decode ending rest).map (c :: ·)
  | .unit n here :: rest =>
    if isTrailing n then .error ⟨.loneSurrogate, here, 6⟩
    else if isLeading n then
      match rest with
      | .unit m there :: rest =>
        if isTrailing m then (decode ending rest).map (joinUnits n m :: ·)
        else .error ⟨.loneSurrogate, there, 6⟩
      | .plain _ there :: _ => .error (brokenPair there)
      | .short _ there :: _ => .error (brokenPair there)
      | [] =>
        match ending with
        | .closed there _ => .error (brokenPair there)
        | .broken fault [] => .error fault
        | .broken _ there => .error (brokenPair there)
    else (decode ending rest).map (Char.ofNat n :: ·)

end Switchboard.Json.Text
