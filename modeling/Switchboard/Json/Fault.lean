/-!
Why a text is no JSON value, and where. A fault points into the text by the characters not yet read
and by a number of bytes read past that point; `Fault.place` turns this into a line and a column.
Columns count bytes from the start of the line.
-/
namespace Switchboard.Json

inductive Cause where
  | endInValue | endInList | endInObject | endInString
  | expectedValue | expectedWord | expectedColon | expectedListEnd | expectedObjectEnd
  | keyNotString | trailingComma | trailingCharacters
  | badNumber | numberRange
  | badEscape | controlCharacter | loneSurrogate | brokenPair
  | tooDeep
  deriving DecidableEq, Repr

def Cause.message : Cause → String
  | .endInValue => "EOF while parsing a value"
  | .endInList => "EOF while parsing a list"
  | .endInObject => "EOF while parsing an object"
  | .endInString => "EOF while parsing a string"
  | .expectedValue => "expected value"
  | .expectedWord => "expected ident"
  | .expectedColon => "expected `:`"
  | .expectedListEnd => "expected `,` or `]`"
  | .expectedObjectEnd => "expected `,` or `\x7d`"
  | .keyNotString => "key must be a string"
  | .trailingComma => "trailing comma"
  | .trailingCharacters => "trailing characters"
  | .badNumber => "invalid number"
  | .numberRange => "number out of range"
  | .badEscape => "invalid escape"
  | .controlCharacter => "control character (\\u0000-\\u001F) found while parsing a string"
  | .loneSurrogate => "lone leading surrogate in hex escape"
  | .brokenPair => "unexpected end of hex escape"
  | .tooDeep => "recursion limit exceeded"

/-- `unread` are the characters from the place of the fault on, `ahead` the bytes of them that had
been read when it was noticed. -/
structure Fault where
  cause : Cause
  unread : List Char
  ahead : Nat

def Fault.atNext (cause : Cause) (unread : List Char) : Fault :=
  ⟨cause, unread, if unread.isEmpty then 0 else 1⟩

def Fault.before (cause : Cause) (unread : List Char) : Fault := ⟨cause, unread, 0⟩

def byteLength (cs : List Char) : Nat := cs.foldl (fun bytes c => bytes + c.utf8Size) 0

def position (cs : List Char) (count line column : Nat) : Nat × Nat :=
  match cs with
  | [] => (line, column)
  | c :: rest =>
    if count = 0 then (line, column)
    else if c = '\n' then position rest (count - 1) (line + 1) 0
    else if count < c.utf8Size then (line, column + count)
    else position rest (count - c.utf8Size) line (column + c.utf8Size)

def Fault.place (fault : Fault) (text : List Char) : Nat × Nat :=
  position text (byteLength text - byteLength fault.unread + fault.ahead) 1 0

def Fault.message (fault : Fault) (text : List Char) : String :=
  let place := fault.place text
  fault.cause.message ++ " at line " ++ toString place.1 ++ " column " ++ toString place.2

end Switchboard.Json
