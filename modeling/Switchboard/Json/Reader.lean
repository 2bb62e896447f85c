import Switchboard.Json.Token

/-!
Reads a text by one pass over its tokens with a stack of the arrays and objects that are still
open. `read` builds the datum that the grammar gives, and `readAhead` as much of it as stands before
the first fault; `check` also insists that every string and number has a meaning and that no more
than `depthLimit` levels are open, and says what is wrong first.
-/
namespace Switchboard.Json

/-- An open array with its items, or an open object with its fields and the name that waits for
its value; both last first. -/
inductive Frame where
  | items (done : List Datum)
  | fields (done : List (Option String × Datum)) (name : Option String)

inductive Expect where
  | value | firstItem | item | firstName | name | colon | separator
  deriving DecidableEq

structure ReadState where
  opened : List Frame
  expect : Expect
  result : Option Datum

def ReadState.start : ReadState := ⟨[], .value, none⟩

/-- The deepest nesting of a text that is read for its contents. -/
def depthLimit : Nat := 127

def ReadState.finish (opened : List Frame) (datum : Datum) : ReadState :=
  match opened with
  | [] => ⟨[], .separator, some datum⟩
  | .items done :: outer => ⟨.items (datum :: done) :: outer, .separator, none⟩
  | .fields done name :: outer => ⟨.fields ((name, datum) :: done) none :: outer, .separator, none⟩

def ReadState.value (strict : Bool) (state : ReadState) (token : Token) : Except Fault ReadState :=
  let opened := state.opened
  match token.lexeme with
  | .null => .ok (.finish opened .null)
  | .bool b => .ok (.finish opened (.bool b))
  | .number (.ok n) => .ok (.finish opened (.number (some n)))
  | .number (.error fault) =>
    if strict then .error fault else .ok (.finish opened (.number none))
  | .string (.ok s) => .ok (.finish opened (.string (some s)))
  | .string (.error fault) =>
    if strict then .error fault else .ok (.finish opened (.string none))
  | .openArray =>
    if strict && depthLimit ≤ opened.length then .error (.atNext .tooDeep token.here)
    else .ok ⟨.items [] :: opened, .firstItem, none⟩
  | .openObject =>
    if strict && depthLimit ≤ opened.length then .error (.atNext .tooDeep token.here)
    else .ok ⟨.fields [] none :: opened, .firstName, none⟩
  | .brokenString fault => .error fault
  | .broken fault => .error fault
  | _ => .error (.atNext .expectedValue token.here)

def ReadState.fieldName (strict : Bool) (state : ReadState) (token : Token) :
    Except Fault ReadState :=
  match state.opened, token.lexeme with
  | .fields done _ :: outer, .string (.ok s) => .ok ⟨.fields done (some s) :: outer, .colon, none⟩
  | .fields done _ :: outer, .string (.error fault) =>
    if strict then .error fault else .ok ⟨.fields done none :: outer, .colon, none⟩
  | _, .brokenString fault => .error fault
  | _, _ => .error (.atNext .keyNotString token.here)

def ReadState.separator (state : ReadState) (token : Token) : Except Fault ReadState :=
  match state.opened, token.lexeme with
  | [], _ => .error (.atNext .trailingCharacters token.here)
  | .items _ :: _, .comma => .ok { state with expect := .item }
  | .items done :: outer, .closeArray => .ok (.finish outer (.array done.reverse))
  | .items _ :: _, _ => .error (.atNext .expectedListEnd token.here)
  | .fields _ _ :: _, .comma => .ok { state with expect := .name }
  | .fields done _ :: outer, .closeObject => .ok (.finish outer (.object done.reverse))
  | .fields _ _ :: _, _ => .error (.atNext .expectedObjectEnd token.here)

def ReadState.step (strict : Bool) (state : ReadState) (token : Token) : Except Fault ReadState :=
  match state.expect with
  | .value => state.value strict token
  | .firstItem =>
    match state.opened, token.lexeme with
    | .items done :: outer, .closeArray => .ok (.finish outer (.array done.reverse))
    | _, _ => state.value strict token
  | .item =>
    match token.lexeme with
    | .closeArray => .error (.atNext .trailingComma token.here)
    | _ => state.value strict token
  | .firstName =>
    match state.opened, token.lexeme with
    | .fields done _ :: outer, .closeObject => .ok (.finish outer (.object done.reverse))
    | _, _ => state.fieldName strict token
  | .name =>
    match token.lexeme with
    | .closeObject => .error (.atNext .trailingComma token.here)
    | _ => state.fieldName strict token
  | .colon =>
    match token.lexeme with
    | .colon => .ok { state with expect := .value }
    | _ => .error (.atNext .expectedColon token.here)
  | .separator => state.separator token

def ReadState.stop (state : ReadState) : Except Fault Unit :=
  match state.result with
  | some _ => .ok ()
  | none =>
    .error <| .before (match state.expect, state.opened with
      | .firstItem, _ => .endInList
      | .firstName, _ => .endInObject
      | .colon, _ => .endInObject
      | .separator, .items _ :: _ => .endInList
      | .separator, .fields _ _ :: _ => .endInObject
      | _, _ => .endInValue) []

def ReadState.run : ReadState → List Token → Except Fault Unit
  | state, [] => state.stop
  | state, token :: rest =>
    match state.step true token with
    | .ok next => next.run rest
    | .error fault => .error fault

/-- A text as far as it can be read. `clean` says that the whole of it could. -/
structure Reading where
  datum : Datum
  clean : Bool

def Frame.close (last : Datum) : Frame → Datum
  | .items done => .array (last :: done).reverse
  | .fields done name => .object ((name, last) :: done).reverse

/-- What has been read; if that is not a whole datum, all that is open ends in a broken place. -/
def ReadState.soFar (state : ReadState) : Datum :=
  state.result.getD (state.opened.foldl Frame.close .broken)

def ReadState.ahead : ReadState → List Token → Reading
  | state, [] => ⟨state.soFar, state.result.isSome⟩
  | state, token :: rest =>
    match state.step false token with
    | .ok next => next.ahead rest
    | .error _ => ⟨state.soFar, false⟩

def readAhead (text : String) : Reading := ReadState.start.ahead (tokens text.toList)

def read (text : String) : Option Datum :=
  let reading := readAhead text
  if reading.clean then some reading.datum else none

def check (text : String) : Option Fault :=
  match ReadState.start.run (tokens text.toList) with
  | .ok _ => none
  | .error fault => some fault

def faultMessage? (text : String) : Option String :=
  (check text).map (·.message text.toList)

end Switchboard.Json
