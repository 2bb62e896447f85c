import Switchboard.Json.Numeral
import Switchboard.Json.Text

/-!
Cuts a text into the tokens of JSON. A token keeps the text that begins with it, so that a reader
can say where it stands. Strings and numbers that have a written form but no meaning are tokens
that carry their fault; a token that has no written form ends the text with the fault.
-/
namespace Switchboard.Json

inductive Lexeme where
  | openObject | closeObject | openArray | closeArray | comma | colon
  | null
  | bool (b : Bool)
  | number (n : Except Fault Number)
  | string (s : Except Fault String)
  | brokenString (fault : Fault)
  | broken (fault : Fault)

structure Token where
  lexeme : Lexeme
  here : List Char

def isBlank (c : Char) : Bool := c = ' ' || c = '\t' || c = '\n' || c = '\r'

/-- Matches the letters of a word, whose first letter is at the head of `here`. -/
def word (meaning : Lexeme) : List Char → List Char → Lexeme × List Char
  | [], cs => (meaning, cs)
  | _ :: _, [] => (.broken (.before .endInValue []), [])
  | expected :: letters, c :: rest =>
    if c = expected then word meaning letters rest
    else (.broken ⟨.expectedWord, c :: rest, 1⟩, [])

def numeral (negative : Bool) (cs : List Char) : Lexeme × List Char :=
  match Numeral.read negative cs with
  | .ok numeral => (.number numeral.number, numeral.rest)
  | .error fault => (.broken fault, [])

def string (cs : List Char) : Lexeme × List Char :=
  let cut := Text.pieces cs
  let contents := (Text.decode cut.2 cut.1).map String.ofList
  match cut.2 with
  | .closed _ rest => (.string contents, rest)
  | .broken fault _ =>
    (.brokenString (match contents with | .error first => first | .ok _ => fault), [])

def lexeme (c : Char) (rest : List Char) : Lexeme × List Char :=
  if c = '\x7b' then (.openObject, rest)
  else if c = '\x7d' then (.closeObject, rest)
  else if c = '[' then (.openArray, rest)
  else if c = ']' then (.closeArray, rest)
  else if c = ',' then (.comma, rest)
  else if c = ':' then (.colon, rest)
  else if c = '"' then string rest
  else if c = 'n' then word .null ['u', 'l', 'l'] rest
  else if c = 't' then word (.bool true) ['r', 'u', 'e'] rest
  else if c = 'f' then word (.bool false) ['a', 'l', 's', 'e'] rest
  else if c = '-' then numeral true rest
  else if c.isDigit then numeral false (c :: rest)
  else (.broken (.atNext .expectedValue (c :: rest)), [])

/-- The tokens of a text. `fuel` bounds their number; a text has no more tokens than characters. -/
def tokensWithin : Nat → List Char → List Token
  | 0, _ => []
  | _ + 1, [] => []
  | fuel + 1, c :: rest =>
    if isBlank c then tokensWithin fuel rest
    else
      let next := lexeme c rest
      ⟨next.1, c :: rest⟩ :: tokensWithin fuel next.2

def tokens (cs : List Char) : List Token := tokensWithin cs.length cs

end Switchboard.Json
