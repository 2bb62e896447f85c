import Switchboard.Hex

/-!
Strings of a settings file. A basic string stands in double quotes and knows escapes; a literal
string stands in single quotes and knows none. Tripled quotes let a string run over several lines:
a line end right after the opening quotes is dropped, and up to two quotes may stand right before
the closing ones. A reader starts after the opening quotes and gives the characters of the string
and the text after it.
-/
namespace Switchboard.Toml.Text

def isPlain (c : Char) : Bool := c == '\t' || (32 ≤ c.toNat && c.toNat != 127)

def isBlank (c : Char) : Bool := c == ' ' || c == '\t'

/-- Whether a character ends a line; a carriage return does so only before a line feed. -/
def isLineEnd (c : Char) (rest : List Char) : Bool :=
  c == '\n' || (c == '\r' && rest.head? == some '\n')

def short? (c : Char) : Option Char :=
  if c = '"' then some '"'
  else if c = '\\' then some '\\'
  else if c = 'b' then some '\x08'
  else if c = 'e' then some '\x1b'
  else if c = 'f' then some '\x0c'
  else if c = 'n' then some '\n'
  else if c = 'r' then some '\r'
  else if c = 't' then some '\t'
  else none

def digitCount? (c : Char) : Option Nat :=
  if c = 'x' then some 2 else if c = 'u' then some 4 else if c = 'U' then some 8 else none

def scalar? (n : Nat) : Option Char := if n.isValidChar then some (Char.ofNat n) else none

/-- What a reader of a basic string is in the middle of: nothing, an escape, its digits, the blanks
between a backslash and the end of its line, or the blanks and line ends after that. -/
inductive Pending where
  | nothing
  | escape
  | digits (left value : Nat)
  | lineEnd
  | margin

def margin : List Char → Pending
  | [] => .nothing
  | c :: rest => if isBlank c || isLineEnd c rest then .margin else .nothing

/-- The quotes that belong to the string, and the text after the string, where a run of closing
quotes begins. -/
def closing (quote : Char) (cs : List Char) : Option (List Char × List Char) :=
  let run := cs.takeWhile (· == quote)
  if run.length < 3 then none
  else
    let own := min (run.length - 3) 2
    some (List.replicate own quote, cs.drop (own + 3))

def cons (c : Char) (read : List Char × List Char) : List Char × List Char :=
  (c :: read.1, read.2)

def basic (lines : Bool) : Pending → List Char → Option (List Char × List Char)
  | _, [] => none
  | .nothing, c :: rest =>
    if c = '"' then
      if lines then
        match closing '"' (c :: rest) with
        | some ending => some ending
        | none => (basic lines .nothing rest).map (cons c)
      else some ([], rest)
    else if c = '\\' then basic lines .escape rest
    else if isPlain c || (lines && isLineEnd c rest) then
      (basic lines .nothing rest).map (cons c)
    else none
  | .escape, c :: rest =>
    match short? c, digitCount? c with
    | some meant, _ => (basic lines .nothing rest).map (cons meant)
    | none, some count => basic lines (.digits count 0) rest
    | none, none =>
      if lines && isBlank c then basic lines .lineEnd rest
      else if lines && isLineEnd c rest then basic lines (margin rest) rest
      else none
  | .digits left value, c :: rest =>
    match Hex.value? c with
    | none => none
    | some digit =>
      if left ≤ 1 then
        match scalar? (16 * value + digit) with
        | none => none
        | some meant => (basic lines .nothing rest).map (cons meant)
      else basic lines (.digits (left - 1) (16 * value + digit)) rest
  | .lineEnd, c :: rest =>
    if isBlank c then basic lines .lineEnd rest
    else if isLineEnd c rest then basic lines (margin rest) rest
    else none
  | .margin, c :: rest =>
    if isBlank c || isLineEnd c rest then basic lines (margin rest) rest else none

def literal (lines : Bool) : List Char → Option (List Char × List Char)
  | [] => none
  | c :: rest =>
    if c = '\'' then
      if lines then
        match closing '\'' (c :: rest) with
        | some ending => some ending
        | none => (literal lines rest).map (cons c)
      else some ([], rest)
    else if isPlain c || (lines && isLineEnd c rest) then (literal lines rest).map (cons c)
    else none

def dropLineEnd : List Char → List Char
  | '\n' :: rest => rest
  | '\r' :: '\n' :: rest => rest
  | cs => cs

def single : List Char → Option (List Char × List Char)
  | '"' :: rest => basic false .nothing rest
  | '\'' :: rest => literal false rest
  | _ => none

def any : List Char → Option (List Char × List Char)
  | '"' :: '"' :: '"' :: rest => basic true .nothing (dropLineEnd rest)
  | '\'' :: '\'' :: '\'' :: rest => literal true (dropLineEnd rest)
  | cs => single cs

end Switchboard.Toml.Text
