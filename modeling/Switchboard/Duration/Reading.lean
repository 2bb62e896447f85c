import Switchboard.Duration
import Switchboard.Text

/-!
Reads a duration from terms such as `2h 3m` or `1.5s`. A term is a number, maybe with a fraction,
and a unit; white space may stand anywhere but inside a unit, and a digit right after a unit begins
the next term. Every number fits 64 bits on its own, a fraction has to come out even in the grains
that its unit is divided into, and the terms add up. A lone zero needs no unit.
-/
namespace Switchboard.Duration

inductive TimeUnit where
  | nanosecond | microsecond | millisecond | second | minute | hour | day | week | month | year
  deriving DecidableEq, Repr

inductive Span where
  | seconds (n : Nat)
  | nanoseconds (n : Nat)

namespace TimeUnit

def names : List (String × TimeUnit) :=
  [("nanos", .nanosecond), ("nsec", .nanosecond), ("ns", .nanosecond),
    ("usec", .microsecond), ("us", .microsecond), ("µs", .microsecond),
    ("millis", .millisecond), ("msec", .millisecond), ("ms", .millisecond),
    ("seconds", .second), ("second", .second), ("secs", .second), ("sec", .second),
    ("s", .second),
    ("minutes", .minute), ("minute", .minute), ("min", .minute), ("mins", .minute),
    ("m", .minute),
    ("hours", .hour), ("hour", .hour), ("hrs", .hour), ("hr", .hour), ("h", .hour),
    ("days", .day), ("day", .day), ("d", .day),
    ("weeks", .week), ("week", .week), ("wk", .week), ("wks", .week), ("w", .week),
    ("months", .month), ("month", .month), ("M", .month),
    ("years", .year), ("year", .year), ("yrs", .year), ("yr", .year), ("y", .year)]

def ofName? (name : String) : Option TimeUnit :=
  (names.find? fun entry => entry.1 == name).map (·.2)

def whole : TimeUnit → Span
  | .nanosecond => .nanoseconds 1
  | .microsecond => .nanoseconds 1000
  | .millisecond => .nanoseconds 1000000
  | .second => .seconds 1
  | .minute => .seconds 60
  | .hour => .seconds 3600
  | .day => .seconds 86400
  | .week => .seconds 604800
  | .month => .seconds 2630016
  | .year => .seconds 31557600

/-- One unit in the grains that fractions of it are counted in; a nanosecond has no fractions. -/
def divided : TimeUnit → Option Span
  | .nanosecond => none
  | .second => some (.nanoseconds 1000000000)
  | .minute => some (.nanoseconds 60000000000)
  | other => some other.whole

end TimeUnit

/-- Why a text is no duration. `carry` is a sum whose seconds are all used up and whose
nanoseconds make exactly one more. -/
inductive Fault where
  | malformed | carry
  deriving DecidableEq, Repr

def word? (n : Nat) : Except Fault Nat := if n < wordLimit then .ok n else .error .malformed

def add (sum : Duration) (span : Span) : Except Fault Duration := do
  let nanoseconds ← word? (sum.nanoseconds % 1000000000
    + (match span with | .seconds _ => 0 | .nanoseconds n => n))
  let total := sum.nanoseconds
    + (match span with | .seconds n => n * 1000000000 | .nanoseconds n => n)
  if bounded : total < durationLimit then pure ⟨total, bounded⟩
  else if nanoseconds = 1000000000 ∧ total = durationLimit then throw .carry
  else throw .malformed

def Span.times (span : Span) (n : Nat) : Except Fault Span :=
  match span with
  | .seconds unit => (word? (n * unit)).map .seconds
  | .nanoseconds unit => (word? (n * unit)).map .nanoseconds

def Span.over (span : Span) (d : Nat) : Except Fault Span :=
  match span with
  | .seconds n => if n % d = 0 then pure (.seconds (n / d)) else throw .malformed
  | .nanoseconds n => if n % d = 0 then pure (.nanoseconds (n / d)) else throw .malformed

structure Term where
  whole : List Char
  fraction : Option (List Char)
  unit : List Char

def addFraction (sum : Duration) (unit : TimeUnit) (digits : List Char) :
    Except Fault Duration := do
  match unit.divided with
  | none => throw .malformed
  | some grains =>
    let denominator ← word? (tenTo digits.length)
    let span ← (← grains.times (Decimal.value digits)).over denominator
    sum.add span

def addTerm (sum : Duration) (term : Term) : Except Fault Duration := do
  let count ← word? (Decimal.value term.whole)
  match TimeUnit.ofName? (String.ofList term.unit) with
  | none => throw .malformed
  | some unit =>
    let sum ← sum.add (← unit.whole.times count)
    match term.fraction with
    | none => pure sum
    | some digits => sum.addFraction unit digits

/-- Where a reader stands: before a term, in its number, in its fraction, or in its unit. Digits
and letters are kept in their order. -/
inductive Place where
  | before
  | whole (digits : List Char)
  | fraction (whole digits : List Char)
  | unit (term : Term)

def isUnitLetter (c : Char) : Bool := c.isAlpha || c == 'µ'

/-- Reads one character: the terms it completes and the place after it; `none` if it may not stand
here. -/
def Place.step (place : Place) (c : Char) : Option (List Term × Place) :=
  match place with
  | .before =>
    if c.isDigit then some ([], .whole [c])
    else if isWhite c then some ([], .before)
    else none
  | .whole digits =>
    if c.isDigit then some ([], .whole (digits ++ [c]))
    else if isWhite c then some ([], place)
    else if isUnitLetter c then some ([], .unit ⟨digits, none, [c]⟩)
    else if c = '.' then some ([], .fraction digits [])
    else none
  | .fraction front digits =>
    if c.isDigit then some ([], .fraction front (digits ++ [c]))
    else if isWhite c then some ([], place)
    else if isUnitLetter c && !digits.isEmpty then some ([], .unit ⟨front, some digits, [c]⟩)
    else none
  | .unit term =>
    if c.isDigit then some ([term], .whole [c])
    else if isWhite c then some ([term], .before)
    else if isUnitLetter c then some ([], .unit { term with unit := term.unit ++ [c] })
    else none

def terms : Place → List Char → List Term × Bool
  | .before, [] => ([], true)
  | .unit term, [] => ([term], true)
  | _, [] => ([], false)
  | place, c :: rest =>
    match place.step c with
    | none => ([], false)
    | some (complete, next) =>
      let later := terms next rest
      (complete ++ later.1, later.2)

def ofText (text : String) : Except Fault Duration := do
  if text = "0" then pure zero
  else
    let read := terms .before text.toList
    let sum ← read.1.foldlM addTerm zero
    if read.2 && !read.1.isEmpty then pure sum else throw .malformed

end Switchboard.Duration
