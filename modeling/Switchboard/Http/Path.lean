import Switchboard.Http.Percent
import Switchboard.Text

/-!
Paths of addresses. The steps `.` and `..` are resolved while a path is read, segment by segment. No
step leads up from a segment that looks like the letter of a drive. In the address of a file the
first segment may be such a letter: it ends at its mark, which is written as a colon, and empty
segments in front of a path are left out.
-/
namespace Switchboard.Http

/-- The segments of a path read so far, last first. `drive` says that the first one was a whole
drive letter where it was written. -/
structure Trail where
  done : List (List Char) := []
  drive : Bool := false

namespace Trail

def isSingleDot (segment : List Char) : Bool :=
  ([".", "%2e"].map String.toList).contains (segment.map Char.toLower)

def isDoubleDot (segment : List Char) : Bool :=
  (["..", ".%2e", "%2e.", "%2e%2e"].map String.toList).contains (segment.map Char.toLower)

def isDriveMark (c : Char) : Bool := c == ':' || c == '|'

def hasDriveLetter : List Char → Bool
  | [letter, mark] => letter.isAlpha && isDriveMark mark
  | letter :: mark :: '\\' :: _ => letter.isAlpha && isDriveMark mark
  | _ => false

def up (trail : Trail) : Trail :=
  match trail.done with
  | [] => trail
  | segment :: before => if hasDriveLetter segment then trail else { trail with done := before }

def push (trail : Trail) (segment : List Char) : Trail :=
  { trail with done := segment :: trail.done }

def down (ofFile : Bool) (trail : Trail) (segment : List Char) : Trail :=
  let encoded := Percent.encode Percent.isReservedInPath segment
  match ofFile && trail.done.isEmpty, encoded with
  | true, [letter, mark] =>
    if letter.isAlpha && isDriveMark mark then ⟨[[letter, ':']], true⟩ else trail.push encoded
  | true, letter :: ':' :: more =>
    if letter.isAlpha then (trail.push [letter, ':']).push more else trail.push encoded
  | _, _ => trail.push encoded

/-- Takes segments in turn. A path that ends in a step ends in a slash. -/
def follow (ofFile : Bool) : Trail → List (List Char) → Trail
  | trail, [] => trail
  | trail, segment :: rest =>
    let isStep := isSingleDot segment || isDoubleDot segment
    let next :=
      if isDoubleDot segment then trail.up
      else if isSingleDot segment then trail
      else trail.down ofFile segment
    follow ofFile (if isStep && rest.isEmpty then next.push [] else next) rest

def ofText (ofFile : Bool) (cs : List Char) : Trail := follow ofFile {} (splitOn '/' cs)

def text (ofFile : Bool) (trail : Trail) : List Char :=
  let path := ['/'].intercalate trail.done.reverse
  '/' :: if ofFile then path.dropWhile (· == '/') else path

end Trail
end Switchboard.Http
