import Switchboard.Text

/-!
A written form of texts in letters, digits and hyphens. The plain characters come first; after a
last hyphen, runs of digits in base thirty-six say which other characters stand where. Each run is
the distance to the next character to be put in, counted over all places and all code points.
-/
namespace Switchboard.Http.Domain.Punycode

def digit (n : Nat) : Char := if n < 26 then Char.ofNat (97 + n) else Char.ofNat (22 + n)

def digit? (c : Char) : Option Nat :=
  if c.isLower then some (c.toNat - 97)
  else if c.isUpper then some (c.toNat - 65)
  else if c.isDigit then some (c.toNat - 22)
  else none

def firstCode : Nat := 128

def firstBias : Nat := 72

/-- Below this bound a digit ends its run; it depends on how many digits came before, as `k` says in
steps of thirty-six. -/
def threshold (k bias : Nat) : Nat := min 26 (max 1 (k - bias))

def settle : Nat → Nat → Nat → Nat × Nat
  | 0, delta, k => (delta, k)
  | fuel + 1, delta, k =>
    if 455 < delta then settle fuel (delta / 35) (k + 36) else (delta, k)

/-- The bias after a run that stood for `delta`, with `count` characters in the text. -/
def adapt (delta count : Nat) (isFirst : Bool) : Nat :=
  let halved := if isFirst then delta / 700 else delta / 2
  let settled := settle halved (halved + halved / count) 0
  settled.2 + 36 * settled.1 / (settled.1 + 38)

def run (bias : Nat) : Nat → Nat → Nat → List Char
  | 0, _, _ => []
  | fuel + 1, k, n =>
    let bound := threshold k bias
    if n < bound then [digit n]
    else
      digit (bound + (n - bound) % (36 - bound))
        :: run bias fuel (k + 36) ((n - bound) / (36 - bound))

/-- What has been written, the distance since then, the bias, and the number of characters
written. -/
structure Writing where
  text : List Char := []
  distance : Nat := 0
  bias : Nat := firstBias
  count : Nat

def isPlain (c : Char) : Bool := c.toNat < firstCode

def Writing.pass (plain code : Nat) (writing : Writing) (c : Char) : Writing :=
  if c.toNat < code then { writing with distance := writing.distance + 1 }
  else if c.toNat = code then
    ⟨writing.text ++ run writing.bias (writing.distance + 1) 36 writing.distance, 0,
      adapt writing.distance (writing.count + 1) (writing.count == plain), writing.count + 1⟩
  else writing

def Writing.visit (cs : List Char) (plain : Nat) : Nat → Writing → List Nat → Writing
  | _, writing, [] => writing
  | next, writing, code :: codes =>
    let reached :=
      { writing with distance := writing.distance + (code - next) * (writing.count + 1) }
    let passed := cs.foldl (Writing.pass plain code) reached
    visit cs plain (code + 1) { passed with distance := passed.distance + 1 } codes

def encode (cs : List Char) : List Char :=
  let plain := cs.filter isPlain
  let codes := (((cs.filter fun c => !isPlain c).map Char.toNat).mergeSort).eraseDups
  (if plain.isEmpty then [] else plain ++ ['-'])
    ++ (Writing.visit cs plain.length firstCode { count := plain.length } codes).text

def sumLimit : Nat := 4294967296

def distance? (bias : Nat) : Nat → Nat → Nat → List Char → Option (Nat × List Char)
  | _, _, _, [] => none
  | k, weight, sum, c :: rest =>
    match digit? c with
    | none => none
    | some value =>
      let sum := sum + value * weight
      let bound := threshold k bias
      if sumLimit ≤ sum then none
      else if value < bound then some (sum, rest)
      else if sumLimit ≤ weight * (36 - bound) then none
      else distance? bias (k + 36) (weight * (36 - bound)) sum rest

/-- Puts characters into a text, the next one at `place` or later and with a code point from
`code` on. `fuel` bounds their number. -/
def insert (bias code place : Nat) : Nat → List Char → List Char → Option (List Char)
  | _, text, [] => some text
  | 0, _, _ => none
  | fuel + 1, text, digits =>
    match distance? bias 36 1 place digits with
    | none => none
    | some (sum, rest) =>
      let count := text.length + 1
      let code := code + sum / count
      let at_ := sum % count
      if code.isValidChar then
        insert (adapt (sum - place) count (place == 0)) code (at_ + 1) fuel
          (text.take at_ ++ Char.ofNat code :: text.drop at_) rest
      else none

def decode? (cs : List Char) : Option (List Char) :=
  let tail := (cs.reverse.takeWhile (· != '-')).reverse
  let plain := cs.take (cs.length - tail.length - 1)
  if plain.isEmpty then insert firstBias firstCode 0 cs.length [] cs
  else if plain.all isPlain then insert firstBias firstCode 0 cs.length plain tail
  else none

end Switchboard.Http.Domain.Punycode
