import Switchboard.Hex
import Switchboard.Text

/-!
Sets of characters. A set is written as runs of code points with blanks between them: a run is the
first and the last code point in base sixteen with a hyphen between them, or a single one.
-/
namespace Switchboard.Unicode

structure Span where
  first : Nat
  last : Nat
  deriving DecidableEq, Repr

def Span.covers (span : Span) (c : Char) : Bool := span.first ≤ c.toNat && c.toNat ≤ span.last

def words (text : String) : List (List Char) :=
  (splitOn ' ' (text.toList.map fun c => if c == '\n' then ' ' else c)).filter
    fun word => !word.isEmpty

def codePoint (digits : List Char) : Nat := Hex.valueIn 16 digits

def Span.ofWord (word : List Char) : Span :=
  match cutAt '-' word with
  | (only, none) => ⟨codePoint only, codePoint only⟩
  | (first, some last) => ⟨codePoint first, codePoint last⟩

def spans (table : String) : List Span := (words table).map .ofWord

def isIn (spans : List Span) (c : Char) : Bool := spans.any (·.covers c)

end Switchboard.Unicode
