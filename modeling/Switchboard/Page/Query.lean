import Switchboard.Ordinal

/-!
What a caller asks of a page: where the window starts and how long it is, which name to keep, and
how to order the rest. A limit of zero asks for nothing. The window of ordinals is half open and
stops at the largest 64-bit number.
-/
namespace Switchboard

inductive Direction where
  | ascending | descending
  deriving DecidableEq, Repr, Inhabited

inductive SortKey where
  | name | id
  deriving DecidableEq, Repr

structure Query where
  total : UInt64 := 0
  offset : UInt64 := 0
  limit : UInt64 := 0
  name : Option String := none
  order : Option String := none
  direction : Direction := .ascending
  deriving DecidableEq, Repr, Inhabited

def lowerAscii (text : String) : String := String.ofList (text.toList.map Char.toLower)

/-- The field to order by, whatever the case of its letters; other fields leave the order alone. -/
def SortKey.ofText? (text : String) : Option SortKey :=
  if lowerAscii text = "name" then some .name
  else if lowerAscii text = "id" then some .id
  else none

def Query.sortKey? (query : Query) : Option SortKey := query.order.bind SortKey.ofText?

/-- Ordinals from `first` up to below `last`. -/
structure OrdinalWindow where
  first : Nat
  last : Nat
  deriving DecidableEq, Repr

def OrdinalWindow.holds (window : OrdinalWindow) (n : Nat) : Bool :=
  decide (window.first ≤ n) && decide (n < window.last)

def cappedSum (a b : Nat) : Nat := min (a + b) (wordLimit - 1)

def Query.ordinalWindow? (query : Query) : Option OrdinalWindow :=
  if query.limit = 0 then none
  else
    let first := cappedSum query.offset.toNat 1
    some ⟨first, cappedSum first query.limit.toNat⟩

def Query.withTotal (query : Query) (total : Nat) : Query :=
  { query with total := UInt64.ofNat total }

end Switchboard
