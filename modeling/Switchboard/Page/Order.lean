import Switchboard.Page.Query
import Switchboard.Record

/-!
The order of records on a page: by name or by ordinal, ties by identifier. The sort is stable in
both directions, so records with equal names and identifiers stay as they came.
-/
namespace Switchboard

variable {α : Type} [Record α]

def thenCompare (first second : Ordering) : Ordering :=
  match first with
  | .eq => second
  | decided => decided

def compareText (a b : String) : Ordering :=
  if a < b then .lt else if b < a then .gt else .eq

def compareOrdinal (a b : String) : Ordering :=
  if ordinal a < ordinal b then .lt else if ordinal b < ordinal a then .gt else .eq

def compareBy (key : SortKey) (a b : α) : Ordering :=
  match key with
  | .name => thenCompare (compareText (Record.name a) (Record.name b))
      (compareText (Record.id a) (Record.id b))
  | .id => thenCompare (compareOrdinal (Record.id a) (Record.id b))
      (compareText (Record.id a) (Record.id b))

def inOrder (key : SortKey) (direction : Direction) (a b : α) : Bool :=
  match direction with
  | .ascending => compareBy key a b != .gt
  | .descending => compareBy key a b != .lt

def sortRecords (query : Query) (records : List α) : List α :=
  match query.sortKey? with
  | none => records
  | some key => records.mergeSort (inOrder key query.direction)

end Switchboard
