import Switchboard.Page.Order

/-!
Pages of records. A page is made from candidates in three steps: a window keeps some of them, the
name filter keeps some of those, and the order arranges the rest. A page carries the query that it
answers, with the total of the table that it was made from.
-/
namespace Switchboard

structure Page (α : Type) where
  items : List α
  query : Query
  deriving Repr

variable {α : Type}

namespace Page

def of (query : Query) (total : Nat) (items : List α) : Page α := ⟨items, query.withTotal total⟩

def empty (query : Query) (total : Nat) : Page α := .of query total []

end Page

def windowByPlace (query : Query) (candidates : List α) : List α :=
  (candidates.drop query.offset.toNat).take query.limit.toNat

variable [Record α]

def windowByOrdinal (query : Query) (candidates : List α) : List α :=
  match query.ordinalWindow? with
  | none => []
  | some window => candidates.filter fun record => window.holds (ordinal (Record.id record))

/-- Whether a record passes the name filter; an empty name filters nothing. -/
def passesName (query : Query) (record : α) : Bool :=
  match query.name with
  | none => true
  | some name => name.isEmpty || Record.name record == name

def filterByName (query : Query) (records : List α) : List α :=
  records.filter (passesName query)

def Page.finish (query : Query) (total : Nat) (records : List α) : Page α :=
  .of query total (sortRecords query (filterByName query records))

end Switchboard
