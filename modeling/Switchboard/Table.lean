import Switchboard.Error
import Switchboard.Page

/-!
Tables of records in the order in which they were stored. A record is found by the identifier that
it was stored under. A batch is stored whole or not at all; records without an identifier get the
next number whose text nobody uses. The counter moves once for every stored record and past every
number that was skipped, and never back.
-/
namespace Switchboard

variable {α : Type}

structure Table (α : Type) where
  entries : List (String × α) := []
  counter : Nat := 0
  deriving Repr

namespace Table

def records (table : Table α) : List α := table.entries.map (·.2)

def ids (table : Table α) : List String := table.entries.map (·.1)

def size (table : Table α) : Nat := table.entries.length

def isEmpty (table : Table α) : Bool := table.entries.isEmpty

def contains (table : Table α) (id : String) : Bool := table.ids.contains id

def get? (table : Table α) (id : String) : Option α :=
  (table.entries.find? fun entry => entry.1 == id).map (·.2)

def retrieve (table : Table α) (id : String) : Except Error α :=
  match table.get? id with
  | some record => .ok record
  | none => .error .notFound

def modify (table : Table α) (id : String) (change : α → α) : Table α :=
  { table with
    entries := table.entries.map fun entry =>
      if entry.1 == id then (entry.1, change entry.2) else entry }

def erase (table : Table α) (id : String) : Table α :=
  { table with entries := table.entries.filter fun entry => entry.1 != id }

def remove (table : Table α) (id : String) : Except Error (α × Table α) :=
  match table.get? id with
  | some record => .ok (record, table.erase id)
  | none => .error .notFound

/-- The records at the places that a query asks for, neither filtered nor ordered. -/
def pageByPlace (table : Table α) (query : Query) : Page α :=
  .of query table.counter (windowByPlace query table.records)

variable [Record α]

/-- The identifiers that the caller gives. -/
def supplied (batch : List α) : List String := (batch.map Record.id).filter fun id => id != ""

def admits (table : Table α) (batch : List α) : Bool :=
  (supplied batch).all (fun id => !table.contains id) && decide (supplied batch).Nodup

/-- The least number from `n` on whose text is not in use, among the next `fuel` ones. -/
def freeFrom (used : List String) : Nat → Nat → Nat
  | 0, n => n
  | fuel + 1, n => if used.contains (numbered n) then freeFrom used fuel (n + 1) else n

/-- Gives every record of a batch its identifier, in order, and the counter after the last. -/
def assign (used : List String) (counter : Nat) : List α → List α × Nat
  | [] => ([], counter)
  | record :: rest =>
    if Record.id record = "" then
      let n := freeFrom used used.length (counter + 1)
      let tail := assign (numbered n :: used) n rest
      (Record.withId (numbered n) record :: tail.1, tail.2)
    else
      let tail := assign used (counter + 1) rest
      (record :: tail.1, tail.2)

def insertBatch (table : Table α) (batch : List α) : Except Error (List α × Table α) :=
  if table.admits batch then
    let stored := assign (table.ids ++ supplied batch) table.counter batch
    .ok (stored.1,
      ⟨table.entries ++ stored.1.map (fun record => (Record.id record, record)), stored.2⟩)
  else .error .conflict

def replace (table : Table α) (record : α) : Except Error (Table α) :=
  if table.contains (Record.id record) then
    .ok (table.modify (Record.id record) fun _ => record)
  else .error .notFound

def inGroups (groups : List String) (record : α) : Bool := groups.contains (Record.group record)

def pageByGroups (table : Table α) (groups : List String) (query : Query) : Page α :=
  if query.limit = 0 then .empty query table.counter
  else
    .finish query table.counter (windowByOrdinal query (table.records.filter (inGroups groups)))

end Table
end Switchboard
