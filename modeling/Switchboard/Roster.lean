/-!
The thing side of the connections: for every channel the things connected to it, in the order in
which they were connected. A channel without things has no row. Seen as a set of pairs, each
operation adds or takes away exactly the pairs that its name says.
-/
namespace Switchboard

structure Roster where
  rows : List (String × List String) := []
  deriving DecidableEq, Repr

namespace Roster

def row? (roster : Roster) (channel : String) : Option (List String) :=
  (roster.rows.find? fun row => row.1 == channel).map (·.2)

def things (roster : Roster) (channel : String) : List String := (roster.row? channel).getD []

def enlist (thing : String) (row : List String) : List String :=
  if row.contains thing then row else row ++ [thing]

def connect (roster : Roster) (channel thing : String) : Roster :=
  match roster.row? channel with
  | none => ⟨roster.rows ++ [(channel, [thing])]⟩
  | some _ =>
    ⟨roster.rows.map fun row => if row.1 == channel then (row.1, enlist thing row.2) else row⟩

/-- Takes a thing out of the rows that `chosen` picks, and drops the rows this empties. -/
def withdraw (roster : Roster) (chosen : String → Bool) (thing : String) : Roster :=
  ⟨(roster.rows.map fun row =>
      if chosen row.1 then (row.1, row.2.filter (· != thing)) else row).filter
    fun row => !row.2.isEmpty⟩

def disconnect (roster : Roster) (channel thing : String) : Roster :=
  roster.withdraw (· == channel) thing

def dropThing (roster : Roster) (thing : String) : Roster := roster.withdraw (fun _ => true) thing

def dropChannel (roster : Roster) (channel : String) : Roster :=
  ⟨roster.rows.filter fun row => row.1 != channel⟩

def channelsOf (roster : Roster) (thing : String) : List String :=
  ((roster.rows.filter fun row => row.2.contains thing).map (·.1)).mergeSort

def pairs (roster : Roster) : List (String × String) :=
  roster.rows.flatMap fun row => row.2.map fun thing => (row.1, thing)

def holds (roster : Roster) (channel thing : String) : Bool :=
  (roster.things channel).contains thing

end Roster
end Switchboard
