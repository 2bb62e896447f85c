import Switchboard.Record

/-!
The channel side of the connections: for every thing the channels it is connected to, lowest first.
A thing without channels has no row. This side decides what is connected; the thing side follows.
-/
namespace Switchboard

structure Placement where
  rows : List (String × List String) := []
  deriving DecidableEq, Repr

namespace Placement

def row? (placement : Placement) (thing : String) : Option (List String) :=
  (placement.rows.find? fun row => row.1 == thing).map (·.2)

def channels (placement : Placement) (thing : String) : List String :=
  (placement.row? thing).getD []

def enlist (channel : String) : List String → List String
  | [] => [channel]
  | first :: rest =>
    if channel < first then channel :: first :: rest
    else if channel = first then first :: rest
    else first :: enlist channel rest

def place (placement : Placement) (channel thing : String) : Placement :=
  match placement.row? thing with
  | none => ⟨placement.rows ++ [(thing, [channel])]⟩
  | some _ =>
    ⟨placement.rows.map fun row => if row.1 == thing then (row.1, enlist channel row.2) else row⟩

/-- Takes a channel out of the rows that `chosen` picks, and drops the rows this empties. -/
def withdraw (placement : Placement) (chosen : String → Bool) (channel : String) : Placement :=
  ⟨(placement.rows.map fun row =>
      if chosen row.1 then (row.1, row.2.filter (· != channel)) else row).filter
    fun row => !row.2.isEmpty⟩

def unplace (placement : Placement) (channel thing : String) : Placement :=
  placement.withdraw (· == thing) channel

def dropChannel (placement : Placement) (channel : String) : Placement :=
  placement.withdraw (fun _ => true) channel

def holds (placement : Placement) (channel thing : String) : Bool :=
  (placement.channels thing).contains channel

def isPlaced (placement : Placement) (thing : String) : Bool :=
  !(placement.channels thing).isEmpty

def count (placement : Placement) : Nat := (placement.rows.flatMap (·.2)).length

def connections (placement : Placement) : List Connection :=
  (placement.rows.flatMap fun row => row.2.map fun channel => Connection.mk channel row.1).mergeSort
    Connection.before

end Placement
end Switchboard
