import Switchboard.Json.Value

/-!
Reading a record in the order in which it is written. Every field changes a draft, which begins
with all defaults, and the first one that cannot be taken ends the reading: what stands after it
does not matter. A record is an object, in which unknown names are passed over and known ones may
not repeat, or an array of its field values in their order.
-/
namespace Switchboard.Json

/-- A field of a record: its name, whether it has to be there, and what its datum makes of a
draft. -/
structure Slot (ε σ : Type) where
  name : String
  required : Bool
  take : Datum → σ → Except ε σ

/-- The fields of a record. `surplus` says whether an array may go on after the last of them, where
nobody looks; `refusal` is the error of whatever does not have the form of the record. -/
structure Layout (ε σ : Type) where
  slots : List (Slot ε σ)
  surplus : Bool
  refusal : ε

namespace Layout

variable {ε σ : Type}

def slot? (layout : Layout ε σ) (name : String) : Option (Slot ε σ) :=
  layout.slots.find? (·.name == name)

def named (layout : Layout ε σ) :
    List String → List (Option String × Datum) → σ → Except ε σ
  | seen, [], draft =>
    if layout.slots.all fun slot => !slot.required || seen.contains slot.name then .ok draft
    else .error layout.refusal
  | _, (none, _) :: _, _ => .error layout.refusal
  | seen, (some name, datum) :: rest, draft =>
    match layout.slot? name with
    | none => if datum.isWhole then layout.named seen rest draft else .error layout.refusal
    | some slot =>
      if seen.contains name then .error layout.refusal
      else
        match slot.take datum draft with
        | .ok next => layout.named (name :: seen) rest next
        | .error error => .error error

def positional (layout : Layout ε σ) : List (Slot ε σ) → List Datum → σ → Except ε σ
  | slots, [], draft =>
    if slots.any Slot.required then .error layout.refusal else .ok draft
  | [], _ :: _, draft => if layout.surplus then .ok draft else .error layout.refusal
  | slot :: slots, datum :: rest, draft =>
    match slot.take datum draft with
    | .ok next => layout.positional slots rest next
    | .error error => .error error

def read (layout : Layout ε σ) (draft : σ) : Datum → Except ε σ
  | .object fields => layout.named [] fields draft
  | .array items => layout.positional layout.slots items draft
  | _ => .error layout.refusal

end Layout
end Switchboard.Json
