import Mathlib.Data.Finset.Basic
import Mathlib.Data.Finset.Lattice.Lemmas
import Switchboard.Proofs.Pace

/-!
The channel side as a ledger that places every thing with one channel at most. The ledger knows
which channels and things are stored and nothing else of their records; it answers connects,
disconnects and removals by itself and learns from the answer to a save what was stored. Events,
rows and the bridge do not occur in it. Element by element the board does what the ledger says.
-/
namespace Switchboard

structure Ledger where
  channels : Finset String := ∅
  things : Finset String := ∅
  placed : String → Option String := fun _ => none

namespace Ledger

def connect (channel thing : String) (ledger : Ledger) : Ledger × Except Error Unit :=
  if channel ∉ ledger.channels then (ledger, .error .notFound)
  else if thing ∉ ledger.things then (ledger, .error .notFound)
  else if (ledger.placed thing).isSome then (ledger, .error .conflict)
  else ({ ledger with placed := Function.update ledger.placed thing (some channel) }, .ok ())

def disconnect (channel thing : String) (ledger : Ledger) : Ledger × Except Error Unit :=
  if ledger.placed thing = some channel then
    ({ ledger with placed := Function.update ledger.placed thing none }, .ok ())
  else (ledger, .error .notFound)

def removeChannel (channel : String) (ledger : Ledger) : Ledger × Except Error Unit :=
  if channel ∈ ledger.channels then
    ({ ledger with
        channels := ledger.channels.erase channel
        placed := fun thing =>
          if ledger.placed thing = some channel then none else ledger.placed thing },
      .ok ())
  else (ledger, .error .notFound)

/-- The ledger keeps the place of a thing that is removed. -/
def removeThing (thing : String) (ledger : Ledger) : Ledger × Except Error Unit :=
  if thing ∈ ledger.things then ({ ledger with things := ledger.things.erase thing }, .ok ())
  else (ledger, .error .notFound)

def inTurn (one : String → Ledger → Ledger × Except Error Unit) :
    List String → Ledger → Ledger × Except Error Unit
  | [], ledger => (ledger, .ok ())
  | id :: rest, ledger =>
    match one id ledger with
    | (after, .ok ()) => inTurn one rest after
    | (after, .error error) => (after, .error error)

end Ledger

def Saved.ids : Saved → Finset String
  | .things stored => (stored.map Thing.id).toFinset
  | .channels stored => (stored.map Channel.id).toFinset
  | .nothing => ∅

def Reply.ids : Reply Saved → Finset String
  | .done saved => saved.ids
  | _ => ∅

def Reply.of {α : Type} : Except Error α → Reply α
  | .ok value => .done value
  | .error error => .refused error

namespace Ledger

/-- The ledger after a change that was answered, and the answer if the ledger knows it by itself. A
save and a change of key depend on records, of which the ledger knows nothing. -/
def enter (change : Change) (answer : Reply Saved) (ledger : Ledger) :
    Ledger × Option (Except Error Unit) :=
  match change with
  | .saveThings _ => ({ ledger with things := ledger.things ∪ answer.ids }, none)
  | .saveChannels _ => ({ ledger with channels := ledger.channels ∪ answer.ids }, none)
  | .updateKey _ _ => (ledger, none)
  | .updateThing thing =>
    (ledger, some (if thing.id ∈ ledger.things then .ok () else .error .notFound))
  | .updateChannel channel =>
    (ledger, some (if channel.id ∈ ledger.channels then .ok () else .error .notFound))
  | .removeThings ids => let entered := inTurn removeThing ids ledger; (entered.1, some entered.2)
  | .removeChannels ids =>
    let entered := inTurn removeChannel ids ledger; (entered.1, some entered.2)
  | .connect channel things =>
    if channel ∈ ledger.channels then
      let entered := inTurn (connect channel) things ledger; (entered.1, some entered.2)
    else (ledger, some (.error .notFound))
  | .disconnect channel things =>
    let entered := inTurn (disconnect channel) things ledger; (entered.1, some entered.2)

end Ledger

/-- A ledger says what a board holds. -/
structure Reflects (ledger : Ledger) (board : Board) : Prop where
  channels : ledger.channels = board.channels.ids.toFinset
  things : ledger.things = board.things.ids.toFinset
  tidy : board.placement.Tidy
  placed : ∀ channel thing,
    Connection.mk channel thing ∈ board.connections ↔ ledger.placed thing = some channel

namespace Reflects
variable {ledger : Ledger} {board : Board}

theorem linked (reflects : Reflects ledger board) (channel thing : String) :
    (channel, thing) ∈ board.placement.links ↔ ledger.placed thing = some channel :=
  reflects.placed channel thing

theorem of_links {other : Board} (channels : ledger.channels = other.channels.ids.toFinset)
    (things : ledger.things = other.things.ids.toFinset) (tidy : other.placement.Tidy)
    (linked : ∀ channel thing,
      (channel, thing) ∈ other.placement.links ↔ ledger.placed thing = some channel) :
    Reflects ledger other := ⟨channels, things, tidy, linked⟩

theorem empty (capacity : Nat) : Reflects {} (.ofCapacity capacity) := by
  refine of_links rfl rfl List.nodup_nil fun channel thing => ⟨fun linked => ?_, by simp⟩
  obtain ⟨row, member, _⟩ := (Placement.mem_links _ _ _).mp linked
  exact absurd member List.not_mem_nil

theorem consumeMany (reflects : Reflects ledger board) (count : Nat) :
    Reflects ledger (board.consumeMany count) := by
  refine of_links ?_ ?_ ?_ ?_
  · simpa using reflects.channels
  · simpa using reflects.things
  · simpa using reflects.tidy
  · simpa using reflects.linked

theorem flush (reflects : Reflects ledger board) (ticket : Nat) :
    Reflects ledger (board.flush ticket).1 := by
  unfold Board.flush
  cases board.bridge.send (.barrier ticket) with
  | taken bridge => exact of_links reflects.channels reflects.things reflects.tidy reflects.linked
  | full => exact reflects
  | closed => exact reflects

theorem holds_iff (reflects : Reflects ledger board) (channel thing : String) :
    board.placement.holds channel thing = true ↔ ledger.placed thing = some channel := by
  rw [reflects.tidy.holds_iff, reflects.linked]

theorem isPlaced_iff (reflects : Reflects ledger board) (thing : String) :
    board.placement.isPlaced thing = true ↔ (ledger.placed thing).isSome = true := by
  rw [reflects.tidy.isPlaced_iff, Option.isSome_iff_exists]
  exact exists_congr fun channel => reflects.linked channel thing

theorem accept (reflects : Reflects ledger board) (event : ConnectionEvent) (after : Ledger)
    (channels : after.channels = (board.accept event).channels.ids.toFinset)
    (things : after.things = ledger.things)
    (placed : ∀ channel thing, after.placed thing = some channel ↔
      (channel, thing) ∈ event.amend {link | ledger.placed link.2 = some link.1}) :
    Reflects after (board.accept event) := by
  refine of_links channels (things.trans reflects.things) (reflects.tidy.follow event) ?_
  intro channel thing
  have same : board.placement.links = {link | ledger.placed link.2 = some link.1} := by
    ext ⟨channel, thing⟩
    exact reflects.linked channel thing
  change (channel, thing) ∈ (board.placement.follow event).links ↔ _
  rw [Placement.links_follow, same, placed]

end Reflects

/-- The elements of a batch are answered as the ledger answers them, and leave what it says. -/
def Mirrors (one : String → Board → Board × Reply Unit)
    (entry : String → Ledger → Ledger × Except Error Unit) : Prop :=
  ∀ id board ledger, board.Ready → Reflects ledger board →
    (one id board).2 = .of (entry id ledger).2 ∧ (one id board).1.Ready ∧
      Reflects (entry id ledger).1 (one id board).1

theorem refusal_mirrored {ledger : Ledger} {board : Board} (ready : board.Ready)
    (reflects : Reflects ledger board) (one : String → Board → Board × Reply Unit)
    (entry : String → Ledger → Ledger × Except Error Unit) (id : String) (error : Error)
    (refuses : Board.Refuses one id board error)
    (refused : entry id ledger = (ledger, .error error)) :
    (Board.patiently one id board).2 = .of (entry id ledger).2 ∧
      (Board.patiently one id board).1.Ready ∧
      Reflects (entry id ledger).1 (Board.patiently one id board).1 := by
  obtain ⟨tally, patient⟩ := Board.patiently_refused one id board error refuses
  rw [patient, refused]
  exact ⟨rfl, ⟨ready.unsealed, ready.roomy, ready.fits, ready.own⟩,
    .of_links reflects.channels reflects.things reflects.tidy reflects.linked⟩

theorem removeChannel_mirrors :
    Mirrors (Board.patiently Board.removeChannel) Ledger.removeChannel := by
  intro id board ledger ready reflects
  have known : id ∈ ledger.channels ↔ id ∈ board.channels.ids := by
    rw [reflects.channels, List.mem_toFinset]
  rcases board.removeChannel_cases id with ⟨stored, offers⟩ | ⟨absent, refuses⟩
  · obtain ⟨count, patient, after⟩ := ready.patiently_offer _ id _ offers
    rw [patient, Ledger.removeChannel, if_pos (known.mpr stored)]
    refine ⟨rfl, after, ?_⟩
    dsimp only
    apply (reflects.consumeMany count).accept
    · ext other
      simp only [Board.accept, Board.consumeMany_channels, Finset.mem_erase, reflects.channels,
        List.mem_toFinset, Table.mem_ids_erase]
      exact and_comm
    · rfl
    -- The sweep over all things takes exactly the links to the removed channel away.
    · intro channel thing
      change _ ↔ ledger.placed thing = some channel ∧ channel ≠ id
      by_cases there : ledger.placed thing = some id
      · simp only [there, ↓reduceIte]
        exact ⟨by simp, fun both => absurd (Option.some.inj both.1).symm both.2⟩
      · simp only [there, ↓reduceIte]
        exact ⟨fun placed => ⟨placed, fun same => there (same ▸ placed)⟩, And.left⟩
  · refine refusal_mirrored ready reflects _ _ id _ refuses ?_
    rw [Ledger.removeChannel, if_neg (fun stored => absent (known.mp stored))]

theorem disconnectThing_mirrors (channel : String) :
    Mirrors (Board.patiently (Board.disconnectThing channel)) (Ledger.disconnect channel) := by
  intro thing board ledger ready reflects
  have known := reflects.holds_iff channel thing
  rcases board.disconnectThing_cases channel thing with ⟨held, offers⟩ | ⟨free, refuses⟩
  · obtain ⟨count, patient, after⟩ := ready.patiently_offer _ thing _ offers
    rw [patient, Ledger.disconnect, if_pos (known.mp held)]
    refine ⟨rfl, after, ?_⟩
    dsimp only
    apply (reflects.consumeMany count).accept
    · exact (reflects.consumeMany count).channels
    · rfl
    · intro other id
      change _ ↔ ledger.placed id = some other ∧ ¬ (other, id) = (channel, thing)
      by_cases same : id = thing
      · subst same
        simp [known.mp held, eq_comm]
      · simp [same]
  · refine refusal_mirrored ready reflects _ _ thing _ refuses ?_
    rw [Ledger.disconnect, if_neg (fun placed => by simp [known.mpr placed] at free)]

-- The board asks for the thing first and the ledger for the channel; both absences look alike.
theorem connectThing_mirrors (channel : String) :
    Mirrors (Board.patiently (Board.connectThing channel)) (Ledger.connect channel) := by
  intro thing board ledger ready reflects
  have channelKnown : channel ∈ ledger.channels ↔ channel ∈ board.channels.ids := by
    rw [reflects.channels, List.mem_toFinset]
  have thingKnown : thing ∈ ledger.things ↔ thing ∈ board.things.ids := by
    rw [reflects.things, List.mem_toFinset]
  have placedKnown := reflects.isPlaced_iff thing
  rcases board.connectThing_cases channel thing ready.own with
    ⟨record, named, allowed, offers⟩ | ⟨absent, refuses⟩ | ⟨stored, held, placed, refuses⟩
  · obtain ⟨count, patient, after⟩ := ready.patiently_offer _ thing _ offers
    subst named
    have held : record.id ∈ board.things.ids := Table.get?_stored _ _ _ allowed.1
    have unplaced : ¬ (ledger.placed record.id).isSome = true := by
      rw [← placedKnown, allowed.2.2]
      exact Bool.false_ne_true
    rw [patient, Ledger.connect, if_neg (not_not.mpr (channelKnown.mpr allowed.2.1)),
      if_neg (not_not.mpr (thingKnown.mpr held)), if_neg unplaced]
    refine ⟨rfl, after, ?_⟩
    dsimp only
    apply (reflects.consumeMany count).accept
    · exact (reflects.consumeMany count).channels
    · rfl
    · intro other id
      change _ ↔ (other, id) = (channel, record.id) ∨ ledger.placed id = some other
      by_cases same : id = record.id
      · subst same
        have nowhere : ledger.placed record.id = none := by simpa using unplaced
        simp [nowhere, eq_comm]
      · simp [same]
  · refine refusal_mirrored ready reflects _ _ thing _ refuses ?_
    unfold Ledger.connect
    rcases absent with absent | absent
    · rw [if_pos (fun stored => absent (channelKnown.mp stored))]
    · rw [if_pos (fun held => absent (thingKnown.mp held)), ite_self]
  · refine refusal_mirrored ready reflects _ _ thing _ refuses ?_
    rw [Ledger.connect, if_neg (not_not.mpr (channelKnown.mpr stored)),
      if_neg (not_not.mpr (thingKnown.mpr held)), if_pos (placedKnown.mp placed)]

theorem removeThing_mirrors : Mirrors Board.removeThing Ledger.removeThing := by
  intro id board ledger ready reflects
  have known : id ∈ ledger.things ↔ id ∈ board.things.ids := by
    rw [reflects.things, List.mem_toFinset]
  rw [Board.removeThing_eq]
  unfold Ledger.removeThing
  by_cases stored : id ∈ board.things.ids
  · rw [if_pos stored, if_pos (known.mpr stored)]
    refine ⟨rfl, ⟨ready.unsealed, ready.roomy, ready.fits, ready.own.erase id⟩, ?_⟩
    refine .of_links reflects.channels ?_ reflects.tidy reflects.linked
    ext other
    simp only [Finset.mem_erase, reflects.things, List.mem_toFinset, Table.mem_ids_erase]
    exact and_comm
  · rw [if_neg stored, if_neg (fun member => stored (known.mp member))]
    exact ⟨rfl, ⟨ready.unsealed, ready.roomy, ready.fits, ready.own⟩,
      .of_links reflects.channels reflects.things reflects.tidy reflects.linked⟩

end Switchboard
