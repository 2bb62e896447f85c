import Mathlib.Data.List.Induction
import Switchboard.Proofs.Amendments
import Switchboard.Proofs.Enumeration
import Switchboard.Proofs.Pace

/-!
A board with a log of either table. What is entered is what the operations answer: the records that
a save stored, and of a removal the elements that succeeded before it ended or was stopped. Nothing
else is entered, so an operation that stores and removes nothing leaves the order of the tables as
it was, and whatever is done both tables are in the order of their logs.
-/
namespace Switchboard

def Board.inTurnDone (one : String → Board → Board × Reply Unit) :
    List String → Board → List String
  | [], _ => []
  | id :: rest, board =>
    match one id board with
    | (after, .done ()) => id :: inTurnDone one rest after
    | _ => []

def Change.thingEntries (change : Change) (board : Board) : List Entry :=
  match change with
  | .saveThings batch =>
    match (board.saveThings batch).2 with
    | .done stored => (stored.map Record.id).map .stored
    | _ => []
  | .removeThings ids => (Board.inTurnDone Board.removeThing ids board).map .removed
  | _ => []

def Change.channelEntries (change : Change) (board : Board) : List Entry :=
  match change with
  | .saveChannels batch =>
    match (board.saveChannels batch).2 with
    | .done stored => (stored.map Record.id).map .stored
    | _ => []
  | .removeChannels ids => (Board.inTurnDone Board.removeChannel ids board).map .removed
  | _ => []

namespace Board

def tables (board : Board) : Table Thing × Table Channel := (board.things, board.channels)

theorem things_of_tables {a b : Board} (same : a.tables = b.tables) : a.things = b.things :=
  congrArg Prod.fst same

theorem channels_of_tables {a b : Board} (same : a.tables = b.tables) : a.channels = b.channels :=
  congrArg Prod.snd same

theorem announce_tables (event : ConnectionEvent) (record : Board → Board) (board : Board)
    (recorded : ∀ sent : Board, (record sent).tables = sent.tables) :
    (announce event record board).1.tables = board.tables := by
  unfold announce emit
  cases board.bridge.send (.event event) with
  | taken bridge => exact recorded _
  | full => rfl
  | closed => rfl

theorem connectThing_tables (channel thing : String) (board : Board) :
    (connectThing channel thing board).1.tables = board.tables := by
  unfold connectThing
  cases board.thingById thing with
  | error error => rfl
  | ok record =>
      dsimp only
      split
      · rfl
      · split
        · rfl
        · exact announce_tables _ _ board fun _ => rfl

theorem disconnectThing_tables (channel thing : String) (board : Board) :
    (disconnectThing channel thing board).1.tables = board.tables := by
  unfold disconnectThing
  split
  · exact announce_tables _ _ board fun _ => rfl
  · rfl

theorem removeThing_channels (id : String) (board : Board) :
    (removeThing id board).1.channels = board.channels := by
  rw [removeThing_eq]
  split
  · rfl
  · rfl

theorem removeChannel_things (id : String) (board : Board) :
    (removeChannel id board).1.things = board.things := by
  rw [removeChannel_eq]
  split
  · rcases board.offer_cases (.channelRemoved id) with ⟨_, _, taken⟩ | ⟨_, same⟩
    · rw [taken]
      rfl
    · rw [same]
  · rfl

/-- An element that takes its identifier out of a table, or fails and leaves the table alone. -/
def TakesOut {α : Type} (side : Board → Table α) (one : String → Board → Board × Reply Unit) :
    Prop :=
  ∀ id board,
    ((one id board).2 = .done () ∧ side (one id board).1 = (side board).erase id) ∨
    ((one id board).2 ≠ .done () ∧ side (one id board).1 = side board)

theorem removeThing_takesOut : TakesOut Board.things removeThing := by
  intro id board
  rw [removeThing_eq]
  by_cases stored : id ∈ board.things.ids
  · rw [if_pos stored]
    exact Or.inl ⟨rfl, rfl⟩
  · rw [if_neg stored]
    exact Or.inr ⟨by simp, rfl⟩

theorem removeChannel_takesOut : TakesOut Board.channels removeChannel := by
  intro id board
  rw [removeChannel_eq]
  by_cases stored : id ∈ board.channels.ids
  · rw [if_pos stored]
    rcases board.offer_cases (.channelRemoved id) with ⟨_, _, taken⟩ | ⟨failed, same⟩
    · rw [taken]
      exact Or.inl ⟨rfl, rfl⟩
    · exact Or.inr ⟨failed, congrArg Board.channels same⟩
  · rw [if_neg stored]
    exact Or.inr ⟨by simp, rfl⟩

theorem inTurn_keeps {β : Type} (side : Board → β)
    (one : String → Board → Board × Reply Unit)
    (each : ∀ id board, side (one id board).1 = side board) (ids : List String) (board : Board) :
    side (inTurn one ids board).1 = side board :=
  inTurn_preserves (fun after => side after = side board) one
    (fun id after same => (each id after).trans same) ids board rfl

-- Those that succeed are entered; the first that does not ends the batch.
theorem inTurn_removals {α : Type} [Record α] (side : Board → Table α)
    (one : String → Board → Board × Reply Unit) (takes : TakesOut side one) (ids : List String)
    (board : Board) :
    Table.Edits (side board) ((inTurnDone one ids board).map .removed)
      (side (inTurn one ids board).1) := by
  induction ids generalizing board with
  | nil => exact .refl (side board)
  | cons id rest ih =>
      have element := takes id board
      unfold inTurn inTurnDone
      generalize one id board = answer at element ⊢
      obtain ⟨after, reply⟩ := answer
      rcases element with ⟨done, erased⟩ | ⟨failed, same⟩
      · subst done
        have later := ih after
        rw [erased] at later
        exact .next (.removed id) later
      · cases reply with
        | done value => exact absurd rfl failed
        | refused error => exact same ▸ .refl (side board)
        | blocked => exact same ▸ .refl (side board)

end Board

theorem Change.edits (change : Change) (board : Board) :
    Table.Edits board.things (change.thingEntries board) (change.run board).1.things ∧
      Table.Edits board.channels (change.channelEntries board) (change.run board).1.channels := by
  have still {after : Board} (same : after.tables = board.tables) :
      Table.Edits board.things [] after.things ∧ Table.Edits board.channels [] after.channels := by
    have things := Board.things_of_tables same
    have channels := Board.channels_of_tables same
    exact ⟨things ▸ .refl board.things, channels ▸ .refl board.channels⟩
  cases change with
  | saveThings batch =>
      simp only [thingEntries, channelEntries, run, Board.saveThings]
      by_cases free : Board.keysFree board.things batch = true
      · rw [if_pos free]
        cases inserted : board.things.insertBatch batch with
        | error error => exact still rfl
        | ok stored => exact ⟨.single (.stored batch stored.1 stored.2 inserted), .refl _⟩
      · rw [if_neg free]
        exact still rfl
  | updateThing thing =>
      simp only [thingEntries, channelEntries, run, withoutResult, Board.updateThing]
      cases replaced : board.things.replace thing with
      | error error => exact still rfl
      | ok table => exact ⟨.single (.replaced thing replaced), .refl _⟩
  | updateKey id key =>
      simp only [thingEntries, channelEntries, run, withoutResult, Board.updateKey]
      split
      · exact still rfl
      · split
        · have changed : Table.Edit board.things [] (board.things.modify id fun thing =>
              { thing with key := key }) := .changed id _ fun _ same => same
          exact ⟨.single changed, .refl _⟩
        · exact still rfl
  | removeThings ids =>
      constructor
      · exact Board.inTurn_removals _ _ Board.removeThing_takesOut ids board
      · have same := Board.inTurn_keeps Board.channels _ Board.removeThing_channels ids board
        exact same ▸ .refl board.channels
  | saveChannels batch =>
      simp only [thingEntries, channelEntries, run, Board.saveChannels]
      cases inserted : board.channels.insertBatch batch with
      | error error => exact still rfl
      | ok stored => exact ⟨.refl _, .single (.stored batch stored.1 stored.2 inserted)⟩
  | updateChannel channel =>
      simp only [thingEntries, channelEntries, run, withoutResult, Board.updateChannel]
      cases replaced : board.channels.replace channel with
      | error error => exact still rfl
      | ok table => exact ⟨.refl _, .single (.replaced channel replaced)⟩
  | removeChannels ids =>
      constructor
      · have same := Board.inTurn_keeps Board.things _ Board.removeChannel_things ids board
        exact same ▸ .refl board.things
      · exact Board.inTurn_removals _ _ Board.removeChannel_takesOut ids board
  | connect channel things =>
      simp only [thingEntries, channelEntries, run, withoutResult, Board.connect]
      split
      · apply still
        exact Board.inTurn_keeps Board.tables _ (Board.connectThing_tables channel) things board
      · exact still rfl
  | disconnect channel things =>
      apply still
      exact Board.inTurn_keeps Board.tables _ (Board.disconnectThing_tables channel) things board

theorem Chronicle.step_tables (chronicle : Chronicle) (step : Step)
    (other : ∀ change, step ≠ .change change) :
    (chronicle.step step).board.tables = chronicle.board.tables := by
  cases step with
  | change change => exact absurd rfl (other change)
  | flush ticket =>
      simp only [Chronicle.step, Board.flush]
      cases chronicle.board.bridge.send (.barrier ticket) with
      | taken bridge => rfl
      | full => rfl
      | closed => rfl
  | consume =>
      obtain ⟨roster, tally, taken⟩ := chronicle.board.consume_frame
      simp only [Chronicle.step, taken]
      rfl
  | sealOff => rfl

structure Register where
  board : Board
  things : List Entry := []
  channels : List Entry := []

namespace Register

def step (register : Register) (step : Step) : Register :=
  let board := (Chronicle.step ⟨register.board, []⟩ step).board
  match step with
  | .change change =>
    ⟨board, register.things ++ change.thingEntries register.board,
      register.channels ++ change.channelEntries register.board⟩
  | _ => { register with board := board }

def ofSteps (capacity : Nat) (steps : List Step) : Register :=
  steps.foldl step { board := .ofCapacity capacity }

theorem ofSteps_board (capacity : Nat) (steps : List Step) :
    (ofSteps capacity steps).board = (Chronicle.ofSteps capacity steps).board := by
  suffices played : ∀ (register : Register) (chronicle : Chronicle),
      register.board = chronicle.board →
        (steps.foldl step register).board = (Chronicle.play steps chronicle).board from
    played _ _ rfl
  induction steps with
  | nil => exact fun _ _ same => same
  | cons next rest ih =>
      intro register chronicle same
      apply ih
      obtain ⟨board, log⟩ := chronicle
      cases same
      cases next <;> rfl

theorem ofSteps_keeps (Kept : Register → Prop) (capacity : Nat) (steps : List Step)
    (start : Kept { board := .ofCapacity capacity })
    (change : ∀ register change, .change change ∈ steps → Kept register →
      Kept (register.step (.change change)))
    (aside : ∀ (register : Register) board, board.tables = register.board.tables →
      Kept register → Kept { register with board := board }) :
    Kept (ofSteps capacity steps) := by
  induction steps using List.reverseRecOn with
  | nil => exact start
  | append_singleton steps next ih =>
      rw [ofSteps, List.foldl_append]
      have before : Kept (ofSteps capacity steps) :=
        ih fun register one member => change register one (List.mem_append_left _ member)
      cases next with
      | change one => exact change _ one (List.mem_append_right _ List.mem_cons_self) before
      | flush ticket => exact aside _ _ (Chronicle.step_tables _ (.flush ticket) nofun) before
      | consume => exact aside _ _ (Chronicle.step_tables _ .consume nofun) before
      | sealOff => exact aside _ _ (Chronicle.step_tables _ .sealOff nofun) before

/-- Both tables enumerate what their logs say. -/
def Faithful (register : Register) : Prop :=
  Table.Enumerates register.things register.board.things ∧
    Table.Enumerates register.channels register.board.channels

theorem ofSteps_faithful (capacity : Nat) (steps : List Step) :
    (ofSteps capacity steps).Faithful := by
  apply ofSteps_keeps Faithful capacity steps
  · exact ⟨.empty, .empty⟩
  · rintro register change _ ⟨things, channels⟩
    have edits := change.edits register.board
    exact ⟨.edits edits.1 things, .edits edits.2 channels⟩
  · rintro register board same ⟨things, channels⟩
    exact ⟨Board.things_of_tables same ▸ things, Board.channels_of_tables same ▸ channels⟩

/-- Only events and removals of things write the rows of the thing side, and both keep them proper. -/
theorem ofSteps_proper (capacity : Nat) (steps : List Step) :
    (ofSteps capacity steps).board.roster.Proper := by
  rw [ofSteps_board]
  apply Chronicle.ofSteps_keeps fun _ board => board.roster.Proper
  · exact fun _ => Roster.proper_empty
  · intro log news before after own proper outcome
    cases outcome with
    | deed deed =>
        cases deed with
        | kept => exact proper
        | removed id stored => exact proper.withdraw (fun _ => true) id
        | emitted => exact proper
    | barred => exact proper
    | sealed => exact proper
    | applied event => exact proper.apply event
    | passed => exact proper

theorem ofSteps_sets (capacity : Nat) (steps : List Step) :
    (ofSteps capacity steps).board.roster.Sets :=
  (ofSteps_proper capacity steps).sets

theorem ofSteps_channel_tiles (capacity : Nat) (steps : List Step) (channel : String) :
    Tiles ((ofSteps capacity steps).board.thingsByChannel channel)
      (ofSteps capacity steps).board.things.records fun thing =>
        (ofSteps capacity steps).board.roster.holds channel thing.id = true := by
  have things := (ofSteps_faithful capacity steps).1
  have row := (ofSteps_sets capacity steps).things channel
  apply (Board.thingsByChannel_shows _ channel).tiles
  · exact Board.connectedThings_distinct _ things.own channel row
  · exact Board.mem_connectedThings _ things.own things.distinct channel

/-- After every history the things and the channels are in the order of their logs, and so is what
is read of them. -/
theorem tables_in_order (capacity : Nat) (steps : List Step) :
    InOrder (ofSteps capacity steps).things (ofSteps capacity steps).board.things
      (ofSteps capacity steps).board.thingById (ofSteps capacity steps).board.thingsByPlace ∧
    InOrder (ofSteps capacity steps).channels (ofSteps capacity steps).board.channels
      (ofSteps capacity steps).board.channelById (ofSteps capacity steps).board.channelsByPlace :=
  have faithful := ofSteps_faithful capacity steps
  ⟨faithful.1.inOrder, faithful.2.inOrder⟩

end Register
end Switchboard
