import Switchboard.Proofs.Attendance
import Switchboard.Proofs.Ledger

/-!
A board and its ledger over whole runs. The bridge stays open and the consumer works at any pace; an
operation that finds the bridge full waits, so none is given up. Every operation is answered as the
ledger says and leaves the board as the ledger says, and so does every run of them.
-/
namespace Switchboard

section Batches
variable {one : String → Board → Board × Reply Unit}
  {entry : String → Ledger → Ledger × Except Error Unit}

-- By the elements, each met after its share of parcels, which the ledger does not notice.
theorem inPace_mirrors (mirrors : Mirrors (Board.patiently one) entry) (pace : List Nat)
    (ids : List String) (board : Board) (ledger : Ledger) (ready : board.Ready)
    (reflects : Reflects ledger board) :
    (Board.inPace one pace ids board).2 = .of (Ledger.inTurn entry ids ledger).2 ∧
      (Board.inPace one pace ids board).1.Ready ∧
      Reflects (Ledger.inTurn entry ids ledger).1 (Board.inPace one pace ids board).1 := by
  induction ids generalizing pace board ledger with
  | nil =>
      unfold Board.inPace Ledger.inTurn
      exact ⟨rfl, ready, reflects⟩
  | cons id rest ih =>
      have element := mirrors id (board.consumeMany (pace.headD 0)) ledger
        (ready.consumeMany _) (reflects.consumeMany _)
      unfold Board.inPace Ledger.inTurn
      generalize Board.patiently one id (board.consumeMany (pace.headD 0)) = answer at element ⊢
      generalize entry id ledger = entered at element ⊢
      obtain ⟨after, reply⟩ := answer
      obtain ⟨known, result⟩ := entered
      obtain ⟨same, stillReady, stillReflects⟩ := element
      cases result with
      | ok value =>
          cases same
          exact ih pace.tail after known stillReady stillReflects
      | error error =>
          cases same
          exact ⟨rfl, stillReady, stillReflects⟩

theorem inTurn_mirrors (mirrors : Mirrors one entry) (ids : List String) (board : Board)
    (ledger : Ledger) (ready : board.Ready) (reflects : Reflects ledger board) :
    (Board.inTurn one ids board).2 = .of (Ledger.inTurn entry ids ledger).2 ∧
      (Board.inTurn one ids board).1.Ready ∧
      Reflects (Ledger.inTurn entry ids ledger).1 (Board.inTurn one ids board).1 := by
  induction ids generalizing board ledger with
  | nil => exact ⟨rfl, ready, reflects⟩
  | cons id rest ih =>
      have element := mirrors id board ledger ready reflects
      unfold Board.inTurn Ledger.inTurn
      generalize one id board = answer at element ⊢
      generalize entry id ledger = entered at element ⊢
      obtain ⟨after, reply⟩ := answer
      obtain ⟨known, result⟩ := entered
      obtain ⟨same, stillReady, stillReflects⟩ := element
      cases result with
      | ok value =>
          cases same
          exact ih after known stillReady stillReflects
      | error error =>
          cases same
          exact ⟨rfl, stillReady, stillReflects⟩

end Batches

/-- A change was answered as the ledger answers it, and left the board as the ledger is after it. -/
structure Entered (change : Change) (ledger : Ledger) (answer : Board × Reply Saved) : Prop where
  known : ∀ result ∈ (ledger.enter change answer.2).2,
    answer.2 = (Reply.of result).map fun _ => .nothing
  unblocked : answer.2 ≠ .blocked
  ready : answer.1.Ready
  reflects : Reflects (ledger.enter change answer.2).1 answer.1

section Changes
variable {ledger : Ledger} {board : Board}

theorem stored_entered (change : Change) (saved : Saved) (things : Table Thing)
    (channels : Table Channel) (ready : board.Ready) (reflects : Reflects ledger board)
    (own : things.Own) (placed : (ledger.enter change (.done saved)).1.placed = ledger.placed)
    (thingsKnown : (ledger.enter change (.done saved)).1.things = things.ids.toFinset)
    (channelsKnown : (ledger.enter change (.done saved)).1.channels = channels.ids.toFinset)
    (known : ∀ result ∈ (ledger.enter change (.done saved)).2,
      .done saved = (Reply.of result).map fun _ => .nothing) :
    Entered change ledger ({ board with things := things, channels := channels }, .done saved) where
  known := known
  unblocked := by simp
  ready := ⟨ready.unsealed, ready.roomy, ready.fits, own⟩
  reflects := by
    refine .of_links channelsKnown thingsKnown reflects.tidy fun channel thing => ?_
    rw [placed]
    exact reflects.linked channel thing

theorem refused_entered (change : Change) (error : Error) (tally : Tally) (ready : board.Ready)
    (reflects : Reflects ledger board)
    (same : (ledger.enter change (.refused error)).1 = ledger)
    (known : ∀ result ∈ (ledger.enter change (.refused error)).2, result = .error error) :
    Entered change ledger ({ board with tally := tally }, .refused error) where
  known := by
    intro result entered
    rw [known result entered]
    rfl
  unblocked := by simp
  ready := ⟨ready.unsealed, ready.roomy, ready.fits, ready.own⟩
  reflects := by
    rw [same]
    exact .of_links reflects.channels reflects.things reflects.tidy reflects.linked

theorem learns_nothing (known : Finset String) (error : Error) :
    known ∪ (Reply.refused error : Reply Saved).ids = known := Finset.union_empty known

theorem saveThings_entered (batch : List Thing) (ready : board.Ready)
    (reflects : Reflects ledger board) :
    Entered (.saveThings batch) ledger ((Change.saveThings batch).run board) := by
  have rejected (error : Error) : Entered (.saveThings batch) ledger
      (board.rejectBatch, .refused error) :=
    refused_entered _ error board.tally.reject ready reflects
      (by simp only [Ledger.enter, learns_nothing]) (by simp [Ledger.enter])
  simp only [Change.run, Board.saveThings]
  by_cases free : Board.keysFree board.things batch = true
  · rw [if_pos free]
    cases inserted : board.things.insertBatch batch with
    | error error => exact rejected error
    | ok stored =>
        refine stored_entered _ (.things stored.1) stored.2 board.channels ready reflects
          (ready.own.insertBatch _ _ _ inserted) rfl ?_ reflects.channels
          (by simp [Ledger.enter])
        rw [Table.insertBatch_ids _ _ _ _ inserted, List.toFinset_append, ← reflects.things]
        rfl
  · rw [if_neg free]
    exact rejected .conflict

theorem saveChannels_entered (batch : List Channel) (ready : board.Ready)
    (reflects : Reflects ledger board) :
    Entered (.saveChannels batch) ledger ((Change.saveChannels batch).run board) := by
  simp only [Change.run, Board.saveChannels]
  cases inserted : board.channels.insertBatch batch with
  | error error =>
      exact refused_entered _ error board.tally.reject ready reflects
        (by simp only [Ledger.enter, learns_nothing]) (by simp [Ledger.enter])
  | ok stored =>
      refine stored_entered _ (.channels stored.1) board.things stored.2 ready reflects
        ready.own rfl reflects.things ?_ (by simp [Ledger.enter])
      rw [Table.insertBatch_ids _ _ _ _ inserted, List.toFinset_append, ← reflects.channels]
      rfl

theorem updateThing_entered (thing : Thing) (ready : board.Ready)
    (reflects : Reflects ledger board) :
    Entered (.updateThing thing) ledger ((Change.updateThing thing).run board) := by
  have known : thing.id ∈ ledger.things ↔ thing.id ∈ board.things.ids := by
    rw [reflects.things, List.mem_toFinset]
  simp only [Change.run, Board.updateThing]
  rcases Table.replace_eq board.things thing with ⟨stored, done⟩ | ⟨absent, failed⟩
  · rw [done]
    refine stored_entered _ .nothing _ board.channels ready reflects
      (ready.own.modify _ _ fun _ _ => rfl) rfl ?_ reflects.channels ?_
    · rw [Table.ids_modify]
      exact reflects.things
    · simp only [Ledger.enter, if_pos (known.mpr stored), Option.mem_def, Option.some.injEq]
      rintro _ rfl
      rfl
  · rw [failed]
    refine refused_entered _ .notFound board.tally ready reflects rfl ?_
    simp only [Ledger.enter, if_neg (fun held => absent (known.mp held)), Option.mem_def,
      Option.some.injEq]
    exact fun _ same => same.symm

theorem updateChannel_entered (channel : Channel) (ready : board.Ready)
    (reflects : Reflects ledger board) :
    Entered (.updateChannel channel) ledger ((Change.updateChannel channel).run board) := by
  have known : channel.id ∈ ledger.channels ↔ channel.id ∈ board.channels.ids := by
    rw [reflects.channels, List.mem_toFinset]
  simp only [Change.run, Board.updateChannel]
  rcases Table.replace_eq board.channels channel with ⟨stored, done⟩ | ⟨absent, failed⟩
  · rw [done]
    refine stored_entered _ .nothing board.things _ ready reflects ready.own rfl
      reflects.things ?_ ?_
    · rw [Table.ids_modify]
      exact reflects.channels
    · simp only [Ledger.enter, if_pos (known.mpr stored), Option.mem_def, Option.some.injEq]
      rintro _ rfl
      rfl
  · rw [failed]
    refine refused_entered _ .notFound board.tally ready reflects rfl ?_
    simp only [Ledger.enter, if_neg (fun held => absent (known.mp held)), Option.mem_def,
      Option.some.injEq]
    exact fun _ same => same.symm

theorem updateKey_entered (id key : String) (ready : board.Ready)
    (reflects : Reflects ledger board) :
    Entered (.updateKey id key) ledger ((Change.updateKey id key).run board) := by
  have refused (error : Error) : Entered (.updateKey id key) ledger (board, .refused error) :=
    refused_entered _ error board.tally ready reflects rfl
      (by simp [Ledger.enter])
  simp only [Change.run, Board.updateKey]
  split
  next => exact refused .conflict
  next =>
    split
    next =>
      refine stored_entered _ .nothing
        (board.things.modify id fun thing => { thing with key := key }) board.channels ready
        reflects (ready.own.modify _ _ fun _ same => same) rfl ?_ reflects.channels
        (by simp [Ledger.enter])
      rw [Table.ids_modify]
      exact reflects.things
    next => exact refused .notFound

theorem batch_entered (change : Change) (ran : Board × Reply Unit)
    (entered : Ledger × Except Error Unit)
    (enters : ∀ reply, ledger.enter change reply = (entered.1, some entered.2))
    (mirrored : ran.2 = .of entered.2 ∧ ran.1.Ready ∧ Reflects entered.1 ran.1) :
    Entered change ledger (Change.withoutResult ran) := by
  obtain ⟨same, ready, reflects⟩ := mirrored
  constructor
  case known =>
    rw [enters]
    rintro result known
    rw [← Option.some.inj known]
    exact congrArg (Reply.map fun _ => Saved.nothing) same
  case unblocked =>
    rw [Change.withoutResult, same]
    cases entered.2 <;> simp [Reply.of, Reply.map]
  case ready => exact ready
  case reflects =>
    rw [enters]
    exact reflects

theorem connect_entered (channel : String) (things : List String) (pace : List Nat)
    (ready : board.Ready) (reflects : Reflects ledger board) :
    Entered (.connect channel things) ledger
      ((Change.connect channel things).runPaced pace board) := by
  have known : channel ∈ ledger.channels ↔ channel ∈ board.channels.ids := by
    rw [reflects.channels, List.mem_toFinset]
  simp only [Change.runPaced, Table.contains_iff]
  -- Where the channel is not stored no element is reached, so an empty batch is refused as well.
  by_cases stored : channel ∈ board.channels.ids
  · rw [if_pos stored]
    exact batch_entered _ _ (Ledger.inTurn (Ledger.connect channel) things ledger)
      (fun _ => if_pos (known.mpr stored))
      (inPace_mirrors (connectThing_mirrors channel) pace things board ledger ready reflects)
  · rw [if_neg stored]
    have enters : ∀ reply : Reply Saved, ledger.enter (.connect channel things) reply =
        (ledger, some (.error .notFound)) := fun _ => if_neg fun held => stored (known.mp held)
    refine refused_entered _ .notFound board.tally ready reflects ?_ ?_
    · rw [enters]
    · rw [enters]
      exact fun _ same => (Option.some.inj same).symm

theorem runPaced_entered (change : Change) (pace : List Nat) (ready : board.Ready)
    (reflects : Reflects ledger board) : Entered change ledger (change.runPaced pace board) := by
  cases change with
  | saveThings batch => exact saveThings_entered batch ready reflects
  | updateThing thing => exact updateThing_entered thing ready reflects
  | updateKey id key => exact updateKey_entered id key ready reflects
  | removeThings ids =>
      exact batch_entered _ _ _ (fun _ => rfl)
        (inTurn_mirrors removeThing_mirrors ids board ledger ready reflects)
  | saveChannels batch => exact saveChannels_entered batch ready reflects
  | updateChannel channel => exact updateChannel_entered channel ready reflects
  | removeChannels ids =>
      exact batch_entered _ _ _ (fun _ => rfl)
        (inPace_mirrors removeChannel_mirrors pace ids board ledger ready reflects)
  | connect channel things => exact connect_entered channel things pace ready reflects
  | disconnect channel things =>
      exact batch_entered _ _ _ (fun _ => rfl)
        (inPace_mirrors (disconnectThing_mirrors channel) pace things board ledger ready reflects)

theorem runAttended_entered (change : Change) (ready : board.Ready)
    (reflects : Reflects ledger board) : Entered change ledger (change.runAttended board) := by
  obtain ⟨pace, same⟩ := change.runAttended_paced board ready
  have entered := runPaced_entered change pace ready reflects
  rw [same]
  -- What is left on the bridge afterwards is taken too, and the ledger knows nothing of it.
  refine ⟨entered.known, entered.unblocked, entered.ready.settle, ?_⟩
  rw [← Board.consumeMany_settle _ _ le_rfl]
  exact entered.reflects.consumeMany _

end Changes

inductive Turn where
  | change (change : Change) (pace : List Nat)
  | flush (ticket : Nat)
  | consume

structure Audit where
  board : Board
  ledger : Ledger := {}

namespace Audit

def turn (audit : Audit) : Turn → Audit
  | .change change pace =>
    let answer := change.runPaced pace audit.board
    ⟨answer.1, (audit.ledger.enter change answer.2).1⟩
  | .flush ticket => { audit with board := (audit.board.flush ticket).1 }
  | .consume => { audit with board := audit.board.consume }

def ofTurns (capacity : Nat) (turns : List Turn) : Audit :=
  turns.foldl turn { board := .ofCapacity capacity }

theorem turn_reflects (audit : Audit) (next : Turn) (ready : audit.board.Ready)
    (reflects : Reflects audit.ledger audit.board) :
    (audit.turn next).board.Ready ∧ Reflects (audit.turn next).ledger (audit.turn next).board := by
  cases next with
  | change change pace =>
      have entered := runPaced_entered change pace ready reflects
      exact ⟨entered.ready, entered.reflects⟩
  | flush ticket =>
      exact ⟨ready.flush ticket, reflects.flush ticket⟩
  | consume => exact ⟨ready.consumeMany 1, reflects.consumeMany 1⟩

theorem ofTurns_reflects (capacity : Nat) (turns : List Turn) :
    (ofTurns capacity turns).board.Ready ∧
      Reflects (ofTurns capacity turns).ledger (ofTurns capacity turns).board := by
  suffices played : ∀ audit : Audit, audit.board.Ready → Reflects audit.ledger audit.board →
      (turns.foldl turn audit).board.Ready ∧
        Reflects (turns.foldl turn audit).ledger (turns.foldl turn audit).board by
    exact played _ (Board.ready_ofCapacity capacity) (.empty capacity)
  induction turns with
  | nil => exact fun _ ready reflects => ⟨ready, reflects⟩
  | cons next rest ih =>
      intro audit ready reflects
      obtain ⟨stillReady, stillReflects⟩ := audit.turn_reflects next ready reflects
      exact ih (audit.turn next) stillReady stillReflects

/-- After every run the board holds what the ledger says, and whatever change comes next is answered
as the ledger answers it. -/
theorem ledger_agrees (capacity : Nat) (turns : List Turn) :
    Reflects (ofTurns capacity turns).ledger (ofTurns capacity turns).board ∧
    ∀ change,
      (∀ pace, Entered change (ofTurns capacity turns).ledger
        (change.runPaced pace (ofTurns capacity turns).board)) ∧
      Entered change (ofTurns capacity turns).ledger
        (change.runAttended (ofTurns capacity turns).board) := by
  obtain ⟨ready, reflects⟩ := ofTurns_reflects capacity turns
  refine ⟨reflects, fun change => ⟨fun pace => ?_, ?_⟩⟩
  · exact runPaced_entered change pace ready reflects
  · exact runAttended_entered change ready reflects

def contested : List Turn :=
  [.change (.saveChannels [{ id := "c" }, { id := "d" }]) [],
    .change (.saveThings [{ id := "t", key := "k" }]) [], .change (.connect "c" ["t"]) []]

theorem ledger_agrees_contested :
    let audit := ofTurns 1 contested
    let answer := (Change.connect "d" ["t"]).runPaced [] audit.board
    .error .conflict ∈ (audit.ledger.enter (.connect "d" ["t"]) answer.2).2 ∧
      answer.2 = .refused .conflict := by
  intro audit answer
  have known : .error .conflict ∈ (audit.ledger.enter (.connect "d" ["t"]) answer.2).2 := by
    decide
  exact ⟨known, (((ledger_agrees 1 contested).2 (.connect "d" ["t"])).1 []).known _ known⟩

/-- A connect of no things is still refused where its channel is not stored. -/
theorem connect_nothing_refused :
    Reflects {} (Board.ofCapacity 1) ∧
      (Ledger.inTurn (Ledger.connect "c") [] {}).2 = .ok () ∧
      ((Change.connect "c" []).runPaced [] (.ofCapacity 1)).2 = .refused .notFound :=
  ⟨.empty 1, rfl, rfl⟩

end Audit
end Switchboard
