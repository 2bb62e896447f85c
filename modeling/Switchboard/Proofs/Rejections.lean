import Mathlib.Data.List.Induction
import Switchboard.Proofs.Pace

/-!
Batches that fail. A save counts its refusal, and a removal counts the element that it stops at, so
a call that fails is counted once however far it got. One refusal is not counted: a closed bridge
that turns a removal of channels away. The count of rejected batches is therefore the number of
failed calls less those, at whatever pace the consumer works, and no less while the bridge is open.
-/
namespace Switchboard

/-- How the consumer works while a change is carried out: not at all, at a pace of its own, or so
that the bridge is empty before every element of a batch and in the end. -/
inductive Manner where
  | unattended
  | paced (pace : List Nat)
  | attended

def Board.inManner (one : String → Board → Board × Reply Unit) (manner : Manner)
    (ids : List String) (board : Board) : Board × Reply Unit :=
  match manner with
  | .unattended => inTurn one ids board
  | .paced pace => inPace one pace ids board
  | .attended => inTurn (Change.settled one) ids board

namespace Change

def carryOut (change : Change) : Manner → Board → Board × Reply Saved
  | .unattended => change.run
  | .paced pace => change.runPaced pace
  | .attended => change.runAttended

def untilAnswer (change : Change) (manner : Manner) (board : Board) : Board × Reply Saved :=
  match change with
  | .removeChannels ids => withoutResult (Board.inManner Board.removeChannel manner ids board)
  | .connect channel things =>
    if board.channels.contains channel then
      withoutResult (Board.inManner (Board.connectThing channel) manner things board)
    else (board, .refused .notFound)
  | .disconnect channel things =>
    withoutResult (Board.inManner (Board.disconnectThing channel) manner things board)
  | other => other.run board

theorem carryOut_unattended (change : Change) (board : Board) :
    change.carryOut .unattended board = change.untilAnswer .unattended board := by
  cases change with
  | connect channel things =>
      simp only [carryOut, run, Board.connect, untilAnswer]
      split
      · rfl
      · rfl
  | _ => rfl

theorem carryOut_paced (change : Change) (pace : List Nat) (board : Board) :
    change.carryOut (.paced pace) board = change.untilAnswer (.paced pace) board := by
  cases change <;> rfl

theorem carryOut_attended (change : Change) (board : Board) :
    change.carryOut .attended board =
      ((change.untilAnswer .attended board).1.settle, (change.untilAnswer .attended board).2) := by
  cases change <;> rfl

def isBatch : Change → Bool
  | .saveThings _ => true
  | .removeThings _ => true
  | .saveChannels _ => true
  | .removeChannels _ => true
  | _ => false

def fee : Change → Error → Nat
  | .removeChannels _, error => if error = .bridgeClosed then 0 else 1
  | change, _ => if change.isBatch then 1 else 0

end Change

def failedBatch : Change × Reply Saved → Bool
  | (change, .refused _) => change.isBatch
  | _ => false

/-- A removal of channels that the closed bridge turned away. -/
def turnedAway : Change × Reply Saved → Bool
  | (.removeChannels _, .refused error) => error == .bridgeClosed
  | _ => false

def Reply.charge {α : Type} (fee : Error → Nat) : Reply α → Nat
  | .refused error => fee error
  | _ => 0

structure Quiet (before after : Board) : Prop where
  closed : after.bridge.closed = before.bridge.closed
  rejected : after.tally.rejected = before.tally.rejected

namespace Quiet
variable {before middle after : Board}

theorem refl (board : Board) : Quiet board board := ⟨rfl, rfl⟩

theorem trans (first : Quiet before middle) (second : Quiet middle after) : Quiet before after where
  closed := second.closed.trans first.closed
  rejected := second.rejected.trans first.rejected

theorem applyEvent (event : ConnectionEvent) (board : Board) :
    Quiet board (board.applyEvent event) := by
  refine ⟨rfl, ?_⟩
  simp only [Board.applyEvent, Tally.apply]
  split
  · rfl
  · rfl

theorem consume (board : Board) : Quiet board board.consume := by
  unfold Board.consume
  cases board.bridge.queue with
  | nil => exact refl board
  | cons parcel rest =>
      have taken : Quiet board { board with bridge := { board.bridge with queue := rest } } :=
        ⟨rfl, rfl⟩
      cases parcel with
      | event event => exact taken.trans (applyEvent event _)
      | barrier ticket => exact taken

theorem consumeMany (count : Nat) (board : Board) : Quiet board (board.consumeMany count) := by
  induction count generalizing board with
  | zero => exact refl board
  | succ count ih => exact (consume board).trans (ih board.consume)

theorem settle (board : Board) : Quiet board board.settle :=
  Board.consumeMany_settle _ board le_rfl ▸ consumeMany board.bridge.queue.length board

theorem flush (ticket : Nat) (board : Board) : Quiet board (board.flush ticket).1 := by
  rcases board.flush_board ticket with ⟨_, _, queued⟩ | same
  · rw [queued]
    exact ⟨rfl, rfl⟩
  · rw [same]
    exact refl board

end Quiet

/-- An answer adds its fee to the count, and blames the bridge only where it is closed. -/
structure Charged {α : Type} (fee : Error → Nat) (before : Board) (answer : Board × Reply α) :
    Prop where
  closed : answer.1.bridge.closed = before.bridge.closed
  barred : answer.2 = .refused .bridgeClosed → before.bridge.closed = true
  rejected : answer.1.tally.rejected = before.tally.rejected + answer.2.charge fee

namespace Charged
variable {α β : Type} {fee : Error → Nat} {before middle : Board} {answer : Board × Reply α}

theorem done {after : Board} (quiet : Quiet before after) (value : α) :
    Charged fee before (after, .done value) :=
  ⟨quiet.closed, by simp, quiet.rejected⟩

theorem blocked (board : Board) : Charged fee board (board, (.blocked : Reply α)) :=
  ⟨rfl, by simp, rfl⟩

theorem refused (board : Board) (error : Error) (free : fee error = 0)
    (blamed : error = .bridgeClosed → board.bridge.closed = true) :
    Charged fee board (board, (.refused error : Reply α)) := by
  refine ⟨rfl, fun same => blamed (Reply.refused.inj same), ?_⟩
  simp [Reply.charge, free]

theorem rejected_batch (board : Board) (error : Error) (once : fee error = 1)
    (blameless : error ≠ .bridgeClosed) :
    Charged fee board (board.rejectBatch, (.refused error : Reply α)) := by
  refine ⟨rfl, fun same => absurd (Reply.refused.inj same) blameless, ?_⟩
  simp [Reply.charge, once, Board.rejectBatch, Tally.reject]

theorem map (charged : Charged fee before answer) (f : α → β) :
    Charged fee before (answer.1, answer.2.map f) := by
  obtain ⟨after, reply⟩ := answer
  obtain ⟨closed, barred, rejected⟩ := charged
  cases reply with
  | done value => exact ⟨closed, by simp [Reply.map], rejected⟩
  | refused error => exact ⟨closed, fun same => barred (by cases same; rfl), rejected⟩
  | blocked => exact ⟨closed, by simp [Reply.map], rejected⟩

theorem after_quiet (charged : Charged fee middle answer) (quiet : Quiet before middle) :
    Charged fee before answer where
  closed := charged.closed.trans quiet.closed
  barred refusal := quiet.closed ▸ charged.barred refusal
  rejected := quiet.rejected ▸ charged.rejected

theorem then_quiet (charged : Charged fee before answer) {after : Board}
    (quiet : Quiet answer.1 after) : Charged fee before (after, answer.2) where
  closed := quiet.closed.trans charged.closed
  barred := charged.barred
  rejected := quiet.rejected.trans charged.rejected

theorem after_done {reached : Board} {value : β}
    (first : Charged fee before (reached, (.done value : Reply β)))
    (later : Charged fee reached answer) : Charged fee before answer :=
  later.after_quiet ⟨first.closed, first.rejected⟩

end Charged

namespace Board
variable {fee : Error → Nat}

theorem announce_charged (free : fee .bridgeClosed = 0) (event : ConnectionEvent)
    (record : Board → Board) (recorded : ∀ sent, Quiet sent (record sent)) (board : Board) :
    Charged fee board (announce event record board) := by
  unfold announce emit Bridge.send
  by_cases sealed : board.bridge.closed = true
  · rw [if_pos sealed]
    exact .refused board _ free fun _ => sealed
  · rw [if_neg sealed]
    by_cases room : board.bridge.hasRoom = true
    · rw [if_pos room]
      apply Charged.done
      exact ⟨(recorded _).closed, (recorded _).rejected⟩
    · rw [if_neg room]
      exact .blocked board

theorem removeThing_charged (once : fee .notFound = 1) (id : String) (board : Board) :
    Charged fee board (removeThing id board) := by
  rw [removeThing_eq]
  split
  · apply Charged.done
    exact ⟨rfl, rfl⟩
  · exact .rejected_batch board _ once (by simp)

theorem removeChannel_charged (once : fee .notFound = 1) (free : fee .bridgeClosed = 0)
    (id : String) (board : Board) : Charged fee board (removeChannel id board) := by
  unfold removeChannel
  split
  · apply announce_charged free
    exact fun _ => ⟨rfl, rfl⟩
  · exact .rejected_batch board _ once (by simp)

theorem connectThing_charged (free : ∀ error, fee error = 0) (channel thing : String)
    (board : Board) : Charged fee board (connectThing channel thing board) := by
  unfold connectThing thingById Table.retrieve
  cases board.things.get? thing with
  | none => exact .refused board _ (free _) (by simp)
  | some record =>
      dsimp only
      split
      · exact .refused board _ (free _) (by simp)
      · split
        · exact .refused board _ (free _) (by simp)
        · apply announce_charged (free _)
          exact fun _ => ⟨rfl, rfl⟩

theorem disconnectThing_charged (free : ∀ error, fee error = 0) (channel thing : String)
    (board : Board) : Charged fee board (disconnectThing channel thing board) := by
  unfold disconnectThing
  split
  · apply announce_charged (free _)
    exact fun _ => ⟨rfl, rfl⟩
  · exact .refused board _ (free _) (by simp)

/-! Batches, by their elements: the one that fails is the last. -/

variable {one : String → Board → Board × Reply Unit}

theorem inTurn_charged (each : ∀ id board, Charged fee board (one id board)) (ids : List String)
    (board : Board) : Charged fee board (inTurn one ids board) := by
  induction ids generalizing board with
  | nil => exact .done (.refl board) ()
  | cons id rest ih =>
      have first := each id board
      unfold inTurn
      generalize one id board = answer at first ⊢
      obtain ⟨after, reply⟩ := answer
      cases reply with
      | done value => exact first.after_done (ih after)
      | refused error => exact first
      | blocked => exact first

theorem patiently_charged (each : ∀ id board, Charged fee board (one id board)) (id : String)
    (board : Board) : Charged fee board (patiently one id board) := by
  have first := each id board
  unfold patiently
  generalize one id board = answer at first ⊢
  obtain ⟨after, reply⟩ := answer
  cases reply with
  | done value => exact first
  | refused error => exact first
  | blocked =>
      have waited : Quiet board after := ⟨first.closed, first.rejected⟩
      exact (each id after.consume).after_quiet (waited.trans (.consume after))

theorem inPace_charged (each : ∀ id board, Charged fee board (one id board)) (pace : List Nat)
    (ids : List String) (board : Board) : Charged fee board (inPace one pace ids board) := by
  induction ids generalizing pace board with
  | nil => exact .done (.refl board) ()
  | cons id rest ih =>
      have first := (patiently_charged each id (board.consumeMany (pace.headD 0))).after_quiet
        (.consumeMany _ board)
      unfold inPace
      generalize patiently one id (board.consumeMany (pace.headD 0)) = answer at first ⊢
      obtain ⟨after, reply⟩ := answer
      cases reply with
      | done value => exact first.after_done (ih pace.tail after)
      | refused error => exact first
      | blocked => exact first

theorem inManner_charged (each : ∀ id board, Charged fee board (one id board)) (manner : Manner)
    (ids : List String) (board : Board) : Charged fee board (inManner one manner ids board) := by
  cases manner with
  | unattended => exact inTurn_charged each ids board
  | paced pace => exact inPace_charged each pace ids board
  | attended =>
      apply inTurn_charged
      exact fun id board => (each id board.settle).after_quiet (.settle board)

theorem saveThings_charged (once : ∀ error, fee error = 1) (batch : List Thing) (board : Board) :
    Charged fee board (board.saveThings batch) := by
  unfold saveThings
  split
  · cases inserted : board.things.insertBatch batch with
    | ok stored =>
        apply Charged.done
        exact ⟨rfl, rfl⟩
    | error error =>
        have conflict := Table.insertBatch_conflict board.things batch error inserted
        exact .rejected_batch board error (once _) (by simp [conflict])
  · exact .rejected_batch board _ (once _) (by simp)

theorem saveChannels_charged (once : ∀ error, fee error = 1) (batch : List Channel)
    (board : Board) : Charged fee board (board.saveChannels batch) := by
  unfold saveChannels
  cases inserted : board.channels.insertBatch batch with
  | ok stored =>
      apply Charged.done
      exact ⟨rfl, rfl⟩
  | error error =>
      have conflict := Table.insertBatch_conflict board.channels batch error inserted
      exact .rejected_batch board error (once _) (by simp [conflict])

theorem updateThing_charged (free : ∀ error, fee error = 0) (thing : Thing) (board : Board) :
    Charged fee board (board.updateThing thing) := by
  unfold updateThing
  rcases Table.replace_eq board.things thing with ⟨_, done⟩ | ⟨_, failed⟩
  · rw [done]
    apply Charged.done
    exact ⟨rfl, rfl⟩
  · rw [failed]
    exact .refused board _ (free _) (by simp)

theorem updateKey_charged (free : ∀ error, fee error = 0) (id key : String) (board : Board) :
    Charged fee board (board.updateKey id key) := by
  unfold updateKey
  split
  · exact .refused board _ (free _) (by simp)
  · split
    · apply Charged.done
      exact ⟨rfl, rfl⟩
    · exact .refused board _ (free _) (by simp)

theorem updateChannel_charged (free : ∀ error, fee error = 0) (channel : Channel)
    (board : Board) : Charged fee board (board.updateChannel channel) := by
  unfold updateChannel
  rcases Table.replace_eq board.channels channel with ⟨_, done⟩ | ⟨_, failed⟩
  · rw [done]
    apply Charged.done
    exact ⟨rfl, rfl⟩
  · rw [failed]
    exact .refused board _ (free _) (by simp)

end Board

namespace Change

theorem untilAnswer_charged (change : Change) (manner : Manner) (board : Board) :
    Charged change.fee board (change.untilAnswer manner board) := by
  cases change with
  | saveThings batch => exact (Board.saveThings_charged (fun _ => rfl) batch board).map _
  | updateThing thing => exact (Board.updateThing_charged (fun _ => rfl) thing board).map _
  | updateKey id key => exact (Board.updateKey_charged (fun _ => rfl) id key board).map _
  | removeThings ids => exact (Board.inTurn_charged (Board.removeThing_charged rfl) ids board).map _
  | saveChannels batch => exact (Board.saveChannels_charged (fun _ => rfl) batch board).map _
  | updateChannel channel => exact (Board.updateChannel_charged (fun _ => rfl) channel board).map _
  | removeChannels ids =>
      exact (Board.inManner_charged (Board.removeChannel_charged rfl rfl) manner ids board).map _
  | connect channel things =>
      simp only [untilAnswer]
      split
      · exact (Board.inManner_charged (Board.connectThing_charged (fun _ => rfl) channel) manner
          things board).map _
      · exact .refused board _ rfl (by simp)
  | disconnect channel things =>
      exact (Board.inManner_charged (Board.disconnectThing_charged (fun _ => rfl) channel) manner
        things board).map _

theorem carryOut_charged (change : Change) (manner : Manner) (board : Board) :
    Charged change.fee board (change.carryOut manner board) := by
  have answered := change.untilAnswer_charged manner board
  cases manner with
  | unattended => exact change.carryOut_unattended board ▸ answered
  | paced pace => exact change.carryOut_paced pace board ▸ answered
  | attended => exact change.carryOut_attended board ▸ answered.then_quiet (.settle _)

theorem charge_eq (change : Change) (reply : Reply Saved) :
    reply.charge change.fee + (if turnedAway (change, reply) then 1 else 0) =
      if failedBatch (change, reply) then 1 else 0 := by
  cases reply with
  | done value => cases change <;> rfl
  | blocked => cases change <;> rfl
  | refused error =>
      cases change with
      | removeChannels ids =>
          by_cases closed : error = .bridgeClosed
          · simp [Reply.charge, fee, turnedAway, failedBatch, isBatch, closed]
          · simp [Reply.charge, fee, turnedAway, failedBatch, isBatch, closed]
      | _ => rfl

theorem turnedAway_closed (change : Change) (manner : Manner) (board : Board)
    (away : turnedAway (change, (change.carryOut manner board).2) = true) :
    board.bridge.closed = true := by
  apply (change.carryOut_charged manner board).barred
  generalize (change.carryOut manner board).2 = reply at away
  cases reply with
  | done value => cases change <;> cases away
  | blocked => cases change <;> cases away
  | refused error =>
      cases change with
      | removeChannels ids => exact congrArg _ (beq_iff_eq.mp away)
      | _ => cases away

end Change

inductive Errand where
  | call (change : Change) (manner : Manner)
  | flush (ticket : Nat)
  | consume
  | sealOff

structure Docket where
  board : Board
  answered : List (Change × Reply Saved) := []

namespace Docket

def attend (docket : Docket) : Errand → Docket
  | .call change manner =>
    let answer := change.carryOut manner docket.board
    ⟨answer.1, docket.answered ++ [(change, answer.2)]⟩
  | .flush ticket => { docket with board := (docket.board.flush ticket).1 }
  | .consume => { docket with board := docket.board.consume }
  | .sealOff =>
    { docket with board := { docket.board with bridge := docket.board.bridge.sealOff } }

def ofErrands (capacity : Nat) (errands : List Errand) : Docket :=
  errands.foldl attend { board := .ofCapacity capacity }

theorem ofErrands_append (capacity : Nat) (errands : List Errand) (next : Errand) :
    ofErrands capacity (errands ++ [next]) = (ofErrands capacity errands).attend next :=
  List.foldl_append

/-- What failed was counted or turned away, and an open bridge has turned nothing away. -/
structure Settled (docket : Docket) : Prop where
  counted : docket.board.tally.rejected + docket.answered.countP turnedAway =
    docket.answered.countP failedBatch
  welcome : docket.board.bridge.closed = false → docket.answered.countP turnedAway = 0

namespace Settled
variable {docket : Docket}

theorem quiet (settled : docket.Settled) (after : Board) (quiet : Quiet docket.board after) :
    Settled { docket with board := after } where
  counted := quiet.rejected ▸ settled.counted
  welcome unsealed := settled.welcome (quiet.closed ▸ unsealed)

theorem call (settled : docket.Settled) (change : Change) (manner : Manner) :
    (docket.attend (.call change manner)).Settled where
  counted := by
    have charged := (change.carryOut_charged manner docket.board).rejected
    have paid := change.charge_eq (change.carryOut manner docket.board).2
    have counted := settled.counted
    simp only [Docket.attend, List.countP_append, List.countP_singleton, charged]
    omega
  welcome := by
    intro unsealed
    have before : docket.board.bridge.closed = false :=
      (change.carryOut_charged manner docket.board).closed ▸ unsealed
    have stays : turnedAway (change, (change.carryOut manner docket.board).2) = false := by
      by_contra away
      have closed := change.turnedAway_closed manner docket.board (Bool.not_eq_false _ ▸ away)
      exact Bool.false_ne_true (before.symm.trans closed)
    simp [Docket.attend, settled.welcome before, stays]

theorem attend (settled : docket.Settled) (next : Errand) : (docket.attend next).Settled := by
  cases next with
  | call change manner => exact settled.call change manner
  | flush ticket => exact settled.quiet _ (.flush ticket docket.board)
  | consume => exact settled.quiet _ (.consume docket.board)
  | sealOff => exact ⟨settled.counted, fun unsealed => nomatch unsealed⟩

end Settled

theorem ofErrands_settled (capacity : Nat) (errands : List Errand) :
    (ofErrands capacity errands).Settled := by
  induction errands using List.reverseRecOn with
  | nil => exact ⟨rfl, fun _ => rfl⟩
  | append_singleton errands next ih =>
      rw [ofErrands_append]
      exact ih.attend next

theorem ofErrands_unsealed (capacity : Nat) (errands : List Errand)
    (never : Errand.sealOff ∉ errands) :
    (ofErrands capacity errands).board.bridge.closed = false := by
  induction errands using List.reverseRecOn with
  | nil => rfl
  | append_singleton errands next ih =>
      rw [ofErrands_append]
      have before := ih fun member => never (List.mem_append_left _ member)
      generalize ofErrands capacity errands = docket at before
      cases next with
      | call change manner =>
          exact (change.carryOut_charged manner docket.board).closed.trans before
      | flush ticket => exact (Quiet.flush ticket docket.board).closed.trans before
      | consume => exact (Quiet.consume docket.board).closed.trans before
      | sealOff => exact absurd (List.mem_append_right _ List.mem_cons_self) never

/-- The count of rejected batches is the number of saves and removals that failed, less the removals
of channels that a closed bridge turned away; as long as the bridge is not sealed there are none. -/
theorem rejections_counted (capacity : Nat) (errands : List Errand) :
    let docket := ofErrands capacity errands
    docket.board.tally.rejected + docket.answered.countP turnedAway =
        docket.answered.countP failedBatch ∧
      (Errand.sealOff ∉ errands →
        docket.board.tally.rejected = docket.answered.countP failedBatch) := by
  intro docket
  have settled : docket.Settled := ofErrands_settled capacity errands
  refine ⟨settled.counted, fun never => ?_⟩
  have none := settled.welcome (ofErrands_unsealed capacity errands never)
  rw [← settled.counted, none, Nat.add_zero]

def everyExit : List Errand :=
  [.call (.saveThings [{ id := "t", key := "k" }]) .unattended,
    .call (.saveThings [{ id := "u", key := "k" }]) .unattended,
    .call (.saveThings [{ id := "t", key := "l" }]) .unattended,
    .call (.removeThings ["t", "x"]) .unattended,
    .call (.saveChannels [{ id := "c" }]) .unattended,
    .call (.saveChannels [{ id := "c" }]) .unattended,
    .call (.removeChannels ["c", "x"]) (.paced [1])]

theorem rejections_counted_everyExit :
    Errand.sealOff ∉ everyExit ∧ (ofErrands 1 everyExit).answered.countP failedBatch = 5 ∧
      (ofErrands 1 everyExit).board.tally.rejected = 5 := by
  have never : Errand.sealOff ∉ everyExit := by simp [everyExit]
  have failed : (ofErrands 1 everyExit).answered.countP failedBatch = 5 := by decide
  exact ⟨never, failed, ((rejections_counted 1 everyExit).2 never).trans failed⟩

def lateRemoval : List Errand :=
  [.call (.saveChannels [{ id := "c" }]) .unattended, .sealOff,
    .call (.removeChannels ["c"]) .attended]

/-- The removal fails and is not counted. -/
theorem late_removal_uncounted :
    (ofErrands 1 lateRemoval).answered.countP failedBatch = 1 ∧
      (ofErrands 1 lateRemoval).board.tally.rejected = 0 := by decide

end Docket
end Switchboard
