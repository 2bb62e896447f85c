import Switchboard.Proofs.Pace

/-!
Operations at the paces that there are. An unattended operation that is not given up had no need to
wait, an attended one goes at full pace, and at any pace an operation is a history of single
elements and steps of the consumer. What holds after every history holds after waiting too.
-/
namespace Switchboard
namespace Board

theorem inPace_unhurried (one : String → Board → Board × Reply Unit) (ids : List String)
    (board : Board) (unblocked : (inTurn one ids board).2 ≠ .blocked) :
    inPace one [] ids board = inTurn one ids board := by
  induction ids generalizing board with
  | nil => rfl
  | cons id rest ih =>
      simp only [inTurn] at unblocked
      simp only [inPace, inTurn, patiently, List.headD_nil, consumeMany, List.tail_nil]
      -- The waiting and what follows it split on the same answer.
      generalize one id board = answer at unblocked ⊢
      obtain ⟨after, reply⟩ := answer
      cases reply with
      | done value => exact ih after unblocked
      | refused error => rfl
      | blocked => exact absurd rfl unblocked

/-- Whether an element is refused does not hang on the bridge. -/
def Decided (one : String → Board → Board × Reply Unit) : Prop :=
  ∀ id board, board.Ready →
    (∃ event, Offers one id board event) ∨ ∃ error, Refuses one id board error

theorem removeChannel_decided : Decided removeChannel := by
  intro id board _
  rcases board.removeChannel_cases id with ⟨_, offers⟩ | ⟨_, refuses⟩
  · exact Or.inl ⟨_, offers⟩
  · exact Or.inr ⟨_, refuses⟩

theorem disconnectThing_decided (channel : String) : Decided (disconnectThing channel) := by
  intro thing board _
  rcases board.disconnectThing_cases channel thing with ⟨_, offers⟩ | ⟨_, refuses⟩
  · exact Or.inl ⟨_, offers⟩
  · exact Or.inr ⟨_, refuses⟩

theorem connectThing_decided (channel : String) : Decided (connectThing channel) := by
  intro thing board ready
  rcases board.connectThing_cases channel thing ready.own with
    ⟨_, _, _, offers⟩ | ⟨_, refuses⟩ | ⟨_, _, _, refuses⟩
  · exact Or.inl ⟨_, offers⟩
  · exact Or.inr ⟨_, refuses⟩
  · exact Or.inr ⟨_, refuses⟩

-- By the elements; the bridge is emptied before each of them, so none has to wait.
theorem inPace_settled (one : String → Board → Board × Reply Unit)
    (decided : Decided one) (ids : List String) (board : Board) (ready : board.Ready) (count : Nat)
    (enough : board.bridge.capacity ≤ count) :
    inPace one (List.replicate ids.length count) ids board =
      inTurn (Change.settled one) ids board := by
  induction ids generalizing board with
  | nil => rfl
  | cons id rest ih =>
      have emptied : board.consumeMany count = board.settle :=
        consumeMany_settle count board (ready.fits.trans enough)
      unfold inPace inTurn Change.settled
      simp only [List.length_cons, List.replicate_succ, List.headD_cons, List.tail_cons, emptied]
      rcases decided id board ready with ⟨event, offers⟩ | ⟨error, refuses⟩
      · have offered := emptied ▸ offers count
        rcases ready.settle.offer event with ⟨_, taken, after⟩ | ⟨full, _⟩
        · have patient : patiently one id board.settle = (board.settle.accept event, .done ()) := by
            unfold patiently
            rw [offered, taken]
          rw [patient, offered, taken]
          exact ih _ after (by simpa [accept, settle_capacity] using enough)
        · exact absurd ready.hasRoom_settle (by simp [full])
      · obtain ⟨tally, refused⟩ := emptied ▸ refuses count
        have patient : patiently one id board.settle =
            ({ board.settle with tally := tally }, .refused error) := by
          unfold patiently
          rw [refused]
        rw [patient, refused]

end Board

namespace Change

theorem withoutResult_unblocked (answer : Board × Reply Unit)
    (unblocked : (withoutResult answer).2 ≠ .blocked) : answer.2 ≠ .blocked := by
  intro blocked
  exact unblocked (by rw [withoutResult, blocked]; rfl)

theorem run_paced (change : Change) (board : Board) (unblocked : (change.run board).2 ≠ .blocked) :
    change.runPaced [] board = change.run board := by
  cases change with
  | removeChannels ids =>
      exact congrArg withoutResult
        (Board.inPace_unhurried _ ids board (withoutResult_unblocked _ unblocked))
  | connect channel things =>
      simp only [run, Board.connect] at unblocked
      simp only [run, runPaced, Board.connect]
      split at unblocked
      next stored =>
        simp only [stored, ↓reduceIte]
        exact congrArg withoutResult
          (Board.inPace_unhurried _ things board (withoutResult_unblocked _ unblocked))
      next absent =>
        simp only [absent, Bool.false_eq_true, ↓reduceIte]
        rfl
  | disconnect channel things =>
      exact congrArg withoutResult
        (Board.inPace_unhurried _ things board (withoutResult_unblocked _ unblocked))
  | _ => rfl

theorem runAttended_paced (change : Change) (board : Board) (ready : board.Ready) :
    ∃ pace, change.runAttended board =
      ((change.runPaced pace board).1.settle, (change.runPaced pace board).2) := by
  cases change with
  | removeChannels ids =>
      refine ⟨List.replicate ids.length board.bridge.capacity, ?_⟩
      rw [runPaced, Board.inPace_settled _ Board.removeChannel_decided ids board ready _ le_rfl]
      rfl
  | connect channel things =>
      refine ⟨List.replicate things.length board.bridge.capacity, ?_⟩
      rw [runPaced,
        Board.inPace_settled _ (Board.connectThing_decided channel) things board ready _ le_rfl]
      rfl
  | disconnect channel things =>
      refine ⟨List.replicate things.length board.bridge.capacity, ?_⟩
      rw [runPaced,
        Board.inPace_settled _ (Board.disconnectThing_decided channel) things board ready _ le_rfl]
      rfl
  | _ => exact ⟨[], rfl⟩

end Change

namespace Chronicle

theorem play_append (steps later : List Step) (chronicle : Chronicle) :
    play (steps ++ later) chronicle = play later (play steps chronicle) :=
  List.foldl_append

/-- Some steps lead from one board to another, whatever was noticed before. -/
def Leads (before after : Board) : Prop :=
  ∃ steps, ∀ log, (play steps ⟨before, log⟩).board = after

theorem Leads.trans {before middle after : Board} (first : Leads before middle)
    (second : Leads middle after) : Leads before after := by
  obtain ⟨steps, reached⟩ := first
  obtain ⟨later, arrived⟩ := second
  refine ⟨steps ++ later, fun log => ?_⟩
  rw [play_append]
  have passed := arrived (play steps ⟨before, log⟩).log
  rwa [← reached log] at passed

theorem leads_consumeMany (count : Nat) (board : Board) :
    Leads board (board.consumeMany count) := by
  induction count generalizing board with
  | zero => exact ⟨[], fun _ => rfl⟩
  | succ count ih => exact Leads.trans ⟨[.consume], fun _ => rfl⟩ (ih board.consume)

theorem leads_change (change : Change) (board : Board) : Leads board (change.run board).1 :=
  ⟨[.change change], fun _ => rfl⟩

theorem leads_patiently (one : String → Board → Board × Reply Unit) (id : String)
    (each : ∀ board, Leads board (one id board).1) (board : Board) :
    Leads board (Board.patiently one id board).1 := by
  have first := each board
  unfold Board.patiently
  generalize one id board = answer at first ⊢
  obtain ⟨after, reply⟩ := answer
  cases reply with
  | done value => exact first
  | refused error => exact first
  | blocked => exact first.trans ((leads_consumeMany 1 after).trans (each after.consume))

theorem leads_inPace (one : String → Board → Board × Reply Unit)
    (each : ∀ id board, Leads board (one id board).1) (pace : List Nat) (ids : List String)
    (board : Board) : Leads board (Board.inPace one pace ids board).1 := by
  induction ids generalizing pace board with
  | nil =>
      unfold Board.inPace
      exact ⟨[], fun _ => rfl⟩
  | cons id rest ih =>
      have first := (leads_consumeMany (pace.headD 0) board).trans
        (leads_patiently one id (each id) (board.consumeMany (pace.headD 0)))
      unfold Board.inPace
      generalize Board.patiently one id (board.consumeMany (pace.headD 0)) = answer at first ⊢
      obtain ⟨after, reply⟩ := answer
      cases reply with
      | done value => exact first.trans (ih pace.tail after)
      | refused error => exact first
      | blocked => exact first

end Chronicle

theorem Board.inTurn_single (one : String → Board → Board × Reply Unit) (id : String)
    (board : Board) : (inTurn one [id] board).1 = (one id board).1 := by
  unfold inTurn
  generalize one id board = answer
  obtain ⟨after, reply⟩ := answer
  cases reply <;> rfl

-- An element asks for the channel itself, so the first look that a connect has at it is no loss.
theorem Board.leads_connectThing (channel thing : String) (board : Board) :
    Chronicle.Leads board (connectThing channel thing board).1 := by
  by_cases stored : board.channels.contains channel = true
  · have single := Chronicle.leads_change (.connect channel [thing]) board
    simp only [Change.run, Change.withoutResult, connect, stored, ↓reduceIte,
      inTurn_single] at single
    exact single
  · refine ⟨[], fun _ => ?_⟩
    unfold connectThing
    cases board.thingById thing with
    | error error => rfl
    | ok record => simp [stored, Chronicle.play]

theorem Change.leads_runPaced (change : Change) (pace : List Nat) (board : Board) :
    Chronicle.Leads board (change.runPaced pace board).1 := by
  cases change with
  | removeChannels ids =>
      refine Chronicle.leads_inPace _ (fun id board => ?_) pace ids board
      exact Board.inTurn_single Board.removeChannel id board ▸
        Chronicle.leads_change (.removeChannels [id]) board
  | connect channel things =>
      simp only [runPaced]
      split
      · exact Chronicle.leads_inPace _ (Board.leads_connectThing channel) pace things board
      · exact ⟨[], fun _ => rfl⟩
  | disconnect channel things =>
      refine Chronicle.leads_inPace _ (fun thing board => ?_) pace things board
      exact Board.inTurn_single (Board.disconnectThing channel) thing board ▸
        Chronicle.leads_change (.disconnect channel [thing]) board
  | _ => exact Chronicle.leads_change _ board

/-- A waiting operation after a history is the end of a longer one. -/
theorem Chronicle.ofSteps_runPaced (capacity : Nat) (steps : List Step) (change : Change)
    (pace : List Nat) : ∃ later, (ofSteps capacity (steps ++ later)).board =
      (change.runPaced pace (ofSteps capacity steps).board).1 := by
  obtain ⟨later, reached⟩ := change.leads_runPaced pace (ofSteps capacity steps).board
  refine ⟨later, ?_⟩
  rw [ofSteps, play_append]
  exact reached (ofSteps capacity steps).log

end Switchboard
