import Switchboard.Proofs.Attendance
import Switchboard.Proofs.FailFast

/-!
Boards that were shut down. Their bridge takes nothing more and has nothing left for the consumer,
so the connections stand still: a batch that needs the bridge ends at its first element, before
anything is recorded, with the error that an open board would have given or else with the closed
bridge. The channel side and the counts of events stay as they were at the shutdown for good, and
all that the thing side can lose is the links of things that are removed.
-/
namespace Switchboard
namespace Board
variable {board : Board}

structure Stopped (board : Board) : Prop where
  closed : board.bridge.closed = true
  drained : board.bridge.queue = []
  roomy : 0 < board.bridge.capacity
  own : board.things.Own

/-- The same board with a bridge that takes parcels. -/
def reopened (board : Board) : Board :=
  { board with bridge := { board.bridge with closed := false } }

@[simp] theorem reopened_things (board : Board) : board.reopened.things = board.things := rfl

@[simp] theorem reopened_channels (board : Board) : board.reopened.channels = board.channels := rfl

@[simp] theorem reopened_placement (board : Board) :
    board.reopened.placement = board.placement := rfl

theorem settle_drained (drained : board.bridge.queue = []) : board.settle = board :=
  (consumeMany_settle 0 board (by rw [drained]; rfl)).symm

theorem consume_drained (drained : board.bridge.queue = []) : board.consume = board := by
  unfold consume
  rw [drained]

theorem shutDown_stopped (board : Board) (roomy : 0 < board.bridge.capacity)
    (own : board.things.Own) : board.shutDown.Stopped := by
  have taken : board.shutDown = consumeMany board.bridge.queue.length
      { board with bridge := board.bridge.sealOff } := (consumeMany_settle _ _ le_rfl).symm
  constructor
  case closed => rw [taken, consumeMany_bridge]; rfl
  case drained => exact settle_queue _
  case roomy => rw [taken, consumeMany_bridge]; exact roomy
  case own => rw [taken, consumeMany_things]; exact own

/-- Nothing but the count of rejected batches moves. What an open board refuses is refused with the
same error, and what it takes is refused for the bridge. -/
structure Halts {α : Type} (board : Board) (answer opened : Board × Reply α) : Prop where
  still : board.Alike answer.1
  told : (∃ error, opened.2 = .refused error ∧ answer.2 = .refused error) ∨
    ∃ value, opened.2 = .done value ∧ answer.2 = .refused .bridgeClosed

namespace Halts
variable {α β : Type} {answer opened : Board × Reply α}

theorem refused {after other : Board} (error : Error) (still : board.Alike after) :
    Halts board (after, (.refused error : Reply α)) (other, .refused error) :=
  ⟨still, Or.inl ⟨error, rfl, rfl⟩⟩

theorem fails (halts : Halts board answer opened) : ∃ error, answer.2 = .refused error := by
  rcases halts.told with ⟨error, _, same⟩ | ⟨_, _, closed⟩
  · exact ⟨error, same⟩
  · exact ⟨.bridgeClosed, closed⟩

theorem map (halts : Halts board answer opened) (f : α → β) :
    Halts board (answer.1, answer.2.map f) (opened.1, opened.2.map f) where
  still := halts.still
  told := by
    rcases halts.told with ⟨error, refused, same⟩ | ⟨value, done, closed⟩
    · exact Or.inl ⟨error, congrArg (Reply.map f) refused, congrArg (Reply.map f) same⟩
    · exact Or.inr ⟨f value, congrArg (Reply.map f) done, congrArg (Reply.map f) closed⟩

-- The first element is refused, so the batch ends with it.
theorem inTurn {one : String → Board → Board × Reply Unit} {id : String}
    {opened : Board × Reply Unit} (halts : Halts board (one id board) opened)
    (rest : List String) : Halts board (Board.inTurn one (id :: rest) board) opened := by
  obtain ⟨error, failed⟩ := halts.fails
  unfold Board.inTurn
  generalize one id board = answer at halts failed ⊢
  obtain ⟨after, reply⟩ := answer
  cases failed
  exact halts

end Halts

/-- All that the channel side could let go is refused, and an open board takes it. -/
theorem Stopped.offer (stopped : board.Stopped) (event : ConnectionEvent) :
    Halts board (board.offer event) (board.reopened.offer event) := by
  have room : board.reopened.bridge.hasRoom = true := by
    simp [reopened, Bridge.hasRoom, stopped.drained, stopped.roomy]
  have refused : board.offer event = (board, .refused .bridgeClosed) := by
    rw [Board.offer, if_pos stopped.closed]
  have taken : board.reopened.offer event = (board.reopened.accept event, .done ()) := by
    rw [Board.offer, if_neg (by simp [reopened]), if_pos room]
  rw [refused, taken]
  exact ⟨.refl board, Or.inr ⟨(), rfl, rfl⟩⟩

end Board

namespace Batch
variable {board : Board}

def isTold : Batch → Bool
  | .removeThings => false
  | _ => true

theorem one_halts (batch : Batch) (told : batch.isTold = true) (id : String)
    (stopped : board.Stopped) :
    Board.Halts board (batch.one id board) (batch.one id board.reopened) := by
  cases batch with
  | connect channel =>
      rw [one, Board.connectThing_eq channel id board stopped.own,
        Board.connectThing_eq channel id board.reopened stopped.own]
      simp only [Board.reopened_things, Board.reopened_channels, Board.reopened_placement]
      cases board.things.get? id with
      | none => exact .refused _ (.refl board)
      | some record =>
          by_cases stored : channel ∈ board.channels.ids
          · by_cases placed : board.placement.isPlaced id = true
            · simp only [stored, placed, ↓reduceIte]
              exact .refused _ (.refl board)
            · simp only [stored, placed, ↓reduceIte]
              exact stopped.offer _
          · simp only [stored, ↓reduceIte]
            exact .refused _ (.refl board)
  | disconnect channel =>
      rw [one, Board.disconnectThing_eq, Board.disconnectThing_eq, Board.reopened_placement]
      split
      · exact stopped.offer _
      · exact .refused _ (.refl board)
  | removeChannels =>
      rw [one, Board.removeChannel_eq, Board.removeChannel_eq, Board.reopened_channels]
      split
      · exact stopped.offer _
      · exact .refused _ board.alike_rejectBatch
  | removeThings => cases told

theorem opens_reopened (batch : Batch) (board : Board) :
    batch.opens board.reopened = batch.opens board := by
  cases batch <;> rfl

theorem run_halts (batch : Batch) (told : batch.isTold = true) (id : String)
    (rest : List String) (stopped : board.Stopped) (opened : batch.opens board = true) :
    Board.Halts board ((batch.change (id :: rest)).run board)
      ((batch.change [id]).run board.reopened) := by
  rw [batch.run_open (id :: rest) board opened,
    batch.run_single id board.reopened ((batch.opens_reopened board).trans opened)]
  exact ((batch.one_halts told id stopped).inTurn rest).map _

/-- What a call comes to on a stopped board: for an unknown channel, for no identifiers, and for
some of them. -/
structure Idle (batch : Batch) (ids : List String) (board : Board) : Prop where
  still : board.Alike ((batch.change ids).run board).1
  unknown : ∀ channel, batch = .connect channel → channel ∉ board.channels.ids →
    ((batch.change ids).run board).2 = .refused .notFound
  empty : batch.opens board = true →
    (((batch.change ids).run board).2 = .done .nothing ↔ ids = [])
  halts : batch.opens board = true → ∀ id rest, ids = id :: rest →
    Board.Halts board ((batch.change ids).run board) ((batch.change [id]).run board.reopened)

theorem run_unknown (channel : String) (ids : List String) (board : Board)
    (absent : channel ∉ board.channels.ids) :
    (Change.connect channel ids).run board = (board, .refused .notFound) := by
  simp only [Change.run, Board.connect, (Table.contains_false_iff _ _).mpr absent]
  rfl

theorem idle (batch : Batch) (told : batch.isTold = true) (ids : List String)
    (stopped : board.Stopped) : batch.Idle ids board where
  still := by
    cases opened : batch.opens board with
    | false =>
        cases batch with
        | connect channel =>
            have absent := (Table.contains_false_iff board.channels channel).mp opened
            exact run_unknown channel ids board absent ▸ .refl board
        | _ => cases opened
    | true =>
        cases ids with
        | nil =>
            rw [batch.run_open [] board opened]
            exact .refl board
        | cons id rest => exact (batch.run_halts told id rest stopped opened).still
  unknown := by
    rintro channel rfl absent
    exact congrArg Prod.snd (run_unknown channel ids board absent)
  empty opened := by
    cases ids with
    | nil =>
        rw [batch.run_open [] board opened]
        exact ⟨fun _ => rfl, fun _ => rfl⟩
    | cons id rest =>
        obtain ⟨error, failed⟩ := (batch.run_halts told id rest stopped opened).fails
        simp [failed]
  halts := by
    rintro opened id rest rfl
    exact batch.run_halts told id rest stopped opened

end Batch

def Incident.removed? : Incident → Option String
  | .removed thing => some thing
  | _ => none

def removedThings (log : List Incident) : List String := log.filterMap Incident.removed?

@[simp] theorem removedThings_append (log news : List Incident) :
    removedThings (log ++ news) = removedThings log ++ removedThings news :=
  List.filterMap_append

@[simp] theorem removedThings_saved (fresh : List String) :
    removedThings (fresh.map .saved) = [] := by
  rw [removedThings, List.filterMap_map]
  exact List.filterMap_eq_nil_iff.mpr fun _ _ => rfl

theorem removedThings_removed (thing : String) : removedThings [.removed thing] = [thing] := rfl

theorem Roster.pairs_dropThing (roster : Roster) (thing : String) :
    (roster.dropThing thing).pairs = roster.pairs.filter fun pair => pair.2 != thing := by
  obtain ⟨rows⟩ := roster
  induction rows with
  | nil => rfl
  | cons row rest ih =>
      simp only [pairs, dropThing, withdraw, ↓reduceIte] at ih ⊢
      rw [List.map_cons, List.flatMap_cons, List.filter_append, ← ih, List.filter_map]
      -- A row that is emptied is dropped, and had no pairs left to lose.
      by_cases emptied : row.2.filter (· != thing) = []
      · simp [emptied, Function.comp_def]
      · simp [emptied, Function.comp_def]

def Board.counts (board : Board) : KindCounts × KindCounts :=
  (board.tally.emitted, board.tally.applied)

theorem Board.Alike.counts {a b : Board} (alike : a.Alike b) : b.counts = a.counts := by
  obtain ⟨count, rfl⟩ := alike
  rfl

/-- What is left of a stopped board after the incidents of a log. -/
structure Standing (start : Board) (log : List Incident) (board : Board) : Prop
    extends Board.Stopped board where
  placement : board.placement = start.placement
  pairs : board.roster.pairs =
    start.roster.pairs.filter fun pair => !(removedThings log).contains pair.2

namespace Standing
variable {start before after board : Board} {log news : List Incident}

theorem refl (stopped : start.Stopped) : Standing start [] start where
  toStopped := stopped
  placement := rfl
  pairs := (List.filter_eq_self.mpr fun _ _ => rfl).symm

-- Nothing can go onto the bridge or come off it, which leaves the tables and removals.
theorem outcome (standing : Standing start log before) (outcome : Outcome before news after) :
    Standing start (log ++ news) after := by
  cases outcome with
  | deed deed =>
      cases deed with
      | kept things channels tally fresh grown unused own spared =>
          refine { standing with own := own, pairs := ?_ }
          simpa using standing.pairs
      | removed id stored =>
          refine { standing with own := standing.own.erase id, pairs := ?_ }
          rw [Roster.pairs_dropThing, standing.pairs, List.filter_filter]
          apply List.filter_congr
          intro pair _
          rw [removedThings_append, List.contains_append, Bool.not_or, Bool.and_comm,
            removedThings_removed, List.contains_cons, List.contains_nil, Bool.or_false]
          rfl
      | emitted event allowed unsealed room =>
          cases standing.closed.symm.trans unsealed
  | barred ticket unsealed room => cases standing.closed.symm.trans unsealed
  | sealed => exact { standing with closed := rfl, pairs := by simpa using standing.pairs }
  | applied event rest first => cases standing.drained.symm.trans first
  | passed ticket rest first => cases standing.drained.symm.trans first

theorem passage (standing : Standing start log before)
    (passage : Passage Outcome before news after) : Standing start (log ++ news) after :=
  passage.keeps (Standing start) (fun _ standing outcome => standing.outcome outcome) standing.own
    log standing

end Standing

namespace Board.Stopped
variable {board : Board}

theorem run (stopped : board.Stopped) (change : Change) : (change.run board).1.Stopped :=
  ((Standing.refl stopped).passage ((change.run_passage board stopped.own).mono .deed)).toStopped

theorem run_counts (stopped : board.Stopped) (change : Change) :
    (change.run board).1.counts = board.counts := by
  cases change with
  | saveThings batch =>
      simp only [Change.run, Board.saveThings]
      split
      · cases board.things.insertBatch batch <;> rfl
      · rfl
  | updateThing thing =>
      simp only [Change.run, Change.withoutResult, Board.updateThing]
      cases board.things.replace thing <;> rfl
  | updateKey id key =>
      simp only [Change.run, Change.withoutResult, Board.updateKey]
      split
      · rfl
      · split <;> rfl
  | removeThings ids =>
      refine Board.inTurn_keeps Board.counts _ (fun id board => ?_) ids board
      rw [Board.removeThing_eq]
      split <;> rfl
  | saveChannels batch =>
      simp only [Change.run, Board.saveChannels]
      cases board.channels.insertBatch batch <;> rfl
  | updateChannel channel =>
      simp only [Change.run, Change.withoutResult, Board.updateChannel]
      cases board.channels.replace channel <;> rfl
  | removeChannels ids => exact (Batch.removeChannels.idle rfl ids stopped).still.counts
  | connect channel things =>
      exact ((Batch.connect channel).idle rfl things stopped).still.counts
  | disconnect channel things =>
      exact ((Batch.disconnect channel).idle rfl things stopped).still.counts

theorem step_counts {chronicle : Chronicle} (stopped : chronicle.board.Stopped) (step : Step) :
    (chronicle.step step).board.counts = chronicle.board.counts := by
  cases step with
  | change change => exact stopped.run_counts change
  | flush ticket =>
      rcases chronicle.board.flush_board ticket with ⟨unsealed, _⟩ | same
      · cases stopped.closed.symm.trans unsealed
      · exact congrArg counts same
  | consume => exact congrArg counts (consume_drained stopped.drained)
  | sealOff => rfl

theorem settled (stopped : board.Stopped) (batch : Batch) (told : batch.isTold = true)
    (ids : List String) :
    inTurn (Change.settled batch.one) ids board = inTurn batch.one ids board := by
  cases ids with
  | nil => rfl
  | cons id rest =>
      have same : Change.settled batch.one id board = batch.one id board :=
        congrArg (batch.one id) (settle_drained stopped.drained)
      have halts := batch.one_halts told id stopped
      obtain ⟨error, failed⟩ := halts.fails
      unfold inTurn
      rw [same]
      generalize batch.one id board = answer at failed ⊢
      obtain ⟨after, reply⟩ := answer
      cases failed
      rfl

theorem runAttended (stopped : board.Stopped) (change : Change) :
    change.runAttended board = change.run board := by
  have after : (change.run board).1.settle = (change.run board).1 :=
    settle_drained (stopped.run change).drained
  cases change with
  | removeChannels ids =>
      have same := stopped.settled .removeChannels rfl ids
      simp only [Batch.one] at same
      simp only [Change.runAttended, same]
      exact congrArg (·, _) after
  | connect channel things =>
      have same := stopped.settled (.connect channel) rfl things
      simp only [Batch.one] at same
      simp only [Change.run, Board.connect] at after ⊢
      simp only [Change.runAttended, same]
      split
      next stored =>
        rw [if_pos stored] at after
        exact congrArg (·, _) after
      next => exact congrArg (·, _) (settle_drained stopped.drained)
  | disconnect channel things =>
      have same := stopped.settled (.disconnect channel) rfl things
      simp only [Batch.one] at same
      simp only [Change.runAttended, same]
      exact congrArg (·, _) after
  | _ => exact congrArg (·, _) after

end Board.Stopped

namespace Chronicle

theorem play_standing (later : List Step) {start : Board} {chronicle : Chronicle}
    (standing : Standing start chronicle.log chronicle.board) :
    Standing start (play later chronicle).log (play later chronicle).board ∧
      (play later chronicle).board.counts = chronicle.board.counts := by
  induction later generalizing chronicle with
  | nil => exact ⟨standing, rfl⟩
  | cons step rest ih =>
      obtain ⟨news, logged, passage⟩ := chronicle.step_passage step standing.own
      have next := standing.passage passage
      rw [← logged] at next
      obtain ⟨stands, counts⟩ := ih next
      exact ⟨stands, counts.trans (standing.step_counts step)⟩

theorem ofSteps_roomy (capacity : Nat) (steps : List Step) :
    0 < (ofSteps capacity steps).board.bridge.capacity := by
  apply ofSteps_keeps fun _ board => 0 < board.bridge.capacity
  · exact fun capacity => (Board.ready_ofCapacity capacity).roomy
  · intro log news before after _ roomy outcome
    cases outcome with
    | deed deed => cases deed <;> exact roomy
    | barred => exact roomy
    | sealed => exact roomy
    | applied => exact roomy
    | passed => exact roomy

theorem ofSteps_own (capacity : Nat) (steps : List Step) :
    (ofSteps capacity steps).board.things.Own :=
  ofSteps_keeps (fun _ board => board.things.Own) (fun _ => Table.own_empty)
    (fun _ own outcome => outcome.own own) capacity steps

end Chronicle

/-- After a shutdown, whatever is done later, the channel side and the counts of events are those of
the shutdown, and the thing side is what it was then but for the pairs of removed things. A call
that needs the bridge moves nothing at all, whether the consumer is waited for or not. -/
theorem stopped_stands_still (capacity : Nat) (steps later : List Step) (batch : Batch)
    (told : batch.isTold = true) (ids : List String) :
    let start := (Chronicle.ofSteps capacity steps).board.shutDown
    let chronicle := Chronicle.play later ⟨start, []⟩
    Standing start chronicle.log chronicle.board ∧
      chronicle.board.counts = start.counts ∧ batch.Idle ids chronicle.board ∧
      ∀ change : Change, change.runAttended chronicle.board = change.run chronicle.board := by
  intro start chronicle
  have stopped : start.Stopped := Board.shutDown_stopped _ (Chronicle.ofSteps_roomy capacity steps)
    (Chronicle.ofSteps_own capacity steps)
  have stands : Standing start (Chronicle.mk start []).log (Chronicle.mk start []).board :=
    .refl stopped
  obtain ⟨standing, counts⟩ := Chronicle.play_standing later stands
  exact ⟨standing, counts, batch.idle told ids standing.toStopped,
    standing.toStopped.runAttended⟩

def wound : List Step :=
  [.change (.saveChannels [{ id := "c" }]),
    .change (.saveThings [{ id := "t", key := "k" }, { id := "u", key := "l" },
      { id := "v", key := "m" }]),
    .change (.connect "c" ["t", "u"])]

def unwound : List Step :=
  [.change (.removeThings ["t"]), .change (.connect "c" ["v"]), .change (.disconnect "c" ["u"])]

theorem stopped_stands_still_unwound :
    let start := (Chronicle.ofSteps 2 wound).board.shutDown
    let board := (Chronicle.play unwound ⟨start, []⟩).board
    (Batch.connect "c").isTold = true ∧ start.roster.pairs = [("c", "t"), ("c", "u")] ∧
      board.roster.pairs = [("c", "u")] ∧ board.placement = start.placement ∧
      board.counts = (⟨2, 0, 0⟩, ⟨2, 0, 0⟩) ∧
      ((Change.connect "c" ["v", "u"]).run board).2 = .refused .bridgeClosed ∧
      ((Change.connect "c" ["u", "v"]).run board).2 = .refused .conflict := by
  intro start board
  obtain ⟨standing, counts, free, _⟩ :=
    stopped_stands_still 2 wound unwound (.connect "c") rfl ["v", "u"]
  obtain ⟨_, _, taken, _⟩ :=
    stopped_stands_still 2 wound unwound (.connect "c") rfl ["u", "v"]
  have goesOn : ((Change.connect "c" ["v"]).run board.reopened).2 = .done .nothing := rfl
  have conflicts : ((Change.connect "c" ["u"]).run board.reopened).2 = .refused .conflict := rfl
  refine ⟨rfl, by decide, standing.pairs.trans (by decide), standing.placement,
    counts.trans rfl, ?_, ?_⟩
  · rcases (free.halts rfl "v" ["u"] rfl).told with ⟨error, refused, _⟩ | ⟨_, _, closed⟩
    · cases goesOn.symm.trans refused
    · exact closed
  · rcases (taken.halts rfl "u" ["v"] rfl).told with ⟨error, refused, same⟩ | ⟨_, done, _⟩
    · cases conflicts.symm.trans refused
      exact same
    · cases conflicts.symm.trans done

end Switchboard
