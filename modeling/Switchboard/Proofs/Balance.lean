import Switchboard.Proofs.Agreement
import Switchboard.Proofs.Convergence

/-!
The counts of events. They are kept at both ends of the bridge, by kind: one end counts what goes
on, the other what is applied, and what lies between is on the bridge. Three numbers of the channel
side move with them. A stored channel that goes leaves a removal behind; a connection comes with a
connect and goes with a disconnect, or with the removal of its channel, which is counted once
however many connections it takes along.
-/
namespace Switchboard

theorem KindCounts.ext_get {a b : KindCounts} (same : ∀ kind, a.get kind = b.get kind) : a = b := by
  cases a
  cases b
  congr 1
  · exact same .connect
  · exact same .disconnect
  · exact same .channelRemoved

def countKind (kind : EventKind) (events : List ConnectionEvent) : Nat :=
  events.countP fun event => decide (event.kind = kind)

theorem countKind_append (kind : EventKind) (events later : List ConnectionEvent) :
    countKind kind (events ++ later) = countKind kind events + countKind kind later :=
  List.countP_append

theorem countKind_cons (kind : EventKind) (event : ConnectionEvent)
    (events : List ConnectionEvent) :
    countKind kind (event :: events) =
      (if event.kind = kind then 1 else 0) + countKind kind events := by
  simp [countKind, List.countP_cons, Nat.add_comm]

theorem Board.Allows.counts {board : Board} {event : ConnectionEvent}
    (allowed : board.Allows event) : event.counts = true := by
  cases event with
  | void channel => exact allowed.elim
  | _ => rfl

namespace Board

theorem accept_pending (event : ConnectionEvent) (board : Board) :
    (board.accept event).bridge.pending = board.bridge.pending ++ [event] := by
  simp [accept, Bridge.pending, Parcel.event?]

theorem accept_emitted (event : ConnectionEvent) (board : Board) (kind : EventKind) :
    (board.accept event).tally.emitted.get kind =
      board.tally.emitted.get kind + if event.kind = kind then 1 else 0 :=
  KindCounts.get_bump board.tally.emitted event.kind kind

theorem accept_size (board : Board) (distinct : board.channels.ids.Nodup)
    (event : ConnectionEvent) (allowed : board.Allows event) :
    (board.accept event).channels.size + (if event.kind = .channelRemoved then 1 else 0) =
      board.channels.size := by
  cases event with
  | channelRemoved channel => exact Table.size_erase distinct allowed
  | void channel => exact allowed.elim
  | _ => rfl

theorem mem_accept_connections (event : ConnectionEvent) (board : Board) (pair : Connection) :
    pair ∈ (board.accept event).connections ↔
      (pair.channel, pair.thing) ∈ event.amend board.placement.links := by
  rw [← Placement.links_follow]
  rfl

theorem connectionCount_eq (board : Board) : board.connectionCount = board.connections.length :=
  board.placement.connections_length.symm

end Board

/-- How many connections an event takes along without a disconnect. -/
def ConnectionEvent.takes (event : ConnectionEvent) (connections : List Connection) : Nat :=
  match event with
  | .channelRemoved channel => connections.countP fun pair => pair.channel == channel
  | _ => 0

namespace Consistent
variable {board : Board}

theorem connections_nodup (consistent : Consistent board) : board.connections.Nodup := by
  apply (consistent.single.connections_increasing consistent.tidy).imp
  rintro first second precedes rfl
  exact lt_irrefl _ ((Connection.precedes_iff _ _).mp precedes)

theorem accept_connect (consistent : Consistent board) (channel : String) (thing : Thing)
    (allowed : board.Allows (.connect channel thing)) :
    (board.accept (.connect channel thing)).connections.Perm
      (⟨channel, thing.id⟩ :: board.connections) := by
  have free : Connection.mk channel thing.id ∉ board.connections := by
    intro listed
    have placed := (consistent.tidy.isPlaced_iff thing.id).mpr ⟨channel, listed⟩
    exact Bool.false_ne_true (allowed.2.2.symm.trans placed)
  apply (List.perm_ext_iff_of_nodup (consistent.accept _ allowed).connections_nodup
    (List.nodup_cons.mpr ⟨free, consistent.connections_nodup⟩)).mpr
  rintro ⟨c, t⟩
  rw [Board.mem_accept_connections, List.mem_cons, Connection.mk.injEq, ← Prod.mk.injEq]
  rfl

theorem accept_disconnect (consistent : Consistent board) (channel : String) (thing : Thing)
    (allowed : board.Allows (.disconnect channel thing)) :
    board.connections.Perm
      (⟨channel, thing.id⟩ :: (board.accept (.disconnect channel thing)).connections) := by
  have held : Connection.mk channel thing.id ∈ board.connections :=
    (consistent.tidy.holds_iff channel thing.id).mp allowed
  have gone : Connection.mk channel thing.id ∉
      (board.accept (.disconnect channel thing)).connections := by
    rw [Board.mem_accept_connections]
    exact fun linked => linked.2 rfl
  apply (List.perm_ext_iff_of_nodup consistent.connections_nodup
    (List.nodup_cons.mpr ⟨gone, (consistent.accept _ allowed).connections_nodup⟩)).mpr
  rintro ⟨c, t⟩
  rw [List.mem_cons, Board.mem_accept_connections]
  constructor
  · intro listed
    by_cases same : Connection.mk c t = ⟨channel, thing.id⟩
    · exact Or.inl same
    · exact Or.inr ⟨listed, fun pair => same (by cases pair; rfl)⟩
  · rintro (same | kept)
    · exact same ▸ held
    · exact kept.1

theorem accept_channelRemoved (consistent : Consistent board) (channel : String)
    (allowed : board.Allows (.channelRemoved channel)) :
    (board.accept (.channelRemoved channel)).connections.Perm
      (board.connections.filter fun pair => pair.channel != channel) := by
  apply (List.perm_ext_iff_of_nodup (consistent.accept _ allowed).connections_nodup
    (consistent.connections_nodup.filter _)).mpr
  rintro ⟨c, t⟩
  rw [Board.mem_accept_connections, List.mem_filter, bne_iff_ne]
  rfl

theorem accept_count (consistent : Consistent board) (event : ConnectionEvent)
    (allowed : board.Allows event) :
    (board.accept event).connectionCount + (if event.kind = .disconnect then 1 else 0) +
        event.takes board.connections =
      board.connectionCount + if event.kind = .connect then 1 else 0 := by
  rw [Board.connectionCount_eq, Board.connectionCount_eq]
  cases event with
  | connect channel thing =>
      have more := (consistent.accept_connect channel thing allowed).length_eq
      simpa [ConnectionEvent.takes, ConnectionEvent.kind] using more
  | disconnect channel thing =>
      have fewer := (consistent.accept_disconnect channel thing allowed).length_eq
      simpa [ConnectionEvent.takes, ConnectionEvent.kind] using fewer.symm
  | channelRemoved channel =>
      have left := (consistent.accept_channelRemoved channel allowed).length_eq
      have parted := board.connections.length_eq_length_filter_add (·.channel == channel)
      rw [← List.countP_eq_length_filter, Nat.add_comm] at parted
      simp only [ConnectionEvent.takes, ConnectionEvent.kind, reduceCtorEq, ↓reduceIte]
      rw [left, parted]
      rfl
  | void channel => exact allowed.elim

end Consistent

/-- The counts of a board agree with what it holds, when so many channels were saved and so many
connections dropped on the way to it. -/
structure Balanced (saved dropped : Nat) (board : Board) : Prop extends Consistent board where
  own : board.things.Own
  distinct : board.channels.ids.Nodup
  heard : ∀ event ∈ board.bridge.pending, event.counts = true
  carried : ∀ kind, board.tally.emitted.get kind =
    board.tally.applied.get kind + countKind kind board.bridge.pending
  removals : board.tally.emitted.get .channelRemoved + board.channels.size = saved
  joined : board.connectionCount + board.tally.emitted.get .disconnect + dropped =
    board.tally.emitted.get .connect

namespace Balanced
variable {saved dropped : Nat} {board : Board}

theorem empty (capacity : Nat) : Balanced 0 0 (.ofCapacity capacity) where
  toConsistent := Consistent.empty capacity
  own := Table.own_empty
  distinct := List.nodup_nil
  heard event member := absurd member List.not_mem_nil
  carried kind := by cases kind <;> rfl
  removals := rfl
  joined := rfl

theorem accept (balanced : Balanced saved dropped board) (event : ConnectionEvent)
    (allowed : board.Allows event) :
    Balanced saved (dropped + event.takes board.connections) (board.accept event) where
  toConsistent := balanced.toConsistent.accept event allowed
  own := balanced.own
  distinct := by
    cases event with
    | channelRemoved channel =>
        change (board.channels.erase channel).ids.Nodup
        rw [Table.ids_erase]
        exact balanced.distinct.filter _
    | _ => exact balanced.distinct
  heard := by
    rw [Board.accept_pending]
    intro other member
    rcases List.mem_append.mp member with old | new
    · exact balanced.heard other old
    · exact List.mem_singleton.mp new ▸ allowed.counts
  carried kind := by
    have before := balanced.carried kind
    rw [Board.accept_emitted, Board.accept_pending, countKind_append, before, Nat.add_assoc]
    simp [Board.accept, Tally.emit, countKind]
  removals := by
    have before := balanced.removals
    have moved := board.accept_size balanced.distinct event allowed
    rw [Board.accept_emitted]
    omega
  joined := by
    have before := balanced.joined
    have moved := balanced.accept_count event allowed
    rw [Board.accept_emitted, Board.accept_emitted]
    omega

theorem kept (balanced : Balanced saved dropped board) {after : Board} (own : after.things.Own)
    (ids : after.channels.ids = board.channels.ids) (placement : after.placement = board.placement)
    (pending : after.bridge.pending = board.bridge.pending)
    (emitted : after.tally.emitted = board.tally.emitted)
    (applied : after.tally.applied = board.tally.applied) : Balanced saved dropped after where
  tidy := placement ▸ balanced.tidy
  single := placement ▸ balanced.single
  stored := by
    rw [placement, ids]
    exact balanced.stored
  own := own
  distinct := ids ▸ balanced.distinct
  heard := pending ▸ balanced.heard
  carried kind := by
    rw [emitted, applied, pending]
    exact balanced.carried kind
  removals := by
    rw [emitted, Table.size_eq, ids, ← Table.size_eq]
    exact balanced.removals
  joined := by
    rw [emitted, Board.connectionCount, placement]
    exact balanced.joined

-- The event was on the bridge, so it is one that counts.
theorem applied (balanced : Balanced saved dropped board) (event : ConnectionEvent)
    (rest : List Parcel) (first : board.bridge.queue = .event event :: rest) :
    Balanced saved dropped
      ({ board with bridge := { board.bridge with queue := rest } }.applyEvent event) := by
  have queued : board.bridge.pending = event :: rest.filterMap Parcel.event? := by
    simp [Bridge.pending, first, Parcel.event?]
  have heard := balanced.heard
  have carried := balanced.carried
  rw [queued] at heard
  simp only [queued, countKind_cons] at carried
  have tallied : board.tally.apply event =
      { board.tally with applied := board.tally.applied.bump event.kind } := by
    rw [Tally.apply, if_pos (heard event List.mem_cons_self)]
  simp only [Board.applyEvent, tallied]
  refine { balanced with heard := ?_, carried := ?_ }
  · exact fun other member => heard other (List.mem_cons_of_mem _ member)
  · intro kind
    simp only [KindCounts.get_bump, carried, Nat.add_assoc]
    rfl

theorem consume (balanced : Balanced saved dropped board) :
    Balanced saved dropped board.consume := by
  unfold Board.consume
  cases waiting : board.bridge.queue with
  | nil => exact balanced
  | cons parcel rest =>
      cases parcel with
      | event event => exact balanced.applied event rest waiting
      | barrier ticket =>
          have same :
              Bridge.pending { board.bridge with queue := rest } = board.bridge.pending := by
            simp only [Bridge.pending, waiting]
            rfl
          exact balanced.kept balanced.own rfl rfl same rfl rfl

theorem flush (balanced : Balanced saved dropped board) (ticket : Nat) :
    Balanced saved dropped (board.flush ticket).1 := by
  rcases board.flush_board ticket with ⟨_, _, queued⟩ | same
  · have pending : Bridge.pending { board.bridge with
        queue := board.bridge.queue ++ [.barrier ticket] } = board.bridge.pending := by
      simp [Bridge.pending, Parcel.event?]
    rw [queued]
    exact balanced.kept balanced.own rfl rfl pending rfl rfl
  · rw [same]
    exact balanced

theorem rejected (balanced : Balanced saved dropped board) :
    Balanced saved dropped board.rejectBatch :=
  balanced.kept balanced.own rfl rfl rfl rfl rfl

theorem offer (balanced : Balanced saved dropped board) (event : ConnectionEvent)
    (allowed : board.Allows event) (alone : event.takes board.connections = 0) :
    Balanced saved dropped (board.offer event).1 := by
  rcases board.offer_cases event with ⟨_, _, taken⟩ | ⟨_, same⟩
  · have accepted := balanced.accept event allowed
    rw [alone, Nat.add_zero] at accepted
    rw [taken]
    exact accepted
  · rw [same]
    exact balanced

theorem connectThing (balanced : Balanced saved dropped board) (channel thing : String) :
    Balanced saved dropped (Board.connectThing channel thing board).1 := by
  rw [Board.connectThing_eq channel thing board balanced.own]
  cases found : board.things.get? thing with
  | none => exact balanced
  | some record =>
      have named : record.id = thing := balanced.own.get?_id thing record found
      subst named
      dsimp only
      split
      next stored =>
        split
        next => exact balanced
        next free => exact balanced.offer _ ⟨found, stored, Bool.not_eq_true _ ▸ free⟩ rfl
      next => exact balanced

theorem disconnectThing (balanced : Balanced saved dropped board) (channel thing : String) :
    Balanced saved dropped (Board.disconnectThing channel thing board).1 := by
  rw [Board.disconnectThing_eq]
  split
  next held => exact balanced.offer _ held rfl
  next => exact balanced

theorem removeThing (balanced : Balanced saved dropped board) (id : String) :
    Balanced saved dropped (Board.removeThing id board).1 := by
  rw [Board.removeThing_eq]
  split
  · exact balanced.kept (balanced.own.erase id) rfl rfl rfl rfl rfl
  · exact balanced.rejected

theorem removeChannel (balanced : Balanced saved dropped board) (id : String) :
    let answer := Board.removeChannel id board
    (answer.2 = .done () ∧
      Balanced saved (dropped + board.connections.countP fun pair => pair.channel == id) answer.1 ∧
      answer.1.connections.Perm (board.connections.filter fun pair => pair.channel != id)) ∨
    (answer.2 ≠ .done () ∧ Balanced saved dropped answer.1) := by
  rw [Board.removeChannel_eq]
  by_cases stored : id ∈ board.channels.ids
  · rw [if_pos stored]
    rcases board.offer_cases (.channelRemoved id) with ⟨_, _, taken⟩ | ⟨failed, same⟩
    · rw [taken]
      exact Or.inl ⟨rfl, balanced.accept (.channelRemoved id) stored,
        balanced.accept_channelRemoved id stored⟩
    · refine Or.inr ⟨failed, ?_⟩
      rw [same]
      exact balanced
  · rw [if_neg stored]
    exact Or.inr ⟨by simp, balanced.rejected⟩

end Balanced

def Change.channelsSaved (change : Change) (board : Board) : Nat :=
  match change with
  | .saveChannels batch =>
    match (board.saveChannels batch).2 with
    | .done stored => stored.length
    | _ => 0
  | _ => 0

def Change.pairsDropped (change : Change) (board : Board) : Nat :=
  match change with
  | .removeChannels ids =>
    board.connections.countP fun pair =>
      (Board.inTurnDone Board.removeChannel ids board).contains pair.channel
  | _ => 0

-- What the rest of a batch drops was there before its first element and is not of that channel.
theorem countP_removed (id : String) (done : List String) (before after : List Connection)
    (left : after.Perm (before.filter fun pair => pair.channel != id)) :
    (before.countP fun pair => (id :: done).contains pair.channel) =
      (before.countP fun pair => pair.channel == id) +
        after.countP fun pair => done.contains pair.channel := by
  rw [left.countP_eq, List.countP_filter,
    List.countP_eq_countP_filter_add before _ fun pair => pair.channel == id, List.countP_filter,
    List.countP_filter]
  congr 1
  all_goals
    apply List.countP_congr
    intro pair _
    by_cases same : pair.channel = id <;> simp [same]

namespace Balanced
variable {saved dropped : Nat} {board : Board}

-- By the elements: what the rest drops is counted among the connections that the first left.
theorem removeChannels (balanced : Balanced saved dropped board) (ids : List String) :
    Balanced saved (dropped + (Change.removeChannels ids).pairsDropped board)
      (board.removeChannels ids).1 := by
  simp only [Change.pairsDropped, Board.removeChannels]
  induction ids generalizing dropped board with
  | nil => simpa [Board.inTurnDone, Board.inTurn] using balanced
  | cons id rest ih =>
      have element := balanced.removeChannel id
      unfold Board.inTurn Board.inTurnDone
      generalize Board.removeChannel id board = answer at element ⊢
      obtain ⟨after, reply⟩ := answer
      rcases element with ⟨done, first, left⟩ | ⟨failed, same⟩
      · simp only at done first left
        subst done
        dsimp only
        rw [countP_removed id _ board.connections after.connections left, ← Nat.add_assoc]
        exact ih first
      · cases reply with
        | done value => exact absurd rfl failed
        | refused error => simpa using same
        | blocked => simpa using same

theorem saveThings (balanced : Balanced saved dropped board) (batch : List Thing) :
    Balanced saved dropped (board.saveThings batch).1 := by
  unfold Board.saveThings
  split
  · cases inserted : board.things.insertBatch batch with
    | error error => exact balanced.rejected
    | ok stored =>
        have own := balanced.own.insertBatch stored.2 batch stored.1 inserted
        exact balanced.kept own rfl rfl rfl rfl rfl
  · exact balanced.rejected

theorem updateThing (balanced : Balanced saved dropped board) (thing : Thing) :
    Balanced saved dropped (board.updateThing thing).1 := by
  unfold Board.updateThing
  rcases Table.replace_eq board.things thing with ⟨_, done⟩ | ⟨_, failed⟩
  · have own := balanced.own.modify thing.id (fun _ => thing) fun _ _ => rfl
    rw [done]
    exact balanced.kept own rfl rfl rfl rfl rfl
  · rw [failed]
    exact balanced

theorem updateKey (balanced : Balanced saved dropped board) (id key : String) :
    Balanced saved dropped (board.updateKey id key).1 := by
  unfold Board.updateKey
  split
  · exact balanced
  · split
    · have own := balanced.own.modify id (fun thing => { thing with key := key })
        fun _ same => same
      exact balanced.kept own rfl rfl rfl rfl rfl
    · exact balanced

theorem updateChannel (balanced : Balanced saved dropped board) (channel : Channel) :
    Balanced saved dropped (board.updateChannel channel).1 := by
  unfold Board.updateChannel
  rcases Table.replace_eq board.channels channel with ⟨_, done⟩ | ⟨_, failed⟩
  · rw [done]
    exact balanced.kept balanced.own (Table.ids_modify _ _ _) rfl rfl rfl rfl
  · rw [failed]
    exact balanced

theorem saveChannels (balanced : Balanced saved dropped board) (batch : List Channel) :
    Balanced (saved + (Change.saveChannels batch).channelsSaved board) dropped
      (board.saveChannels batch).1 := by
  simp only [Change.channelsSaved, Board.saveChannels]
  cases inserted : board.channels.insertBatch batch with
  | error error => exact balanced.rejected
  | ok stored =>
      have ids := Table.insertBatch_ids board.channels stored.2 batch stored.1 inserted
      have distinct :=
        Table.insertBatch_nodup balanced.distinct stored.2 batch stored.1 inserted
      refine { balanced with stored := ?_, distinct := distinct, removals := ?_ }
      · intro link linked
        change link.1 ∈ stored.2.ids
        rw [ids]
        exact List.mem_append_left _ (balanced.stored link linked)
      · have before := balanced.removals
        rw [Table.size_eq] at before
        change board.tally.emitted.get .channelRemoved + stored.2.size = saved + stored.1.length
        rw [Table.size_eq, ids, List.length_append, List.length_map]
        omega

theorem run (balanced : Balanced saved dropped board) (change : Change) :
    Balanced (saved + change.channelsSaved board) (dropped + change.pairsDropped board)
      (change.run board).1 := by
  cases change with
  | saveThings batch => exact balanced.saveThings batch
  | updateThing thing => exact balanced.updateThing thing
  | updateKey id key => exact balanced.updateKey id key
  | removeThings ids =>
      exact Board.inTurn_preserves (Balanced saved dropped) _
        (fun id _ balanced => balanced.removeThing id) ids board balanced
  | saveChannels batch => exact balanced.saveChannels batch
  | updateChannel channel => exact balanced.updateChannel channel
  | removeChannels ids => exact balanced.removeChannels ids
  | connect channel things =>
      simp only [Change.run, Change.withoutResult, Board.connect]
      split
      · exact Board.inTurn_preserves (Balanced saved dropped) _
          (fun thing _ balanced => balanced.connectThing channel thing) things board balanced
      · exact balanced
  | disconnect channel things =>
      exact Board.inTurn_preserves (Balanced saved dropped) _
        (fun thing _ balanced => balanced.disconnectThing channel thing) things board balanced

end Balanced

/-- A board with the number of channels ever saved and of connections that went with a channel. -/
structure Books where
  board : Board
  saved : Nat := 0
  dropped : Nat := 0

namespace Books

def step (books : Books) (step : Step) : Books :=
  let board := (Chronicle.step ⟨books.board, []⟩ step).board
  match step with
  | .change change =>
    ⟨board, books.saved + change.channelsSaved books.board,
      books.dropped + change.pairsDropped books.board⟩
  | _ => { books with board := board }

def ofSteps (capacity : Nat) (steps : List Step) : Books :=
  steps.foldl step { board := .ofCapacity capacity }

theorem ofSteps_board (capacity : Nat) (steps : List Step) :
    (ofSteps capacity steps).board = (Chronicle.ofSteps capacity steps).board := by
  induction steps using List.reverseRecOn with
  | nil => rfl
  | append_singleton steps next ih =>
      rw [ofSteps, Chronicle.ofSteps, Chronicle.play, List.foldl_append, List.foldl_append]
      change (step (ofSteps capacity steps) next).board =
        (Chronicle.step (Chronicle.ofSteps capacity steps) next).board
      cases next <;> simp only [step, Chronicle.step, ih]

theorem ofSteps_balanced (capacity : Nat) (steps : List Step) :
    Balanced (ofSteps capacity steps).saved (ofSteps capacity steps).dropped
      (ofSteps capacity steps).board := by
  induction steps using List.reverseRecOn with
  | nil => exact .empty capacity
  | append_singleton steps next ih =>
      rw [ofSteps, List.foldl_append]
      change Balanced (step (ofSteps capacity steps) next).saved
        (step (ofSteps capacity steps) next).dropped (step (ofSteps capacity steps) next).board
      cases next with
      | change change => exact ih.run change
      | flush ticket => exact ih.flush ticket
      | consume => exact ih.consume
      | sealOff => exact ih.kept ih.own rfl rfl rfl rfl rfl

end Books

theorem Outcome.heard {before after : Board} {news : List Incident}
    (outcome : Outcome before news after) : ∀ event ∈ emittedEvents news, event.counts = true := by
  have silent (news : List Incident) (aside : ∀ incident ∈ news, incident.emitted? = none) :
      ∀ event ∈ emittedEvents news, event.counts = true := by
    rw [emittedEvents, List.filterMap_eq_nil_iff.mpr aside]
    exact fun event member => absurd member List.not_mem_nil
  cases outcome with
  | deed deed =>
      cases deed with
      | kept things channels tally fresh =>
          exact silent _ fun incident member => (saved_aside fresh incident member).1
      | removed id stored => exact silent _ (by simp [Incident.emitted?])
      | emitted event allowed unsealed room =>
          intro other member
          rw [List.mem_singleton.mp member]
          exact allowed.counts
  | barred => exact silent _ (by simp)
  | sealed => exact silent _ (by simp)
  | applied event => exact silent _ (by simp [Incident.emitted?])
  | passed => exact silent _ (by simp)

theorem ofSteps_heard (capacity : Nat) (steps : List Step) :
    ∀ event ∈ emittedEvents (Chronicle.ofSteps capacity steps).log, event.counts = true := by
  apply Chronicle.ofSteps_keeps fun log _ => ∀ event ∈ emittedEvents log, event.counts = true
  · exact fun _ event member => absurd member List.not_mem_nil
  · intro log news before after own heard outcome event member
    rw [emittedEvents_append] at member
    rcases List.mem_append.mp member with old | new
    · exact heard event old
    · exact outcome.heard event new

/-- After every history what was emitted is what was applied and what is on the bridge, kind by
kind. There were as many removals as saved channels are gone, and a connection is there for every
connect but those that were followed by a disconnect or went with their channel. Nothing that was
ever emitted is ignored when it is applied. -/
theorem events_accounted (capacity : Nat) (steps : List Step) :
    let chronicle := Chronicle.ofSteps capacity steps
    let board := chronicle.board
    let books := Books.ofSteps capacity steps
    (∀ kind, board.tally.emitted.get kind =
      board.tally.applied.get kind + countKind kind board.bridge.pending) ∧
    (board.bridge.pending = [] → board.tally.emitted = board.tally.applied) ∧
    board.tally.emitted.channelRemoved + board.channels.size = books.saved ∧
    board.connectionCount + board.tally.emitted.disconnect + books.dropped =
      board.tally.emitted.connect ∧
    ∀ event ∈ emittedEvents chronicle.log, event.counts = true := by
  intro chronicle board books
  have balanced : Balanced books.saved books.dropped board := by
    have balanced := Books.ofSteps_balanced capacity steps
    rwa [Books.ofSteps_board] at balanced
  refine ⟨balanced.carried, fun drained => ?_, balanced.removals, balanced.joined,
    ofSteps_heard capacity steps⟩
  apply KindCounts.ext_get
  intro kind
  rw [balanced.carried kind, drained]
  rfl

def cleared : List Step :=
  [.change (.saveChannels [{ id := "c" }, { id := "d" }]),
    .change (.saveThings [{ id := "t", key := "k" }, { id := "u", key := "l" },
      { id := "v", key := "m" }]),
    .change (.connect "c" ["t", "u"]), .change (.connect "d" ["v"]),
    .change (.disconnect "c" ["u"]), .change (.removeChannels ["c", "x"]),
    .consume, .consume, .consume, .consume, .consume]

theorem events_accounted_cleared :
    let board := (Chronicle.ofSteps 5 cleared).board
    board.bridge.pending = [] ∧ board.tally.emitted = board.tally.applied ∧
      board.tally.emitted = ⟨3, 1, 1⟩ ∧ board.connectionCount = 1 ∧
      (Books.ofSteps 5 cleared).saved = 2 ∧ (Books.ofSteps 5 cleared).dropped = 1 := by
  intro board
  have drained : board.bridge.pending = [] := rfl
  have accounted := events_accounted 5 cleared
  have emitted : board.tally.emitted = ⟨3, 1, 1⟩ := rfl
  have saved : (Books.ofSteps 5 cleared).saved = 2 := accounted.2.2.1.symm
  have count : board.connectionCount = 1 := by decide
  have joined : 1 + 1 + (Books.ofSteps 5 cleared).dropped = 3 := accounted.2.2.2.1
  exact ⟨drained, accounted.2.1 drained, emitted, count, saved, by omega⟩

end Switchboard
