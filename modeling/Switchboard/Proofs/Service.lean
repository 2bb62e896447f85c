import Switchboard.Bench
import Switchboard.Proofs.Convergence
import Switchboard.Proofs.Pace

/-!
The consumer from its start to its end. It takes one parcel at a time into its hand and handles it.
Once it has been signalled it may notice that between any two parcels; it seals the bridge then and
goes on until nothing is left, unless it is cut off before and loses what it has not handled.
Operations and barriers fall anywhere in between.
-/
namespace Switchboard

inductive Phase where
  | serving
  | draining
  | ended
  | cutOff
  deriving DecidableEq

def Phase.atWork : Phase → Bool
  | .serving | .draining => true
  | .ended | .cutOff => false

/-- A bench and the consumer at it. The log, the barriers that were queued, each with the events
that had been emitted before, and what was lost are kept for the record only. -/
structure Service where
  bench : Bench
  phase : Phase := .serving
  signalled : Bool := false
  log : List Incident := []
  barriers : List (Nat × List ConnectionEvent) := []
  lost : List Parcel := []

/-- What can happen next; what is not possible where it is tried changes nothing. -/
inductive Act where
  | change (change : Change)
  | flush
  | take
  | handle
  | signal
  | sealOff
  | finish
  | cutOff

namespace Service

def change (change : Change) (service : Service) : Service :=
  { service with
    bench := (service.bench.change change).1
    log := service.log ++ change.notes service.bench.board }

def flush (service : Service) : Service :=
  { service with
    bench := service.bench.flush.1
    barriers :=
      match (service.bench.board.flush service.bench.nextTicket).2 with
      | .done () =>
        service.barriers ++ [(service.bench.nextTicket, emittedEvents service.log)]
      | _ => service.barriers }

def take (service : Service) : Service :=
  if service.phase.atWork && service.bench.inbox.isEmpty then
    let taken := service.bench.take 1
    { service with bench := { taken.1 with inbox := taken.2 } }
  else service

def handle (service : Service) : Service :=
  if service.phase.atWork then
    { service with
      bench := service.bench.handleInbox
      log := service.log ++ (service.bench.inbox.filterMap Parcel.event?).map .applied }
  else service

def sealOff (service : Service) : Service :=
  if service.phase = .serving && service.signalled && service.bench.inbox.isEmpty then
    { service with
      phase := .draining
      bench := { service.bench with
        board := { service.bench.board with bridge := service.bench.board.bridge.sealOff } } }
  else service

def finish (service : Service) : Service :=
  if service.phase = .draining && service.bench.inbox.isEmpty
      && service.bench.board.bridge.queue.isEmpty then
    { service with phase := .ended }
  else service

def cutOff (service : Service) : Service :=
  if service.phase.atWork && service.signalled then
    { service with
      phase := .cutOff
      bench := { service.bench.settle false service.bench.inbox with inbox := [] }.close
      lost := service.bench.inbox ++ service.bench.board.bridge.queue }
  else service

def act (service : Service) : Act → Service
  | .change change => service.change change
  | .flush => service.flush
  | .take => service.take
  | .handle => service.handle
  | .signal => { service with signalled := true }
  | .sealOff => service.sealOff
  | .finish => service.finish
  | .cutOff => service.cutOff

def ofActs (capacity : Nat) (acts : List Act) : Service :=
  acts.foldl act { bench := { board := .ofCapacity capacity } }

def accepted (service : Service) : List ConnectionEvent := emittedEvents service.log

def applied (service : Service) : List ConnectionEvent := appliedEvents service.log

def parcels (service : Service) : List Parcel :=
  service.bench.inbox ++ service.bench.board.bridge.queue

theorem flush_cases (service : Service) :
    (service.bench.board.bridge.closed = true ∧ service.flush = { service with
      bench := { service.bench with
        nextTicket := service.bench.nextTicket + 1
        settled := service.bench.settled ++ [(service.bench.nextTicket, false)] } }) ∨
    (service.bench.board.bridge.closed = false ∧ service.flush = service) ∨
    (service.bench.board.bridge.closed = false ∧ service.flush = { service with
      bench := { service.bench with
        nextTicket := service.bench.nextTicket + 1
        board := { service.bench.board with
          bridge := { service.bench.board.bridge with
            queue := service.bench.board.bridge.queue ++ [.barrier service.bench.nextTicket] } } }
      barriers := service.barriers ++ [(service.bench.nextTicket, service.accepted)] }) := by
  unfold flush Bench.flush Board.flush Bridge.send
  by_cases sealed : service.bench.board.bridge.closed = true
  · simp only [if_pos sealed]
    exact Or.inl ⟨sealed, rfl⟩
  · have unsealed : service.bench.board.bridge.closed = false := Bool.not_eq_true _ ▸ sealed
    simp only [if_neg sealed]
    by_cases room : service.bench.board.bridge.hasRoom = true
    · simp only [if_pos room]
      exact Or.inr (Or.inr ⟨unsealed, rfl⟩)
    · simp only [if_neg room]
      exact Or.inr (Or.inl ⟨unsealed, trivial⟩)

theorem take_cases (service : Service) :
    (service.take = service ∧ (service.phase.atWork = true → service.bench.inbox = [] →
      service.bench.board.bridge.queue = [])) ∨
    ∃ parcel rest, service.phase.atWork = true ∧ service.bench.inbox = [] ∧
      service.bench.board.bridge.queue = parcel :: rest ∧ service.take = { service with
        bench := { service.bench with
          inbox := [parcel]
          board := { service.bench.board with
            bridge := { service.bench.board.bridge with queue := rest } } } } := by
  unfold take
  split
  next free =>
    obtain ⟨working, empty⟩ := Bool.and_eq_true_iff.mp free
    have none := List.isEmpty_iff.mp empty
    cases waiting : service.bench.board.bridge.queue with
    | nil =>
        -- The service is put together again from its own parts, with nothing taken.
        refine Or.inl ⟨?_, fun _ _ => rfl⟩
        obtain ⟨⟨⟨_, _, _, _, ⟨_, queue, _⟩, _⟩, inbox, _, _, _⟩, _, _, _, _, _⟩ := service
        cases none
        cases waiting
        rfl
    | cons parcel rest =>
        refine Or.inr ⟨parcel, rest, working, none, rfl, ?_⟩
        simp only [Bench.take, Bridge.receive, waiting]
        rfl
  next held =>
    refine Or.inl ⟨rfl, fun working empty => ?_⟩
    simp [working, empty] at held

theorem handle_cases (service : Service) (hand : service.bench.inbox.length ≤ 1) :
    service.handle = service ∨
    (∃ event, service.phase.atWork = true ∧ service.bench.inbox = [.event event] ∧
      service.handle = { service with
        bench := { service.bench with
          inbox := [], board := service.bench.board.applyEvent event }
        log := service.log ++ [.applied event] }) ∨
    (∃ ticket, service.phase.atWork = true ∧ service.bench.inbox = [.barrier ticket] ∧
      service.handle = { service with
        bench := { service.bench with
          inbox := [], settled := service.bench.settled ++ [(ticket, true)] } }) := by
  unfold handle
  by_cases working : service.phase.atWork = true
  · rw [if_pos working]
    unfold Bench.handleInbox Bench.settle
    rcases held : service.bench.inbox with _ | ⟨parcel, _ | ⟨other, rest⟩⟩
    · left
      simp only [List.foldl_nil, List.filterMap_nil, List.map_nil, List.append_nil]
      simp only [← held]
    · cases parcel with
      | event event =>
          refine Or.inr (Or.inl ⟨event, working, rfl, ?_⟩)
          simp [Parcel.event?, Parcel.ticket?, Board.handle]
      | barrier ticket =>
          refine Or.inr (Or.inr ⟨ticket, working, rfl, ?_⟩)
          simp [Parcel.event?, Parcel.ticket?, Board.handle]
    · rw [held] at hand
      simp at hand
  · rw [if_neg working]
    exact Or.inl rfl

theorem serve_one (service : Service) (working : service.phase.atWork = true)
    (empty : service.bench.inbox = []) :
    service.take.handle.bench.board = service.bench.board.consume ∧
      service.take.handle.bench.inbox = [] ∧ service.take.handle.phase = service.phase := by
  unfold Board.consume
  rcases service.take_cases with ⟨same, idle⟩ | ⟨parcel, rest, _, _, waiting, same⟩
  · rw [same, idle working empty]
    unfold handle
    rw [if_pos working]
    simp [Bench.handleInbox, Bench.settle, empty]
  · rw [same, waiting]
    unfold handle
    rw [if_pos working]
    exact ⟨rfl, rfl, rfl⟩

def serving (count : Nat) : List Act := (List.replicate count [Act.take, Act.handle]).flatten

theorem serve_many (count : Nat) (service : Service) (working : service.phase.atWork = true)
    (empty : service.bench.inbox = []) :
    ((serving count).foldl act service).bench.board = service.bench.board.consumeMany count ∧
      ((serving count).foldl act service).bench.inbox = [] ∧
      ((serving count).foldl act service).phase = service.phase := by
  induction count generalizing service with
  | zero => exact ⟨rfl, empty, rfl⟩
  | succ count ih =>
      obtain ⟨board, hand, phase⟩ := service.serve_one working empty
      have later := ih service.take.handle (by rw [phase]; exact working) hand
      rw [board, phase] at later
      exact later

theorem sealed_after_signal (service : Service) (phase : service.phase = .serving)
    (empty : service.bench.inbox = []) :
    ([.signal, .sealOff].foldl act service).phase = .draining ∧
      ([.signal, .sealOff].foldl act service).bench.inbox = [] ∧
      ([.signal, .sealOff].foldl act service).bench.board =
        { service.bench.board with bridge := service.bench.board.bridge.sealOff } := by
  simp [act, sealOff, phase, empty]

theorem finish_drained (service : Service) (phase : service.phase = .draining)
    (empty : service.bench.inbox = []) (drained : service.bench.board.bridge.queue = []) :
    service.finish.phase = .ended ∧ service.finish.bench.board = service.bench.board := by
  simp [finish, phase, empty, drained]

theorem drained (service : Service) (phase : service.phase = .serving)
    (empty : service.bench.inbox = []) :
    let acts := [.signal, .sealOff] ++ serving service.bench.board.bridge.queue.length ++ [.finish]
    (acts.foldl act service).phase = .ended ∧
      (acts.foldl act service).bench.board = service.bench.board.shutDown := by
  obtain ⟨draining, hand, sealed⟩ := service.sealed_after_signal phase empty
  obtain ⟨served, emptied, still⟩ := serve_many service.bench.board.bridge.queue.length
    ([.signal, .sealOff].foldl act service) (by rw [draining]; rfl) hand
  -- As many parcels as there were at the signal are enough: the bridge takes no more after it.
  have shut : ((serving service.bench.board.bridge.queue.length).foldl act
      ([.signal, .sealOff].foldl act service)).bench.board = service.bench.board.shutDown := by
    rw [served, sealed]
    exact Board.consumeMany_settle _ _ le_rfl
  have nothing : service.bench.board.shutDown.bridge.queue = [] := Board.settle_queue _
  rw [← shut] at nothing ⊢
  simp only [List.foldl_append]
  exact finish_drained _ (still.trans draining) emptied nothing

end Service
end Switchboard
