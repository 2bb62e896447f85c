import Std.Async.Select
import Std.Async.Signal
import Std.Async.TCP
import Switchboard.CommandLine
import Switchboard.Exposition
import Switchboard.Http.Exchange
import Switchboard.Status

/-!
The process. It starts as its arguments say, answers on the status port and, if metrics are served,
on the metrics port, and stops in good order when it is told to. A port that is taken stops it too.
-/
namespace Switchboard.Service

open Std.Async Std.Net Http

def reason : IO.Error → String
  | .noFileOrDirectory _ _ _ => PathFault.missing.message
  | .inappropriateType _ 20 _ => PathFault.notDirectory.message
  | .inappropriateType _ 21 _ => PathFault.isDirectory.message
  | .invalidArgument _ 36 _ => PathFault.tooLong.message
  | other => toString other

def attempt {α : Type} (path : String) (action : IO α) : IO (Except String α) := do
  match pathFault? path with
  | some fault => pure (.error fault.message)
  | none =>
    match ← action.toBaseIO with
    | .ok value => pure (.ok value)
    | .error error => pure (.error (reason error))

def surroundings : Surroundings IO where
  read path := attempt path (IO.FS.readFile path)
  reach path := attempt path (IO.FS.Handle.mk path .read *> pure ())

structure Door where
  listener : TCP.Socket.Server
  resource? : String → Option Response

def Door.atPort (port : UInt16) (resource? : String → Option Response) : IO Door := do
  let listener ← TCP.Socket.Server.mk
  listener.bind (.v4 ⟨.ofParts 0 0 0 0, port⟩)
  listener.listen 128
  pure ⟨listener, resource?⟩

def headLimit : Nat := 65536

partial def receiveHead (client : TCP.Socket.Client) (received : String) : Async String := do
  if isWholeHead received || headLimit < received.utf8ByteSize then pure received
  else
    match ← client.recv? 8192 with
    | none => pure received
    | some bytes =>
      match String.fromUTF8? bytes with
      | none => pure received
      | some more => receiveHead client (received ++ more)

def converse (door : Door) (client : TCP.Socket.Client) : Async Unit := do
  let request ← receiveHead client ""
  client.send (Response.ofRequest door.resource? request).text.toUTF8
  client.shutdown

def step (doors : List Door) (stops : List Signal.Waiter) : Async Bool :=
  Selectable.one
    ((doors.map fun door =>
        Selectable.case door.listener.acceptSelector fun client => do
          background (converse door client)
          pure true)
      ++ stops.map fun stop => Selectable.case stop.selector fun _ => pure false).toArray

partial def serve (doors : List Door) (stops : List Signal.Waiter) : Async Unit := do
  if ← step doors stops then serve doors stops

def doors (config : Config) (store : Store) : IO (List Door) := do
  let status ← Door.atPort config.server.port (Status.resource? store.isStopped store.stats)
  if config.metrics.enabled then
    let metrics ← Door.atPort config.metrics.port
      (Exposition.resource? store.stats store.board.tally)
    pure [status, metrics]
  else pure [status]

/-- Serves until a signal comes, unless a port is taken. -/
def run (config : Config) (store : Store) : IO Unit := do
  match ← (doors config store).toBaseIO with
  | .error _ => pure ()
  | .ok doors =>
    let interrupt ← Signal.Waiter.mk .sigint true
    let terminate ← Signal.Waiter.mk .sigterm true
    (serve doors [interrupt, terminate]).block

end Switchboard.Service

def main (args : List String) : IO UInt32 := do
  let launch ← Switchboard.CommandLine.launch Switchboard.Service.surroundings args
  IO.print launch.output
  IO.eprint launch.complaint
  match launch with
  | .serve config =>
    match Switchboard.Store.ofCapacity? config.bridgeCapacity.toNat with
    | some store => Switchboard.Service.run config store
    | none => pure ()
  | _ => pure ()
  pure launch.exitCode
