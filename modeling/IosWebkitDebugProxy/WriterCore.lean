import IosWebkitDebugProxy.Library.Channel
import IosWebkitDebugProxy.CodecCore

/-! The write side of an inspector connection (`webinspector.rs`): `send_plist`,
which puts the packets of one message after another into a bounded queue, and the
write task that empties it into the stream. Each action is one step of one of the
two between two points where it may have to wait. -/

namespace IosWebkitDebugProxy

open WebInspectorCodec

/-- The write loop waits in its `select!`, writes what is left of a packet and
flushes it, or has returned. -/
inductive WriteTask where
  | receiving
  | writing (left : List UInt8)
  | ended
  deriving DecidableEq, Repr

/-- `called` and `results` record the calls of `send_plist` and how they ended,
and `wire` what the stream has taken. -/
structure WriteSide where
  codec : WebInspectorCodec
  pending : List (List UInt8)
  queue : Channel (List UInt8) 64
  task : WriteTask
  cancelled : Bool
  dropped : Bool
  called : List (List UInt8)
  results : List (Except Error Unit)
  wire : List UInt8

inductive WriteAction where
  | sendPlist (rpcBin : List UInt8)
  | put
  | take
  | write (count : Nat)
  | flush
  | fail
  | cancel
  | seeCancelled
  | dropHandle
  | seeDropped
  deriving DecidableEq, Repr

namespace WriteSide

def start (codec : WebInspectorCodec) : WriteSide :=
  ⟨codec, [], .empty, .receiving, false, false, [], [], []⟩

variable (plist : PlistCrate)

/-- One call is made at a time, by the holder of the handle. -/
def sendPlist (rpcBin : List UInt8) (side : WriteSide) : Option WriteSide :=
  if side.pending = [] ∧ side.dropped = false then
    some { side with
      pending := side.codec.encodePlist plist rpcBin
      called := side.called ++ [rpcBin] }
  else none

/-- The queue is closed once the write task has returned. A call that meets that
gives up what is left of its packets. -/
def put (side : WriteSide) : Option WriteSide :=
  match side.pending with
  | [] => none
  | packet :: later =>
      if side.task = .ended then
        some { side with pending := [], results := side.results ++ [.error .channelClosed] }
      else
        (side.queue.send packet).map fun queue =>
          { side with
            queue
            pending := later
            results := if later = [] then side.results ++ [.ok ()] else side.results }

def take (side : WriteSide) : Option WriteSide :=
  match side.task with
  | .receiving => side.queue.recv.map fun (data, queue) => { side with queue, task := .writing data }
  | _ => none

/-- One write of `write_all` takes some of what is left. -/
def write (count : Nat) (side : WriteSide) : Option WriteSide :=
  match side.task with
  | .writing left =>
      if 0 < count ∧ count ≤ left.length then
        some { side with
          task := .writing (left.drop count)
          wire := side.wire ++ left.take count }
      else none
  | _ => none

/-- A flush ends when the stream has passed on what it took. That of a TLS stream may have to
wait for the device, and the write task waits for it before it comes back to its `select!`. -/
def flush (side : WriteSide) : Option WriteSide :=
  match side.task with
  | .writing [] => some { side with task := .receiving }
  | _ => none

def fail (side : WriteSide) : Option WriteSide :=
  match side.task with
  | .writing _ => some { side with task := .ended }
  | _ => none

def seeCancelled (side : WriteSide) : Option WriteSide :=
  if side.task = .receiving ∧ side.cancelled then some { side with task := .ended } else none

def dropHandle (side : WriteSide) : Option WriteSide :=
  if side.pending = [] then some { side with dropped := true } else none

/-- The queue gives nothing more once it is empty and its sender is gone. -/
def seeDropped (side : WriteSide) : Option WriteSide :=
  if side.task = .receiving ∧ side.dropped ∧ side.queue.items = [] then
    some { side with task := .ended }
  else none

def next (side : WriteSide) : WriteAction → Option WriteSide
  | .sendPlist rpcBin => side.sendPlist plist rpcBin
  | .put => side.put
  | .take => side.take
  | .write count => side.write count
  | .flush => side.flush
  | .fail => side.fail
  | .cancel => some { side with cancelled := true }
  | .seeCancelled => side.seeCancelled
  | .dropHandle => side.dropHandle
  | .seeDropped => side.seeDropped

/-- A task that cannot move leaves everything as it is. -/
def step (side : WriteSide) (action : WriteAction) : WriteSide :=
  (side.next plist action).getD side

def run (codec : WebInspectorCodec) (actions : List WriteAction) : WriteSide :=
  Transition.run (step plist) (start codec) actions

/-- What one call puts into the stream. -/
def encoded (codec : WebInspectorCodec) (rpcBin : List UInt8) : List UInt8 :=
  (codec.encodePlist plist rpcBin).flatten

end WriteSide

end IosWebkitDebugProxy
