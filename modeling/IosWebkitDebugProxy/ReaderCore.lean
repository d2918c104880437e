import IosWebkitDebugProxy.Library.FanIn
import IosWebkitDebugProxy.Library.Table
import IosWebkitDebugProxy.CodecFrames

/-! The read side of the inspector connections (`webinspector.rs`, `proxy.rs`): the
read task of each, its queue of decoded events, the task that forwards them, and the
queue of the main loop that all connections share. Each action is one step of one task
between two points where it may have to wait. -/

namespace IosWebkitDebugProxy

open WebInspectorCodec

/-- Where a read loop waits: for the rest of a length header or of a body, or for room
for an event. It has returned because it was cancelled, or because of the stream. -/
inductive ReadPhase where
  | header (got : List UInt8)
  | body (lenBuf : List UInt8) (length : Nat) (got : List UInt8)
  | sending (event : WiEvent)
  | cancelled
  | failed

/-- `arrived` is what the stream holds ready, and `delivered` records all that it ever
held. -/
structure ReadTask where
  codec : WebInspectorCodec
  phase : ReadPhase
  arrived : List UInt8
  closed : Bool
  cancelled : Bool
  delivered : List UInt8

/-- `taken` records the events that the main loop took, with their connections. -/
structure ReadSide where
  tasks : Table Nat ReadTask
  events : FanIn Nat WiEvent 64 256
  taken : List (Nat × WiEvent)

inductive ReaderAction where
  | spawn (connection : Nat) (isSim partialsSupported : Bool)
  | deliver (connection : Nat) (bytes : List UInt8)
  | close (connection : Nat)
  | read (connection count : Nat)
  | seeEnd (connection : Nat)
  | send (connection : Nat)
  | cancel (connection : Nat)
  | seeCancelled (connection : Nat)
  | forward (connection : Nat)
  | take
  deriving DecidableEq, Repr

namespace ReadTask

def new (isSim partialsSupported : Bool) : ReadTask :=
  ⟨.new isSim partialsSupported, .header [], [], false, false, []⟩

def deliver (bytes : List UInt8) (task : ReadTask) : ReadTask :=
  if task.closed then task
  else { task with arrived := task.arrived ++ bytes, delivered := task.delivered ++ bytes }

/-- A length header that is complete. An empty packet is skipped. -/
def parseHeader (lenBuf : List UInt8) (task : ReadTask) : ReadTask :=
  match parseLength lenBuf with
  | .error _ => { task with phase := .failed }
  | .ok length =>
      if length = 0 then { task with phase := .header [] }
      else { task with phase := .body lenBuf length [] }

/-- A body that is complete. One that cannot be decoded is passed over. -/
def parseBody (plist : PlistCrate) (body : List UInt8) (task : ReadTask) : ReadTask :=
  match task.codec.decodeBody plist body with
  | (codec, .ok (some event)) => { task with codec, phase := .sending event }
  | (codec, _) => { task with codec, phase := .header [] }

/-- One read of `read_exact` takes some of what is ready and still wanted. -/
def read (plist : PlistCrate) (count : Nat) (task : ReadTask) : Option ReadTask :=
  let front := task.arrived.take count
  let rest := task.arrived.drop count
  match task.phase with
  | .header got =>
      if 0 < count ∧ count ≤ task.arrived.length ∧ got.length + count ≤ 4 then
        if got.length + count = 4 then
          some (parseHeader (got ++ front) { task with arrived := rest })
        else some { task with arrived := rest, phase := .header (got ++ front) }
      else none
  | .body lenBuf length got =>
      if 0 < count ∧ count ≤ task.arrived.length ∧ got.length + count ≤ length then
        if got.length + count = length then
          some (parseBody plist (got ++ front) { task with arrived := rest })
        else some { task with arrived := rest, phase := .body lenBuf length (got ++ front) }
      else none
  | _ => none

def Reading (task : ReadTask) : Bool :=
  match task.phase with
  | .header _ => true
  | .body _ _ _ => true
  | _ => false

def seeEnd (task : ReadTask) : Option ReadTask :=
  if task.Reading ∧ task.closed ∧ task.arrived = [] then some { task with phase := .failed }
  else none

def seeCancelled (task : ReadTask) : Option ReadTask :=
  if task.Reading ∧ task.cancelled then some { task with phase := .cancelled } else none

end ReadTask

namespace ReadSide

def start : ReadSide := ⟨∅, .empty, []⟩

variable (plist : PlistCrate)

def setTask (connection : Nat) (task : ReadTask) (side : ReadSide) : ReadSide :=
  { side with tasks := side.tasks.assign connection task }

/-- The event goes into the queue of its connection, and the loop reads on. -/
def send (connection : Nat) (side : ReadSide) : Option ReadSide := do
  let task ← side.tasks.lookup connection
  match task.phase with
  | .sending event => do
      let events ← side.events.send connection event
      some { side.setTask connection { task with phase := .header [] } with events }
  | _ => none

def take (side : ReadSide) : Option ReadSide :=
  side.events.recv.map fun (tagged, events) => { side with events, taken := side.taken ++ [tagged] }

def onTask (connection : Nat) (update : ReadTask → Option ReadTask) (side : ReadSide) :
    Option ReadSide := do
  let task ← side.tasks.lookup connection
  let task ← update task
  some (side.setTask connection task)

def next (side : ReadSide) : ReaderAction → Option ReadSide
  | .spawn connection isSim partialsSupported =>
      if connection ∈ side.tasks then none
      else some (side.setTask connection (.new isSim partialsSupported))
  | .deliver connection bytes => side.onTask connection fun task => some (task.deliver bytes)
  | .close connection => side.onTask connection fun task => some { task with closed := true }
  | .read connection count => side.onTask connection (ReadTask.read plist count)
  | .seeEnd connection => side.onTask connection ReadTask.seeEnd
  | .send connection => side.send connection
  | .cancel connection => side.onTask connection fun task => some { task with cancelled := true }
  | .seeCancelled connection => side.onTask connection ReadTask.seeCancelled
  | .forward connection =>
      (side.events.forward connection).map fun events => { side with events }
  | .take => side.take

def step (side : ReadSide) (action : ReaderAction) : ReadSide := (side.next plist action).getD side

def run (actions : List ReaderAction) : ReadSide := Transition.run (step plist) start actions

end ReadSide

end IosWebkitDebugProxy
