import IosWebkitDebugProxy.Library.Channel
import IosWebkitDebugProxy.ListenerPanics

/-! The task of the device listener (`spawn_device_listener`, `run_device_listener`):
one connection to usbmuxd after another, a request on each, and the events of what is
read sent to the main loop. Each action is one step between two points where the task
may have to wait, or one turn of the loop of `on_recv`. -/

namespace IosWebkitDebugProxy

open Plist

def libusbmuxVersion : Nat := 3

def listenDocument : String :=
  "<?xml version=\"1.0\" encoding=\"UTF-8\"?>\n" ++
    "<!DOCTYPE plist PUBLIC \"-//Apple//DTD PLIST 1.0//EN\" " ++
    "\"http://www.apple.com/DTDs/PropertyList-1.0.dtd\">\n" ++
    "<plist version=\"1.0\">\n<dict>\n" ++
    "\t<key>ClientVersionString</key>\n\t<string>device_listener</string>\n" ++
    "\t<key>MessageType</key>\n\t<string>Listen</string>\n" ++
    "\t<key>ProgName</key>\n\t<string>libusbmuxd</string>\n" ++
    "\t<key>kLibUSBMuxVersion</key>\n\t<integer>" ++ toString libusbmuxVersion ++ "</integer>\n" ++
    "</dict>\n</plist>"

def createListenPacket : List UInt8 :=
  writeU32 (16 + listenDocument.utf8ByteSize) ++ (writeU32 1 ++ (writeU32 typePlist ++
    (writeU32 1 ++ listenDocument.toUTF8.data.toList)))

def bufferSize : Nat := 4096

/-- The top of the loop, the connecting, the request of which this is still to be
written, the wait for bytes, the loop of `on_recv`, the sending of its events, and the
pause before the next connection. The task is over when it returned or panicked. -/
inductive ListenPhase where
  | checking
  | connecting
  | asking (rest : List UInt8)
  | reading (parser : DeviceListenerParser)
  | receiving (parser : DeviceListenerParser) (events : List DeviceEvent)
  | sending (parser : DeviceListenerParser) (events : List DeviceEvent)
  | waiting
  | returned
  | panicked

/-- What was written to a connection and what was read from it. -/
structure ListenSession where
  request : List UInt8
  received : List UInt8

/-- `arrived` holds what the connection has ready. `past` and `current` record the
connections, and `taken` the events that the main loop took. -/
structure ListenerTask where
  phase : ListenPhase
  arrived : List UInt8
  channel : Channel DeviceEvent 64
  receiverGone : Bool
  cancelled : Bool
  past : List ListenSession
  current : ListenSession
  taken : List DeviceEvent

inductive ListenAction where
  | check
  | connect (succeeds : Bool)
  | write (count : Nat)
  | writeFails
  | deliver (bytes : List UInt8)
  | read (count : Nat)
  | lose
  | parse
  | send
  | wake
  | cancel
  | seeCancelled
  | take
  | dropReceiver
  deriving DecidableEq, Repr

namespace ListenPhase

/-- The `for` loop over the events: without any left, the task waits for bytes again. -/
def afterEvents (parser : DeviceListenerParser) : List DeviceEvent → ListenPhase
  | [] => .reading parser
  | events => .sending parser events

def Connected : ListenPhase → Bool
  | .asking _ => true
  | .reading _ => true
  | .receiving _ _ => true
  | .sending _ _ => true
  | _ => false

def Ended : ListenPhase → Bool
  | .returned => true
  | .panicked => true
  | _ => false

end ListenPhase

namespace ListenerTask

def start : ListenerTask := ⟨.checking, [], .empty, false, false, [], ⟨[], []⟩, []⟩

def check (task : ListenerTask) : Option ListenerTask :=
  match task.phase with
  | .checking => some { task with phase := if task.cancelled then .returned else .connecting }
  | _ => none

def connect (succeeds : Bool) (task : ListenerTask) : Option ListenerTask :=
  match task.phase with
  | .connecting =>
      if succeeds then some { task with phase := .asking createListenPacket, arrived := [] }
      else some { task with phase := .waiting }
  | _ => none

/-- The connection is given up, and the next one is tried after a pause. -/
def disconnect (task : ListenerTask) : ListenerTask :=
  { task with
    phase := .waiting
    arrived := []
    past := task.past ++ [task.current]
    current := ⟨[], []⟩ }

/-- One write of `write_all` takes some of the request. -/
def write (count : Nat) (task : ListenerTask) : Option ListenerTask :=
  match task.phase with
  | .asking rest =>
      if 0 < count ∧ count ≤ rest.length then
        some { task with
          phase := if rest.drop count = [] then .reading .new else .asking (rest.drop count)
          current.request := task.current.request ++ rest.take count }
      else none
  | _ => none

def writeFails (task : ListenerTask) : Option ListenerTask :=
  match task.phase with
  | .asking _ => some task.disconnect
  | _ => none

def deliver (bytes : List UInt8) (task : ListenerTask) : Option ListenerTask :=
  if task.phase.Connected then some { task with arrived := task.arrived ++ bytes } else none

def read (count : Nat) (task : ListenerTask) : Option ListenerTask :=
  match task.phase with
  | .reading parser =>
      if 0 < count ∧ count ≤ bufferSize ∧ count ≤ task.arrived.length then
        some { task with
          phase := .receiving (parser.extend (task.arrived.take count)) []
          arrived := task.arrived.drop count
          current.received := task.current.received ++ task.arrived.take count }
      else none
  | _ => none

/-- A read that finds the end of the stream, or that fails. -/
def lose (task : ListenerTask) : Option ListenerTask :=
  match task.phase with
  | .reading _ => some task.disconnect
  | _ => none

def parse (plist : PlistCrate) (task : ListenerTask) : Option ListenerTask :=
  match task.phase with
  | .receiving parser events =>
      match DeviceListenerParser.recvTurn plist (parser, events) with
      | .inl (next, sent) => some { task with phase := .receiving next sent }
      | .inr none => some { task with phase := .panicked }
      | .inr (some (final, sent)) => some { task with phase := .afterEvents final sent }
  | _ => none

def send (task : ListenerTask) : Option ListenerTask :=
  match task.phase with
  | .sending parser (event :: later) =>
      if task.receiverGone then some { task with phase := .returned }
      else (task.channel.send event).map fun channel =>
        { task with phase := .afterEvents parser later, channel }
  | _ => none

def wake (task : ListenerTask) : Option ListenerTask :=
  match task.phase with
  | .waiting => some { task with phase := .checking }
  | _ => none

/-- Only the wait for bytes and the pause look at the cancellation. -/
def seeCancelled (task : ListenerTask) : Option ListenerTask :=
  if task.cancelled then
    match task.phase with
    | .reading _ => some { task with phase := .returned }
    | .waiting => some { task with phase := .returned }
    | _ => none
  else none

def take (task : ListenerTask) : Option ListenerTask :=
  if task.receiverGone then none
  else task.channel.recv.map fun (event, channel) =>
    { task with channel, taken := task.taken ++ [event] }

variable (plist : PlistCrate)

def next (task : ListenerTask) : ListenAction → Option ListenerTask
  | .check => task.check
  | .connect succeeds => task.connect succeeds
  | .write count => task.write count
  | .writeFails => task.writeFails
  | .deliver bytes => task.deliver bytes
  | .read count => task.read count
  | .lose => task.lose
  | .parse => task.parse plist
  | .send => task.send
  | .wake => task.wake
  | .cancel => some { task with cancelled := true }
  | .seeCancelled => task.seeCancelled
  | .take => task.take
  | .dropReceiver => some { task with receiverGone := true }

def step (task : ListenerTask) (action : ListenAction) : ListenerTask :=
  (task.next plist action).getD task

def run (actions : List ListenAction) : ListenerTask := Transition.run (step plist) start actions

end ListenerTask

end IosWebkitDebugProxy
