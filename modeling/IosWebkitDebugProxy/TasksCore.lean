import IosWebkitDebugProxy.Library.Channel
import IosWebkitDebugProxy.ProxyCore

/-! The tasks around one device: the main loop, the two forwarding tasks, and a
connection handler for every WebSocket client, with the bounded queues between
them and the read/write lock of the shared state. Each action is one step of one
task between two points where it may have to wait. A handler of the main loop is one
step: that `send_plist` may have to wait for room in the write queue, and that it fails
once the write task is gone, is left out here and comes in with `DeviceLink`. -/

namespace IosWebkitDebugProxy

/-- What a connection handler sends while it holds the shared state for reading. -/
inductive Outgoing where
  | registration
  | message (data : List UInt8) (isClose : Bool)
  deriving DecidableEq, Repr

def Outgoing.setup : Outgoing := .message [] false

def Outgoing.close : Outgoing := .message [] true

inductive HandlerPhase where
  | wants (outgoing : Outgoing)
  | sending (outgoing : Outgoing)
  | bridging
  | ended
  deriving DecidableEq, Repr

def Outgoing.next : Outgoing → HandlerPhase
  | registration => .wants .setup
  | message _ isClose => if isClose then .ended else .bridging

structure WsHandler where
  pageNum : Nat
  phase : HandlerPhase
  inbox : Channel (List UInt8) 64

inductive MainTask where
  | select
  | awaitWrite (message : RpcMessage)
  | awaitRoom (destId : String) (data : List UInt8)
  deriving DecidableEq, Repr

structure DeviceTasks where
  runtime : DeviceRuntime
  handlers : Table String WsHandler
  messages : Pipeline WsToWiMessage 64 256
  registrations : Pipeline WiToWsRegistration 64 256
  main : MainTask

inductive TaskAction where
  | upgrade (wsId : String) (pageNum : Nat)
  | acquire (wsId : String)
  | put (wsId : String)
  | frame (wsId : String) (data : List UInt8)
  | closeFrame (wsId : String)
  | socketFailed (wsId : String)
  | receive (wsId : String)
  | forwardMessage
  | forwardRegistration
  | takeMessage
  | takeRegistration
  | takeRpc (message : RpcMessage)
  | grantWrite
  | deliver
  deriving DecidableEq, Repr

def DeviceRuntime.needsWrite (runtime : DeviceRuntime) : RpcMessage → Bool
  | .reportSetup => true
  | .reportConnectedApplicationList _ => !runtime.connected
  | .applicationDisconnected _ => true
  | .applicationSentListing _ _ => true
  | _ => false

namespace DeviceTasks

def start (runtime : DeviceRuntime) : DeviceTasks := ⟨runtime, ∅, .empty, .empty, .select⟩

def setPhase (wsId : String) (phase : HandlerPhase) (tasks : DeviceTasks) : DeviceTasks :=
  { tasks with handlers := tasks.handlers.modify wsId fun handler => { handler with phase } }

def setInbox (wsId : String) (inbox : Channel (List UInt8) 64) (tasks : DeviceTasks) :
    DeviceTasks :=
  { tasks with handlers := tasks.handlers.modify wsId fun handler => { handler with inbox } }

/-- Readers queue up behind a writer that waits. -/
def writerWaits (tasks : DeviceTasks) : Bool :=
  match tasks.main with
  | .awaitWrite _ => true
  | _ => false

def readerHolds (tasks : DeviceTasks) : Bool :=
  tasks.handlers.values.any fun handler =>
    match handler.phase with
    | .sending _ => true
    | _ => false

def upgrade (wsId : String) (pageNum : Nat) (tasks : DeviceTasks) : Option DeviceTasks :=
  if !tasks.writerWaits && wsId ∉ tasks.handlers &&
      tasks.runtime.sharedState.pages.any fun page => page.pageNum == pageNum then
    some { tasks with
      handlers := tasks.handlers.insert wsId ⟨pageNum, .wants .registration, .empty⟩ }
  else none

def acquire (wsId : String) (tasks : DeviceTasks) : Option DeviceTasks := do
  let handler ← tasks.handlers.lookup wsId
  match handler.phase with
  | .wants outgoing =>
      if tasks.writerWaits then none else some (tasks.setPhase wsId (.sending outgoing))
  | _ => none

/-- Once the queue has taken it, the lock is released and the handler goes on. -/
def put (wsId : String) (tasks : DeviceTasks) : Option DeviceTasks := do
  let handler ← tasks.handlers.lookup wsId
  match handler.phase with
  | .sending .registration => do
      let registrations ← tasks.registrations.send ⟨handler.pageNum, wsId, ⟨wsId⟩⟩
      some { tasks.setPhase wsId Outgoing.registration.next with registrations }
  | .sending (.message data isClose) => do
      let messages ← tasks.messages.send ⟨handler.pageNum, wsId, data, isClose⟩
      some { tasks.setPhase wsId (Outgoing.message data isClose).next with messages }
  | _ => none

def socketEvent (wsId : String) (phase : HandlerPhase) (tasks : DeviceTasks) :
    Option DeviceTasks := do
  let handler ← tasks.handlers.lookup wsId
  if handler.phase = .bridging then some (tasks.setPhase wsId phase) else none

def receive (wsId : String) (tasks : DeviceTasks) : Option DeviceTasks := do
  let handler ← tasks.handlers.lookup wsId
  if handler.phase = .bridging then
    handler.inbox.recv.map fun (_, inbox) => tasks.setInbox wsId inbox
  else none

/-- The part of `handle_app_data` that waits for room in the queue of a client. -/
def handOver (destId : String) (data : List UInt8) (tasks : DeviceTasks) : Option DeviceTasks :=
  match tasks.runtime.wsClientTxs.lookup destId with
  | none => some tasks
  | some tx =>
      match tasks.handlers.lookup tx.owner with
      | none => some tasks
      | some handler =>
          if handler.phase = .ended then some tasks
          else (handler.inbox.send data).map fun inbox =>
            { tasks.setInbox tx.owner inbox with
              runtime := tasks.runtime.handleAppData destId data }

def takeRpc (message : RpcMessage) (tasks : DeviceTasks) : DeviceTasks :=
  if tasks.runtime.needsWrite message then { tasks with main := .awaitWrite message }
  else
    match message with
    | .applicationSentData _ destId data =>
        (tasks.handOver destId data).getD { tasks with main := .awaitRoom destId data }
    | _ => { tasks with runtime := tasks.runtime.handleRpcMessage message }

def next (tasks : DeviceTasks) : TaskAction → Option DeviceTasks
  | .upgrade wsId pageNum => tasks.upgrade wsId pageNum
  | .acquire wsId => tasks.acquire wsId
  | .put wsId => tasks.put wsId
  | .frame wsId data => tasks.socketEvent wsId (.wants (.message data false))
  | .closeFrame wsId => tasks.socketEvent wsId (.wants .close)
  | .socketFailed wsId => tasks.socketEvent wsId .ended
  | .receive wsId => tasks.receive wsId
  | .forwardMessage => tasks.messages.forward.map fun messages => { tasks with messages }
  | .forwardRegistration =>
      tasks.registrations.forward.map fun registrations => { tasks with registrations }
  | .takeMessage =>
      if tasks.main = .select then
        tasks.messages.recv.map fun (message, messages) =>
          { tasks with messages, runtime := tasks.runtime.handleWsMessage message }
      else none
  | .takeRegistration =>
      if tasks.main = .select then
        tasks.registrations.recv.map fun (registration, registrations) =>
          { tasks with registrations, runtime := tasks.runtime.handleWsRegistration registration }
      else none
  | .takeRpc message => if tasks.main = .select then some (tasks.takeRpc message) else none
  | .grantWrite =>
      match tasks.main with
      | .awaitWrite message =>
          if tasks.readerHolds then none
          else some { tasks with
            main := .select
            runtime := tasks.runtime.handleRpcMessage message }
      | _ => none
  | .deliver =>
      match tasks.main with
      | .awaitRoom destId data => { tasks with main := .select }.handOver destId data
      | _ => none

/-- A task that cannot move leaves everything as it is. -/
def step (tasks : DeviceTasks) (action : TaskAction) : DeviceTasks :=
  (tasks.next action).getD tasks

end DeviceTasks

end IosWebkitDebugProxy
