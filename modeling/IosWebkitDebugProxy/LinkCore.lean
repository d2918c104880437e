import IosWebkitDebugProxy.ReaderStream
import IosWebkitDebugProxy.TasksRelay
import IosWebkitDebugProxy.WriterStream

/-! One device between its clients and its byte streams: the tasks around the main loop,
the write side that the main loop sends its commands to, one after another, and the read
sides whose events it takes. -/

namespace IosWebkitDebugProxy

/-- A device that was just connected to, as `connect_device` keeps it. `connection` is the
number of its read task, and `earlier` what the read tasks did before. -/
structure NewConnection where
  bridge : ProxyBridge
  environment : ConnectEnvironment
  deviceId : String
  port : Nat
  deviceName : String
  deviceOsVersion : Nat
  isSim : Bool
  partialsSupported : Bool
  connection : Nat
  earlier : List ReaderAction

namespace NewConnection

def codec (new : NewConnection) : WebInspectorCodec := .new new.isSim new.partialsSupported

def sender (new : NewConnection) : RpcSender := ⟨new.environment.newUuid⟩

/-- A call of `send_plist` that fails is only logged, so the runtime has no limit here. -/
def runtime (new : NewConnection) : DeviceRuntime :=
  new.bridge.newRuntime new.environment new.deviceId new.port
    ⟨new.deviceName, new.deviceOsVersion, none⟩ new.codec

end NewConnection

structure DeviceLink where
  tasks : DeviceTasks
  unsent : List RpcCommand
  write : WriteSide
  read : ReadSide

inductive LinkAction where
  | task (action : TaskAction)
  | call
  | write (action : WriteAction)
  | read (action : ReaderAction)
  | takeEvent

def TaskAction.OfMain : TaskAction → Bool
  | .takeMessage => true
  | .takeRegistration => true
  | .takeRpc _ => true
  | .grantWrite => true
  | .deliver => true
  | _ => false

/-- An event that the main loop can make nothing of is only logged. -/
def WiEvent.rpc : WiEvent → Option RpcMessage
  | .recvPlist rpcDict => (parseRpcMessage rpcDict).toOption

namespace DeviceLink

def Free (link : DeviceLink) : Prop :=
  link.unsent = [] ∧ link.write.pending = [] ∧ link.write.dropped = false

instance (link : DeviceLink) : Decidable link.Free := inferInstanceAs (Decidable (_ ∧ _))

def moveTasks (tasks : DeviceTasks) (link : DeviceLink) : DeviceLink :=
  { link with
    tasks
    unsent := link.unsent ++ tasks.runtime.written.drop link.tasks.runtime.written.length }

variable (plist : PlistCrate) (new : NewConnection) (deviceOf : Nat → String)

def start : DeviceLink where
  tasks := .start new.runtime
  unsent := new.runtime.written
  write := .start new.codec
  read := (ReadSide.run plist new.earlier).step plist
    (.spawn new.connection new.isSim new.partialsSupported)

def onTask (action : TaskAction) (link : DeviceLink) : Option DeviceLink :=
  match action with
  | .takeRpc _ => none
  | action =>
      if action.OfMain → link.Free then (link.tasks.next action).map fun tasks => link.moveTasks tasks
      else none

def call (link : DeviceLink) : Option DeviceLink :=
  match link.unsent with
  | command :: later =>
      (link.write.sendPlist plist (plistToBin plist (new.sender.build command))).map fun write =>
        { link with write, unsent := later }
  | [] => none

/-- The handle goes with the runtime, between two rounds of the main loop. -/
def onWrite (action : WriteAction) (link : DeviceLink) : Option DeviceLink :=
  match action with
  | .sendPlist _ => none
  | .dropHandle =>
      if link.Free ∧ link.tasks.main = .select then
        link.write.dropHandle.map fun write => { link with write }
      else none
  | action => (link.write.next plist action).map fun write => { link with write }

def onRead (action : ReaderAction) (link : DeviceLink) : Option DeviceLink :=
  match action with
  | .take => none
  | action => (link.read.next plist action).map fun read => { link with read }

/-- What an event tells of the device. It comes under the name of the device, which an
earlier connection of the device has too. -/
def told (tagged : Nat × WiEvent) : Option RpcMessage :=
  if deviceOf tagged.1 = new.deviceId then tagged.2.rpc else none

def takeEvent (link : DeviceLink) : Option DeviceLink :=
  if link.Free ∧ link.tasks.main = .select then
    link.read.events.recv.map fun (tagged, events) =>
      let taken : DeviceLink := { link with
        read := { link.read with events, taken := link.read.taken ++ [tagged] } }
      match told new deviceOf tagged with
      | some message => taken.moveTasks (link.tasks.takeRpc message)
      | none => taken
  else none

def next (link : DeviceLink) : LinkAction → Option DeviceLink
  | .task action => link.onTask action
  | .call => call plist new link
  | .write action => onWrite plist action link
  | .read action => onRead plist action link
  | .takeEvent => takeEvent new deviceOf link

def step (link : DeviceLink) (action : LinkAction) : DeviceLink :=
  (link.next plist new deviceOf action).getD link

def run (actions : List LinkAction) : DeviceLink :=
  Transition.run (step plist new deviceOf) (start plist new) actions

end DeviceLink

end IosWebkitDebugProxy
