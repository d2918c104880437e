import IosWebkitDebugProxy.ListenerTask
import IosWebkitDebugProxy.ProxyRuns

/-! The life of the proxy (`ProxyBridge::run`): the device list server, the listener
task, the main loop with the tasks that it spawns for each device, and the cleaning up
after the loop. The handlers of the loop are those of the core. -/

namespace IosWebkitDebugProxy

/-- The tasks spawned for one connection of a device, and whether the tokens that its
runtime holds for them are cancelled: those of the inspector and that of the server. Both
are child tokens of that of the whole proxy. -/
structure SpawnedTasks where
  deviceId : String
  port : Nat
  wiCancelled : Bool
  serverCancelled : Bool
  deriving DecidableEq, Repr

def SpawnedTasks.cancel (tasks : SpawnedTasks) : SpawnedTasks :=
  { tasks with wiCancelled := true, serverCancelled := true }

/-- How `run` returns. Its one error is the port of the device list. -/
inductive RunOutcome where
  | ok
  | portBind (message : String)
  deriving DecidableEq, Repr

inductive RunPhase where
  | starting
  | looping
  | stopping (left : List String)
  | returned (outcome : RunOutcome)
  deriving DecidableEq, Repr

/-- `tokens` says which of the spawned `tasks` the runtime of a device can cancel. The
listener task and the device list server hold the token of the whole proxy. -/
structure ProxyRun where
  phase : RunPhase
  core : ProxyState
  tokens : Table String Nat
  tasks : List SpawnedTasks
  listServer : Bool
  listening : Bool
  listener : ListenerTask

inductive RunAction where
  | begin (binding : Except String Unit) (environment : ConnectEnvironment)
  | listener (action : ListenAction)
  | takeDevice (environment : ConnectEnvironment)
  | channelClosed
  | takeWi (deviceId : String) (event : WiEvent)
  | takeWs (deviceId : String) (message : WsToWiMessage)
  | takeRegistration (deviceId : String) (registration : WiToWsRegistration)
  | cancel
  | seeCancelled
  | disconnectNext (deviceId : String)
  | finish

/-- What the listener task and the connection to usbmuxd do by themselves. -/
def ListenAction.Own : ListenAction → Bool
  | .cancel => false
  | .take => false
  | .dropReceiver => false
  | _ => true

namespace ProxyRun

def start : ProxyRun := ⟨.starting, .empty, ∅, [], false, false, .start⟩

def Cancelled (run : ProxyRun) : Bool := run.listener.cancelled

variable (plist : PlistCrate) (bridge : ProxyBridge)

/-- A connection that is made spawns the tasks of its inspector and its server. Child tokens
of a cancelled token are cancelled from the start. -/
def connect (environment : ConnectEnvironment) (deviceId : String) (run : ProxyRun) : ProxyRun :=
  let core := bridge.connectDevice environment deviceId run.core
  match core.devices.lookup deviceId with
  | some runtime =>
      if deviceId ∈ run.core.devices then { run with core }
      else { run with
        core
        tokens := run.tokens.assign deviceId run.tasks.length
        tasks := run.tasks ++ [⟨deviceId, runtime.port, run.Cancelled, run.Cancelled⟩] }
  | none => { run with core }

def disconnect (deviceId : String) (run : ProxyRun) : ProxyRun :=
  let core := bridge.disconnectDevice deviceId run.core
  match run.tokens.lookup deviceId with
  | some index => { run with
      core
      tokens := run.tokens.erase deviceId
      tasks := run.tasks.modify index SpawnedTasks.cancel }
  | none => { run with core }

def listPort (bridge : ProxyBridge) : Nat :=
  (bridge.httpServiceConfig.map HttpServiceConfig.deviceListPort).getD 0

/-- The device list server comes first, then the listener, then the simulator. -/
def begin (binding : Except String Unit) (environment : ConnectEnvironment) (run : ProxyRun) :
    Option ProxyRun :=
  match run.phase with
  | .starting =>
      let enter (listServer : Bool) : ProxyRun :=
        connect bridge environment "SIMULATOR"
          { run with phase := .looping, listServer, listening := true }
      if 0 < listPort bridge then
        match binding with
        | .error reason => some { run with phase := .returned (.portBind
            ("Failed to bind device list port " ++ toString (listPort bridge) ++ ": " ++ reason)) }
        | .ok () => some (enter true)
      else some (enter false)
  | _ => none

def onListener (action : ListenAction) (run : ProxyRun) : Option ProxyRun :=
  if run.listening ∧ action.Own then
    (run.listener.next plist action).map fun listener => { run with listener }
  else none

def handleDevice (environment : ConnectEnvironment) (event : DeviceEvent) (run : ProxyRun) :
    ProxyRun :=
  match event with
  | .attached deviceId _ => connect bridge environment deviceId run
  | .detached deviceId _ => disconnect bridge deviceId run

def takeDevice (environment : ConnectEnvironment) (run : ProxyRun) : Option ProxyRun :=
  match run.phase with
  | .looping =>
      run.listener.channel.recv.map fun (event, channel) =>
        handleDevice bridge environment event { run with
          listener := { run.listener with channel, taken := run.listener.taken ++ [event] } }
  | _ => none

/-- The channel of the listener is closed and empty once its task is over. -/
def channelClosed (run : ProxyRun) : Option ProxyRun :=
  match run.phase with
  | .looping =>
      if run.listener.phase.Ended ∧ run.listener.channel.items = [] then
        some { run with phase := .stopping run.core.devices.keys }
      else none
  | _ => none

def seeCancelled (run : ProxyRun) : Option ProxyRun :=
  match run.phase with
  | .looping =>
      if run.Cancelled then some { run with phase := .stopping run.core.devices.keys } else none
  | _ => none

def handle (event : ProxyEvent) (run : ProxyRun) : Option ProxyRun :=
  match run.phase with
  | .looping => some { run with core := bridge.step run.core event }
  | _ => none

/-- The devices are disconnected in any order. -/
def disconnectNext (deviceId : String) (run : ProxyRun) : Option ProxyRun :=
  match run.phase with
  | .stopping left =>
      if deviceId ∈ left then
        some { disconnect bridge deviceId run with phase := .stopping (left.erase deviceId) }
      else none
  | _ => none

/-- With `run` its end of the channel of the listener is gone. -/
def finish (run : ProxyRun) : Option ProxyRun :=
  match run.phase with
  | .stopping [] => some { run with phase := .returned .ok, listener.receiverGone := true }
  | _ => none

/-- With the token of the whole proxy its child tokens are cancelled at once. -/
def cancel (run : ProxyRun) : ProxyRun :=
  { run with listener.cancelled := true, tasks := run.tasks.map SpawnedTasks.cancel }

def next (run : ProxyRun) : RunAction → Option ProxyRun
  | .begin binding environment => begin bridge binding environment run
  | .listener action => onListener plist action run
  | .takeDevice environment => takeDevice bridge environment run
  | .channelClosed => run.channelClosed
  | .takeWi deviceId event => handle bridge (.wiEvent deviceId event) run
  | .takeWs deviceId message => handle bridge (.wsMessage deviceId message) run
  | .takeRegistration deviceId registration =>
      handle bridge (.registration deviceId registration) run
  | .cancel => some run.cancel
  | .seeCancelled => run.seeCancelled
  | .disconnectNext deviceId => disconnectNext bridge deviceId run
  | .finish => run.finish

def step (run : ProxyRun) (action : RunAction) : ProxyRun := (next plist bridge run action).getD run

def run (actions : List RunAction) : ProxyRun := Transition.run (step plist bridge) start actions

end ProxyRun

end IosWebkitDebugProxy
