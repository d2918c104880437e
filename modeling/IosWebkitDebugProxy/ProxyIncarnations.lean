import IosWebkitDebugProxy.ProxyInert
import IosWebkitDebugProxy.ProxySessions

/-! Connections of one device that follow each other. The queues of the main
loop name only the device, and a forwarding task outlives the connection it was
made for, so an event can be handled on a later connection than its own. -/

namespace IosWebkitDebugProxy

open Transition

/-- An entry of a queue with the connection of the device that it comes from,
which the queue itself does not record. -/
structure Tagged (Item : Type) where
  incarnation : Nat
  deviceId : String
  item : Item

structure QueuedProxy where
  core : ProxyState
  connections : String → Nat
  wiEvents : List (Tagged WiEvent)
  wsMessages : List (Tagged WsToWiMessage)
  registrations : List (Tagged WiToWsRegistration)

inductive QueueAction where
  | attached (deviceId : String) (environment : ConnectEnvironment)
  | detached (deviceId : String)
  | sendWi (event : Tagged WiEvent)
  | sendWs (message : Tagged WsToWiMessage)
  | sendRegistration (registration : Tagged WiToWsRegistration)
  | takeWi
  | takeWs
  | takeRegistration

def ProxyEvent.deviceId : ProxyEvent → String
  | .attached deviceId _ => deviceId
  | .detached deviceId => deviceId
  | .wiEvent deviceId _ => deviceId
  | .wsMessage deviceId _ => deviceId
  | .registration deviceId _ => deviceId

def ProxyEvent.runtimeEvent : ProxyEvent → Option RuntimeEvent
  | .wiEvent _ (.recvPlist rpcDict) => (parseRpcMessage rpcDict).toOption.map .rpc
  | .wsMessage _ message => some (.wsMessage message)
  | .registration _ client => some (.registration client)
  | _ => none

namespace QueuedProxy

variable {bridge : ProxyBridge} {state : QueuedProxy}

/-- Any connection that was ever made may still put entries into the queues. -/
def Made {Item : Type} (state : QueuedProxy) (tagged : Tagged Item) : Prop :=
  0 < tagged.incarnation ∧ tagged.incarnation ≤ state.connections tagged.deviceId

instance {Item : Type} (state : QueuedProxy) (tagged : Tagged Item) :
    Decidable (state.Made tagged) :=
  inferInstanceAs (Decidable (_ ∧ _))

def attach (bridge : ProxyBridge) (deviceId : String) (environment : ConnectEnvironment)
    (state : QueuedProxy) : QueuedProxy :=
  let core := bridge.step state.core (.attached deviceId environment)
  if deviceId ∉ state.core.devices ∧ deviceId ∈ core.devices then
    { state with
      core
      connections := Function.update state.connections deviceId (state.connections deviceId + 1) }
  else { state with core }

def taken (state : QueuedProxy) : QueueAction → Option (Nat × ProxyEvent)
  | .takeWi => state.wiEvents.head?.map fun event =>
      (event.incarnation, .wiEvent event.deviceId event.item)
  | .takeWs => state.wsMessages.head?.map fun message =>
      (message.incarnation, .wsMessage message.deviceId message.item)
  | .takeRegistration => state.registrations.head?.map fun registration =>
      (registration.incarnation, .registration registration.deviceId registration.item)
  | _ => none

def handleTaken (bridge : ProxyBridge) (action : QueueAction) (state : QueuedProxy) : ProxyState :=
  match state.taken action with
  | some (_, event) => bridge.step state.core event
  | none => state.core

def step (bridge : ProxyBridge) (state : QueuedProxy) (action : QueueAction) : QueuedProxy :=
  match action with
  | .attached deviceId environment => state.attach bridge deviceId environment
  | .detached deviceId => { state with core := bridge.step state.core (.detached deviceId) }
  | .sendWi event =>
      if state.Made event then { state with wiEvents := state.wiEvents ++ [event] } else state
  | .sendWs message =>
      if state.Made message then { state with wsMessages := state.wsMessages ++ [message] }
      else state
  | .sendRegistration registration =>
      if state.Made registration then
        { state with registrations := state.registrations ++ [registration] }
      else state
  | .takeWi =>
      { state with core := state.handleTaken bridge .takeWi, wiEvents := state.wiEvents.tail }
  | .takeWs =>
      { state with core := state.handleTaken bridge .takeWs, wsMessages := state.wsMessages.tail }
  | .takeRegistration => { state with
      core := state.handleTaken bridge .takeRegistration
      registrations := state.registrations.tail }

def start (bridge : ProxyBridge) (environment : ConnectEnvironment) : QueuedProxy where
  core := bridge.start environment
  connections deviceId := if deviceId ∈ (bridge.start environment).devices then 1 else 0
  wiEvents := []
  wsMessages := []
  registrations := []

def TakesStale (state : QueuedProxy) (action : QueueAction) (event : ProxyEvent) : Prop :=
  ∃ incarnation, state.taken action = some (incarnation, event) ∧
    incarnation < state.connections event.deviceId

/-- Handling a stale event changes no runtime and nothing that is published. -/
def StaleHarmless (bridge : ProxyBridge) (state : QueuedProxy) (action : QueueAction) : Prop :=
  ∀ event, state.TakesStale action event →
    (state.step bridge action).core.devices = state.core.devices ∧
      (state.step bridge action).core.deviceListState = state.core.deviceListState

/-- Every stale event finds a runtime on which it has no effect. -/
def StaleInert (state : QueuedProxy) (action : QueueAction) : Prop :=
  ∀ event request runtime, state.TakesStale action event → event.runtimeEvent = some request →
    state.core.devices.lookup event.deviceId = some runtime → runtime.Inert request

def StaleShort (state : QueuedProxy) (action : QueueAction) : Prop :=
  ∀ event request, state.TakesStale action event → event.runtimeEvent = some request →
    DeviceRuntime.ShortListing request

theorem step_core_taken {action : QueueAction} {incarnation : Nat} {event : ProxyEvent}
    (taken : state.taken action = some (incarnation, event)) :
    (state.step bridge action).core = bridge.step state.core event := by
  cases action with
  | takeWi => simp only [step, handleTaken, taken]
  | takeWs => simp only [step, handleTaken, taken]
  | takeRegistration => simp only [step, handleTaken, taken]
  | _ => cases taken

theorem handleTaken_step (state : QueuedProxy) (action : QueueAction) :
    ∃ events, state.handleTaken bridge action = Transition.run bridge.step state.core events := by
  unfold handleTaken
  split
  · rename_i event _
    exact ⟨[event], rfl⟩
  · exact ⟨[], rfl⟩

theorem step_core (bridge : ProxyBridge) (state : QueuedProxy) (action : QueueAction) :
    ∃ events, (state.step bridge action).core = Transition.run bridge.step state.core events := by
  cases action with
  | attached deviceId environment =>
      refine ⟨[.attached deviceId environment], ?_⟩
      simp only [step, attach]
      split <;> rfl
  | detached deviceId => exact ⟨[.detached deviceId], rfl⟩
  | sendWi event =>
      refine ⟨[], ?_⟩
      simp only [step]
      split <;> rfl
  | sendWs message =>
      refine ⟨[], ?_⟩
      simp only [step]
      split <;> rfl
  | sendRegistration registration =>
      refine ⟨[], ?_⟩
      simp only [step]
      split <;> rfl
  | takeWi => exact handleTaken_step state .takeWi
  | takeWs => exact handleTaken_step state .takeWs
  | takeRegistration => exact handleTaken_step state .takeRegistration

theorem run_core (bridge : ProxyBridge) (environment : ConnectEnvironment)
    (actions : List QueueAction) :
    ∃ events, (Transition.run (step bridge) (start bridge environment) actions).core =
      bridge.run environment events := by
  refine run_invariant (fun state : QueuedProxy => ∃ events,
    state.core = bridge.run environment events) ⟨[], rfl⟩ ?_ actions
  rintro state action ⟨earlier, reached⟩
  obtain ⟨later, moved⟩ := step_core bridge state action
  refine ⟨earlier ++ later, ?_⟩
  rw [moved, reached, ProxyBridge.run, ProxyBridge.run, run_append]

theorem step_taken_devices {action : QueueAction} {incarnation : Nat} {event : ProxyEvent}
    (taken : state.taken action = some (incarnation, event)) :
    (bridge.step state.core event).devices =
      match event.runtimeEvent with
      | some request =>
          state.core.devices.modify event.deviceId fun runtime => runtime.handle request
      | none => state.core.devices := by
  cases event with
  | attached deviceId environment =>
      cases action <;> simp [QueuedProxy.taken] at taken
  | detached deviceId =>
      cases action <;> simp [QueuedProxy.taken] at taken
  | wiEvent deviceId event =>
      cases event with
      | recvPlist rpcDict =>
          simp only [ProxyBridge.step, ProxyBridge.handleWiEvent, ProxyEvent.runtimeEvent]
          cases parseRpcMessage rpcDict with
          | ok message => exact ProxyBridge.handleRpcMessage_devices deviceId message state.core
          | error _ => rfl
  | wsMessage deviceId message => rfl
  | registration deviceId registration => rfl

/-- Over any run with any interleaving of the queues, a stale event is harmless
where it is inert, and only there. -/
theorem run_staleHarmless_iff (bridge : ProxyBridge) (environment : ConnectEnvironment)
    (actions : List QueueAction) :
    Throughout (step bridge) (start bridge environment) actions fun state action =>
      (StaleInert state action → StaleHarmless bridge state action) ∧
        (StaleShort state action → StaleHarmless bridge state action →
          StaleInert state action) := by
  intro before action after _
  obtain ⟨events, reached⟩ := run_core bridge environment before
  have paged := run_paged bridge environment events
  have published := run_published bridge environment events
  have current := run_listCurrent bridge environment events
  rw [← reached] at paged published current
  generalize Transition.run (step bridge) (start bridge environment) before = state
    at paged published current ⊢
  have exactly (deviceId : String) (runtime : DeviceRuntime) (request : RuntimeEvent)
      (found : state.core.devices.lookup deviceId = some runtime) :=
    DeviceRuntime.handle_eq_self (paged deviceId runtime found)
      (published deviceId runtime found).connected request
  constructor
  · rintro inert event ⟨incarnation, taken, stale⟩
    have same : (bridge.step state.core event).devices = state.core.devices := by
      rw [step_taken_devices taken]
      split
      · rename_i request asked
        apply Table.modify_eq_self
        intro runtime found
        exact (exactly event.deviceId runtime request found).1
          (inert event request runtime ⟨incarnation, taken, stale⟩ asked found)
      · rfl
    rw [step_core_taken taken]
    refine ⟨same, ?_⟩
    have after : (bridge.step state.core event).ListCurrent :=
      ProxyBridge.step_listCurrent current event
    rw [after, current, same]
  · rintro short harmless event request runtime ⟨incarnation, taken, stale⟩ asked found
    have same := (harmless event ⟨incarnation, taken, stale⟩).1
    rw [step_core_taken taken, step_taken_devices taken, asked] at same
    have unchanged := congrArg (fun devices => devices.lookup event.deviceId) same
    simp only [Table.lookup_modify, if_true, found, Option.map_some, Option.some.injEq]
      at unchanged
    exact (exactly event.deviceId runtime request found).2
      (short event request ⟨incarnation, taken, stale⟩ asked) unchanged

def replugged : List QueueAction :=
  [.attached "UDID" phoneEnvironment,
    .sendWi ⟨1, "UDID", .recvPlist (listingMessage "PID:1" 1)⟩, .takeWi,
    .sendWs ⟨1, "UDID", ⟨1, "A", [], false⟩⟩,
    .detached "UDID", .attached "UDID" phoneEnvironment,
    .sendWi ⟨2, "UDID", .recvPlist (listingMessage "PID:2" 1)⟩, .takeWi]

/-- A setup from before the device was plugged in again opens a session on the
page that now has its number. -/
theorem stale_setup_not_harmless :
    ¬Throughout (step plainBridge) (start plainBridge idleEnvironment) (replugged ++ [.takeWs])
      (StaleHarmless plainBridge) := by
  intro harmless
  have taken : (Transition.run (step plainBridge) (start plainBridge idleEnvironment)
      replugged).taken .takeWs = some (1, .wsMessage "UDID" ⟨1, "A", [], false⟩) := rfl
  have stale : 1 < (Transition.run (step plainBridge) (start plainBridge idleEnvironment)
      replugged).connections "UDID" := by decide
  have same := (harmless replugged .takeWs [] rfl _ ⟨1, taken, stale⟩).1
  have written := congrArg
    (fun devices => (devices.lookup "UDID").map fun runtime => runtime.written) same
  revert written
  decide

end QueuedProxy

end IosWebkitDebugProxy
