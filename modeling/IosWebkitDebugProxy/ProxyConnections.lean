import IosWebkitDebugProxy.ProxyIncarnations

/-! One device among all that the main loop serves. Its runtime is the one that its last
connection began with, and what its own events have made of it since. Whatever the main
loop handles for other devices in between does not get there. -/

namespace IosWebkitDebugProxy

open Transition ProxyState

/-- What the main loop hands to the runtime of a device. -/
def ownEvents (deviceId : String) (events : List ProxyEvent) : List RuntimeEvent :=
  (events.filter fun event => event.deviceId = deviceId).filterMap ProxyEvent.runtimeEvent

theorem ownEvents_append (deviceId : String) (earlier later : List ProxyEvent) :
    ownEvents deviceId (earlier ++ later) =
      ownEvents deviceId earlier ++ ownEvents deviceId later := by
  simp [ownEvents]

theorem ownEvents_cons (deviceId : String) (event : ProxyEvent) (events : List ProxyEvent) :
    ownEvents deviceId (event :: events) =
      ownEvents deviceId [event] ++ ownEvents deviceId events :=
  ownEvents_append deviceId [event] events

theorem ownEvents_singleton (deviceId : String) (event : ProxyEvent) :
    ownEvents deviceId [event] =
      if event.deviceId = deviceId then event.runtimeEvent.toList else [] := by
  by_cases here : event.deviceId = deviceId
  · cases asked : event.runtimeEvent <;> simp [ownEvents, here, asked]
  · simp [ownEvents, here]

/-- No event changes what a device is called, or its port. -/
theorem DeviceRuntime.handle_deviceInfo (runtime : DeviceRuntime) (event : RuntimeEvent) :
    (runtime.handle event).deviceInfo = runtime.deviceInfo := by
  cases runtime.handle_refreshes event with
  | quiet _ same => exact same.deviceInfo
  | reportSetup same => exact same.deviceInfo
  | reportConnected _ _ same => exact same.deviceInfo
  | listed _ same _ => exact same.deviceInfo

namespace ProxyBridge

variable {bridge : ProxyBridge} {state : ProxyState} {event : ProxyEvent}
variable {events : List ProxyEvent} {deviceId : String} {runtime start : DeviceRuntime}

/-- What connecting to a device starts with, where it succeeds. -/
def connects (bridge : ProxyBridge) (told : ConnectEnvironment) (deviceId : String)
    (devices : Table String DeviceRuntime) : Option DeviceRuntime :=
  match bridge.bindPort told devices, connectWebInspector told deviceId with
  | some port, some (connection, codec) =>
      some (bridge.newRuntime told deviceId port connection codec)
  | _, _ => none

/-- The device was connected to last by this event of the run, with this runtime, and has
not gone since. These are its events since then. -/
def ConnectedSince (bridge : ProxyBridge) (events : List ProxyEvent) (deviceId : String)
    (start : DeviceRuntime) (own : List RuntimeEvent) : Prop :=
  ∃ before after told, events = before ++ .attached deviceId told :: after ∧
    deviceId ∉ (Transition.run bridge.step .empty before).devices ∧
    bridge.connects told deviceId (Transition.run bridge.step .empty before).devices = some start ∧
    ProxyEvent.detached deviceId ∉ after ∧ own = ownEvents deviceId after

theorem connects_new {told : ConnectEnvironment} {devices : Table String DeviceRuntime}
    (connected : bridge.connects told deviceId devices = some start) :
    ∃ port connection codec, connectWebInspector told deviceId = some (connection, codec) ∧
      start = bridge.newRuntime told deviceId port connection codec := by
  unfold connects at connected
  split at connected
  · rename_i port connection codec _ given
    cases connected
    exact ⟨port, connection, codec, given, rfl⟩
  · cases connected

theorem connectDevice_connects (told : ConnectEnvironment) (absent : deviceId ∉ state.devices) :
    (bridge.connectDevice told deviceId state).devices =
      match bridge.connects told deviceId state.devices with
      | some start => state.devices.assign deviceId start
      | none => state.devices := by
  rw [connectDevice, if_neg absent, connects]
  cases bridge.bindPort told state.devices with
  | none => rfl
  | some port => cases connectWebInspector told deviceId <;> rfl

theorem step_attached {told : ConnectEnvironment} (absent : deviceId ∉ state.devices)
    (connected : bridge.connects told deviceId state.devices = some start) :
    (bridge.step state (.attached deviceId told)).devices.lookup deviceId = some start := by
  rw [step, connectDevice_connects told absent, connected]
  simp

theorem step_handles (state : ProxyState) (attach : ∀ told, event ≠ .attached event.deviceId told)
    (detach : event ≠ .detached event.deviceId) :
    (bridge.step state event).devices =
      match event.runtimeEvent with
      | some request => state.devices.modify event.deviceId fun runtime => runtime.handle request
      | none => state.devices := by
  cases event with
  | attached deviceId told => exact absurd rfl (attach told)
  | detached deviceId => exact absurd rfl detach
  | wiEvent deviceId event =>
      cases event with
      | recvPlist rpcDict =>
          simp only [step, handleWiEvent, ProxyEvent.runtimeEvent]
          cases parseRpcMessage rpcDict with
          | ok message => exact handleRpcMessage_devices deviceId message state
          | error _ => rfl
  | wsMessage deviceId message => rfl
  | registration deviceId registration => rfl

/-- Until it goes, a device keeps its runtime but for what its own events do to it. -/
theorem step_keeps (found : state.devices.lookup deviceId = some runtime)
    (stays : event ≠ .detached deviceId) :
    (bridge.step state event).devices.lookup deviceId =
      some (Transition.run DeviceRuntime.handle runtime (ownEvents deviceId [event])) := by
  by_cases attach : ∃ told, event = .attached event.deviceId told
  · obtain ⟨told, same⟩ := attach
    rw [same]
    generalize event.deviceId = other
    have quiet : ownEvents deviceId [.attached other told] = [] := by
      rw [ownEvents_singleton]
      split <;> rfl
    rw [quiet, step]
    by_cases known : other ∈ state.devices
    · rw [connectDevice, if_pos known]
      exact found
    · have other' : deviceId ≠ other := by
        rintro rfl
        exact known (Table.mem_of_lookup found)
      rw [connectDevice_connects told known]
      split
      · rw [Table.lookup_assign, if_neg other']
        exact found
      · exact found
  · by_cases detach : event = .detached event.deviceId
    · have other : deviceId ≠ event.deviceId := by
        rintro rfl
        exact stays detach
      have quiet : ownEvents deviceId [event] = [] := by
        rw [ownEvents_singleton, if_neg (Ne.symm other)]
      rw [quiet, detach, step, disconnectDevice_devices, AList.lookup_erase_ne other]
      exact found
    · rw [step_handles state (not_exists.mp attach) detach]
      by_cases here : event.deviceId = deviceId
      · cases asked : event.runtimeEvent with
        | none => simpa [ownEvents_singleton, asked, here, Transition.run] using found
        | some request => simp [ownEvents_singleton, asked, here, found, Transition.run]
      · have other : ¬deviceId = event.deviceId := fun same => here same.symm
        cases event.runtimeEvent with
        | none => simpa [ownEvents_singleton, here, Transition.run] using found
        | some request => simp [ownEvents_singleton, here, other, found, Transition.run]

theorem run_keeps (found : state.devices.lookup deviceId = some runtime)
    (stays : ProxyEvent.detached deviceId ∉ events) :
    (Transition.run bridge.step state events).devices.lookup deviceId =
      some (Transition.run DeviceRuntime.handle runtime (ownEvents deviceId events)) := by
  induction events generalizing state runtime with
  | nil => exact found
  | cons event events ih =>
      rw [List.mem_cons, not_or] at stays
      obtain ⟨first, rest⟩ := stays
      rw [run_cons, ih (step_keeps found (Ne.symm first)) rest, ownEvents_cons deviceId event events,
        run_append]

theorem step_connects (absent : state.devices.lookup deviceId = none)
    (found : (bridge.step state event).devices.lookup deviceId = some runtime) :
    ∃ told, event = .attached deviceId told ∧
      bridge.connects told deviceId state.devices = some runtime := by
  by_cases attach : ∃ told, event = .attached event.deviceId told
  · obtain ⟨told, same⟩ := attach
    rw [same] at found ⊢
    generalize event.deviceId = other at found ⊢
    rw [step] at found
    by_cases known : other ∈ state.devices
    · rw [connectDevice, if_pos known, absent] at found
      cases found
    · rw [connectDevice_connects told known] at found
      split at found
      · rename_i start connected
        rw [Table.lookup_assign] at found
        split at found
        · rename_i here
          subst here
          cases found
          exact ⟨told, rfl, connected⟩
        · rw [absent] at found
          cases found
      · rw [absent] at found
        cases found
  · exfalso
    by_cases detach : event = .detached event.deviceId
    · rw [detach, step, disconnectDevice_devices] at found
      rw [Table.lookup_of_erase found] at absent
      cases absent
    · rw [step_handles state (not_exists.mp attach) detach] at found
      split at found
      · rw [Table.lookup_modify, absent] at found
        split at found <;> cases found
      · rw [absent] at found
        cases found

theorem ConnectedSince.append {own : List RuntimeEvent} {later : List ProxyEvent}
    (since : ConnectedSince bridge events deviceId start own)
    (stays : ProxyEvent.detached deviceId ∉ later) :
    ConnectedSince bridge (events ++ later) deviceId start (own ++ ownEvents deviceId later) := by
  obtain ⟨before, after, told, rfl, absent, connected, kept, rfl⟩ := since
  refine ⟨before, after ++ later, told, by simp, absent, connected, ?_,
    (ownEvents_append deviceId after later).symm⟩
  rw [List.mem_append]
  exact not_or.mpr ⟨kept, stays⟩

theorem run_connected
    (found : (Transition.run bridge.step .empty events).devices.lookup deviceId = some runtime) :
    ∃ start own, ConnectedSince bridge events deviceId start own ∧
      runtime = Transition.run DeviceRuntime.handle start own := by
  induction events using List.reverseRecOn generalizing runtime with
  | nil => cases found
  | append_singleton events event ih =>
      rw [run_concat] at found
      cases before : (Transition.run bridge.step .empty events).devices.lookup deviceId with
      | none =>
          obtain ⟨told, rfl, connected⟩ := step_connects before found
          exact ⟨runtime, [], ⟨events, [], told, rfl, AList.lookup_eq_none.mp before, connected,
            List.not_mem_nil, rfl⟩, rfl⟩
      | some earlier =>
          have stays : event ≠ .detached deviceId := by
            rintro rfl
            rw [step, disconnectDevice_devices, AList.lookup_erase] at found
            cases found
          obtain ⟨start, own, since, rfl⟩ := ih before
          rw [step_keeps before stays] at found
          cases found
          exact ⟨start, _, since.append (by simpa using Ne.symm stays), (run_append _ _).symm⟩

theorem run_start (bridge : ProxyBridge) (environment : ConnectEnvironment)
    (events : List ProxyEvent) : bridge.run environment events =
      Transition.run bridge.step .empty (.attached "SIMULATOR" environment :: events) :=
  rfl

theorem ConnectedSince.found {environment : ConnectEnvironment} {own : List RuntimeEvent}
    (since : ConnectedSince bridge (.attached "SIMULATOR" environment :: events) deviceId start
      own) :
    (bridge.run environment events).devices.lookup deviceId =
      some (Transition.run DeviceRuntime.handle start own) := by
  obtain ⟨before, after, told, split, absent, connected, stays, rfl⟩ := since
  rw [run_start, split, run_append, run_cons]
  exact run_keeps (step_attached absent connected) stays

/-- The main loop serves every device as if it served this one alone: in every run over
all devices, what a device is and has been sent is what its own events since its last
connection make of the runtime that this connection began with. -/
theorem run_servesAlone (bridge : ProxyBridge) (environment : ConnectEnvironment)
    (events : List ProxyEvent) (deviceId : String) (runtime : DeviceRuntime) :
    (bridge.run environment events).devices.lookup deviceId = some runtime ↔
      ∃ start own, ConnectedSince bridge (.attached "SIMULATOR" environment :: events) deviceId
          start own ∧ runtime = Transition.run DeviceRuntime.handle start own := by
  constructor
  · intro found
    rw [run_start] at found
    exact run_connected found
  · rintro ⟨start, own, since, rfl⟩
    exact since.found

end ProxyBridge

end IosWebkitDebugProxy
