import IosWebkitDebugProxy.Library.Transition
import IosWebkitDebugProxy.ProxyCore

/-! Runs of the main loop. What a run does to the table of devices is a sequence
of four moves, so whatever the handlers of one device keep holds of every device
in every state that is reached. -/

namespace IosWebkitDebugProxy

open Transition

namespace ProxyBridge

variable {bridge : ProxyBridge}

def run (bridge : ProxyBridge) (environment : ConnectEnvironment) (events : List ProxyEvent) :
    ProxyState :=
  Transition.run bridge.step (bridge.start environment) events

/-- Everything that one round of the main loop can do to the table of devices. -/
inductive Moves (bridge : ProxyBridge) (devices : Table String DeviceRuntime) :
    Table String DeviceRuntime → Prop
  | idle : Moves bridge devices devices
  | connect (deviceId environment port connection codec) : deviceId ∉ devices →
      Moves bridge devices
        (devices.assign deviceId (bridge.newRuntime environment deviceId port connection codec))
  | disconnect (deviceId) : Moves bridge devices (devices.erase deviceId)
  | handle (deviceId event) :
      Moves bridge devices (devices.modify deviceId fun runtime => runtime.handle event)

@[simp] theorem notify_devices (call : ListenerCall) (state : ProxyState) :
    (bridge.notify call state).devices = state.devices := by
  unfold notify
  split <;> rfl

@[simp] theorem notifyDeviceConnected_devices (deviceId : String) (state : ProxyState) :
    (bridge.notifyDeviceConnected deviceId state).devices = state.devices := by
  unfold notifyDeviceConnected
  split <;> simp

@[simp] theorem notifyPageListChanged_devices (deviceId : String) (state : ProxyState) :
    (bridge.notifyPageListChanged deviceId state).devices = state.devices := by
  unfold notifyPageListChanged
  split <;> simp

@[simp] theorem updateDeviceList_devices (state : ProxyState) :
    state.updateDeviceList.devices = state.devices := rfl

@[simp] theorem modifyDevice_devices (deviceId : String) (update : DeviceRuntime → DeviceRuntime)
    (state : ProxyState) :
    (state.modifyDevice deviceId update).devices = state.devices.modify deviceId update := rfl

theorem connectDevice_moves (environment : ConnectEnvironment) (deviceId : String)
    (state : ProxyState) :
    bridge.Moves state.devices (bridge.connectDevice environment deviceId state).devices := by
  unfold connectDevice
  split
  · exact .idle
  · rename_i absent
    split
    · exact .connect _ _ _ _ _ absent
    · exact .idle

theorem connectDevice_unconnected {environment : ConnectEnvironment} {deviceId : String}
    {state : ProxyState} (unconnected : connectWebInspector environment deviceId = none) :
    bridge.connectDevice environment deviceId state = state := by
  unfold connectDevice
  rw [unconnected]
  split
  · rfl
  · split
    · rename_i _ _ some
      cases some
    · rfl

theorem disconnectDevice_devices (deviceId : String) (state : ProxyState) :
    (bridge.disconnectDevice deviceId state).devices = state.devices.erase deviceId := by
  unfold disconnectDevice
  split
  · rename_i runtime found
    by_cases connected : runtime.connected <;> simp [connected]
  · rename_i missing
    have absent : deviceId ∉ state.devices := AList.lookup_eq_none.mp missing
    exact (Table.erase_eq_self absent).symm

theorem handleRpcMessage_devices (deviceId : String) (message : RpcMessage) (state : ProxyState) :
    (bridge.handleRpcMessage deviceId message state).devices =
      state.devices.modify deviceId (DeviceRuntime.handleRpcMessage message) := by
  cases message with
  | reportConnectedApplicationList apps =>
      unfold handleRpcMessage
      simp only
      split
      · split <;> simp
      · rfl
  | _ => simp [handleRpcMessage]

theorem handleWiEvent_devices (deviceId : String) (event : WiEvent) (state : ProxyState) :
    (bridge.handleWiEvent deviceId event state).devices = state.devices ∨
      ∃ message, (bridge.handleWiEvent deviceId event state).devices =
        state.devices.modify deviceId fun runtime => runtime.handle (.rpc message) := by
  cases event with
  | recvPlist rpcDict =>
      simp only [handleWiEvent]
      split
      · rename_i message parsed
        exact .inr ⟨message, handleRpcMessage_devices deviceId message state⟩
      · exact .inl rfl

theorem step_moves (state : ProxyState) (event : ProxyEvent) :
    bridge.Moves state.devices (bridge.step state event).devices := by
  cases event with
  | attached deviceId environment => exact connectDevice_moves environment deviceId state
  | detached deviceId =>
      simp only [step, disconnectDevice_devices]
      exact .disconnect deviceId
  | wiEvent deviceId event =>
      rw [step]
      rcases handleWiEvent_devices deviceId event state with same | ⟨message, handled⟩
      · rw [same]
        exact .idle
      · rw [handled]
        exact .handle deviceId (.rpc message)
  | wsMessage deviceId message => exact .handle deviceId (.wsMessage message)
  | registration deviceId registration => exact .handle deviceId (.registration registration)

theorem run_devices {Holds : String → DeviceRuntime → Prop}
    (fresh : ∀ environment deviceId port connection codec,
      Holds deviceId (bridge.newRuntime environment deviceId port connection codec))
    (keeps : ∀ deviceId runtime event, Holds deviceId runtime →
      Holds deviceId (runtime.handle event))
    (environment : ConnectEnvironment) (events : List ProxyEvent) :
    ∀ deviceId runtime, (bridge.run environment events).devices.lookup deviceId = some runtime →
      Holds deviceId runtime := by
  have move : ∀ before after, bridge.Moves before after →
      (∀ deviceId runtime, before.lookup deviceId = some runtime → Holds deviceId runtime) →
      ∀ deviceId runtime, after.lookup deviceId = some runtime → Holds deviceId runtime := by
    intro before after moved valid deviceId runtime found
    cases moved with
    | idle => exact valid deviceId runtime found
    | connect attached environment port connection codec absent =>
        rw [Table.lookup_assign] at found
        split at found
        · rename_i here
          cases found
          rw [here]
          exact fresh environment attached port connection codec
        · exact valid deviceId runtime found
    | disconnect detached => exact valid deviceId runtime (Table.lookup_of_erase found)
    | handle handled event =>
        rcases Table.lookup_of_modify found with ⟨_, old, stored, rfl⟩ | ⟨_, found⟩
        · exact keeps deviceId old event (valid deviceId old stored)
        · exact valid deviceId runtime found
  refine run_invariant (fun state : ProxyState => ∀ deviceId runtime,
    state.devices.lookup deviceId = some runtime → Holds deviceId runtime) ?_ ?_ events
  · exact move ∅ _ (connectDevice_moves environment "SIMULATOR" .empty) (by simp)
  · intro state event valid
    exact move _ _ (step_moves state event) valid

end ProxyBridge

/-! A phone with one page, for the runs that show a fault. -/

def phoneConnection : DeviceConnection := ⟨"iPhone", 0x120000, none⟩

def phoneEnvironment : ConnectEnvironment := ⟨fun _ => true, some 49152, some phoneConnection, "U"⟩

def idleEnvironment : ConnectEnvironment := ⟨fun _ => true, some 49151, none, "U"⟩

def plainBridge : ProxyBridge := ⟨none, none, false⟩

def phoneRuntime : DeviceRuntime :=
  plainBridge.newRuntime phoneEnvironment "UDID" 49152 phoneConnection (.new false false)

open Plist in
def listingMessage (appId : String) (pageId : Nat) : Value :=
  .dictionary [("__selector", .string "_rpc_applicationSentListing:"),
    ("__argument", .dictionary [("WIRApplicationIdentifierKey", .string appId),
      ("WIRListingKey", .dictionary [("1", .dictionary [
        ("WIRPageIdentifierKey", .integer pageId), ("WIRTypeKey", .string "WIRTypeWebPage")])])])]

end IosWebkitDebugProxy
