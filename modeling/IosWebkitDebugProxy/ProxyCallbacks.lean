import IosWebkitDebugProxy.Library.History
import IosWebkitDebugProxy.Library.Sessions
import IosWebkitDebugProxy.CodecRoundTrip
import IosWebkitDebugProxy.ProxyPublished

/-! The calls that the embedding program gets for a device. They come in
sessions from connected to disconnected as long as the device reports its setup
once and sends page lists only after that. -/

namespace IosWebkitDebugProxy

open Transition

namespace ListenerCall

def info : ListenerCall → DeviceInfo
  | deviceConnected info => info
  | deviceDisconnected info => info
  | devicePageListChanged info _ => info

def mark : ListenerCall → SessionMark
  | deviceConnected _ => .opens
  | devicePageListChanged _ _ => .inside
  | deviceDisconnected _ => .closes

end ListenerCall

namespace DeviceRuntime

/-- What a message of the device tells the listener, once it has been handled. -/
def callsMade (message : RpcMessage) (runtime : DeviceRuntime) : List ListenerCall :=
  let handled := runtime.handleRpcMessage message
  match message with
  | .reportSetup => [.deviceConnected handled.deviceInfo]
  | .reportConnectedApplicationList _ =>
      if runtime.connected then [] else [.deviceConnected handled.deviceInfo]
  | .applicationDisconnected _ =>
      [.devicePageListChanged handled.deviceInfo handled.debuggablePages]
  | .applicationSentListing _ _ =>
      [.devicePageListChanged handled.deviceInfo handled.debuggablePages]
  | _ => []

theorem handleRpcMessage_connected (message : RpcMessage) (runtime : DeviceRuntime) :
    (runtime.handleRpcMessage message).connected = match message with
      | .reportSetup => true
      | .reportConnectedApplicationList _ => true
      | _ => runtime.connected := by
  have refreshes := handle_refreshes runtime (.rpc message)
  cases message with
  | reportSetup => rfl
  | reportConnectedApplicationList apps =>
      simp only [handleRpcMessage, (addListedApps_sameView apps _).connected]
      split
      · assumption
      · rfl
  | _ => exact (refreshes.sameDevice (by simp) (by simp)).connected

end DeviceRuntime

namespace ProxyState

def callsFor (deviceId : String) (state : ProxyState) : List ListenerCall :=
  state.listenerCalls.filter fun call => call.info.deviceId == deviceId

def isConnected (deviceId : String) (state : ProxyState) : Bool :=
  (state.devices.lookup deviceId).any DeviceRuntime.connected

end ProxyState

namespace ProxyBridge

variable {bridge : ProxyBridge} {state : ProxyState}

def shutdown (bridge : ProxyBridge) (state : ProxyState) : ProxyState :=
  state.devices.keys.foldl (fun state deviceId => bridge.disconnectDevice deviceId state) state

/-- A setup report of the device comes while it is not connected yet, and what
is about its pages comes while it is. -/
def MessageInTurn (connected : Bool) : RpcMessage → Prop
  | .reportSetup => connected = false
  | .applicationDisconnected _ => connected = true
  | .applicationSentListing _ _ => connected = true
  | _ => True

def InTurn (deviceId : String) (state : ProxyState) : ProxyEvent → Prop
  | .wiEvent handled (.recvPlist rpcDict) =>
      handled = deviceId → deviceId ∈ state.devices → ∀ message,
        parseRpcMessage rpcDict = .ok message → MessageInTurn (state.isConnected deviceId) message
  | _ => True

/-- What one event means for the calls about a device. It is in turn where the
session that the call belongs to is in the state of the device. -/
inductive Calls (deviceId : String) (state after : ProxyState) (turn : Prop) : Prop
  | quiet : after.callsFor deviceId = state.callsFor deviceId →
      after.isConnected deviceId = state.isConnected deviceId → turn →
      Calls deviceId state after turn
  | calls (call) : after.callsFor deviceId = state.callsFor deviceId ++ [call] →
      (turn → after.isConnected deviceId = call.mark.after) →
      (turn ↔ state.isConnected deviceId = call.mark.before) → Calls deviceId state after turn

theorem notify_listenerCalls (listening : bridge.hasListener = true) (call : ListenerCall) :
    (bridge.notify call state).listenerCalls = state.listenerCalls ++ [call] := by
  simp only [notify, listening, if_true]

variable (state) in
theorem handleRpcMessage_listenerCalls (listening : bridge.hasListener = true)
    (deviceId : String) (message : RpcMessage) :
    (bridge.handleRpcMessage deviceId message state).listenerCalls =
      state.listenerCalls ++
        ((state.devices.lookup deviceId).map (DeviceRuntime.callsMade message)).getD [] := by
  cases found : state.devices.lookup deviceId with
  | none =>
      cases message <;>
        simp [handleRpcMessage, notifyDeviceConnected, notifyPageListChanged, found,
          ProxyState.modifyDevice, ProxyState.updateDeviceList]
  | some runtime =>
      cases message with
      | reportConnectedApplicationList apps =>
          simp only [handleRpcMessage, found, DeviceRuntime.callsMade, Option.map_some,
            Option.getD_some]
          split
          · simp [ProxyState.modifyDevice]
          · simp [notifyDeviceConnected, found, notify_listenerCalls listening,
              ProxyState.modifyDevice, ProxyState.updateDeviceList]
      | _ =>
          simp [handleRpcMessage, notifyDeviceConnected, notifyPageListChanged, found,
            notify_listenerCalls listening, DeviceRuntime.callsMade, ProxyState.modifyDevice,
            ProxyState.updateDeviceList]

theorem deviceInfo_deviceId {deviceId : String} {runtime : DeviceRuntime}
    (published : runtime.Published deviceId) : runtime.deviceInfo.deviceId = deviceId := by
  have named := published.named
  simp only [DeviceRuntime.deviceInfo, named, Option.getD_some]

theorem callsMade_deviceId {deviceId : String} {runtime : DeviceRuntime}
    (published : runtime.Published deviceId) (message : RpcMessage) :
    ∀ call ∈ runtime.callsMade message, call.info.deviceId = deviceId := by
  have same : (runtime.handleRpcMessage message).deviceInfo.deviceId = deviceId :=
    deviceInfo_deviceId (DeviceRuntime.handle_published published (.rpc message))
  unfold DeviceRuntime.callsMade
  cases message with
  | reportSetup => simpa [ListenerCall.info] using same
  | reportConnectedApplicationList apps =>
      simp only
      split
      · simp
      · simpa [ListenerCall.info] using same
  | applicationDisconnected app => simpa [ListenerCall.info] using same
  | applicationSentListing appId pages => simpa [ListenerCall.info] using same
  | _ => simp

theorem filter_about (deviceId : String) {handled : String} {calls : List ListenerCall}
    (about : ∀ call ∈ calls, call.info.deviceId = handled) :
    calls.filter (fun call => call.info.deviceId == deviceId) =
      if handled = deviceId then calls else [] := by
  split
  · rename_i here
    rw [List.filter_eq_self]
    intro call member
    rw [about call member, here, beq_self_eq_true]
  · rename_i elsewhere
    rw [List.filter_eq_nil_iff]
    intro call member
    rw [about call member, beq_iff_eq]
    exact elsewhere

theorem inTurn_iff {deviceId : String} (attached : deviceId ∈ state.devices)
    {rpcDict : Plist.Value} {message : RpcMessage} (parsed : parseRpcMessage rpcDict = .ok message) :
    InTurn deviceId state (.wiEvent deviceId (.recvPlist rpcDict)) ↔
      MessageInTurn (state.isConnected deviceId) message := by
  simp [InTurn, attached, parsed]

theorem callsFor_append {after : ProxyState} {made : List ListenerCall} {handled : String}
    (deviceId : String) (shape : after.listenerCalls = state.listenerCalls ++ made)
    (about : ∀ call ∈ made, call.info.deviceId = handled) :
    after.callsFor deviceId =
      state.callsFor deviceId ++ if handled = deviceId then made else [] := by
  rw [ProxyState.callsFor, shape, List.filter_append, filter_about deviceId about]
  rfl

theorem isConnected_of_lookup {after : ProxyState} {deviceId : String}
    (same : after.devices.lookup deviceId = state.devices.lookup deviceId) :
    after.isConnected deviceId = state.isConnected deviceId := by
  rw [ProxyState.isConnected, same, ProxyState.isConnected]

theorem handledMessage_calls {after : ProxyState} {deviceId : String} {runtime : DeviceRuntime}
    (found : state.devices.lookup deviceId = some runtime) (attached : deviceId ∈ state.devices)
    {rpcDict : Plist.Value} {message : RpcMessage} (parsed : parseRpcMessage rpcDict = .ok message)
    (calls : after.callsFor deviceId = state.callsFor deviceId ++ runtime.callsMade message)
    (lookup : after.devices.lookup deviceId =
      (state.devices.lookup deviceId).map (DeviceRuntime.handleRpcMessage message)) :
    Calls deviceId state after (InTurn deviceId state (.wiEvent deviceId (.recvPlist rpcDict))) := by
  have turn := inTurn_iff attached parsed
  have before : state.isConnected deviceId = runtime.connected := by
    rw [ProxyState.isConnected, found, Option.any_some]
  have now : after.isConnected deviceId = (runtime.handleRpcMessage message).connected := by
    rw [ProxyState.isConnected, lookup, found, Option.map_some, Option.any_some]
  rw [DeviceRuntime.handleRpcMessage_connected] at now
  cases message with
  | reportSetup => exact .calls _ calls (fun _ => now) turn
  | reportConnectedApplicationList apps =>
      cases connected : runtime.connected with
      | true =>
          simp only [DeviceRuntime.callsMade, connected, if_true, List.append_nil] at calls
          exact .quiet calls (by rw [now, before, connected]) (turn.mpr trivial)
      | false =>
          simp only [DeviceRuntime.callsMade, connected, Bool.false_eq_true, if_false] at calls
          refine .calls _ calls (fun _ => now) ⟨fun _ => ?_, fun _ => turn.mpr trivial⟩
          rw [before, connected]
          rfl
  | applicationDisconnected app =>
      refine .calls _ calls (fun inTurn => ?_) turn
      rw [now, ← before, turn.mp inTurn]
      rfl
  | applicationSentListing appId pages =>
      refine .calls _ calls (fun inTurn => ?_) turn
      rw [now, ← before, turn.mp inTurn]
      rfl
  | _ =>
      simp only [DeviceRuntime.callsMade, List.append_nil] at calls
      exact .quiet calls (by rw [now, before]) (turn.mpr trivial)

theorem handleRpcMessage_calls (listening : bridge.hasListener = true)
    (published : ∀ deviceId runtime, state.devices.lookup deviceId = some runtime →
      runtime.Published deviceId) (deviceId : String) {rpcDict : Plist.Value}
    {message : RpcMessage} (parsed : parseRpcMessage rpcDict = .ok message) (handled : String) :
    Calls deviceId state (bridge.handleRpcMessage handled message state)
      (InTurn deviceId state (.wiEvent handled (.recvPlist rpcDict))) := by
  have made := handleRpcMessage_listenerCalls state listening handled message
  have devices : (bridge.handleRpcMessage handled message state).devices = _ :=
    handleRpcMessage_devices handled message state
  have lookup := congrArg (AList.lookup deviceId) devices
  rw [Table.lookup_modify] at lookup
  cases found : state.devices.lookup handled with
  | none =>
      rw [found, Option.map_none, Option.getD_none, List.append_nil] at made
      refine .quiet (by rw [ProxyState.callsFor, made, ProxyState.callsFor])
        (isConnected_of_lookup ?_) ?_
      · rw [lookup]
        split
        · rename_i here
          rw [here, found, Option.map_none]
        · rfl
      · rintro rfl attached
        exact absurd attached (AList.lookup_eq_none.mp found)
  | some runtime =>
      have about := callsMade_deviceId (published handled runtime found) message
      rw [found, Option.map_some, Option.getD_some] at made
      have calls := callsFor_append deviceId made about
      by_cases here : handled = deviceId
      · subst here
        rw [if_pos rfl] at calls lookup
        have attached : handled ∈ state.devices := Table.mem_of_lookup found
        exact handledMessage_calls found attached parsed calls lookup
      · rw [if_neg here, List.append_nil] at calls
        refine .quiet calls (isConnected_of_lookup ?_) fun same => absurd same here
        rw [lookup, if_neg fun same => here same.symm]

theorem disconnectDevice_calls (listening : bridge.hasListener = true)
    (published : ∀ deviceId runtime, state.devices.lookup deviceId = some runtime →
      runtime.Published deviceId) (deviceId handled : String) :
    Calls deviceId state (bridge.disconnectDevice handled state) True := by
  have removed : (bridge.disconnectDevice handled state).devices = _ :=
    disconnectDevice_devices handled state
  have devices := congrArg (AList.lookup deviceId) removed
  cases found : state.devices.lookup handled with
  | none =>
      have same : bridge.disconnectDevice handled state = state.updateDeviceList := by
        simp only [disconnectDevice, found]
      rw [same]
      exact .quiet rfl rfl trivial
  | some runtime =>
      have about : ∀ call ∈ [ListenerCall.deviceDisconnected runtime.deviceInfo],
          call.info.deviceId = handled := by
        simpa [ListenerCall.info] using deviceInfo_deviceId (published handled runtime found)
      have made : (bridge.disconnectDevice handled state).listenerCalls = state.listenerCalls ++
          if runtime.connected then [.deviceDisconnected runtime.deviceInfo] else [] := by
        simp only [disconnectDevice, found]
        split
        · exact notify_listenerCalls listening _
        · simp [ProxyState.updateDeviceList]
      by_cases here : deviceId = handled
      · subst here
        rw [AList.lookup_erase] at devices
        have now : (bridge.disconnectDevice deviceId state).isConnected deviceId = false := by
          rw [ProxyState.isConnected, devices, Option.any_none]
        have before : state.isConnected deviceId = runtime.connected := by
          rw [ProxyState.isConnected, found, Option.any_some]
        cases connected : runtime.connected with
        | true =>
            rw [connected, if_pos rfl] at made
            refine .calls (.deviceDisconnected runtime.deviceInfo)
              ((callsFor_append _ made about).trans (by rw [if_pos rfl])) (fun _ => now) ?_
            simp [before, connected, ListenerCall.mark, SessionMark.before]
        | false =>
            simp only [connected, Bool.false_eq_true, if_false, List.append_nil] at made
            exact .quiet (by rw [ProxyState.callsFor, made, ProxyState.callsFor])
              (by rw [now, before, connected]) trivial
      · have calls : (bridge.disconnectDevice handled state).callsFor deviceId =
            state.callsFor deviceId := by
          have elsewhere : ¬handled = deviceId := fun same => here same.symm
          have told : ∀ call ∈ if runtime.connected
              then [ListenerCall.deviceDisconnected runtime.deviceInfo] else [],
              call.info.deviceId = handled := by
            split
            · exact about
            · simp
          have whole := callsFor_append deviceId made told
          rw [if_neg elsewhere, List.append_nil] at whole
          exact whole
        refine .quiet calls (isConnected_of_lookup ?_) trivial
        rw [devices, AList.lookup_erase_ne here]

variable (bridge state) in
theorem connectDevice_calls (environment : ConnectEnvironment) (deviceId handled : String) :
    Calls deviceId state (bridge.connectDevice environment handled state) True := by
  unfold connectDevice
  split
  · exact .quiet rfl rfl trivial
  · rename_i absent
    split
    · rename_i port connection codec _ _
      refine .quiet rfl ?_ trivial
      by_cases here : deviceId = handled
      · subst here
        simp [ProxyState.isConnected, ProxyState.updateDeviceList, AList.lookup_eq_none.mpr absent,
          newRuntime]
      · exact isConnected_of_lookup (by simp [ProxyState.updateDeviceList, here])
    · exact .quiet rfl rfl trivial

theorem modifyDevice_calls (deviceId handled : String) {update : DeviceRuntime → DeviceRuntime}
    (same : ∀ runtime, (update runtime).connected = runtime.connected) :
    Calls deviceId state (state.modifyDevice handled update) True := by
  refine .quiet rfl ?_ trivial
  simp only [ProxyState.isConnected, modifyDevice_devices, Table.lookup_modify]
  split
  · cases state.devices.lookup deviceId with
    | none => rfl
    | some runtime => simp [same]
  · rfl

theorem step_calls (listening : bridge.hasListener = true)
    (published : ∀ deviceId runtime, state.devices.lookup deviceId = some runtime →
      runtime.Published deviceId) (deviceId : String) (event : ProxyEvent) :
    Calls deviceId state (bridge.step state event) (InTurn deviceId state event) := by
  cases event with
  | attached handled environment => exact connectDevice_calls bridge state environment deviceId handled
  | detached handled => exact disconnectDevice_calls listening published deviceId handled
  | wiEvent handled event =>
      cases event with
      | recvPlist rpcDict =>
          simp only [step, handleWiEvent]
          split
          · rename_i message parsed
            exact handleRpcMessage_calls listening published deviceId parsed handled
          · rename_i error parsed
            refine .quiet rfl rfl ?_
            intro _ _ message other
            rw [parsed] at other
            cases other
  | wsMessage handled message =>
      exact modifyDevice_calls deviceId handled fun runtime =>
        (DeviceRuntime.handleWsMessage_sameView runtime message).connected
  | registration handled registration =>
      exact modifyDevice_calls deviceId handled fun _ => rfl

/-- The calls about a device come in sessions, of which the last is open just
while the device is connected. -/
def InSession (deviceId : String) (state : ProxyState) : Prop :=
  InSessions ListenerCall.mark (state.isConnected deviceId) (state.callsFor deviceId)

/-- If the calls come in sessions at all, the last is open while the device is connected. -/
def Aligned (deviceId : String) (state : ProxyState) : Prop :=
  ∀ opened, InSessions ListenerCall.mark opened (state.callsFor deviceId) →
    opened = state.isConnected deviceId

theorem Calls.aligned {deviceId : String} {after : ProxyState} {turn : Prop}
    (aligned : Aligned deviceId state) (calls : Calls deviceId state after turn) :
    Aligned deviceId after := by
  intro opened sessions
  cases calls with
  | quiet same connected =>
      rw [same] at sessions
      rw [connected]
      exact aligned opened sessions
  | calls call made connected inTurn =>
      rw [made, InSessions.concat_iff] at sessions
      obtain ⟨rfl, earlier⟩ := sessions
      exact (connected (inTurn.mpr (aligned _ earlier).symm)).symm

theorem Calls.inSession_iff {deviceId : String} {after : ProxyState} {turn : Prop}
    (aligned : Aligned deviceId state) (calls : Calls deviceId state after turn) :
    InSession deviceId after ↔ InSession deviceId state ∧ turn := by
  cases calls with
  | quiet same connected holds =>
      rw [InSession, same, connected]
      exact ⟨fun sessions => ⟨sessions, holds⟩, And.left⟩
  | calls call made connected inTurn =>
      rw [InSession, made, InSessions.concat_iff]
      constructor
      · rintro ⟨_, earlier⟩
        have before := aligned _ earlier
        refine ⟨?_, inTurn.mpr before.symm⟩
        rw [InSession, ← before]
        exact earlier
      · rintro ⟨sessions, holds⟩
        refine ⟨connected holds, ?_⟩
        rw [← inTurn.mp holds]
        exact sessions

variable (bridge) in
theorem start_inSession (environment : ConnectEnvironment) (deviceId : String) :
    InSession deviceId (bridge.start environment) ∧ Aligned deviceId (bridge.start environment) := by
  have empty : Aligned deviceId ProxyState.empty := fun opened sessions => InSessions.nil_iff.mp sessions
  have calls := connectDevice_calls bridge .empty environment deviceId
    "SIMULATOR"
  exact ⟨(calls.inSession_iff empty).mpr ⟨.nil, trivial⟩, calls.aligned empty⟩

theorem run_inSession_iff (listening : bridge.hasListener = true)
    (environment : ConnectEnvironment) (events : List ProxyEvent) (deviceId : String) :
    InSession deviceId (bridge.run environment events) ↔
      Throughout bridge.step (bridge.start environment) events (InTurn deviceId) := by
  have initial := start_inSession bridge environment deviceId
  have aligned : Aligned deviceId (bridge.run environment events) ∧
      (InSession deviceId (bridge.run environment events) ↔
        Throughout bridge.step (bridge.start environment) events (InTurn deviceId)) := by
    induction events using List.reverseRecOn with
    | nil => exact ⟨initial.2, fun _ => throughout_nil _, fun _ => initial.1⟩
    | append_singleton events event ih =>
        have calls := step_calls listening (run_published bridge environment events) deviceId event
        rw [run, run_concat, throughout_concat, ← run, ← ih.2]
        exact ⟨calls.aligned ih.1, calls.inSession_iff ih.1⟩
  exact aligned.2

theorem shutdown_eq_run (environment : ConnectEnvironment) (events : List ProxyEvent) :
    bridge.shutdown (bridge.run environment events) = bridge.run environment
      (events ++ (bridge.run environment events).devices.keys.map .detached) := by
  rw [run, run, run_append, ← run]
  generalize bridge.run environment events = state
  rw [shutdown, Transition.run, List.foldl_map]
  rfl

theorem shutdown_isConnected (deviceId : String) :
    (bridge.shutdown state).isConnected deviceId = false := by
  have devices : (bridge.shutdown state).devices =
      state.devices.eraseAll state.devices.keys := by
    rw [shutdown, Table.eraseAll]
    exact (List.foldl_hom ProxyState.devices
      fun state deviceId => (disconnectDevice_devices deviceId state).symm).symm
  rw [ProxyState.isConnected, devices, Table.lookup_eraseAll]
  split
  · rfl
  · rename_i absent
    rw [AList.lookup_eq_none.mpr (mt AList.mem_keys.mp absent)]
    rfl

theorem shutdown_inSession (listening : bridge.hasListener = true)
    {environment : ConnectEnvironment} {events : List ProxyEvent} {deviceId : String}
    (sessions : InSession deviceId (bridge.run environment events)) :
    InSession deviceId (bridge.shutdown (bridge.run environment events)) := by
  rw [run_inSession_iff listening] at sessions
  rw [shutdown_eq_run, run_inSession_iff listening, throughout_append]
  refine ⟨sessions, ?_⟩
  intro before event after split
  have member : event ∈ (bridge.run environment events).devices.keys.map ProxyEvent.detached := by
    rw [split]
    simp
  obtain ⟨detached, _, rfl⟩ := List.mem_map.mp member
  trivial

theorem step_silent (silent : bridge.hasListener = false) (event : ProxyEvent) :
    (bridge.step state event).listenerCalls = state.listenerCalls := by
  have quiet (call : ListenerCall) (state : ProxyState) : bridge.notify call state = state := by
    simp [notify, silent]
  have connected (deviceId : String) (state : ProxyState) :
      bridge.notifyDeviceConnected deviceId state = state := by
    unfold notifyDeviceConnected
    split <;> simp [quiet]
  have listed (deviceId : String) (state : ProxyState) :
      bridge.notifyPageListChanged deviceId state = state := by
    unfold notifyPageListChanged
    split <;> simp [quiet]
  cases event with
  | attached deviceId environment =>
      simp only [step, connectDevice]
      split
      · rfl
      · split <;> rfl
  | detached deviceId =>
      simp only [step, disconnectDevice, quiet, ite_self]
      split <;> rfl
  | wiEvent deviceId event =>
      cases event with
      | recvPlist rpcDict =>
          simp only [step, handleWiEvent]
          split
          · rename_i message _
            simp only [handleRpcMessage, connected, listed]
            cases message with
            | reportConnectedApplicationList apps =>
                simp only
                split
                · split <;> rfl
                · rfl
            | _ => rfl
          · rfl
  | wsMessage deviceId message => rfl
  | registration deviceId registration => rfl

theorem run_silent (silent : bridge.hasListener = false) (environment : ConnectEnvironment)
    (events : List ProxyEvent) : (bridge.run environment events).listenerCalls = [] := by
  refine run_invariant (fun state : ProxyState => state.listenerCalls = []) ?_ ?_ events
  · exact step_silent silent (.attached "SIMULATOR" environment)
  · intro state event none
    rw [step_silent silent event, none]

/-- The calls about a device come in sessions, those of a device that is not
connected are complete, and after the shutdown all are. -/
structure FollowsProtocol (bridge : ProxyBridge) (state : ProxyState) (deviceId : String) :
    Prop where
  running : InSessions ListenerCall.mark (bridge.hasListener && state.isConnected deviceId)
    (state.callsFor deviceId)
  shutdown : InSessions ListenerCall.mark false ((bridge.shutdown state).callsFor deviceId)

/-- Every run follows the protocol exactly when the device reports its setup
only before it is connected and its pages only while it is. -/
theorem run_followsProtocol_iff (bridge : ProxyBridge) (environment : ConnectEnvironment)
    (events : List ProxyEvent) (deviceId : String) :
    FollowsProtocol bridge (bridge.run environment events) deviceId ↔
      (bridge.hasListener = true →
        Throughout bridge.step (bridge.start environment) events (InTurn deviceId)) := by
  cases listening : bridge.hasListener with
  | false =>
      refine ⟨fun _ impossible => (Bool.false_ne_true impossible).elim, fun _ => ⟨?_, ?_⟩⟩
      · rw [listening, Bool.false_and, ProxyState.callsFor, run_silent listening]
        exact .nil
      · rw [shutdown_eq_run, ProxyState.callsFor, run_silent listening]
        exact .nil
  | true =>
      rw [forall_prop_of_true rfl, ← run_inSession_iff listening]
      constructor
      · intro follows
        have running := follows.running
        rw [listening, Bool.true_and] at running
        exact running
      · intro sessions
        refine ⟨by rw [listening, Bool.true_and]; exact sessions, ?_⟩
        have complete := shutdown_inSession listening sessions
        rw [InSession, shutdown_isConnected] at complete
        exact complete

def setupTwice : List ProxyEvent :=
  [.attached "UDID" phoneEnvironment, .wiEvent "UDID" (.recvPlist reportSetupPlist),
    .wiEvent "UDID" (.recvPlist reportSetupPlist)]

/-- A second setup report connects a device that is connected already. -/
theorem repeated_setup_connects_twice :
    ¬∀ bridge environment events deviceId,
      FollowsProtocol bridge (bridge.run environment events) deviceId := by
  intro follows
  have sessions := (follows ⟨none, none, true⟩ idleEnvironment setupTwice "UDID").running
  have calls : (run ⟨none, none, true⟩ idleEnvironment setupTwice).callsFor "UDID" =
      [.deviceConnected ⟨"UDID", "iPhone", 0x120000, 49152⟩] ++
        [.deviceConnected ⟨"UDID", "iPhone", 0x120000, 49152⟩] := by decide
  rw [calls, InSessions.concat_iff, ← List.nil_append [_], InSessions.concat_iff] at sessions
  exact Bool.false_ne_true sessions.2.1

end ProxyBridge

end IosWebkitDebugProxy
