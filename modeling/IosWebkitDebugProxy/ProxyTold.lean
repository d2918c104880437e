import IosWebkitDebugProxy.ProxyCallbacks
import IosWebkitDebugProxy.ProxyConnections
import IosWebkitDebugProxy.ProxyHolders

/-! What the embedding program knows of a device. It has only the calls of its listener,
one after another. The last list of pages in them is what the table of the device holds. -/

namespace IosWebkitDebugProxy

open Transition

/-- What a program that keeps the last list knows after a call. -/
def pagesTold (known : List DebuggablePageInfo) : ListenerCall → List DebuggablePageInfo
  | .devicePageListChanged _ pages => pages
  | _ => known

namespace DeviceRuntime

variable {runtime : DeviceRuntime}

/-- What an event tells the listener, once it has been handled. -/
def callsOf (runtime : DeviceRuntime) : RuntimeEvent → List ListenerCall
  | .rpc message => runtime.callsMade message
  | _ => []

section View

variable {View : Type} {view : PageInfo → View}
variable (held : ∀ page wsId, view (PageInfo.hold wsId page) = view page)
variable (released : ∀ page, view (PageInfo.release page) = view page)

include released in
theorem stopDevtools_view (runtime : DeviceRuntime) (num : Nat) :
    (runtime.stopDevtools num).pages.values.map view = runtime.pages.values.map view := by
  unfold stopDevtools
  split
  · rfl
  · split
    · rfl
    · simp only [send_pages]
      exact Table.map_values_modifyWhere view .release released _

include held in
theorem openDevtools_view (runtime : DeviceRuntime) (wsId : String) (num : Nat) :
    (runtime.openDevtools wsId num).pages.values.map view = runtime.pages.values.map view := by
  unfold openDevtools
  split
  · rfl
  · rw [send_pages]
    exact Table.map_values_modifyWhere view (.hold wsId) (fun page => held page wsId) _

include held released in
theorem handleWsMessage_view (runtime : DeviceRuntime) (message : WsToWiMessage) :
    (runtime.handleWsMessage message).pages.values.map view = runtime.pages.values.map view := by
  unfold handleWsMessage
  split
  · exact stopDevtools_view released runtime message.pageNum
  · split
    · unfold sendForwardSocketSetup
      split
      · split
        · rw [openDevtools_view held, stopDevtools_view released]
        · exact openDevtools_view held runtime message.wsId message.pageNum
      · exact openDevtools_view held runtime message.wsId message.pageNum
    · unfold forwardData
      split
      · rfl
      · rw [send_pages]

end View

/-- A page as the listener is told of it. -/
def described (info : DeviceInfo) (page : PageInfo) : DebuggablePageInfo where
  deviceId := info.deviceId
  pageNum := page.pageNum
  pageType := page.pageType
  name := page.title.getD ""
  webSocketDebuggerUrl :=
    "ws://localhost:" ++ toString info.port ++ "/devtools/page/" ++ toString page.pageNum
  deviceOsVersion := info.deviceOsVersion

theorem debuggablePages_eq (runtime : DeviceRuntime) :
    runtime.debuggablePages = runtime.pages.values.map (described runtime.deviceInfo) := rfl

/-- Only a listing and the end of an application change what there is to tell, and both
tell it. -/
theorem pagesTold_handle (runtime : DeviceRuntime) (event : RuntimeEvent) :
    run pagesTold runtime.debuggablePages (runtime.callsOf event) =
      (runtime.handle event).debuggablePages := by
  have quiet (calls : run pagesTold runtime.debuggablePages (runtime.callsOf event) =
        runtime.debuggablePages)
      (pages : (runtime.handle event).pages.values.map (described runtime.deviceInfo) =
        runtime.pages.values.map (described runtime.deviceInfo)) :
      run pagesTold runtime.debuggablePages (runtime.callsOf event) =
        (runtime.handle event).debuggablePages := by
    rw [calls, debuggablePages_eq, debuggablePages_eq, handle_deviceInfo, pages]
  cases event with
  | wsMessage message =>
      exact quiet rfl (handleWsMessage_view (fun _ _ => rfl) (fun _ => rfl) runtime message)
  | registration registration => exact quiet rfl rfl
  | rpc message =>
      cases message with
      | reportConnectedApplicationList apps =>
          have pages : (runtime.handle (.rpc (.reportConnectedApplicationList apps))).pages =
              runtime.pages := by
            refine (addListedApps_pages apps _).trans ?_
            split <;> rfl
          refine quiet ?_ (by rw [pages])
          simp only [callsOf, callsMade]
          split <;> rfl
      | applicationConnected app =>
          have pages : (runtime.handle (.rpc (.applicationConnected app))).pages = runtime.pages :=
            addAppId_pages app.appId _
          exact quiet rfl (by rw [pages])
      | applicationDisconnected app => rfl
      | applicationSentListing appId items => rfl
      | applicationSentData appId destId data =>
          refine quiet rfl ?_
          simp only [handle, handleRpcMessage, handleAppData]
          split <;> rfl
      | applicationUpdated appId destId =>
          have pages : (runtime.handle (.rpc (.applicationUpdated appId destId))).pages =
              runtime.pages := addAppId_pages destId _
          exact quiet rfl (by rw [pages])
      | _ => exact quiet rfl rfl

theorem run_pagesTold (start : DeviceRuntime) (events : List RuntimeEvent) :
    run pagesTold start.debuggablePages (collected handle callsOf start events) =
      (run handle start events).debuggablePages := by
  induction events generalizing start with
  | nil => rfl
  | cons event events ih => rw [collected, run_append, pagesTold_handle, ih, run_cons]

end DeviceRuntime

namespace ProxyBridge

variable {bridge : ProxyBridge} {state : ProxyState} {event : ProxyEvent}
variable {events : List ProxyEvent} {deviceId : String} {runtime start : DeviceRuntime}
variable {own : List RuntimeEvent}

def AllPublished (state : ProxyState) : Prop :=
  ∀ deviceId runtime, state.devices.lookup deviceId = some runtime → runtime.Published deviceId

theorem step_published (bridge : ProxyBridge) (published : AllPublished state)
    (event : ProxyEvent) : AllPublished (bridge.step state event) := by
  intro deviceId runtime found
  have moved := bridge.step_moves state event
  generalize (bridge.step state event).devices = after at found moved
  cases moved with
  | idle => exact published deviceId runtime found
  | connect attached told port connection codec absent =>
      rw [Table.lookup_assign] at found
      split at found
      · rename_i here
        cases found
        rw [here]
        exact newRuntime_published bridge told attached port connection codec
      · exact published deviceId runtime found
  | disconnect detached => exact published deviceId runtime (Table.lookup_of_erase found)
  | handle handled event =>
      rcases Table.lookup_of_modify found with ⟨_, old, stored, rfl⟩ | ⟨_, stored⟩
      · exact DeviceRuntime.handle_published (published deviceId old stored) event
      · exact published deviceId runtime stored

theorem attached_listenerCalls (bridge : ProxyBridge) (state : ProxyState) (deviceId : String)
    (told : ConnectEnvironment) :
    (bridge.step state (.attached deviceId told)).listenerCalls = state.listenerCalls := by
  simp only [step, connectDevice]
  split
  · rfl
  · split <;> rfl

/-- The calls about a device are those that its own events make. -/
theorem step_callsFor (listening : bridge.hasListener = true) (published : AllPublished state)
    (found : state.devices.lookup deviceId = some runtime) (stays : event ≠ .detached deviceId) :
    (bridge.step state event).callsFor deviceId = state.callsFor deviceId ++
      collected DeviceRuntime.handle DeviceRuntime.callsOf runtime (ownEvents deviceId [event]) := by
  have quiet (calls : (bridge.step state event).listenerCalls = state.listenerCalls)
      (none : collected DeviceRuntime.handle DeviceRuntime.callsOf runtime
        (ownEvents deviceId [event]) = []) :
      (bridge.step state event).callsFor deviceId = state.callsFor deviceId ++
        collected DeviceRuntime.handle DeviceRuntime.callsOf runtime
          (ownEvents deviceId [event]) := by
    rw [none, List.append_nil, ProxyState.callsFor, calls, ProxyState.callsFor]
  cases event with
  | attached other told =>
      refine quiet (attached_listenerCalls bridge state other told) ?_
      rw [ownEvents_singleton]
      split <;> rfl
  | detached other =>
      have apart : other ≠ deviceId := fun same => stays (congrArg _ same)
      have none : ownEvents deviceId [.detached other] = [] := by
        rw [ownEvents_singleton]
        exact if_neg apart
      cases gone : state.devices.lookup other with
      | none =>
          refine quiet ?_ (by rw [none]; rfl)
          simp only [step, disconnectDevice, gone]
          rfl
      | some last =>
          have made : (bridge.step state (.detached other)).listenerCalls = state.listenerCalls ++
              if last.connected then [.deviceDisconnected last.deviceInfo] else [] := by
            simp only [step, disconnectDevice, gone]
            split
            · exact notify_listenerCalls listening _
            · exact (List.append_nil _).symm
          have about : ∀ call ∈ (if last.connected then
              [ListenerCall.deviceDisconnected last.deviceInfo] else []),
              call.info.deviceId = other := by
            have named := deviceInfo_deviceId (published other last gone)
            split
            · simpa [ListenerCall.info] using named
            · simp
          rw [callsFor_append deviceId made about, if_neg apart, none]
          rfl
  | wiEvent other event =>
      obtain ⟨rpcDict⟩ := event
      cases parsed : parseRpcMessage rpcDict with
      | error reason =>
          refine quiet ?_ ?_
          · simp only [step, handleWiEvent, parsed]
          · simp only [ownEvents_singleton, ProxyEvent.runtimeEvent, parsed]
            split <;> rfl
      | ok message =>
          have made := handleRpcMessage_listenerCalls state listening other message
          have handled : bridge.step state (.wiEvent other (.recvPlist rpcDict)) =
              bridge.handleRpcMessage other message state := by
            simp only [step, handleWiEvent, parsed]
          have about : ∀ call ∈ ((state.devices.lookup other).map
              (DeviceRuntime.callsMade message)).getD [], call.info.deviceId = other := by
            cases known : state.devices.lookup other with
            | none => simp
            | some last => exact callsMade_deviceId (published other last known) message
          rw [handled, callsFor_append deviceId made about]
          by_cases here : other = deviceId
          · subst here
            simp [ownEvents_singleton, ProxyEvent.deviceId, ProxyEvent.runtimeEvent, parsed,
              Except.toOption, collected, found, DeviceRuntime.callsOf]
          · simp [ownEvents_singleton, ProxyEvent.deviceId, here, collected]
  | wsMessage other message =>
      refine quiet rfl ?_
      rw [ownEvents_singleton]
      split <;> rfl
  | registration other registration =>
      refine quiet rfl ?_
      rw [ownEvents_singleton]
      split <;> rfl

theorem run_callsFor (listening : bridge.hasListener = true) (published : AllPublished state)
    (found : state.devices.lookup deviceId = some runtime)
    (stays : ProxyEvent.detached deviceId ∉ events) :
    (Transition.run bridge.step state events).callsFor deviceId = state.callsFor deviceId ++
      collected DeviceRuntime.handle DeviceRuntime.callsOf runtime (ownEvents deviceId events) := by
  induction events generalizing state runtime with
  | nil => exact (List.append_nil _).symm
  | cons event events ih =>
      rw [List.mem_cons, not_or] at stays
      obtain ⟨first, rest⟩ := stays
      rw [run_cons, ih (step_published bridge published event)
        (step_keeps found (Ne.symm first)) rest, step_callsFor listening published found
        (Ne.symm first), ownEvents_cons deviceId event events, collected_append, List.append_assoc]

/-- In every state of every run, the embedding program was told of a device, since it was
connected to, what the device's own events say, and the last list of pages that it was told
is the one that the device has. -/
theorem run_tellsPages (listening : bridge.hasListener = true) {environment : ConnectEnvironment}
    (since : ConnectedSince bridge (.attached "SIMULATOR" environment :: events) deviceId start own) :
    ∃ runtime earlier later told,
      (bridge.run environment events).devices.lookup deviceId = some runtime ∧
      .attached "SIMULATOR" environment :: events = earlier ++ .attached deviceId told :: later ∧
      deviceId ∉ (Transition.run bridge.step .empty earlier).devices ∧
      ProxyEvent.detached deviceId ∉ later ∧
      (bridge.run environment events).callsFor deviceId =
        (Transition.run bridge.step .empty earlier).callsFor deviceId ++
          collected DeviceRuntime.handle DeviceRuntime.callsOf start own ∧
      (Transition.run pagesTold [] (collected DeviceRuntime.handle DeviceRuntime.callsOf start
        own)).Perm runtime.debuggablePages := by
  have found := since.found
  obtain ⟨earlier, later, told, split, absent, connected, stays, rfl⟩ := since
  refine ⟨_, earlier, later, told, found, split, absent, stays, ?_, ?_⟩
  · have published : AllPublished (Transition.run bridge.step .empty earlier) :=
      run_invariant AllPublished (by simp [AllPublished, ProxyState.empty])
        (fun _ event kept => step_published bridge kept event) earlier
    rw [run_start, split, run_append, run_cons,
      run_callsFor listening (step_published bridge published _) (step_attached absent connected)
        stays]
    simp only [ProxyState.callsFor, attached_listenerCalls]
  · obtain ⟨port, connection, codec, _, rfl⟩ := connects_new connected
    have none : (bridge.newRuntime told deviceId port connection codec).debuggablePages = [] := by
      rw [DeviceRuntime.debuggablePages_eq, newRuntime, DeviceRuntime.send_pages]
      rfl
    rw [← none, DeviceRuntime.run_pagesTold]

def toldEvents : List ProxyEvent :=
  [.attached "UDID" phoneEnvironment, .wiEvent "UDID" (.recvPlist (listingMessage "PID:1" 1)),
    .wsMessage "UDID" ⟨1, "A", [], false⟩]

def toldOwn : List RuntimeEvent :=
  [.rpc (.applicationSentListing "PID:1" [⟨1, .webPage, none, none, none⟩]),
    .wsMessage ⟨1, "A", [], false⟩]

theorem run_tellsPages_phone :
    ∃ runtime earlier later told,
      (run ⟨none, none, true⟩ idleEnvironment toldEvents).devices.lookup "UDID" = some runtime ∧
      .attached "SIMULATOR" idleEnvironment :: toldEvents =
        earlier ++ .attached "UDID" told :: later ∧
      "UDID" ∉ (Transition.run (step ⟨none, none, true⟩) .empty earlier).devices ∧
      ProxyEvent.detached "UDID" ∉ later ∧
      (run ⟨none, none, true⟩ idleEnvironment toldEvents).callsFor "UDID" =
        (Transition.run (step ⟨none, none, true⟩) .empty earlier).callsFor "UDID" ++
          collected DeviceRuntime.handle DeviceRuntime.callsOf phoneRuntime toldOwn ∧
      (Transition.run pagesTold [] (collected DeviceRuntime.handle DeviceRuntime.callsOf
        phoneRuntime toldOwn)).Perm runtime.debuggablePages :=
  run_tellsPages rfl ⟨[.attached "SIMULATOR" idleEnvironment], toldEvents.tail, phoneEnvironment,
    rfl, by decide, rfl, by simp [toldEvents], rfl⟩

end ProxyBridge

end IosWebkitDebugProxy
