import Mathlib.Data.List.ReduceOption
import IosWebkitDebugProxy.ProxyPages

/-! What the proxy publishes, compared with its table of devices. The device
list, the connected flag and the page list of the HTTP servers are copies that
the handlers refresh by hand. They agree with the table after every event. -/

namespace IosWebkitDebugProxy

def PageEntry.shown (entry : PageEntry) : Nat × String × Nat × Option String × Option String :=
  (entry.pageNum, entry.appId, entry.pageId, entry.title, entry.url)

def PageInfo.shown (page : PageInfo) : Nat × String × Nat × Option String × Option String :=
  (page.pageNum, page.appId, page.pageId, page.title, page.url)

namespace DeviceRuntime

variable {runtime before after : DeviceRuntime}

theorem syncedPages_shown (runtime : DeviceRuntime) :
    runtime.syncedPages.map PageEntry.shown =
      (runtime.pages.values.map PageInfo.shown).insertionSort
        fun first second => first.1 ≤ second.1 := by
  have mapped := List.map_insertionSort
    (fun first second : PageEntry => first.pageNum ≤ second.pageNum)
    (fun first second : Nat × String × Nat × Option String × Option String => first.1 ≤ second.1)
    PageEntry.shown (runtime.pages.values.map PageInfo.entry) fun _ _ _ _ => Iff.rfl
  rw [List.map_map] at mapped
  exact mapped

theorem syncedPages_perm (runtime : DeviceRuntime) :
    (runtime.syncedPages.map PageEntry.shown).Perm (runtime.pages.values.map PageInfo.shown) := by
  rw [syncedPages_shown]
  exact List.perm_insertionSort _ _

theorem pageNums_nodup (valid : PageTable runtime.pages) :
    (runtime.pages.values.map PageInfo.pageNum).Nodup := by
  have keys : runtime.pages.values.map PageInfo.pageNum = runtime.pages.entries.keys := by
    simp only [Table.values, List.map_map, List.keys]
    apply List.map_congr_left
    rintro ⟨num, page⟩ member
    exact valid.numbered num page (Table.mem_entries.mp member)
  rw [keys]
  exact runtime.pages.nodupKeys

theorem syncedPages_sorted (valid : PageTable runtime.pages) :
    (runtime.syncedPages.map PageEntry.shown).Pairwise fun first second => first.1 < second.1 := by
  have sorted : (runtime.syncedPages.map PageEntry.shown).Pairwise
      fun first second => first.1 ≤ second.1 := by
    have total : Std.Total fun first second : Nat × String × Nat × Option String × Option String =>
        first.1 ≤ second.1 := ⟨fun first second => Nat.le_total first.1 second.1⟩
    have trans : IsTrans _ fun first second : Nat × String × Nat × Option String × Option String =>
        first.1 ≤ second.1 := ⟨fun _ _ _ => Nat.le_trans⟩
    rw [syncedPages_shown]
    exact List.pairwise_insertionSort _ _
  have distinct : (runtime.syncedPages.map PageEntry.shown).Pairwise
      fun first second => first.1 ≠ second.1 := by
    have perm := (syncedPages_perm runtime).map Prod.fst
    rw [List.map_map (l := runtime.pages.values)] at perm
    exact List.pairwise_map.mp (perm.nodup_iff.mpr (pageNums_nodup valid))
  exact sorted.imp₂ (fun _ _ bound apart => Nat.lt_of_le_of_ne bound apart) distinct

structure SameDevice (before after : DeviceRuntime) : Prop where
  deviceId : after.deviceId = before.deviceId
  deviceInfo : after.deviceInfo = before.deviceInfo
  connected : after.connected = before.connected
  shared : after.sharedState.connected = before.sharedState.connected

theorem SameDevice.trans {first second third : DeviceRuntime} (earlier : SameDevice first second)
    (later : SameDevice second third) : SameDevice first third :=
  ⟨later.deviceId.trans earlier.deviceId, later.deviceInfo.trans earlier.deviceInfo,
    later.connected.trans earlier.connected, later.shared.trans earlier.shared⟩

structure SameView (before after : DeviceRuntime) : Prop extends SameDevice before after where
  pages : after.sharedState.pages = before.sharedState.pages
  shown : after.pages.values.map PageInfo.shown = before.pages.values.map PageInfo.shown

namespace SameView

theorem refl (runtime : DeviceRuntime) : SameView runtime runtime := ⟨⟨rfl, rfl, rfl, rfl⟩, rfl, rfl⟩

theorem trans {first second third : DeviceRuntime} (earlier : SameView first second)
    (later : SameView second third) : SameView first third :=
  ⟨earlier.toSameDevice.trans later.toSameDevice, later.pages.trans earlier.pages,
    later.shown.trans earlier.shown⟩

theorem send (command : RpcCommand) (runtime : DeviceRuntime) :
    SameView runtime (runtime.send command) :=
  ⟨⟨by simp, by simp, by simp, by simp⟩, by simp, by simp⟩

end SameView

theorem stopDevtools_sameView (runtime : DeviceRuntime) (num : Nat) :
    SameView runtime (runtime.stopDevtools num) := by
  unfold stopDevtools
  split
  · exact .refl runtime
  · split
    · exact .refl runtime
    · rename_i page _ _ sender _
      have closed := SameView.send (.forwardDidClose page.appId page.pageId sender) runtime
      exact ⟨⟨closed.deviceId, closed.deviceInfo, closed.connected, closed.shared⟩, closed.pages,
        (Table.map_values_modifyWhere PageInfo.shown .release (fun _ => rfl) _).trans closed.shown⟩

theorem openDevtools_sameView (runtime : DeviceRuntime) (wsId : String) (num : Nat) :
    SameView runtime (runtime.openDevtools wsId num) := by
  unfold openDevtools
  split
  · exact .refl runtime
  · refine SameView.trans ?_ (.send _ _)
    exact ⟨⟨rfl, rfl, rfl, rfl⟩, rfl,
      Table.map_values_modifyWhere PageInfo.shown (.hold wsId) (fun _ => rfl) _⟩

theorem sendForwardSocketSetup_sameView (runtime : DeviceRuntime) (wsId : String) (num : Nat) :
    SameView runtime (runtime.sendForwardSocketSetup wsId num) := by
  unfold sendForwardSocketSetup
  split
  · split
    · exact (stopDevtools_sameView runtime num).trans (openDevtools_sameView _ wsId num)
    · exact openDevtools_sameView runtime wsId num
  · exact openDevtools_sameView runtime wsId num

theorem handleWsMessage_sameView (runtime : DeviceRuntime) (message : WsToWiMessage) :
    SameView runtime (runtime.handleWsMessage message) := by
  unfold handleWsMessage
  split
  · have stopped := stopDevtools_sameView runtime message.pageNum
    exact ⟨⟨stopped.deviceId, stopped.deviceInfo, stopped.connected, stopped.shared⟩,
      stopped.pages, stopped.shown⟩
  · split
    · exact sendForwardSocketSetup_sameView runtime message.wsId message.pageNum
    · unfold forwardData
      split
      · exact .refl runtime
      · exact .send _ runtime

theorem addAppId_sameView (runtime : DeviceRuntime) (appId : String) :
    SameView runtime (runtime.addAppId appId) := by
  unfold addAppId
  split
  · exact .refl runtime
  · refine SameView.trans ?_ (.send _ _)
    exact ⟨⟨rfl, rfl, rfl, rfl⟩, rfl, rfl⟩

theorem addListedApps_sameView (apps : List RpcApp) (runtime : DeviceRuntime) :
    SameView runtime (apps.foldl addListedApp runtime) := by
  apply List.foldlRecOn apps addListedApp (SameView.refl runtime)
  intro known same app _
  apply (same.trans (addAppId_sameView known app.appId)).trans
  exact ⟨⟨rfl, rfl, rfl, rfl⟩, rfl, rfl⟩

theorem handleAppData_sameView (runtime : DeviceRuntime) (destId : String) (data : List UInt8) :
    SameView runtime (runtime.handleAppData destId data) := by
  unfold handleAppData
  split <;> exact ⟨⟨rfl, rfl, rfl, rfl⟩, rfl, rfl⟩

theorem listPage_sameDevice (appId : String) (runtime : DeviceRuntime) (item : RpcPage) :
    SameDevice runtime (runtime.listPage appId item) := by
  unfold listPage
  split <;> exact ⟨rfl, rfl, rfl, rfl⟩

theorem handlePageListing_sameDevice (runtime : DeviceRuntime) (appId : String)
    (items : List RpcPage) : SameDevice runtime (runtime.handlePageListing appId items) := by
  have listed : SameDevice runtime (items.foldl (listPage appId) runtime) :=
    List.foldlRecOn items (listPage appId) ⟨rfl, rfl, rfl, rfl⟩ fun known same item _ =>
      same.trans (listPage_sameDevice appId known item)
  exact listed.trans ⟨rfl, rfl, rfl, rfl⟩

/-- What an event does to the published views: nothing, connect the device, or
refresh its page list. -/
inductive Refreshes (runtime after : DeviceRuntime) : RuntimeEvent → Prop
  | quiet (event) : SameView runtime after → Refreshes runtime after event
  | reportSetup : SameView runtime.setConnected after → Refreshes runtime after (.rpc .reportSetup)
  | reportConnected (apps) : runtime.connected = false → SameView runtime.setConnected after →
      Refreshes runtime after (.rpc (.reportConnectedApplicationList apps))
  | listed (event) : SameDevice runtime after → after.sharedState.pages = after.syncedPages →
      Refreshes runtime after event

theorem handle_refreshes (runtime : DeviceRuntime) (event : RuntimeEvent) :
    Refreshes runtime (runtime.handle event) event := by
  cases event with
  | rpc message =>
      cases message with
      | reportSetup => exact .reportSetup (.refl _)
      | reportConnectedApplicationList apps =>
          cases connected : runtime.connected with
          | true =>
              simp only [handle, handleRpcMessage, connected, if_true]
              exact .quiet _ (addListedApps_sameView apps runtime)
          | false =>
              simp only [handle, handleRpcMessage, connected, Bool.false_eq_true, if_false]
              exact .reportConnected apps connected (addListedApps_sameView apps _)
      | applicationConnected app =>
          refine .quiet _ (SameView.trans ?_ (addAppId_sameView _ app.appId))
          exact ⟨⟨rfl, rfl, rfl, rfl⟩, rfl, rfl⟩
      | applicationDisconnected app => exact .listed _ ⟨rfl, rfl, rfl, rfl⟩ rfl
      | applicationSentListing appId items =>
          exact .listed _ (handlePageListing_sameDevice runtime appId items) rfl
      | applicationSentData appId destId data =>
          exact .quiet _ (handleAppData_sameView runtime destId data)
      | applicationUpdated appId destId => exact .quiet _ (addAppId_sameView runtime destId)
      | unknown selector => exact .quiet _ (.refl runtime)
  | wsMessage message => exact .quiet _ (handleWsMessage_sameView runtime message)
  | registration registration => exact .quiet _ ⟨⟨rfl, rfl, rfl, rfl⟩, rfl, rfl⟩

theorem Refreshes.sameDevice {event : RuntimeEvent} (refreshes : Refreshes runtime after event)
    (notSetup : event ≠ .rpc .reportSetup)
    (connected : ∀ apps, event = .rpc (.reportConnectedApplicationList apps) →
      runtime.connected = true) : SameDevice runtime after := by
  cases refreshes with
  | quiet _ same => exact same.toSameDevice
  | reportSetup same => exact absurd rfl notSetup
  | reportConnected apps waiting same =>
      rw [connected apps rfl] at waiting
      cases waiting
  | listed _ same synced => exact same

structure Published (deviceId : String) (runtime : DeviceRuntime) : Prop where
  named : runtime.deviceId = some deviceId
  connected : runtime.sharedState.connected = runtime.connected
  pages : runtime.sharedState.pages.map PageEntry.shown =
    runtime.syncedPages.map PageEntry.shown

theorem Published.sameView {deviceId : String} (valid : Published deviceId before)
    (same : SameView before after) : Published deviceId after := by
  refine ⟨same.deviceId.trans valid.named, ?_, ?_⟩
  · rw [same.shared, valid.connected, same.connected]
  · rw [same.pages, valid.pages, syncedPages_shown, syncedPages_shown, same.shown]

theorem handle_published {deviceId : String} (valid : Published deviceId runtime)
    (event : RuntimeEvent) : Published deviceId (runtime.handle event) := by
  have connecting : Published deviceId runtime.setConnected := ⟨valid.named, rfl, valid.pages⟩
  cases handle_refreshes runtime event with
  | quiet _ same => exact valid.sameView same
  | reportSetup same => exact connecting.sameView same
  | reportConnected _ _ same => exact connecting.sameView same
  | listed _ same synced =>
      refine ⟨same.deviceId.trans valid.named, ?_, by rw [synced]⟩
      rw [same.shared, valid.connected, same.connected]

end DeviceRuntime

theorem newRuntime_published (bridge : ProxyBridge) (environment : ConnectEnvironment)
    (deviceId : String) (port : Nat) (connection : DeviceConnection) (codec : WebInspectorCodec) :
    (bridge.newRuntime environment deviceId port connection codec).Published deviceId := by
  apply DeviceRuntime.Published.sameView _ (.send _ _)
  exact ⟨rfl, rfl, rfl⟩

def DeviceRuntime.listed (runtime : DeviceRuntime) : Option DeviceInfo :=
  if runtime.connected && runtime.deviceId.isSome then some runtime.deviceInfo else none

namespace ProxyState

theorem publishedDevices_eq (devices : Table String DeviceRuntime) :
    publishedDevices devices = (devices.values.map DeviceRuntime.listed).reduceOption := by
  simp only [publishedDevices, List.reduceOption]
  induction devices.values with
  | nil => rfl
  | cons runtime rest ih =>
      by_cases visible : runtime.connected && runtime.deviceId.isSome
      · simp [DeviceRuntime.listed, visible, ih]
      · simp [DeviceRuntime.listed, visible, ih]

theorem publishedDevices_modify {devices : Table String DeviceRuntime} {deviceId : String}
    {update : DeviceRuntime → DeviceRuntime}
    (same : ∀ runtime, devices.lookup deviceId = some runtime →
      runtime.SameDevice (update runtime)) :
    publishedDevices (devices.modify deviceId update) = publishedDevices devices := by
  rw [publishedDevices_eq, publishedDevices_eq, Table.map_values_modify]
  intro runtime found
  have kept := same runtime found
  simp only [DeviceRuntime.listed, kept.connected, kept.deviceId, kept.deviceInfo]

def ListCurrent (state : ProxyState) : Prop :=
  state.deviceListState = publishedDevices state.devices

theorem modifyDevice_listCurrent {state : ProxyState} (current : state.ListCurrent)
    {deviceId : String} {update : DeviceRuntime → DeviceRuntime}
    (same : ∀ runtime, state.devices.lookup deviceId = some runtime →
      runtime.SameDevice (update runtime)) : (state.modifyDevice deviceId update).ListCurrent :=
  current.trans (publishedDevices_modify same).symm

end ProxyState

namespace ProxyBridge

open ProxyState

variable {bridge : ProxyBridge} {state : ProxyState}

@[simp] theorem notify_deviceListState (call : ListenerCall) (state : ProxyState) :
    (bridge.notify call state).deviceListState = state.deviceListState := by
  unfold notify
  split <;> rfl

theorem notifyDeviceConnected_listCurrent {deviceId : String} :
    (bridge.notifyDeviceConnected deviceId state).ListCurrent ↔ state.ListCurrent := by
  unfold notifyDeviceConnected ListCurrent
  split <;> simp

theorem notifyPageListChanged_listCurrent {deviceId : String} :
    (bridge.notifyPageListChanged deviceId state).ListCurrent ↔ state.ListCurrent := by
  unfold notifyPageListChanged ListCurrent
  split <;> simp

theorem connectDevice_listCurrent (current : state.ListCurrent) (environment : ConnectEnvironment)
    (deviceId : String) : (bridge.connectDevice environment deviceId state).ListCurrent := by
  unfold connectDevice
  split
  · exact current
  · split
    · rfl
    · exact current

theorem disconnectDevice_listCurrent (deviceId : String) (state : ProxyState) :
    (bridge.disconnectDevice deviceId state).ListCurrent := by
  unfold disconnectDevice
  split <;> rfl

theorem handleRpcMessage_listCurrent (current : state.ListCurrent) (deviceId : String)
    (message : RpcMessage) : (bridge.handleRpcMessage deviceId message state).ListCurrent := by
  have handled (notSetup : message ≠ .reportSetup)
      (connected : ∀ apps runtime, message = .reportConnectedApplicationList apps →
        state.devices.lookup deviceId = some runtime → runtime.connected = true) :
      (state.modifyDevice deviceId (DeviceRuntime.handleRpcMessage message)).ListCurrent := by
    apply modifyDevice_listCurrent current
    intro runtime found
    apply (DeviceRuntime.handle_refreshes runtime (.rpc message)).sameDevice
    · simpa using notSetup
    · intro apps same
      exact connected apps runtime (by simpa using same) found
  cases message with
  | reportSetup => exact notifyDeviceConnected_listCurrent.mpr rfl
  | reportConnectedApplicationList apps =>
      simp only [handleRpcMessage]
      split
      · rename_i runtime found
        split
        · rename_i connected
          apply handled (by simp)
          intro _ other _ same
          rw [found] at same
          cases same
          exact connected
        · exact notifyDeviceConnected_listCurrent.mpr rfl
      · rename_i missing
        apply handled (by simp)
        intro _ runtime _ found
        rw [missing] at found
        cases found
  | applicationConnected app => exact handled (by simp) (by simp)
  | applicationDisconnected app =>
      exact notifyPageListChanged_listCurrent.mpr (handled (by simp) (by simp))
  | applicationSentListing appId pages =>
      exact notifyPageListChanged_listCurrent.mpr (handled (by simp) (by simp))
  | applicationSentData appId destId data => exact handled (by simp) (by simp)
  | applicationUpdated appId destId => exact handled (by simp) (by simp)
  | unknown selector => exact handled (by simp) (by simp)

theorem step_listCurrent (current : state.ListCurrent) (event : ProxyEvent) :
    (bridge.step state event).ListCurrent := by
  cases event with
  | attached deviceId environment => exact connectDevice_listCurrent current environment deviceId
  | detached deviceId => exact disconnectDevice_listCurrent deviceId state
  | wiEvent deviceId event =>
      cases event with
      | recvPlist rpcDict =>
          simp only [step, handleWiEvent]
          split
          · exact handleRpcMessage_listCurrent current deviceId _
          · exact current
  | wsMessage deviceId message =>
      exact modifyDevice_listCurrent current fun runtime _ =>
        (DeviceRuntime.handleWsMessage_sameView runtime message).toSameDevice
  | registration deviceId registration =>
      exact modifyDevice_listCurrent current fun _ _ => ⟨rfl, rfl, rfl, rfl⟩

end ProxyBridge

namespace ProxyState

def connectedDevices (devices : Table String DeviceRuntime) : List DeviceInfo :=
  (devices.entries.filter fun entry => entry.2.connected).map fun entry =>
    ⟨entry.1, entry.2.deviceName.getD "", entry.2.deviceOsVersion, entry.2.port⟩

structure ViewsAgree (state : ProxyState) : Prop where
  devices : state.deviceListState.Perm (connectedDevices state.devices)
  distinct : state.deviceListState.Nodup
  connected : ∀ deviceId runtime, state.devices.lookup deviceId = some runtime →
    runtime.sharedState.connected = runtime.connected
  pages : ∀ deviceId runtime, state.devices.lookup deviceId = some runtime →
    (runtime.sharedState.pages.map PageEntry.shown).Perm
      (runtime.pages.values.map PageInfo.shown)
  increasing : ∀ deviceId runtime, state.devices.lookup deviceId = some runtime →
    runtime.sharedState.pages.Pairwise fun first second => first.pageNum < second.pageNum

theorem publishedDevices_eq_connectedDevices {devices : Table String DeviceRuntime}
    (named : ∀ deviceId runtime, devices.lookup deviceId = some runtime →
      runtime.deviceId = some deviceId) :
    publishedDevices devices = connectedDevices devices := by
  simp only [publishedDevices, connectedDevices, Table.values, List.filter_map, List.map_map]
  have same : ∀ entry ∈ devices.entries, entry.2.deviceId = some entry.1 :=
    fun entry member => named entry.1 entry.2 (Table.mem_entries.mp member)
  have filtered : (devices.entries.filter
      ((fun runtime => runtime.connected && runtime.deviceId.isSome) ∘ Sigma.snd)) =
      devices.entries.filter fun entry => entry.2.connected := by
    apply List.filter_congr
    intro entry member
    simp [same entry member]
  rw [filtered]
  apply List.map_congr_left
  intro entry member
  simp [DeviceRuntime.deviceInfo, same entry (List.mem_of_mem_filter member)]

theorem connectedDevices_nodup (devices : Table String DeviceRuntime) :
    (connectedDevices devices).Nodup := by
  have keys : ((devices.entries.filter fun entry => entry.2.connected).map Sigma.fst).Nodup :=
    (List.filter_sublist.map Sigma.fst).nodup devices.nodupKeys
  apply List.Nodup.of_map DeviceInfo.deviceId
  rw [connectedDevices, List.map_map]
  exact keys

end ProxyState

theorem run_published (bridge : ProxyBridge) (environment : ConnectEnvironment)
    (events : List ProxyEvent) : ∀ deviceId runtime,
    (bridge.run environment events).devices.lookup deviceId = some runtime →
      runtime.Published deviceId :=
  ProxyBridge.run_devices
    (fun environment deviceId port connection codec =>
      newRuntime_published bridge environment deviceId port connection codec)
    (fun _ _ event valid => DeviceRuntime.handle_published valid event) environment events

theorem run_listCurrent (bridge : ProxyBridge) (environment : ConnectEnvironment)
    (events : List ProxyEvent) : (bridge.run environment events).ListCurrent := by
  have empty : ProxyState.empty.ListCurrent := rfl
  exact Transition.run_invariant ProxyState.ListCurrent
    (ProxyBridge.connectDevice_listCurrent empty environment "SIMULATOR")
    (fun _ event holds => ProxyBridge.step_listCurrent holds event) events

/-- In every state between two events, the device list, the connected flags and
the page lists agree with the table of devices. -/
theorem run_viewsAgree (bridge : ProxyBridge) (environment : ConnectEnvironment)
    (events : List ProxyEvent) : (bridge.run environment events).ViewsAgree := by
  have published := run_published bridge environment events
  have paged := run_paged bridge environment events
  have current := run_listCurrent bridge environment events
  generalize bridge.run environment events = state at published paged current ⊢
  have listed : state.deviceListState = ProxyState.connectedDevices state.devices := by
    rw [current, ProxyState.publishedDevices_eq_connectedDevices]
    intro deviceId runtime found
    exact (published deviceId runtime found).named
  refine ⟨?_, ?_, ?_, ?_, ?_⟩
  · rw [listed]
  · rw [listed]
    exact ProxyState.connectedDevices_nodup state.devices
  · intro deviceId runtime found
    exact (published deviceId runtime found).connected
  · intro deviceId runtime found
    rw [(published deviceId runtime found).pages]
    exact runtime.syncedPages_perm
  · intro deviceId runtime found
    have sorted := DeviceRuntime.syncedPages_sorted (paged deviceId runtime found).table
    rw [← (published deviceId runtime found).pages, List.pairwise_map] at sorted
    exact sorted

end IosWebkitDebugProxy
