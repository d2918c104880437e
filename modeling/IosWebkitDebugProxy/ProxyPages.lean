import IosWebkitDebugProxy.ProxyRuns

/-! The page table and the debug sessions of one device. The handlers find a
page by searching the values of the table. Since pages are stored under their
own numbers, this is a lookup. -/

namespace IosWebkitDebugProxy

/-- Pages are stored under their own numbers, and no two are the same page. -/
structure PageTable (pages : Table Nat PageInfo) : Prop where
  numbered : ∀ num page, pages.lookup num = some page → page.pageNum = num
  distinct : ∀ first second one other, pages.lookup first = some one →
    pages.lookup second = some other → one.appId = other.appId → one.pageId = other.pageId →
    first = second

namespace PageTable

variable {pages : Table Nat PageInfo}

theorem empty : PageTable ∅ := by
  constructor <;> simp

theorem modify (valid : PageTable pages) (num : Nat) (update : PageInfo → PageInfo)
    (same : ∀ page, (update page).pageNum = page.pageNum ∧ (update page).appId = page.appId ∧
      (update page).pageId = page.pageId) : PageTable (pages.modify num update) := by
  have stored : ∀ key page, (pages.modify num update).lookup key = some page →
      ∃ old, pages.lookup key = some old ∧ page.pageNum = old.pageNum ∧
        page.appId = old.appId ∧ page.pageId = old.pageId := by
    intro key page found
    rcases Table.lookup_of_modify found with ⟨_, old, stored, rfl⟩ | ⟨_, found⟩
    · exact ⟨old, stored, same old⟩
    · exact ⟨page, found, rfl, rfl, rfl⟩
  constructor
  · intro key page found
    obtain ⟨old, before, number, _, _⟩ := stored key page found
    rw [number]
    exact valid.numbered key old before
  · intro first second one other firstFound secondFound app identifier
    obtain ⟨oldOne, firstBefore, _, oneApp, onePage⟩ := stored first one firstFound
    obtain ⟨oldOther, secondBefore, _, otherApp, otherPage⟩ := stored second other secondFound
    exact valid.distinct first second oldOne oldOther firstBefore secondBefore
      (by rw [← oneApp, app, otherApp]) (by rw [← onePage, identifier, otherPage])

theorem assign (valid : PageTable pages) (page : PageInfo)
    (fresh : ∀ num known, pages.lookup num = some known →
      ¬(known.appId = page.appId ∧ known.pageId = page.pageId)) :
    PageTable (pages.assign page.pageNum page) := by
  constructor
  · intro key known found
    rw [Table.lookup_assign] at found
    split at found
    · rename_i here
      cases found
      exact here.symm
    · exact valid.numbered key known found
  · intro first second one other firstFound secondFound app identifier
    rw [Table.lookup_assign] at firstFound secondFound
    split at firstFound <;> split at secondFound
    · rename_i firstHere secondHere
      rw [firstHere, secondHere]
    · cases firstFound
      exact absurd ⟨app.symm, identifier.symm⟩ (fresh second other secondFound)
    · cases secondFound
      exact absurd ⟨app, identifier⟩ (fresh first one firstFound)
    · exact valid.distinct first second one other firstFound secondFound app identifier

theorem eraseAll (valid : PageTable pages) (nums : List Nat) :
    PageTable (pages.eraseAll nums) := by
  have stored : ∀ key page, (pages.eraseAll nums).lookup key = some page →
      pages.lookup key = some page := by
    intro key page found
    rw [Table.lookup_eraseAll] at found
    split at found
    · cases found
    · exact found
  constructor
  · intro key page found
    exact valid.numbered key page (stored key page found)
  · intro first second one other firstFound secondFound
    exact valid.distinct first second one other (stored first one firstFound)
      (stored second other secondFound)

theorem number_eq_iff (valid : PageTable pages) (num : Nat) :
    ∀ key page, pages.lookup key = some page → ((page.pageNum == num) = true ↔ key = num) := by
  intro key page found
  rw [beq_iff_eq, valid.numbered key page found]

theorem identity_eq_iff (valid : PageTable pages) {num : Nat} {page : PageInfo}
    (found : pages.lookup num = some page) {appId : String} {pageId : Nat}
    (same : page.appId = appId ∧ page.pageId = pageId) :
    ∀ key known, pages.lookup key = some known →
      ((known.appId == appId && known.pageId == pageId) = true ↔ key = num) := by
  intro key known stored
  simp only [Bool.and_eq_true, beq_iff_eq]
  constructor
  · rintro ⟨app, identifier⟩
    exact valid.distinct key num known page stored found (by rw [app, same.1])
      (by rw [identifier, same.2])
  · intro here
    subst here
    rw [found] at stored
    cases stored
    exact same

end PageTable

/-- A session that was set up and has not been closed since. -/
def SessionOpen (written : List RpcCommand) (appId : String) (pageId : Nat) (sender : String) :
    Prop :=
  ∃ before after, written = before ++ .forwardSocketSetup appId pageId sender :: after ∧
    .forwardDidClose appId pageId sender ∉ after

namespace SessionOpen

variable {written : List RpcCommand} {appId : String} {pageId : Nat} {sender : String}

theorem setup : SessionOpen (written ++ [.forwardSocketSetup appId pageId sender])
    appId pageId sender :=
  ⟨written, [], rfl, List.not_mem_nil⟩

theorem append (opened : SessionOpen written appId pageId sender) {command : RpcCommand}
    (other : command ≠ .forwardDidClose appId pageId sender) :
    SessionOpen (written ++ [command]) appId pageId sender := by
  obtain ⟨before, after, shape, kept⟩ := opened
  refine ⟨before, after ++ [command], by simp [shape], ?_⟩
  simp only [List.mem_append, List.mem_singleton, not_or]
  exact ⟨kept, other.symm⟩

end SessionOpen

namespace DeviceRuntime

variable {runtime : DeviceRuntime}

def canSend (runtime : DeviceRuntime) : Bool :=
  runtime.rpcSender.isSome && runtime.wiCodec.isSome &&
    runtime.wiHandle.any fun handle => handle.remaining != some 0

theorem send_eq (command : RpcCommand) (runtime : DeviceRuntime) :
    runtime.send command = { runtime with wiHandle := (runtime.send command).wiHandle } := by
  unfold send
  split
  · split <;> rfl
  · rfl

theorem written_send (command : RpcCommand) (ready : runtime.canSend) :
    (runtime.send command).written = runtime.written ++ [command] := by
  simp only [canSend, Bool.and_eq_true, Option.isSome_iff_exists, Option.any_eq_true,
    bne_iff_ne, ne_eq] at ready
  obtain ⟨⟨⟨sender, hasSender⟩, codec, hasCodec⟩, handle, hasHandle, running⟩ := ready
  simp only [send, hasSender, hasCodec, hasHandle, WebInspectorHandle.sendPlist]
  split
  · rename_i after accepted
    split at accepted <;> cases accepted <;> simp [written, hasHandle]
  · rename_i refused
    split at refused
    · cases refused
    · rename_i exhausted
      exact absurd exhausted running
    · cases refused

theorem send_eq_self (command : RpcCommand) (closed : runtime.canSend = false) :
    runtime.send command = runtime := by
  unfold send
  split
  · rename_i hasSender hasHandle hasCodec
    simp only [canSend, hasSender, hasCodec, hasHandle, Option.isSome_some, Bool.and_self,
      Bool.true_and, Option.any_some, bne_eq_false_iff_eq] at closed
    simp [WebInspectorHandle.sendPlist, closed]
  · rfl

theorem canSend_send {command : RpcCommand} (ready : (runtime.send command).canSend) :
    runtime.canSend := by
  cases before : runtime.canSend with
  | true => rfl
  | false => rwa [send_eq_self command before, before] at ready

@[simp] theorem send_pages (command : RpcCommand) (runtime : DeviceRuntime) :
    (runtime.send command).pages = runtime.pages := by rw [send_eq]

@[simp] theorem send_sharedState (command : RpcCommand) (runtime : DeviceRuntime) :
    (runtime.send command).sharedState = runtime.sharedState := by rw [send_eq]

@[simp] theorem send_connected (command : RpcCommand) (runtime : DeviceRuntime) :
    (runtime.send command).connected = runtime.connected := by rw [send_eq]

@[simp] theorem send_deviceInfo (command : RpcCommand) (runtime : DeviceRuntime) :
    (runtime.send command).deviceInfo = runtime.deviceInfo := by rw [send_eq]; rfl

@[simp] theorem send_deviceId (command : RpcCommand) (runtime : DeviceRuntime) :
    (runtime.send command).deviceId = runtime.deviceId := by rw [send_eq]

@[simp] theorem send_wsClients (command : RpcCommand) (runtime : DeviceRuntime) :
    (runtime.send command).wsClients = runtime.wsClients := by rw [send_eq]

@[simp] theorem send_wsClientTxs (command : RpcCommand) (runtime : DeviceRuntime) :
    (runtime.send command).wsClientTxs = runtime.wsClientTxs := by rw [send_eq]

@[simp] theorem send_appIds (command : RpcCommand) (runtime : DeviceRuntime) :
    (runtime.send command).appIds = runtime.appIds := by rw [send_eq]

theorem findPage_eq (valid : PageTable runtime.pages) (num : Nat) :
    runtime.findPage num = runtime.pages.lookup num :=
  Table.findValue_eq_lookup (valid.number_eq_iff num)

theorem stopDevtools_absent (valid : PageTable runtime.pages) {num : Nat}
    (absent : runtime.pages.lookup num = none) : runtime.stopDevtools num = runtime := by
  simp only [stopDevtools, findPage_eq valid, absent]

theorem stopDevtools_idle (valid : PageTable runtime.pages) {num : Nat} {page : PageInfo}
    (found : runtime.pages.lookup num = some page) (idle : page.senderId = none) :
    runtime.stopDevtools num = runtime := by
  simp only [stopDevtools, findPage_eq valid, found, idle]

theorem stopDevtools_held (valid : PageTable runtime.pages) {num : Nat} {page : PageInfo}
    {sender : String} (found : runtime.pages.lookup num = some page)
    (held : page.senderId = some sender) :
    runtime.stopDevtools num =
      { runtime.send (.forwardDidClose page.appId page.pageId sender) with
        pages := runtime.pages.modify num PageInfo.release } := by
  simp only [stopDevtools, findPage_eq valid, found, held, send_pages]
  rw [Table.modifyWhere_eq_modify (valid.number_eq_iff num)]

theorem openDevtools_absent (valid : PageTable runtime.pages) {wsId : String} {num : Nat}
    (absent : runtime.pages.lookup num = none) : runtime.openDevtools wsId num = runtime := by
  simp only [openDevtools, findPage_eq valid, absent]

theorem openDevtools_found (valid : PageTable runtime.pages) {wsId : String} {num : Nat}
    {page : PageInfo} (found : runtime.pages.lookup num = some page) :
    runtime.openDevtools wsId num = send (.forwardSocketSetup page.appId page.pageId wsId)
      { runtime with pages := runtime.pages.modify num (PageInfo.hold wsId) } := by
  simp only [openDevtools, findPage_eq valid, found]
  rw [Table.modifyWhere_eq_modify (valid.number_eq_iff num)]

/-- A page names a sender only while the session of that sender is open, as
far as messages can still be sent. -/
structure Paged (runtime : DeviceRuntime) : Prop where
  table : PageTable runtime.pages
  held : ∀ num page sender, runtime.pages.lookup num = some page →
    page.senderId = some sender → runtime.canSend →
    SessionOpen runtime.written page.appId page.pageId sender

theorem Paged.setPages (valid : Paged runtime) {pages : Table Nat PageInfo}
    (table : PageTable pages)
    (kept : ∀ num page sender, pages.lookup num = some page → page.senderId = some sender →
      ∃ old, runtime.pages.lookup num = some old ∧ old.appId = page.appId ∧
        old.pageId = page.pageId ∧ old.senderId = some sender) :
    Paged { runtime with pages } := by
  refine ⟨table, ?_⟩
  intro num page sender found held ready
  obtain ⟨old, before, app, identifier, same⟩ := kept num page sender found held
  rw [← app, ← identifier]
  exact valid.held num old sender before same ready

theorem Paged.send (valid : Paged runtime) {command : RpcCommand}
    (other : ∀ num page sender, runtime.pages.lookup num = some page →
      page.senderId = some sender → command ≠ .forwardDidClose page.appId page.pageId sender) :
    Paged (runtime.send command) := by
  refine ⟨by rw [send_pages]; exact valid.table, ?_⟩
  intro num page sender found held ready
  rw [send_pages] at found
  have before := canSend_send ready
  rw [written_send command before]
  exact (valid.held num page sender found held before).append (other num page sender found held)

theorem stopDevtools_paged (valid : Paged runtime) (num : Nat) :
    Paged (runtime.stopDevtools num) := by
  cases found : runtime.pages.lookup num with
  | none => rwa [stopDevtools_absent valid.table found]
  | some page =>
      cases held : page.senderId with
      | none => rwa [stopDevtools_idle valid.table found held]
      | some sender =>
          rw [stopDevtools_held valid.table found held]
          refine ⟨valid.table.modify _ _ fun _ => ⟨rfl, rfl, rfl⟩, ?_⟩
          intro other known owner stored owned ready
          have before : runtime.canSend := canSend_send ready
          have elsewhere : other ≠ num := by
            intro here
            subst here
            rw [Table.lookup_modify, if_pos rfl, found] at stored
            cases stored
            cases owned
          rw [Table.lookup_modify, if_neg elsewhere] at stored
          have distinct : RpcCommand.forwardDidClose page.appId page.pageId sender ≠
              .forwardDidClose known.appId known.pageId owner := by
            intro same
            simp only [RpcCommand.forwardDidClose.injEq] at same
            exact elsewhere (valid.table.distinct other num known page stored found
              same.1.symm same.2.1.symm)
          have opened := (valid.held other known owner stored owned before).append distinct
          rwa [← written_send _ before] at opened

theorem openDevtools_paged (valid : Paged runtime) (wsId : String) (num : Nat) :
    Paged (runtime.openDevtools wsId num) := by
  cases found : runtime.pages.lookup num with
  | none => rwa [openDevtools_absent valid.table found]
  | some page =>
      rw [openDevtools_found valid.table found]
      refine ⟨by rw [send_pages]; exact valid.table.modify _ _ fun _ => ⟨rfl, rfl, rfl⟩, ?_⟩
      intro other known owner stored owned ready
      have before := canSend_send ready
      rw [written_send _ before]
      rw [send_pages, Table.lookup_modify] at stored
      split at stored
      · rename_i here
        subst here
        rw [found] at stored
        cases stored
        cases owned
        exact .setup
      · exact (valid.held other known owner stored owned before).append (by simp)

theorem sendForwardSocketSetup_paged (valid : Paged runtime) (wsId : String) (num : Nat) :
    Paged (runtime.sendForwardSocketSetup wsId num) := by
  unfold sendForwardSocketSetup
  split
  · split
    · exact openDevtools_paged (stopDevtools_paged valid num) wsId num
    · exact openDevtools_paged valid wsId num
  · exact openDevtools_paged valid wsId num

theorem handleWsMessage_paged (valid : Paged runtime) (message : WsToWiMessage) :
    Paged (runtime.handleWsMessage message) := by
  unfold handleWsMessage
  split
  · have stopped := stopDevtools_paged valid message.pageNum
    exact ⟨stopped.table, stopped.held⟩
  · split
    · exact sendForwardSocketSetup_paged valid message.wsId message.pageNum
    · unfold forwardData
      split
      · exact valid
      · exact valid.send (by simp)

theorem addAppId_paged (valid : Paged runtime) (appId : String) :
    Paged (runtime.addAppId appId) := by
  unfold addAppId
  split
  · exact valid
  · have known : Paged { runtime with appIds := runtime.appIds.assign appId true } :=
      ⟨valid.table, valid.held⟩
    exact known.send (by simp)

theorem Paged.eraseAll (valid : Paged runtime) (nums : List Nat) :
    Paged { runtime with pages := runtime.pages.eraseAll nums } := by
  apply valid.setPages (valid.table.eraseAll nums)
  intro num page sender found held
  rw [Table.lookup_eraseAll] at found
  split at found
  · cases found
  · exact ⟨page, found, rfl, rfl, held⟩

theorem syncPages_paged (valid : Paged runtime) : Paged runtime.syncPages :=
  ⟨valid.table, valid.held⟩

theorem removeAppId_paged (valid : Paged runtime) (appId : String) :
    Paged (runtime.removeAppId appId) := by
  have erased := valid.eraseAll (runtime.pages.keysWhere fun page => page.appId == appId)
  exact ⟨erased.table, erased.held⟩

theorem listPage_paged (valid : Paged runtime) (appId : String) (item : RpcPage) :
    Paged (runtime.listPage appId item) := by
  unfold listPage
  split
  · apply valid.setPages (valid.table.modify _ (PageInfo.list item) fun _ => ⟨rfl, rfl, rfl⟩)
    intro num page sender found held
    rcases Table.lookup_of_modify found with ⟨_, old, before, rfl⟩ | ⟨_, found⟩
    · exact ⟨old, before, rfl, rfl, held⟩
    · exact ⟨page, found, rfl, rfl, held⟩
  · rename_i unlisted
    have fresh : ∀ num known, runtime.pages.lookup num = some known →
        ¬(known.appId = appId ∧ known.pageId = item.pageId) := by
      intro num known stored same
      have skipped := List.find?_eq_none.mp unlisted known (Table.mem_values.mpr ⟨num, stored⟩)
      simp [same.1, same.2] at skipped
    have added := valid.setPages (valid.table.assign {
      pageNum := (runtime.maxPageNum + 1) % 2 ^ 32
      pageType := item.pageType
      appId
      pageId := item.pageId
      connectionId := item.connectionId
      title := item.title
      url := item.url
      senderId := none
      wsClientId := none } fresh) (by
        intro num page sender found held
        rw [Table.lookup_assign] at found
        split at found
        · cases found
          cases held
        · exact ⟨page, found, rfl, rfl, held⟩)
    exact ⟨added.table, added.held⟩

theorem handlePageListing_paged (valid : Paged runtime) (appId : String) (items : List RpcPage) :
    Paged (runtime.handlePageListing appId items) := by
  have listed : Paged (items.foldl (listPage appId) runtime) :=
    List.foldlRecOn items (listPage appId) valid
      fun known held item _ => listPage_paged held appId item
  exact syncPages_paged (listed.eraseAll _)

theorem handleRpcMessage_paged (valid : Paged runtime) (message : RpcMessage) :
    Paged (runtime.handleRpcMessage message) := by
  cases message with
  | reportSetup => exact ⟨valid.table, valid.held⟩
  | reportConnectedApplicationList apps =>
      have start : Paged (if runtime.connected then runtime else runtime.setConnected) := by
        split
        · exact valid
        · exact ⟨valid.table, valid.held⟩
      apply List.foldlRecOn apps addListedApp start
      intro known held app _
      have added := addAppId_paged held app.appId
      exact ⟨added.table, added.held⟩
  | applicationConnected app =>
      have current : Paged { runtime with currentApp := some app } := ⟨valid.table, valid.held⟩
      exact addAppId_paged current app.appId
  | applicationDisconnected app => exact removeAppId_paged valid app.appId
  | applicationSentListing appId items => exact handlePageListing_paged valid appId items
  | applicationSentData appId destId data =>
      simp only [handleRpcMessage, handleAppData]
      split
      · exact ⟨valid.table, valid.held⟩
      · exact valid
  | applicationUpdated appId destId => exact addAppId_paged valid destId
  | unknown selector => exact valid

theorem handle_paged (valid : Paged runtime) (event : RuntimeEvent) :
    Paged (runtime.handle event) := by
  cases event with
  | rpc message => exact handleRpcMessage_paged valid message
  | wsMessage message => exact handleWsMessage_paged valid message
  | registration registration => exact ⟨valid.table, valid.held⟩

end DeviceRuntime

theorem newRuntime_paged (bridge : ProxyBridge) (environment : ConnectEnvironment)
    (deviceId : String) (port : Nat) (connection : DeviceConnection) (codec : WebInspectorCodec) :
    (bridge.newRuntime environment deviceId port connection codec).Paged := by
  apply DeviceRuntime.Paged.send
  · exact ⟨.empty, by simp⟩
  · simp

theorem run_paged (bridge : ProxyBridge) (environment : ConnectEnvironment)
    (events : List ProxyEvent) : ∀ deviceId runtime,
    (bridge.run environment events).devices.lookup deviceId = some runtime → runtime.Paged :=
  ProxyBridge.run_devices
    (fun environment deviceId port connection codec =>
      newRuntime_paged bridge environment deviceId port connection codec)
    (fun _ _ event valid => DeviceRuntime.handle_paged valid event) environment events

end IosWebkitDebugProxy
