import IosWebkitDebugProxy.ProxyPublished

/-! Events that change nothing. For every kind of event there is a condition on
the runtime under which handling it leaves the runtime exactly as it is. -/

namespace IosWebkitDebugProxy

namespace DeviceRuntime

variable {runtime : DeviceRuntime}

theorem send_eq_self_iff {command : RpcCommand} :
    runtime.send command = runtime ↔ runtime.canSend = false := by
  constructor
  · intro same
    rw [← Bool.not_eq_true]
    intro ready
    have longer := congrArg List.length (written_send command ready)
    rw [same, List.length_append, List.length_singleton] at longer
    omega
  · exact send_eq_self command

def Known (runtime : DeviceRuntime) (appId : String) (item : RpcPage) : Prop :=
  ∃ num page, runtime.pages.lookup num = some page ∧ page.appId = appId ∧
    page.pageId = item.pageId

def lastListed (items : List RpcPage) (pageId : Nat) : Option RpcPage :=
  items.reverse.find? fun item => item.pageId == pageId

def relist (appId : String) (page : PageInfo) (item : RpcPage) : PageInfo :=
  if page.appId = appId ∧ page.pageId = item.pageId then page.list item else page

theorem relist_identity (appId : String) (page : PageInfo) (item : RpcPage) :
    (relist appId page item).appId = page.appId ∧ (relist appId page item).pageId = page.pageId := by
  unfold relist
  split <;> exact ⟨rfl, rfl⟩

theorem lastListed_append (items : List RpcPage) (item : RpcPage) (pageId : Nat) :
    lastListed (items ++ [item]) pageId =
      if item.pageId = pageId then some item else lastListed items pageId := by
  simp only [lastListed, List.reverse_append, List.reverse_singleton, List.singleton_append,
    List.find?_cons]
  by_cases named : item.pageId = pageId
  · simp [named]
  · have missed : (item.pageId == pageId) = false := by simpa using named
    simp [named, missed]

theorem foldl_relist (appId : String) (items : List RpcPage) (page : PageInfo) :
    items.foldl (relist appId) page =
      if page.appId = appId then
        match lastListed items page.pageId with
        | some item => page.list item
        | none => page
      else page := by
  induction items using List.reverseRecOn with
  | nil => simp [lastListed]
  | append_singleton items item ih =>
      rw [List.foldl_append, List.foldl_cons, List.foldl_nil, ih, lastListed_append]
      by_cases app : page.appId = appId
      · simp only [app, if_true]
        by_cases named : item.pageId = page.pageId
        · simp only [named, if_true]
          cases lastListed items page.pageId <;> simp [relist, named, app, PageInfo.list]
        · have other : ¬page.pageId = item.pageId := fun same => named same.symm
          simp only [named, if_false]
          cases lastListed items page.pageId <;> simp [relist, other, PageInfo.list]
      · simp [app, relist]

theorem listPage_known (valid : PageTable runtime.pages) {appId : String} {item : RpcPage}
    (known : runtime.Known appId item) :
    runtime.listPage appId item =
      { runtime with pages := runtime.pages.updateAll fun page => relist appId page item } := by
  obtain ⟨num, page, found, app, identifier⟩ := known
  have only := valid.identity_eq_iff found ⟨app, identifier⟩
  simp only [listPage, Table.findValue_eq_lookup only, found, valid.numbered num page found]
  rw [Table.modify_eq_updateAll]
  intro other value stored
  have same := only other value stored
  simp only [Bool.and_eq_true, beq_iff_eq] at same
  simp only [relist, same]

theorem listPage_unknown {appId : String} {item : RpcPage} (unknown : ¬runtime.Known appId item) :
    (runtime.listPage appId item).maxPageNum = (runtime.maxPageNum + 1) % 2 ^ 32 := by
  unfold listPage
  split
  · rename_i existing found
    have same := List.find?_some found
    obtain ⟨num, stored⟩ := Table.mem_values.mp (List.mem_of_find?_eq_some found)
    simp only [Bool.and_eq_true, beq_iff_eq] at same
    exact absurd ⟨num, existing, stored, same.1, same.2⟩ unknown
  · rfl

theorem known_relisted {appId : String} {first item : RpcPage} :
    Known { runtime with pages := runtime.pages.updateAll fun page => relist appId page first }
      appId item ↔ runtime.Known appId item := by
  simp only [Known, Table.lookup_updateAll, Option.map_eq_some_iff]
  constructor
  · rintro ⟨num, _, ⟨page, found, rfl⟩, app, identifier⟩
    obtain ⟨sameApp, samePage⟩ := relist_identity appId page first
    exact ⟨num, page, found, sameApp ▸ app, samePage ▸ identifier⟩
  · rintro ⟨num, page, found, app, identifier⟩
    obtain ⟨sameApp, samePage⟩ := relist_identity appId page first
    exact ⟨num, _, ⟨page, found, rfl⟩, sameApp.trans app, samePage.trans identifier⟩

theorem listPages_known (valid : Paged runtime) {appId : String} {items : List RpcPage}
    (known : ∀ item ∈ items, runtime.Known appId item) :
    items.foldl (listPage appId) runtime =
      { runtime with
        pages := runtime.pages.updateAll fun page => items.foldl (relist appId) page } := by
  induction items generalizing runtime with
  | nil =>
      have same := Table.updateAll_eq_self_iff.mpr fun key value
        (_ : runtime.pages.lookup key = some value) => rfl
      simp only [List.foldl_nil]
      rw [same]
  | cons first rest ih =>
      have listed := listPage_paged valid appId first
      rw [List.foldl_cons, listPage_known valid.table (known first List.mem_cons_self)]
      rw [listPage_known valid.table (known first List.mem_cons_self)] at listed
      rw [ih listed fun item member =>
        known_relisted.mpr (known item (List.mem_cons_of_mem first member))]
      simp only [Table.updateAll_updateAll, List.foldl_cons]

theorem listPages_maxPageNum (valid : Paged runtime) (appId : String) (items : List RpcPage) :
    (∀ item ∈ items, runtime.Known appId item) ∨
      ∃ added, 0 < added ∧ added ≤ items.length ∧
        (items.foldl (listPage appId) runtime).maxPageNum =
          (runtime.maxPageNum + added) % 2 ^ 32 := by
  induction items generalizing runtime with
  | nil => exact .inl (by simp)
  | cons first rest ih =>
      have listed := listPage_paged valid appId first
      by_cases known : runtime.Known appId first
      · have same := listPage_known valid.table known
        rw [same] at listed
        rw [List.foldl_cons, same]
        rcases ih listed with all | ⟨added, positive, bound, counter⟩
        · left
          intro item member
          rcases List.mem_cons.mp member with rfl | later
          · exact known
          · exact known_relisted.mp (all item later)
        · exact .inr ⟨added, positive, Nat.le_succ_of_le bound, counter⟩
      · right
        have counted := listPage_unknown known
        rw [List.foldl_cons]
        rcases ih listed with all | ⟨added, positive, bound, counter⟩
        · refine ⟨1, Nat.one_pos, by simp, ?_⟩
          rw [listPages_known listed all]
          exact counted
        · refine ⟨added + 1, Nat.succ_pos added, Nat.succ_le_succ bound, ?_⟩
          rw [counter, counted]
          omega

/-- A listing tells nothing new: it names only pages that are known, and every
page of its application, last with the title, address and connection it has. -/
structure ListingInert (runtime : DeviceRuntime) (appId : String) (items : List RpcPage) :
    Prop where
  known : ∀ item ∈ items, runtime.Known appId item
  listed : ∀ num page, runtime.pages.lookup num = some page → page.appId = appId →
    ∃ item, lastListed items page.pageId = some item ∧ item.title = page.title ∧
      item.url = page.url ∧ item.connectionId = page.connectionId
  synced : runtime.sharedState.pages = runtime.syncedPages

theorem list_eq_self_iff {item : RpcPage} {page : PageInfo} :
    page.list item = page ↔
      item.title = page.title ∧ item.url = page.url ∧ item.connectionId = page.connectionId := by
  obtain ⟨pageNum, pageType, appId, pageId, connectionId, title, url, senderId, wsClientId⟩ := page
  simp only [PageInfo.list, PageInfo.mk.injEq, and_true, true_and]
  constructor
  · rintro ⟨connection, name, address⟩
    exact ⟨name, address, connection⟩
  · rintro ⟨name, address, connection⟩
    exact ⟨connection, name, address⟩

theorem mem_unlistedPages {appId : String} {items : List RpcPage} {num : Nat} :
    num ∈ runtime.unlistedPages appId items ↔ ∃ page, runtime.pages.lookup num = some page ∧
      page.appId = appId ∧ lastListed items page.pageId = none := by
  simp only [unlistedPages, Table.mem_keysWhere, Bool.and_eq_true, beq_iff_eq, Bool.not_eq_true',
    lastListed, List.find?_eq_none, List.mem_reverse, List.any_eq_false]

theorem syncPages_eq_self_iff :
    runtime.syncPages = runtime ↔ runtime.sharedState.pages = runtime.syncedPages := by
  constructor
  · intro same
    exact (congrArg (fun known => known.sharedState.pages) same).symm
  · intro synced
    simp only [syncPages, ← synced]

theorem handlePageListing_inert (valid : Paged runtime) {appId : String} {items : List RpcPage}
    (inert : ListingInert runtime appId items) :
    runtime.handlePageListing appId items = runtime := by
  have fixed : ∀ num page, runtime.pages.lookup num = some page →
      items.foldl (relist appId) page = page := by
    intro num page found
    rw [foldl_relist]
    split
    · rename_i app
      obtain ⟨item, last, same⟩ := inert.listed num page found app
      simp only [last, list_eq_self_iff]
      exact same
    · rfl
  have listed : items.foldl (listPage appId) runtime = runtime := by
    rw [listPages_known valid inert.known, Table.updateAll_eq_self_iff.mpr fixed]
  have kept : runtime.pages.eraseAll (runtime.unlistedPages appId items) = runtime.pages := by
    apply Table.eraseAll_eq_self
    intro num member
    obtain ⟨page, found, app, missing⟩ := mem_unlistedPages.mp member
    obtain ⟨item, last, _⟩ := inert.listed num page found app
    rw [missing] at last
    cases last
  simp only [handlePageListing, listed, kept]
  exact syncPages_eq_self_iff.mpr inert.synced

theorem listingInert_of_handlePageListing (valid : Paged runtime) {appId : String}
    {items : List RpcPage} (short : items.length < 2 ^ 32)
    (same : runtime.handlePageListing appId items = runtime) :
    ListingInert runtime appId items := by
  have known : ∀ item ∈ items, runtime.Known appId item := by
    rcases listPages_maxPageNum valid appId items with all | ⟨added, positive, bound, counter⟩
    · exact all
    · have unmoved := congrArg DeviceRuntime.maxPageNum same
      simp only [handlePageListing, syncPages, counter] at unmoved
      omega
  have listed := listPages_known valid known
  refine ⟨known, ?_, ?_⟩
  · intro num page found app
    have stays := congrArg (fun known => known.pages.lookup num) same
    simp only [handlePageListing, syncPages, listed, Table.lookup_eraseAll,
      Table.lookup_updateAll, found, Option.map_some, foldl_relist, app, if_true] at stays
    split at stays
    · cases stays
    · rename_i present
      cases last : lastListed items page.pageId with
      | none =>
          refine absurd (mem_unlistedPages.mpr ⟨page, ?_, app, last⟩) present
          simp [found, app, last]
      | some item =>
          simp only [last, Option.some.injEq, list_eq_self_iff] at stays
          exact ⟨item, rfl, stays⟩
  · apply syncPages_eq_self_iff.mp
    rw [← same]
    rfl

theorem addAppId_eq_self_iff {appId : String} :
    runtime.addAppId appId = runtime ↔ appId ∈ runtime.appIds := by
  unfold addAppId
  split
  · rename_i known
    simp [known]
  · rename_i unknown
    simp only [unknown, iff_false]
    intro same
    have added := congrArg (fun known => appId ∈ known.appIds) same
    simp only [sendForwardGetListing, send_appIds, Table.mem_assign, true_or, unknown] at added
    exact absurd added (by simp)

theorem addListedApp_eq (known : DeviceRuntime) (app : RpcApp) (member : app.appId ∈ known.appIds) :
    known.addListedApp app = { known with currentApp := some app } := by
  simp only [addListedApp, addAppId_eq_self_iff.mpr member]

theorem addListedApps_known {apps : List RpcApp} (known : ∀ app ∈ apps, app.appId ∈ runtime.appIds) :
    apps.foldl addListedApp runtime =
      { runtime with currentApp := (apps.getLast?).or runtime.currentApp } := by
  induction apps using List.reverseRecOn with
  | nil => simp
  | append_singleton apps app ih =>
      have before := ih fun other member => known other (List.mem_append_left _ member)
      rw [List.foldl_append, List.foldl_cons, List.foldl_nil, before, addListedApp_eq]
      · simp
      · exact known app (by simp)

theorem mem_appIds_addAppId {appId other : String} :
    other ∈ (runtime.addAppId appId).appIds ↔ other = appId ∨ other ∈ runtime.appIds := by
  unfold addAppId
  split
  · rename_i known
    constructor
    · exact Or.inr
    · rintro (rfl | member)
      · exact known
      · exact member
  · simp [sendForwardGetListing]

theorem mem_appIds_addListedApps (apps : List RpcApp) {other : String} :
    other ∈ (apps.foldl addListedApp runtime).appIds ↔
      (∃ app ∈ apps, app.appId = other) ∨ other ∈ runtime.appIds := by
  induction apps using List.reverseRecOn with
  | nil => simp
  | append_singleton apps app ih =>
      rw [List.foldl_append, List.foldl_cons, List.foldl_nil]
      simp only [addListedApp, mem_appIds_addAppId, ih, List.mem_append, List.mem_singleton]
      constructor
      · rintro (rfl | ⟨earlier, member, rfl⟩ | present)
        · exact .inl ⟨app, .inr rfl, rfl⟩
        · exact .inl ⟨earlier, .inl member, rfl⟩
        · exact .inr present
      · rintro (⟨earlier, member | rfl, rfl⟩ | present)
        · exact .inr (.inl ⟨earlier, member, rfl⟩)
        · exact .inl rfl
        · exact .inr (.inr present)

theorem addListedApps_eq_self_iff {apps : List RpcApp} :
    apps.foldl addListedApp runtime = runtime ↔
      (∀ app ∈ apps, app.appId ∈ runtime.appIds) ∧
        ∀ app, apps.getLast? = some app → runtime.currentApp = some app := by
  constructor
  · intro same
    have known : ∀ app ∈ apps, app.appId ∈ runtime.appIds := by
      intro app member
      rw [← same]
      exact (mem_appIds_addListedApps apps).mpr (.inl ⟨app, member, rfl⟩)
    refine ⟨known, ?_⟩
    intro app last
    have current := congrArg DeviceRuntime.currentApp (addListedApps_known known)
    rw [same, last] at current
    exact current
  · rintro ⟨known, current⟩
    rw [addListedApps_known known]
    cases last : apps.getLast? with
    | none => simp
    | some app => rw [Option.some_or, ← current app last]

theorem setConnected_eq_self_iff (published : runtime.sharedState.connected = runtime.connected) :
    runtime.setConnected = runtime ↔ runtime.connected = true := by
  constructor
  · intro same
    rw [← same]
    rfl
  · intro connected
    rw [connected] at published
    obtain ⟨port, deviceId, deviceName, deviceOsVersion, _, _, _, _, _, _, _, _, _, shared, _⟩ :=
      runtime
    obtain ⟨_, _, _, _, _, _, _⟩ := shared
    simp only at connected published
    subst connected published
    rfl

theorem removeAppId_eq_self_iff {appId : String} :
    runtime.removeAppId appId = runtime ↔ appId ∉ runtime.appIds ∧
      (∀ num page, runtime.pages.lookup num = some page → page.appId ≠ appId) ∧
      runtime.sharedState.pages = runtime.syncedPages := by
  constructor
  · intro same
    refine ⟨?_, ?_, ?_⟩
    · have erased := congrArg (fun known => appId ∈ known.appIds) same
      simp only [removeAppId, syncPages, AList.mem_erase, ne_eq, not_true, false_and] at erased
      rw [← erased]
      exact not_false
    · intro num page found app
      have erased := congrArg (fun known => known.pages.lookup num) same
      have member : num ∈ runtime.pages.keysWhere fun page => page.appId == appId :=
        Table.mem_keysWhere.mpr ⟨page, found, by simpa using app⟩
      simp only [removeAppId, syncPages, Table.lookup_eraseAll, member, if_true, found] at erased
      cases erased
    · apply syncPages_eq_self_iff.mp
      rw [← same]
      rfl
  · rintro ⟨unknown, none, synced⟩
    have kept : runtime.pages.eraseAll (runtime.pages.keysWhere fun page => page.appId == appId) =
        runtime.pages := by
      apply Table.eraseAll_eq_self
      intro num member
      obtain ⟨page, found, app⟩ := Table.mem_keysWhere.mp member
      exact absurd (beq_iff_eq.mp app) (none num page found)
    simp only [removeAppId, kept, Table.erase_eq_self unknown]
    exact syncPages_eq_self_iff.mpr synced

theorem handleAppData_eq_self_iff {destId : String} {data : List UInt8} :
    runtime.handleAppData destId data = runtime ↔ destId ∉ runtime.wsClientTxs := by
  unfold handleAppData
  split
  · rename_i tx found
    have member : destId ∈ runtime.wsClientTxs := Table.mem_of_lookup found
    simp only [member, not_true, iff_false]
    intro same
    have longer := congrArg (fun known => known.delivered.length) same
    simp at longer
  · rename_i missing
    simp [AList.lookup_eq_none.mp missing]

theorem hold_eq_self_iff {wsId : String} {page : PageInfo} :
    page.hold wsId = page ↔ page.senderId = some wsId ∧ page.wsClientId = some wsId := by
  obtain ⟨pageNum, pageType, appId, pageId, connectionId, title, url, senderId, wsClientId⟩ := page
  simp [PageInfo.hold, eq_comm]

theorem openDevtools_lookup (valid : PageTable runtime.pages) {wsId : String} {num : Nat}
    {page : PageInfo} (found : runtime.pages.lookup num = some page) :
    (runtime.openDevtools wsId num).pages.lookup num = some (page.hold wsId) := by
  simp [openDevtools_found valid found, found]

theorem sendForwardSocketSetup_holds (valid : Paged runtime) (wsId : String) {num : Nat}
    {page : PageInfo} (found : runtime.pages.lookup num = some page) :
    ∃ before : PageInfo, (runtime.sendForwardSocketSetup wsId num).pages.lookup num =
      some (before.hold wsId) := by
  have stopped : ∃ before, (runtime.stopDevtools num).pages.lookup num = some before := by
    cases held : page.senderId with
    | none => exact ⟨page, by rw [stopDevtools_idle valid.table found held, found]⟩
    | some sender => exact ⟨page.release, by simp [stopDevtools_held valid.table found held, found]⟩
  obtain ⟨before, stored⟩ := stopped
  unfold sendForwardSocketSetup
  split
  · split
    · exact ⟨before, openDevtools_lookup (stopDevtools_paged valid num).table stored⟩
    · exact ⟨page, openDevtools_lookup valid.table found⟩
  · exact ⟨page, openDevtools_lookup valid.table found⟩

theorem sendForwardSocketSetup_eq_self_iff (valid : Paged runtime) {wsId : String} {num : Nat} :
    runtime.sendForwardSocketSetup wsId num = runtime ↔
      ∀ page, runtime.pages.lookup num = some page → page.senderId = some wsId ∧
        page.wsClientId = some wsId ∧ runtime.canSend = false := by
  cases found : runtime.pages.lookup num with
  | none => simp [sendForwardSocketSetup, findPage_eq valid.table, found,
      openDevtools_absent valid.table found]
  | some page =>
      have reopened (own : page.wsClientId = some wsId) (same : page.hold wsId = page) :
          runtime.sendForwardSocketSetup wsId num =
            runtime.send (.forwardSocketSetup page.appId page.pageId wsId) := by
        have kept : runtime.pages.modify num (PageInfo.hold wsId) = runtime.pages := by
          apply Table.modify_eq_self
          intro known stored
          rw [found] at stored
          cases stored
          exact same
        simp [sendForwardSocketSetup, findPage_eq valid.table, found, own,
          openDevtools_found valid.table found, kept]
      simp only [Option.some.injEq, forall_eq']
      constructor
      · intro same
        obtain ⟨before, stored⟩ := sendForwardSocketSetup_holds valid wsId found
        rw [same, found, Option.some.injEq] at stored
        have held : page.hold wsId = page := by rw [stored]; rfl
        obtain ⟨sender, own⟩ := hold_eq_self_iff.mp held
        rw [reopened own held] at same
        exact ⟨sender, own, send_eq_self_iff.mp same⟩
      · rintro ⟨sender, own, closed⟩
        rw [reopened own (hold_eq_self_iff.mpr ⟨sender, own⟩)]
        exact send_eq_self_iff.mpr closed

theorem close_eq_self_iff (valid : Paged runtime) {message : WsToWiMessage}
    (close : message.isClose = true) :
    runtime.handleWsMessage message = runtime ↔
      (∀ page, runtime.pages.lookup message.pageNum = some page → page.senderId = none) ∧
        message.wsId ∉ runtime.wsClients ∧ message.wsId ∉ runtime.wsClientTxs := by
  simp only [handleWsMessage, close, if_true]
  constructor
  · intro same
    refine ⟨?_, ?_, ?_⟩
    · intro page found
      cases held : page.senderId with
      | none => rfl
      | some sender =>
          have released := congrArg (fun known => known.pages.lookup message.pageNum) same
          simp only [stopDevtools_held valid.table found held, Table.lookup_modify, if_true, found,
            Option.map_some, Option.some.injEq] at released
          rw [← released] at held
          cases held
    · rw [← same]
      simp
    · rw [← same]
      simp
  · rintro ⟨free, noClient, noTx⟩
    have stopped : runtime.stopDevtools message.pageNum = runtime := by
      cases found : runtime.pages.lookup message.pageNum with
      | none => exact stopDevtools_absent valid.table found
      | some page => exact stopDevtools_idle valid.table found (free page found)
    simp only [stopped, Table.erase_eq_self noClient, Table.erase_eq_self noTx]

theorem forwardData_eq_self_iff (valid : Paged runtime) {message : WsToWiMessage} :
    runtime.forwardData message = runtime ↔
      ∀ page, runtime.pages.lookup message.pageNum = some page → runtime.canSend = false := by
  simp only [forwardData, findPage_eq valid.table]
  cases runtime.pages.lookup message.pageNum with
  | none => simp
  | some page => simp [send_eq_self_iff]

theorem handleWsRegistration_eq_self_iff {registration : WiToWsRegistration} :
    runtime.handleWsRegistration registration = runtime ↔
      runtime.wsClients.lookup registration.wsId =
          some ⟨registration.pageNum, registration.wsId⟩ ∧
        runtime.wsClientTxs.lookup registration.wsId = some registration.tx := by
  constructor
  · intro same
    rw [← same]
    simp [handleWsRegistration]
  · rintro ⟨client, tx⟩
    simp only [handleWsRegistration, Table.assign_eq_self_iff.mpr client,
      Table.assign_eq_self_iff.mpr tx]

/-- The condition on the runtime under which an event changes nothing. -/
def Inert (runtime : DeviceRuntime) : RuntimeEvent → Prop
  | .rpc .reportSetup => runtime.connected = true
  | .rpc (.reportConnectedApplicationList apps) =>
      runtime.connected = true ∧ (∀ app ∈ apps, app.appId ∈ runtime.appIds) ∧
        ∀ app, apps.getLast? = some app → runtime.currentApp = some app
  | .rpc (.applicationConnected app) =>
      runtime.currentApp = some app ∧ app.appId ∈ runtime.appIds
  | .rpc (.applicationDisconnected app) => app.appId ∉ runtime.appIds ∧
      (∀ num page, runtime.pages.lookup num = some page → page.appId ≠ app.appId) ∧
      runtime.sharedState.pages = runtime.syncedPages
  | .rpc (.applicationSentListing appId items) => ListingInert runtime appId items
  | .rpc (.applicationSentData _ destId _) => destId ∉ runtime.wsClientTxs
  | .rpc (.applicationUpdated _ destId) => destId ∈ runtime.appIds
  | .rpc (.unknown _) => True
  | .wsMessage message =>
      if message.isClose then
        (∀ page, runtime.pages.lookup message.pageNum = some page → page.senderId = none) ∧
          message.wsId ∉ runtime.wsClients ∧ message.wsId ∉ runtime.wsClientTxs
      else if message.data.isEmpty then
        ∀ page, runtime.pages.lookup message.pageNum = some page →
          page.senderId = some message.wsId ∧ page.wsClientId = some message.wsId ∧
            runtime.canSend = false
      else ∀ page, runtime.pages.lookup message.pageNum = some page → runtime.canSend = false
  | .registration registration =>
      runtime.wsClients.lookup registration.wsId =
          some ⟨registration.pageNum, registration.wsId⟩ ∧
        runtime.wsClientTxs.lookup registration.wsId = some registration.tx

def ShortListing : RuntimeEvent → Prop
  | .rpc (.applicationSentListing _ items) => items.length < 2 ^ 32
  | _ => True

theorem addAppId_currentApp (runtime : DeviceRuntime) (appId : String) :
    (runtime.addAppId appId).currentApp = runtime.currentApp := by
  unfold addAppId
  split
  · rfl
  · rw [sendForwardGetListing, send_eq]

theorem applicationConnected_eq_self_iff {app : RpcApp} :
    runtime.handleRpcMessage (.applicationConnected app) = runtime ↔
      runtime.currentApp = some app ∧ app.appId ∈ runtime.appIds := by
  simp only [handleRpcMessage]
  constructor
  · intro same
    have current := congrArg DeviceRuntime.currentApp same
    rw [addAppId_currentApp] at current
    refine ⟨current.symm, ?_⟩
    rw [← same]
    exact mem_appIds_addAppId.mpr (.inl rfl)
  · rintro ⟨current, known⟩
    have unchanged : { runtime with currentApp := some app } = runtime := by rw [← current]
    rw [unchanged, addAppId_eq_self_iff.mpr known]

theorem reportConnectedApplicationList_eq_self_iff {apps : List RpcApp} :
    runtime.handleRpcMessage (.reportConnectedApplicationList apps) = runtime ↔
      runtime.connected = true ∧ (∀ app ∈ apps, app.appId ∈ runtime.appIds) ∧
        ∀ app, apps.getLast? = some app → runtime.currentApp = some app := by
  cases connected : runtime.connected with
  | true => simp [handleRpcMessage, connected, addListedApps_eq_self_iff]
  | false =>
      simp only [handleRpcMessage, connected, Bool.false_eq_true, if_false, false_and, iff_false]
      intro same
      have joined := (addListedApps_sameView apps runtime.setConnected).connected
      rw [same, connected] at joined
      cases joined

/-- Handling an inert event changes nothing, and any other event changes
something, short of a listing that takes the page counter once around. -/
theorem handle_eq_self (valid : Paged runtime)
    (published : runtime.sharedState.connected = runtime.connected) (event : RuntimeEvent) :
    (Inert runtime event → runtime.handle event = runtime) ∧
      (ShortListing event → runtime.handle event = runtime → Inert runtime event) := by
  have exactly {condition : Prop} (same : runtime.handle event = runtime ↔ condition)
      (means : Inert runtime event ↔ condition) :
      (Inert runtime event → runtime.handle event = runtime) ∧
        (ShortListing event → runtime.handle event = runtime → Inert runtime event) :=
    ⟨fun inert => same.mpr (means.mp inert), fun _ unchanged => means.mpr (same.mp unchanged)⟩
  cases event with
  | rpc message =>
      cases message with
      | reportSetup => exact exactly (setConnected_eq_self_iff published) Iff.rfl
      | reportConnectedApplicationList apps =>
          exact exactly reportConnectedApplicationList_eq_self_iff Iff.rfl
      | applicationConnected app => exact exactly applicationConnected_eq_self_iff Iff.rfl
      | applicationDisconnected app => exact exactly removeAppId_eq_self_iff Iff.rfl
      | applicationSentListing appId items =>
          exact ⟨handlePageListing_inert valid, fun short unchanged =>
            listingInert_of_handlePageListing valid short unchanged⟩
      | applicationSentData appId destId data => exact exactly handleAppData_eq_self_iff Iff.rfl
      | applicationUpdated appId destId => exact exactly addAppId_eq_self_iff Iff.rfl
      | unknown selector => exact ⟨fun _ => rfl, fun _ _ => trivial⟩
  | wsMessage message =>
      cases close : message.isClose with
      | true => exact exactly (close_eq_self_iff valid close) (by simp [Inert, close])
      | false =>
          cases empty : message.data.isEmpty with
          | true =>
              refine exactly ?_ (by simp only [Inert, close, empty, if_true]; rfl)
              simp only [handle, handleWsMessage, close, empty, if_true]
              exact sendForwardSocketSetup_eq_self_iff valid
          | false =>
              refine exactly ?_ (by simp only [Inert, close, empty]; rfl)
              simp only [handle, handleWsMessage, close, empty]
              exact forwardData_eq_self_iff valid
  | registration registration => exact exactly handleWsRegistration_eq_self_iff Iff.rfl

end DeviceRuntime

end IosWebkitDebugProxy
