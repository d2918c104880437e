import IosWebkitDebugProxy.ProxyListing

/-! The applications of a device and the pages that are shown for them. A listing
is taken over whether its application is known or not. -/

namespace IosWebkitDebugProxy

open Transition

namespace DeviceRuntime

variable {runtime : DeviceRuntime}

/-- Every page in the table and in the published list is of a known application. -/
structure OnlyKnown (runtime : DeviceRuntime) : Prop where
  pages : ∀ num page, runtime.pages.lookup num = some page → page.appId ∈ runtime.appIds
  published : ∀ entry ∈ runtime.sharedState.pages, entry.appId ∈ runtime.appIds

def Shows (runtime : DeviceRuntime) (appId : String) : Prop :=
  (∃ num page, runtime.pages.lookup num = some page ∧ page.appId = appId) ∨
    ∃ entry ∈ runtime.sharedState.pages, entry.appId = appId

def Announces (appId : String) : RuntimeEvent → Prop
  | .rpc (.reportConnectedApplicationList apps) => ∃ app ∈ apps, app.appId = appId
  | .rpc (.applicationConnected app) => appId = app.appId
  | .rpc (.applicationUpdated _ destId) => appId = destId
  | _ => False

/-- In every state of a run only known applications have pages, and none is shown
of an application that was disconnected until it is announced again. -/
structure KeepsToApps (start : DeviceRuntime) (events : List RuntimeEvent) : Prop where
  known : ∀ before after, events = before ++ after → OnlyKnown (run handle start before)
  gone : ∀ before app between after,
    events = before ++ .rpc (.applicationDisconnected app) :: between ++ after →
      (∀ event ∈ between, ¬Announces app.appId event) →
        ¬Shows (run handle start (before ++ .rpc (.applicationDisconnected app) :: between))
          app.appId

/-- A listing that names a page is of an application that is known when it comes. -/
def ListsKnown (runtime : DeviceRuntime) : RuntimeEvent → Prop
  | .rpc (.applicationSentListing appId items) => items = [] ∨ appId ∈ runtime.appIds
  | _ => True

theorem OnlyKnown.not_shows (known : OnlyKnown runtime) {appId : String}
    (absent : appId ∉ runtime.appIds) : ¬Shows runtime appId := by
  rintro (⟨num, page, found, rfl⟩ | ⟨entry, member, rfl⟩)
  · exact absent (known.pages num page found)
  · exact absent (known.published entry member)

theorem stopDevtools_apps (num : Nat) (runtime : DeviceRuntime) :
    (runtime.stopDevtools num).appIds = runtime.appIds ∧
      (runtime.stopDevtools num).sharedState = runtime.sharedState := by
  unfold stopDevtools
  split
  · exact ⟨rfl, rfl⟩
  · split
    · exact ⟨rfl, rfl⟩
    · exact ⟨send_appIds _ _, send_sharedState _ _⟩

theorem openDevtools_apps (wsId : String) (num : Nat) (runtime : DeviceRuntime) :
    (runtime.openDevtools wsId num).appIds = runtime.appIds ∧
      (runtime.openDevtools wsId num).sharedState = runtime.sharedState := by
  unfold openDevtools
  split
  · exact ⟨rfl, rfl⟩
  · exact ⟨send_appIds _ _, send_sharedState _ _⟩

theorem handleWsMessage_apps (message : WsToWiMessage) (runtime : DeviceRuntime) :
    (runtime.handleWsMessage message).appIds = runtime.appIds ∧
      (runtime.handleWsMessage message).sharedState = runtime.sharedState := by
  unfold handleWsMessage
  split
  · exact stopDevtools_apps message.pageNum runtime
  · split
    · obtain ⟨apps, shared⟩ := stopDevtools_apps message.pageNum runtime
      unfold sendForwardSocketSetup
      split
      · split
        · obtain ⟨apps', shared'⟩ := openDevtools_apps message.wsId message.pageNum
            (runtime.stopDevtools message.pageNum)
          exact ⟨apps'.trans apps, shared'.trans shared⟩
        · exact openDevtools_apps message.wsId message.pageNum runtime
      · exact openDevtools_apps message.wsId message.pageNum runtime
    · unfold forwardData
      split
      · exact ⟨rfl, rfl⟩
      · exact ⟨send_appIds _ _, send_sharedState _ _⟩

theorem addAppId_sharedState (appId : String) (runtime : DeviceRuntime) :
    (runtime.addAppId appId).sharedState = runtime.sharedState := by
  unfold addAppId
  split
  · rfl
  · exact send_sharedState _ _

theorem addListedApps_sharedState (apps : List RpcApp) (runtime : DeviceRuntime) :
    (apps.foldl addListedApp runtime).sharedState = runtime.sharedState := by
  induction apps generalizing runtime with
  | nil => rfl
  | cons app apps ih => exact (ih _).trans (addAppId_sharedState app.appId runtime)

theorem listPages_appIds (appId : String) (items : List RpcPage) (runtime : DeviceRuntime) :
    (items.foldl (listPage appId) runtime).appIds = runtime.appIds := by
  induction items generalizing runtime with
  | nil => rfl
  | cons item items ih =>
      refine (ih _).trans ?_
      unfold listPage
      split <;> rfl

theorem mem_appIds_handle {appId : String} {event : RuntimeEvent}
    (member : appId ∈ (runtime.handle event).appIds) :
    Announces appId event ∨ appId ∈ runtime.appIds := by
  cases event with
  | wsMessage message =>
      change appId ∈ (runtime.handleWsMessage message).appIds at member
      rw [(handleWsMessage_apps message runtime).1] at member
      exact .inr member
  | registration registration => exact .inr member
  | rpc message =>
      cases message with
      | reportSetup => exact .inr member
      | reportConnectedApplicationList apps =>
          refine ((mem_appIds_addListedApps apps).mp member).imp_right fun earlier => ?_
          split at earlier <;> exact earlier
      | applicationConnected app =>
          change appId ∈
            (addAppId app.appId { runtime with currentApp := some app }).appIds at member
          rw [mem_appIds_addAppId] at member
          exact member
      | applicationDisconnected app => exact .inr (AList.mem_erase.mp member).2
      | applicationSentListing app items =>
          change appId ∈ (items.foldl (listPage app) runtime).appIds at member
          rw [listPages_appIds] at member
          exact .inr member
      | applicationSentData app destId data =>
          simp only [handle, handleRpcMessage, handleAppData] at member
          split at member <;> exact .inr member
      | applicationUpdated app destId => exact mem_appIds_addAppId.mp member
      | unknown selector => exact .inr member

theorem onlyKnown_syncPages
    (pages : ∀ num page, runtime.pages.lookup num = some page → page.appId ∈ runtime.appIds) :
    OnlyKnown runtime.syncPages := by
  refine ⟨pages, ?_⟩
  intro entry member
  have synced : entry ∈ (runtime.pages.values.map PageInfo.entry).insertionSort
    fun first second => first.pageNum ≤ second.pageNum := member
  rw [List.mem_insertionSort, List.mem_map] at synced
  obtain ⟨page, listed, rfl⟩ := synced
  obtain ⟨num, found⟩ := Table.mem_values.mp listed
  exact pages num page found

theorem OnlyKnown.of_reshapes {touched : Nat → Prop} {after : DeviceRuntime}
    (known : OnlyKnown runtime) (reshapes : Reshapes touched runtime after)
    (apps : ∀ appId ∈ runtime.appIds, appId ∈ after.appIds)
    (shared : after.sharedState.pages = runtime.sharedState.pages) : OnlyKnown after := by
  constructor
  · intro num page found
    obtain ⟨old, stored, same, _⟩ := reshapes.same num page found
    rw [← same]
    exact apps _ (known.pages num old stored)
  · intro entry member
    rw [shared] at member
    exact apps _ (known.published entry member)

theorem listPages_origin (valid : Paged runtime) (appId : String) (items : List RpcPage)
    {num : Nat} {page : PageInfo}
    (found : (items.foldl (listPage appId) runtime).pages.lookup num = some page) :
    items ≠ [] ∧ page.appId = appId ∨
      ∃ old, runtime.pages.lookup num = some old ∧ old.appId = page.appId := by
  induction items generalizing runtime with
  | nil => exact .inr ⟨page, found, rfl⟩
  | cons item items ih =>
      rcases ih (listPage_paged valid appId item) found with ⟨_, app⟩ | ⟨old, stored, same⟩
      · exact .inl ⟨List.cons_ne_nil _ _, app⟩
      · rcases listPage_news valid.table appId item with ⟨other, _, _, _, _, shape⟩ | ⟨_, shape⟩
        · rw [shape] at stored
          rcases Table.lookup_of_modify stored with ⟨_, known, before, rfl⟩ | ⟨_, before⟩
          · exact .inr ⟨known, before, same⟩
          · exact .inr ⟨old, before, same⟩
        · rw [shape, Table.lookup_assign] at stored
          split at stored
          · cases stored
            exact .inl ⟨List.cons_ne_nil _ _, same.symm⟩
          · exact .inr ⟨old, stored, same⟩

theorem handle_onlyKnown (valid : Paged runtime) (known : OnlyKnown runtime) {event : RuntimeEvent}
    (allowed : ListsKnown runtime event) : OnlyKnown (runtime.handle event) := by
  by_cases listing : ∃ appId items, event = .rpc (.applicationSentListing appId items)
  · obtain ⟨appId, items, rfl⟩ := listing
    refine onlyKnown_syncPages fun num page found => ?_
    have listed := ((handlePageListing_lookup runtime appId items num page).mp found).1
    change page.appId ∈ (items.foldl (listPage appId) runtime).appIds
    rw [listPages_appIds]
    rcases listPages_origin valid appId items listed with ⟨some, rfl⟩ | ⟨old, stored, same⟩
    · exact allowed.resolve_left some
    · rw [← same]
      exact known.pages num old stored
  · have reshapes := (handle_moves valid.table fun appId items same =>
      listing ⟨appId, items, same⟩).reshapes
    cases event with
    | wsMessage message =>
        obtain ⟨apps, shared⟩ := handleWsMessage_apps message runtime
        exact known.of_reshapes reshapes (fun appId member => apps ▸ member) (congrArg _ shared)
    | registration registration => exact known.of_reshapes reshapes (fun _ => id) rfl
    | rpc message =>
        cases message with
        | reportSetup => exact known.of_reshapes reshapes (fun _ => id) rfl
        | reportConnectedApplicationList apps =>
            refine known.of_reshapes reshapes (fun appId member => ?_) ?_
            · refine (mem_appIds_addListedApps apps).mpr (.inr ?_)
              split <;> exact member
            · refine (congrArg DevicePortState.pages (addListedApps_sharedState apps _)).trans ?_
              split <;> rfl
        | applicationConnected app =>
            refine known.of_reshapes reshapes (fun appId member => ?_) ?_
            · exact mem_appIds_addAppId.mpr (.inr member)
            · exact congrArg _ (addAppId_sharedState app.appId _)
        | applicationDisconnected app =>
            refine onlyKnown_syncPages fun num page found => ?_
            rw [Table.lookup_eraseAll] at found
            split at found
            · cases found
            · rename_i stays
              refine AList.mem_erase.mpr ⟨fun same => stays ?_, known.pages num page found⟩
              exact Table.mem_keysWhere.mpr ⟨page, found, beq_iff_eq.mpr same⟩
        | applicationSentListing appId items => exact absurd ⟨appId, items, rfl⟩ listing
        | applicationSentData appId destId data =>
            refine known.of_reshapes reshapes (fun appId member => ?_) ?_ <;>
              simp only [handle, handleRpcMessage, handleAppData]
            · split <;> exact member
            · split <;> rfl
        | applicationUpdated appId destId =>
            refine known.of_reshapes reshapes (fun appId member => ?_) ?_
            · exact mem_appIds_addAppId.mpr (.inr member)
            · exact congrArg _ (addAppId_sharedState destId _)
        | unknown selector => exact known

theorem listPage_hasPage (valid : Paged runtime) (appId : String) (item : RpcPage) :
    (runtime.listPage appId item).hasPage appId item.pageId = true := by
  rw [hasPage_iff]
  rcases listPage_news valid.table appId item with
    ⟨num, page, found, app, identifier, shape⟩ | ⟨_, shape⟩
  · exact ⟨num, page.list item, by rw [shape, Table.lookup_modify, if_pos rfl, found]; rfl, app,
      identifier⟩
  · exact ⟨runtime.newNum 0, newPage appId item (runtime.newNum 0),
      by rw [shape, Table.lookup_assign, if_pos rfl], rfl, rfl⟩

theorem handlePageListing_shows (valid : Paged runtime) (appId : String) {items : List RpcPage}
    (some : items ≠ []) :
    ∃ num page, (runtime.handlePageListing appId items).pages.lookup num = .some page ∧
      page.appId = appId := by
  obtain ⟨front, last, rfl⟩ := (List.eq_nil_or_concat items).resolve_left some
  have listed : Paged (front.foldl (listPage appId) runtime) :=
    List.foldlRecOn front (listPage appId) valid
      fun known held item _ => listPage_paged held appId item
  obtain ⟨num, page, found, app, identifier⟩ :=
    (hasPage_iff _ _ _).mp (listPage_hasPage listed appId last)
  refine ⟨num, page, ?_, app⟩
  rw [handlePageListing_lookup, List.concat_eq_append, List.foldl_append]
  refine ⟨found, fun _ => ⟨last, ?_, identifier.symm⟩⟩
  exact List.mem_append_right _ (List.mem_singleton_self last)

theorem handle_not_onlyKnown (valid : Paged runtime) {event : RuntimeEvent}
    (refused : ¬ListsKnown runtime event) : ¬OnlyKnown (runtime.handle event) := by
  intro known
  unfold ListsKnown at refused
  split at refused
  · rename_i appId items
    obtain ⟨some, unknown⟩ := not_or.mp refused
    obtain ⟨num, page, found, rfl⟩ := handlePageListing_shows valid appId some
    have member := known.pages num page found
    change page.appId ∈ (items.foldl (listPage page.appId) runtime).appIds at member
    rw [listPages_appIds] at member
    exact unknown member
  · exact refused trivial

theorem run_not_mem_appIds {appId : String} (absent : appId ∉ runtime.appIds)
    {events : List RuntimeEvent} (unannounced : ∀ event ∈ events, ¬Announces appId event) :
    appId ∉ (run handle runtime events).appIds := by
  induction events generalizing runtime with
  | nil => exact absent
  | cons event events ih =>
      refine ih (fun member => ?_) fun later listed =>
        unannounced later (List.mem_cons_of_mem _ listed)
      rcases mem_appIds_handle member with announced | known
      · exact unannounced event List.mem_cons_self announced
      · exact absent known

theorem keepsToApps_iff (valid : Paged runtime) (known : OnlyKnown runtime)
    (events : List RuntimeEvent) :
    KeepsToApps runtime events ↔ Throughout handle runtime events ListsKnown := by
  have paged (events : List RuntimeEvent) : Paged (run handle runtime events) :=
    run_invariant Paged valid (fun _ event held => handle_paged held event) events
  constructor
  · intro keeps before event after split
    by_contra refused
    have next := keeps.known (before ++ [event]) after (by rw [split]; simp)
    rw [run_concat] at next
    exact handle_not_onlyKnown (paged before) refused next
  · intro allowed
    have reached (before after : List RuntimeEvent) (split : events = before ++ after) :
        OnlyKnown (run handle runtime before) := by
      rw [split, throughout_append] at allowed
      have both := run_invariant_throughout
        (fun state : DeviceRuntime => Paged state ∧ OnlyKnown state) ⟨valid, known⟩ (fun _ event held listed =>
          ⟨handle_paged held.1 event, handle_onlyKnown held.1 held.2 listed⟩) allowed.1
      exact both.2
    refine ⟨reached, ?_⟩
    intro before app between after split unannounced
    refine (reached _ after split).not_shows ?_
    rw [List.append_cons, run_append, run_concat]
    refine run_not_mem_appIds ?_ unannounced
    exact fun member => (AList.mem_erase.mp member).1 rfl

end DeviceRuntime

/-- Only known applications have pages in every run in which every listing with a
page comes while its application is known, and in no other. -/
theorem run_keepsToApps_iff (bridge : ProxyBridge) (environment : ConnectEnvironment)
    (deviceId : String) (port : Nat) (connection : DeviceConnection) (codec : WebInspectorCodec)
    (events : List RuntimeEvent) :
    DeviceRuntime.KeepsToApps (bridge.newRuntime environment deviceId port connection codec)
        events ↔
      Throughout DeviceRuntime.handle
        (bridge.newRuntime environment deviceId port connection codec) events
        DeviceRuntime.ListsKnown := by
  refine DeviceRuntime.keepsToApps_iff
    (newRuntime_paged bridge environment deviceId port connection codec) ?_ events
  constructor
  · intro num page found
    rw [(newRuntime_pages bridge environment deviceId port connection codec).1] at found
    cases found
  · intro entry member
    rw [ProxyBridge.newRuntime, DeviceRuntime.send_sharedState] at member
    cases member

/-- The listing that was asked for comes after its application has gone. -/
def lateListingRun : List RuntimeEvent :=
  [.rpc (.applicationConnected ⟨"PID:1", "Safari", false⟩),
    .rpc (.applicationDisconnected ⟨"PID:1", "Safari", false⟩),
    .rpc (.applicationSentListing "PID:1" [⟨1, .webPage, none, none, none⟩])]

theorem late_listing_shows_unknown :
    ¬DeviceRuntime.KeepsToApps phoneRuntime lateListingRun := by
  intro keeps
  have known := keeps.known lateListingRun [] (List.append_nil _).symm
  exact absurd (known.pages 1 ⟨1, .webPage, "PID:1", 1, none, none, none, none, none⟩ (by decide))
    (by decide)

end IosWebkitDebugProxy
