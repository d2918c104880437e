import IosWebkitDebugProxy.HttpListings

/-! The links of an answer, followed at any later time of the connection. By then pages
have come and gone, but a link opens the page that it was given for, or nothing. -/

namespace IosWebkitDebugProxy

open Transition Url

namespace DeviceRuntime

variable {runtime before after : DeviceRuntime} {num : Nat}

theorem stopDevtools_entry (valid : PageTable runtime.pages) {page : PageInfo}
    (found : runtime.pages.lookup num = some page) :
    ∃ later, (runtime.stopDevtools num).pages.lookup num = some later ∧
      later.appId = page.appId ∧ later.pageId = page.pageId := by
  cases held : page.senderId with
  | none =>
      rw [stopDevtools_idle valid found held]
      exact ⟨page, found, rfl, rfl⟩
  | some sender =>
      rw [stopDevtools_held valid found held]
      exact ⟨page.release, by simp [found], rfl, rfl⟩

theorem openDevtools_written (valid : PageTable runtime.pages) {wsId : String} {page : PageInfo}
    (found : runtime.pages.lookup num = some page)
    (ready : (runtime.openDevtools wsId num).canSend) :
    (runtime.openDevtools wsId num).written =
      runtime.written ++ [.forwardSocketSetup page.appId page.pageId wsId] := by
  rw [openDevtools_found valid found] at ready ⊢
  rw [written_send _ (canSend_send ready)]
  rfl

/-- A setup is told to the device, whoever has the page by then. -/
theorem setup_sent (paged : Paged runtime) {wsId : String} {page : PageInfo}
    (found : runtime.pages.lookup num = some page)
    (ready : (runtime.handleWsMessage ⟨num, wsId, [], false⟩).canSend) :
    .forwardSocketSetup page.appId page.pageId wsId ∈
      runtime.sentBy (.wsMessage ⟨num, wsId, [], false⟩) := by
  have setup : runtime.handleWsMessage ⟨num, wsId, [], false⟩ =
      runtime.sendForwardSocketSetup wsId num := rfl
  rw [sentBy, handle, setup]
  rw [setup] at ready
  unfold sendForwardSocketSetup at ready ⊢
  split at ready
  · split at ready
    · rename_i other
      obtain ⟨later, stored, app, identifier⟩ := stopDevtools_entry paged.table found
      obtain ⟨closed, written, _⟩ := stopDevtools_sends runtime num
      rw [if_pos other, openDevtools_written (stopDevtools_paged paged num).table stored ready,
        written, List.append_assoc, List.drop_left, app, identifier]
      simp
    · rename_i same
      rw [if_neg same, openDevtools_written paged.table found ready, List.drop_left]
      simp
  · rw [openDevtools_written paged.table found ready, List.drop_left]
    simp

structure Admits (runtime : DeviceRuntime) (page : PageEntry) (pageNum : List Char) : Prop where
  answer : handleWsUpgrade pageNum runtime.sharedState = .upgraded page.pageNum ∧
      runtime.HasEntry page.pageNum page.appId page.pageId ∨
    handleWsUpgrade pageNum runtime.sharedState = .notFound ∧
      page.pageNum ∉ runtime.pages
  opens : runtime.HasEntry page.pageNum page.appId page.pageId → ∀ wsId,
    (runtime.handleWsMessage ⟨page.pageNum, wsId, [], false⟩).canSend →
      .forwardSocketSetup page.appId page.pageId wsId ∈
        runtime.sentBy (.wsMessage ⟨page.pageNum, wsId, [], false⟩)
  only : ∀ message, message.pageNum = page.pageNum →
    ∀ command ∈ runtime.sentBy (.wsMessage message), ∀ target, command.target = some target →
      target = (page.appId, page.pageId)

theorem handleWsUpgrade_other {pageNum : List Char} {state : DevicePortState}
    (upgraded : handleWsUpgrade pageNum state = .upgraded num) (other : DevicePortState) :
    handleWsUpgrade pageNum other =
      if other.pages.any (fun page => page.pageNum == num) then .upgraded num else .notFound := by
  unfold handleWsUpgrade at upgraded ⊢
  split at upgraded
  · cases upgraded
  · split at upgraded
    · cases upgraded
      rfl
    · cases upgraded

theorem published_num (valid : PageTable runtime.pages)
    (published : runtime.sharedState.pages.map PageEntry.shown =
      runtime.syncedPages.map PageEntry.shown) {shown : Nat × String × Nat × Option String × Option String} :
    shown ∈ runtime.sharedState.pages.map PageEntry.shown ↔
      ∃ page, runtime.pages.lookup shown.1 = some page ∧ page.shown = shown := by
  rw [published, runtime.syncedPages_perm.mem_iff, List.mem_map]
  constructor
  · rintro ⟨page, member, rfl⟩
    obtain ⟨place, found⟩ := Table.mem_values.mp member
    have number : page.shown.1 = place := valid.numbered place page found
    exact ⟨page, number ▸ found, rfl⟩
  · rintro ⟨page, found, same⟩
    exact ⟨page, Table.mem_values.mpr ⟨_, found⟩, same⟩

theorem admits_of_grows (paged : Paged after) {page : PageEntry} {known : PageInfo}
    (grows : Grows before after) (bounded : Bounded before)
    (found : before.pages.lookup page.pageNum = some known) (app : known.appId = page.appId)
    (identifier : known.pageId = page.pageId)
    (published : after.sharedState.pages.map PageEntry.shown =
      after.syncedPages.map PageEntry.shown) {pageNum : List Char}
    (upgraded : handleWsUpgrade pageNum before.sharedState = .upgraded page.pageNum) :
    Admits after page pageNum := by
  have same {later : PageInfo} (stored : after.pages.lookup page.pageNum = some later) :
      later.appId = page.appId ∧ later.pageId = page.pageId := by
    obtain ⟨old, here, oldApp, oldId⟩ :=
      grows.same page.pageNum later (bounded _ known found).2 stored
    rw [found] at here
    cases here
    exact ⟨oldApp.symm.trans app, oldId.symm.trans identifier⟩
  have listed : after.sharedState.pages.any (fun other => other.pageNum == page.pageNum) = true ↔
      page.pageNum ∈ after.pages := by
    rw [List.any_eq_true]
    constructor
    · rintro ⟨other, member, number⟩
      obtain ⟨later, stored, _⟩ :=
        (published_num paged.table published).mp (List.mem_map_of_mem member)
      rw [← beq_iff_eq.mp number]
      exact Table.mem_of_lookup stored
    · intro present
      obtain ⟨later, stored⟩ := Table.exists_lookup present
      have number := paged.table.numbered page.pageNum later stored
      have inside := (published_num paged.table published).mpr
        ⟨later, (show after.pages.lookup later.pageNum = some later by rwa [number]), rfl⟩
      obtain ⟨other, member, shown⟩ := List.mem_map.mp inside
      exact ⟨other, member, beq_iff_eq.mpr ((congrArg Prod.fst shown).trans number)⟩
  refine ⟨?_, ?_, ?_⟩
  · rw [handleWsUpgrade_other upgraded]
    split
    · rename_i present
      obtain ⟨later, stored⟩ := Table.exists_lookup (listed.mp present)
      exact .inl ⟨rfl, later, stored, same stored⟩
    · rename_i absent
      exact .inr ⟨rfl, fun present => absent (listed.mpr present)⟩
  · rintro ⟨later, stored, app', identifier'⟩ wsId ready
    rw [← app', ← identifier']
    exact setup_sent paged stored ready
  · rintro message number command member target named
    obtain ⟨place, later, here, stored, rfl⟩ :=
      (handleWsMessage_moves paged.table message).sends.drop command member target named
    have place' : place = page.pageNum := here.trans number
    rw [place'] at stored
    obtain ⟨app', identifier'⟩ := same stored
    rw [app', identifier']

end DeviceRuntime

/-- The host of the request is got back, if the header does not end in an address in brackets. -/
theorem requestHost_read {header : String} {authority : Authority}
    (valid : Authority.read header.toList = some authority)
    (closed : header.toList.getLast? ≠ some ']') :
    requestHost (some header) = String.ofList authority.host ∧
      Authority.HostText authority.host := by
  obtain ⟨after, hostText, shape, portText⟩ := Authority.read_sound valid
  refine ⟨?_, hostText⟩
  rcases (Authority.readPort_cases portText).2 with rfl | ⟨digits, rfl, decimals⟩
  · rw [List.append_nil] at shape
    generalize authority.host = host at shape hostText
    cases hostText with
    | name _ nonempty letters =>
        have apart : ':' ∉ header.toList := by
          rw [shape]
          exact fun inside => (Authority.isNameLetter_apart (letters ':' inside)).1 rfl
        rw [requestHost_of_name apart, ← shape, String.ofList_toList]
    | literal address letters valid =>
        rw [shape, ← List.cons_append, List.getLast?_concat] at closed
        exact absurd rfl closed
  · have apart : ':' ∉ digits := fun inside => absurd (decimals ':' inside) (by decide)
    exact requestHost_of_port shape apart

def LeadsOnlyTo (runtime : DeviceRuntime) (page : PageEntry) (host : List Char) (url : String) :
    Prop :=
  ∃ target pageNum,
    Authority.readAfter "ws://".toList url.toList = some (⟨host, some runtime.sharedState.port⟩, target) ∧
      deviceRoute (cutTarget target).1 = .wsUpgrade pageNum ∧ runtime.Admits page pageNum

namespace ProxyBridge

variable {bridge : ProxyBridge} {environment : ConnectEnvironment}
variable {events later : List ProxyEvent} {deviceId : String} {start : DeviceRuntime}
variable {own : List RuntimeEvent}

theorem ConnectedSince.sharedPort
    (since : ConnectedSince bridge (.attached "SIMULATOR" environment :: events) deviceId start own) :
    (Transition.run DeviceRuntime.handle start own).sharedState.port = start.port := by
  rw [run_sharedPort bridge environment events deviceId _ since.found]
  exact run_invariant (fun runtime : DeviceRuntime => runtime.port = start.port) rfl
    (fun runtime event same => (runtime.handle_port event).trans same) own

/-- A link in the list of pages keeps its meaning while the device stays: however much later
it is followed, it opens the page that it was given for, or nothing. -/
theorem run_linksLast
    (since : ConnectedSince bridge (.attached "SIMULATOR" environment :: events) deviceId start own)
    (stays : ProxyEvent.detached deviceId ∉ later)
    (few : start.createdIn (own ++ ownEvents deviceId later) < 2 ^ 32 - 1) {header : String}
    {authority : Authority} (valid : Authority.read header.toList = some authority)
    (closed : header.toList.getLast? ≠ some ']') (port : start.port < 2 ^ 16) :
    ∃ before after, (bridge.run environment events).devices.lookup deviceId = some before ∧
      (bridge.run environment (events ++ later)).devices.lookup deviceId = some after ∧
      ∀ index page, before.sharedState.pages[index]? = some page →
        ∃ url, advertisedUrl before.sharedState header index = some url ∧
          LeadsOnlyTo after page authority.host url := by
  have extended : ConnectedSince bridge (.attached "SIMULATOR" environment :: (events ++ later))
      deviceId start (own ++ ownEvents deviceId later) := since.append stays
  refine ⟨_, _, since.found, extended.found, fun index page listed => ?_⟩
  have published := (run_published bridge environment events deviceId _ since.found).pages
  have publishedAfter := (run_published bridge environment _ deviceId _ extended.found).pages
  obtain ⟨_, counter, paged, bounded⟩ := since.begins
  have room : start.maxPageNum + start.createdIn (own ++ ownEvents deviceId later) < 2 ^ 32 := by
    omega
  obtain ⟨boundedBefore, grows⟩ := DeviceRuntime.run_grows_between paged bounded room
    (List.prefix_append own _) (List.prefix_refl _)
  obtain ⟨known, stored, shown⟩ :=
    (DeviceRuntime.published_num (DeviceRuntime.run_paged paged own).table published).mp
      (List.mem_map_of_mem (List.mem_of_getElem? listed))
  simp only [PageInfo.shown, PageEntry.shown, Prod.mk.injEq] at shown
  have small : page.pageNum < 2 ^ 32 := by
    rw [DeviceRuntime.createdIn_append] at few
    have counted := (DeviceRuntime.run_grows paged bounded own (by rw [counter]; omega)).1
    have least := (boundedBefore _ known stored).2
    change page.pageNum ≤ _ at least
    omega
  obtain ⟨host, hostText⟩ := requestHost_read valid closed
  obtain ⟨target, pageNum, read, route, upgraded⟩ := socketUrl_leadsBack hostText
    (List.mem_of_getElem? listed) (by rw [since.sharedPort]; exact port) small
  refine ⟨_, advertisedUrl_eq listed header, target, pageNum, ?_, route, ?_⟩
  · rw [host, read, since.sharedPort, extended.sharedPort]
  · exact DeviceRuntime.admits_of_grows
      (DeviceRuntime.run_paged paged (own ++ ownEvents deviceId later)) grows boundedBefore stored
      shown.2.1 shown.2.2.1 publishedAfter upgraded

def relistedEvents : List ProxyEvent :=
  [.wiEvent "UDID" (.recvPlist (listingMessage "PID:1" 2)),
    .wsMessage "UDID" ⟨1, "A", [], false⟩]

theorem run_linksLast_relisted :
    ∃ before after,
      (plainBridge.run idleEnvironment listedEvents).devices.lookup "UDID" = some before ∧
      (plainBridge.run idleEnvironment (listedEvents ++ relistedEvents)).devices.lookup "UDID" =
        some after ∧
      ∀ index page, before.sharedState.pages[index]? = some page →
        ∃ url, advertisedUrl before.sharedState "localhost:9222" index = some url ∧
          LeadsOnlyTo after page "localhost".toList url :=
  run_linksLast listedEvents_since (by simp [relistedEvents]) (by decide)
    (show Authority.read "localhost:9222".toList = some ⟨"localhost".toList, some 9222⟩ by decide)
    (by decide) (by decide)

end ProxyBridge

end IosWebkitDebugProxy
