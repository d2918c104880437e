import IosWebkitDebugProxy.ProxyClients
import IosWebkitDebugProxy.ProxyHolders
import IosWebkitDebugProxy.ProxyListing

/-! The clients that are registered and the pages that they are registered for. A
page that is removed takes no client with it. -/

namespace IosWebkitDebugProxy

open Transition

namespace DeviceRuntime

variable {runtime : DeviceRuntime}

def Attached (runtime : DeviceRuntime) : Prop :=
  ∀ wsId ∈ runtime.wsClientTxs, ∃ client, runtime.wsClients.lookup wsId = some client ∧
    client.pageNum ∈ runtime.pages

def Occupied (runtime : DeviceRuntime) (pageNum : Nat) : Prop :=
  ∃ wsId client, wsId ∈ runtime.wsClientTxs ∧ runtime.wsClients.lookup wsId = some client ∧
    client.pageNum = pageNum

def LeftOut (appId : String) (items : List RpcPage) (runtime : DeviceRuntime) (pageNum : Nat) :
    Prop :=
  (∃ page, runtime.pages.lookup pageNum = some page ∧ ¬Wanted appId items page) ∧
    ∀ later < runtime.createdBy appId items, pageNum ≠ runtime.newNum later

/-- A registration is for a page that is there, and no page that is removed is one
that a client is registered for. -/
def Retains (runtime : DeviceRuntime) : RuntimeEvent → Prop
  | .registration registration => registration.pageNum ∈ runtime.pages
  | .rpc (.applicationDisconnected app) => ∀ num page, runtime.pages.lookup num = some page →
      page.appId = app.appId → ¬Occupied runtime num
  | .rpc (.applicationSentListing appId items) => ∀ num, LeftOut appId items runtime num →
      ¬Occupied runtime num
  | _ => True

theorem createdBy_cons (appId : String) (item : RpcPage) (items : List RpcPage) :
    runtime.createdBy appId (item :: items) =
      (if runtime.hasPage appId item.pageId = true then 0 else 1) +
        (runtime.listPage appId item).createdBy appId items := rfl

/-- Under a number that a listing gives away there is a page that it names. Under
any other there is the page from before. -/
theorem listPages_lookup (valid : PageTable runtime.pages) (appId : String)
    (items : List RpcPage) {num : Nat} {page : PageInfo}
    (found : runtime.pages.lookup num = some page) :
    ∃ later, (items.foldl (listPage appId) runtime).pages.lookup num = some later ∧
      ((∀ later < runtime.createdBy appId items, num ≠ runtime.newNum later) ∧
          page.SameEntry later ∨
        (∃ later < runtime.createdBy appId items, num = runtime.newNum later) ∧
          ∃ item ∈ items, item.pageId = later.pageId) := by
  induction items generalizing runtime page with
  | nil =>
      exact ⟨page, found, .inl ⟨fun later none => absurd none (Nat.not_lt_zero later), .refl page⟩⟩
  | cons item items ih =>
      have table := listPage_table valid appId item
      rcases listPage_news valid appId item with
        ⟨other, known, stored, app, identifier, shape⟩ | ⟨missing, shape⟩
      · have has : runtime.hasPage appId item.pageId = true :=
          (hasPage_iff _ _ _).mpr ⟨other, known, stored, app, identifier⟩
        have count : runtime.createdBy appId (item :: items) =
            (runtime.listPage appId item).createdBy appId items := by
          rw [createdBy_cons, has, if_pos rfl, Nat.zero_add]
        have numbers (later : Nat) : (runtime.listPage appId item).newNum later =
            runtime.newNum later := by
          rw [shape]
          rfl
        obtain ⟨next, here, same⟩ : ∃ next,
            (runtime.listPage appId item).pages.lookup num = some next ∧ page.SameEntry next := by
          rw [shape, Table.lookup_modify, found]
          split
          · exact ⟨page.list item, rfl, rfl, rfl, rfl, rfl, rfl⟩
          · exact ⟨page, rfl, .refl page⟩
        obtain ⟨later, after, fate⟩ := ih table here
        refine ⟨later, after, ?_⟩
        simp only [numbers] at fate
        rw [count]
        rcases fate with ⟨others, same'⟩ | ⟨given, listed, member, named⟩
        · exact .inl ⟨others, same.trans same'⟩
        · exact .inr ⟨given, listed, List.mem_cons_of_mem item member, named⟩
      · have count : runtime.createdBy appId (item :: items) =
            (runtime.listPage appId item).createdBy appId items + 1 := by
          rw [createdBy_cons, missing, if_neg Bool.false_ne_true, Nat.add_comm]
        have numbers (later : Nat) : (runtime.listPage appId item).newNum later =
            runtime.newNum (later + 1) := by
          rw [shape]
          simp only [newNum]
          omega
        rw [count]
        by_cases given : num = runtime.newNum 0
        · have here : (runtime.listPage appId item).pages.lookup num =
              some (newPage appId item num) := by
            rw [shape, Table.lookup_assign, if_pos given, given]
          obtain ⟨later, after, fate⟩ := ih table here
          refine ⟨later, after, .inr ⟨⟨0, Nat.succ_pos _, given⟩, ?_⟩⟩
          rcases fate with ⟨_, same⟩ | ⟨_, listed, member, named⟩
          · exact ⟨item, List.mem_cons_self, same.pageId.symm⟩
          · exact ⟨listed, List.mem_cons_of_mem item member, named⟩
        · have here : (runtime.listPage appId item).pages.lookup num = some page := by
            rw [shape, Table.lookup_assign, if_neg given]
            exact found
          obtain ⟨later, after, fate⟩ := ih table here
          refine ⟨later, after, ?_⟩
          simp only [numbers] at fate
          rcases fate with ⟨others, same⟩ | ⟨⟨place, less, same⟩, listed, member, named⟩
          · refine .inl ⟨fun place less => ?_, same⟩
            cases place with
            | zero => exact given
            | succ place => exact others place (Nat.lt_of_succ_lt_succ less)
          · exact .inr ⟨⟨place + 1, Nat.succ_lt_succ less, same⟩, listed,
              List.mem_cons_of_mem item member, named⟩

theorem mem_handlePageListing (valid : PageTable runtime.pages) (appId : String)
    (items : List RpcPage) {num : Nat} (present : num ∈ runtime.pages) :
    num ∈ (runtime.handlePageListing appId items).pages ↔ ¬LeftOut appId items runtime num := by
  obtain ⟨page, found⟩ := Table.exists_lookup present
  obtain ⟨later, stored, shape⟩ := listPages_lookup valid appId items found
  have stays : num ∈ (runtime.handlePageListing appId items).pages ↔
      Wanted appId items later := by
    constructor
    · intro member
      obtain ⟨left, shown⟩ := Table.exists_lookup member
      obtain ⟨listed, wanted⟩ := (handlePageListing_lookup runtime appId items num left).mp shown
      rw [stored] at listed
      cases listed
      exact wanted
    · intro wanted
      exact Table.mem_of_lookup ((handlePageListing_lookup runtime appId items num later).mpr
        ⟨stored, wanted⟩)
  rw [stays]
  rcases shape with ⟨others, same⟩ | ⟨given, listed⟩
  · have kept : Wanted appId items later ↔ Wanted appId items page := by
      rw [Wanted, Wanted, same.appId, same.pageId]
    rw [kept]
    constructor
    · rintro wanted ⟨⟨left, here, unwanted⟩, _⟩
      rw [found] at here
      cases here
      exact unwanted wanted
    · intro stays
      by_contra unwanted
      exact stays ⟨⟨page, found, unwanted⟩, others⟩
  · refine iff_of_true (fun _ => listed) ?_
    rintro ⟨_, others⟩
    obtain ⟨place, less, same⟩ := given
    exact others place less same

theorem mem_stopDevtools (num : Nat) {other : Nat} :
    other ∈ (runtime.stopDevtools num).pages ↔ other ∈ runtime.pages := by
  unfold stopDevtools
  split
  · rfl
  · split
    · rfl
    · simp

theorem mem_openDevtools (wsId : String) (num : Nat) {other : Nat} :
    other ∈ (runtime.openDevtools wsId num).pages ↔ other ∈ runtime.pages := by
  unfold openDevtools
  split
  · rfl
  · simp

theorem mem_handleWsMessage (message : WsToWiMessage) {num : Nat} :
    num ∈ (runtime.handleWsMessage message).pages ↔ num ∈ runtime.pages := by
  unfold handleWsMessage
  split
  · exact mem_stopDevtools message.pageNum
  · split
    · unfold sendForwardSocketSetup
      split
      · split
        · exact (mem_openDevtools _ _).trans (mem_stopDevtools _)
        · exact mem_openDevtools _ _
      · exact mem_openDevtools _ _
    · unfold forwardData
      split
      · rfl
      · rw [send_pages]

theorem mem_removeAppId (appId : String) {num : Nat} :
    num ∈ (runtime.removeAppId appId).pages ↔
      ∃ page, runtime.pages.lookup num = some page ∧ page.appId ≠ appId := by
  change num ∈ runtime.pages.eraseAll (runtime.pages.keysWhere fun page => page.appId == appId) ↔ _
  rw [← AList.lookup_isSome, Option.isSome_iff_exists]
  simp only [Table.lookup_eraseAll]
  constructor
  · rintro ⟨page, found⟩
    split at found
    · cases found
    · rename_i stays
      refine ⟨page, found, fun app => stays ?_⟩
      exact Table.mem_keysWhere.mpr ⟨page, found, beq_iff_eq.mpr app⟩
  · rintro ⟨page, found, apart⟩
    refine ⟨page, ?_⟩
    rw [if_neg, found]
    intro removed
    obtain ⟨known, stored, app⟩ := Table.mem_keysWhere.mp removed
    rw [found] at stored
    cases stored
    exact apart (beq_iff_eq.mp app)

/-- Where the clients stay, what counts is the pages that they are registered for. -/
theorem Attached.clients_iff (attached : Attached runtime) {after : DeviceRuntime}
    (clients : after.wsClients = runtime.wsClients)
    (senders : after.wsClientTxs = runtime.wsClientTxs) :
    Attached after ↔ ∀ num, Occupied runtime num → num ∈ after.pages := by
  constructor
  · rintro still num ⟨wsId, client, member, found, rfl⟩
    obtain ⟨other, stored, present⟩ := still wsId (senders ▸ member)
    rw [clients, found] at stored
    cases stored
    exact present
  · intro present wsId member
    rw [senders] at member
    obtain ⟨client, found, _⟩ := attached wsId member
    exact ⟨client, clients ▸ found, present _ ⟨wsId, client, member, found, rfl⟩⟩

theorem Attached.occupied (attached : Attached runtime) {num : Nat}
    (occupied : Occupied runtime num) : num ∈ runtime.pages :=
  (attached.clients_iff rfl rfl).mp attached num occupied

theorem Attached.wsMessage (attached : Attached runtime) (message : WsToWiMessage) :
    Attached (runtime.handleWsMessage message) := by
  intro wsId member
  have clients := handleWsMessage_wsClients message runtime
  have senders := handleWsMessage_wsClientTxs message runtime
  by_cases close : message.isClose = true
  · rw [if_pos close] at clients senders
    rw [senders] at member
    obtain ⟨other, earlier⟩ := AList.mem_erase.mp member
    obtain ⟨client, found, present⟩ := attached wsId earlier
    refine ⟨client, ?_, (mem_handleWsMessage message).mpr present⟩
    rw [clients, AList.lookup_erase_ne other]
    exact found
  · rw [if_neg close] at clients senders
    rw [senders] at member
    obtain ⟨client, found, present⟩ := attached wsId member
    refine ⟨client, ?_, (mem_handleWsMessage message).mpr present⟩
    rw [clients]
    exact found

theorem Attached.registration_iff (attached : Attached runtime)
    (registration : WiToWsRegistration) :
    Attached (runtime.handleWsRegistration registration) ↔
      registration.pageNum ∈ runtime.pages := by
  have clients (wsId : String) : (runtime.handleWsRegistration registration).wsClients.lookup wsId =
      if wsId = registration.wsId then some ⟨registration.pageNum, registration.wsId⟩
      else runtime.wsClients.lookup wsId := Table.lookup_assign _ _ _ _
  constructor
  · intro still
    obtain ⟨client, found, present⟩ := still registration.wsId (Table.mem_assign.mpr (.inl rfl))
    rw [clients, if_pos rfl] at found
    cases found
    exact present
  · intro present wsId member
    rw [clients]
    split
    · exact ⟨_, rfl, present⟩
    · rename_i other
      exact attached wsId ((Table.mem_assign.mp member).resolve_left other)

/-- No client loses its page just where the page of every registration is there,
and no page is removed that a client is registered for. -/
theorem Attached.handle_iff (valid : Paged runtime) (attached : Attached runtime)
    (event : RuntimeEvent) : Attached (runtime.handle event) ↔ Retains runtime event := by
  cases event with
  | wsMessage message => exact iff_of_true (attached.wsMessage message) trivial
  | registration registration => exact attached.registration_iff registration
  | rpc message =>
      have same := attached.clients_iff (handleRpcMessage_wsClients message runtime)
        (handleRpcMessage_leavesClients message runtime).registered
      refine same.trans ?_
      have unchanged (pages : (runtime.handleRpcMessage message).pages = runtime.pages) :
          ∀ num, Occupied runtime num → num ∈ (runtime.handleRpcMessage message).pages := by
        intro num occupied
        rw [pages]
        exact attached.occupied occupied
      cases message with
      | reportSetup => exact iff_of_true (unchanged rfl) trivial
      | reportConnectedApplicationList apps =>
          refine iff_of_true (unchanged ?_) trivial
          refine (addListedApps_pages apps _).trans ?_
          split <;> rfl
      | applicationConnected app =>
          exact iff_of_true (unchanged (addAppId_pages app.appId _)) trivial
      | applicationDisconnected app =>
          refine forall_congr' fun num => ?_
          constructor
          · intro stays page found same occupied
            obtain ⟨other, stored, apart⟩ := (mem_removeAppId app.appId).mp (stays occupied)
            rw [found] at stored
            cases stored
            exact apart same
          · intro free occupied
            obtain ⟨page, found⟩ := Table.exists_lookup (attached.occupied occupied)
            exact (mem_removeAppId app.appId).mpr
              ⟨page, found, fun same => free page found same occupied⟩
      | applicationSentListing appId items =>
          refine forall_congr' fun num => ?_
          constructor
          · intro stays left occupied
            exact (mem_handlePageListing valid.table appId items (attached.occupied occupied)).mp
              (stays occupied) left
          · intro free occupied
            exact (mem_handlePageListing valid.table appId items (attached.occupied occupied)).mpr
              fun left => free left occupied
      | applicationSentData appId destId data =>
          refine iff_of_true (unchanged ?_) trivial
          simp only [handleRpcMessage, handleAppData]
          split <;> rfl
      | applicationUpdated appId destId =>
          exact iff_of_true (unchanged (addAppId_pages destId runtime)) trivial
      | unknown selector => exact iff_of_true (unchanged rfl) trivial

theorem attached_iff (valid : Paged runtime) (attached : Attached runtime)
    (events : List RuntimeEvent) :
    (∀ before after, events = before ++ after → Attached (run handle runtime before)) ↔
      Throughout handle runtime events Retains := by
  have paged (events : List RuntimeEvent) : Paged (run handle runtime events) :=
    run_invariant Paged valid (fun _ event held => handle_paged held event) events
  constructor
  · intro keeps before event after split
    have here := keeps before (event :: after) split
    have next := keeps (before ++ [event]) after (by rw [split]; simp)
    rw [run_concat] at next
    exact (here.handle_iff (paged before) event).mp next
  · intro retains before after split
    rw [split, throughout_append] at retains
    have both := run_invariant_throughout
      (fun state : DeviceRuntime => Paged state ∧ Attached state) ⟨valid, attached⟩
      (fun _ event held retained => ⟨handle_paged held.1 event,
        (held.2.handle_iff held.1 event).mpr retained⟩) retains.1
    exact both.2

end DeviceRuntime

/-- Nothing takes a client off a page that goes. No client stays registered for a
page that is gone just in the runs in which no such page goes or is gone. -/
theorem run_attached_iff (bridge : ProxyBridge) (environment : ConnectEnvironment)
    (deviceId : String) (port : Nat) (connection : DeviceConnection) (codec : WebInspectorCodec)
    (events : List RuntimeEvent) :
    (∀ before after, events = before ++ after → DeviceRuntime.Attached
        (run DeviceRuntime.handle
          (bridge.newRuntime environment deviceId port connection codec) before)) ↔
      Throughout DeviceRuntime.handle
        (bridge.newRuntime environment deviceId port connection codec) events
        DeviceRuntime.Retains := by
  refine DeviceRuntime.attached_iff
    (newRuntime_paged bridge environment deviceId port connection codec) ?_ events
  intro wsId member
  rw [ProxyBridge.newRuntime, DeviceRuntime.send_wsClientTxs] at member
  cases member

def vanishedPageRun : List RuntimeEvent :=
  [.rpc (.applicationConnected ⟨"PID:1", "Safari", false⟩),
    .rpc (.applicationSentListing "PID:1" [⟨1, .webPage, none, none, none⟩]),
    .registration ⟨1, "A", ⟨"A"⟩⟩,
    .wsMessage ⟨1, "A", [], false⟩,
    .rpc (.applicationDisconnected ⟨"PID:1", "Safari", false⟩)]

theorem vanished_page_keeps_client :
    ¬∀ before after, vanishedPageRun = before ++ after →
      DeviceRuntime.Attached (run DeviceRuntime.handle phoneRuntime before) := by
  intro attached
  obtain ⟨client, found, present⟩ :=
    attached vanishedPageRun [] (List.append_nil _).symm "A" (by decide)
  have registered : (run DeviceRuntime.handle phoneRuntime vanishedPageRun).wsClients.lookup "A" =
      some ⟨1, "A"⟩ := by decide
  rw [registered] at found
  cases found
  exact absurd present (by decide)

end IosWebkitDebugProxy
