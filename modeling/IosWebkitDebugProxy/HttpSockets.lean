import IosWebkitDebugProxy.Library.Authority
import IosWebkitDebugProxy.HttpCore
import IosWebkitDebugProxy.ProxyApps
import IosWebkitDebugProxy.ProxyPorts

/-! The URLs of sockets in the list of pages. Each should lead back to its page on
the port of the device, under the host that the client has asked, and be the one
that the listener is told. -/

namespace IosWebkitDebugProxy

open Url

namespace DeviceRuntime

variable {runtime : DeviceRuntime}

theorem listPages_sharedState (appId : String) (items : List RpcPage) (runtime : DeviceRuntime) :
    (items.foldl (listPage appId) runtime).sharedState = runtime.sharedState := by
  induction items generalizing runtime with
  | nil => rfl
  | cons item items ih =>
      refine (ih _).trans ?_
      unfold listPage
      split <;> rfl

theorem handleRpcMessage_sharedPort (message : RpcMessage) (runtime : DeviceRuntime) :
    (runtime.handleRpcMessage message).sharedState.port = runtime.sharedState.port := by
  cases message with
  | reportSetup => rfl
  | reportConnectedApplicationList apps =>
      simp only [handleRpcMessage, addListedApps_sharedState]
      split <;> rfl
  | applicationConnected app => simp only [handleRpcMessage, addAppId_sharedState]
  | applicationDisconnected app => rfl
  | applicationSentListing appId items =>
      simp only [handleRpcMessage, handlePageListing, syncPages]
      exact congrArg DevicePortState.port (listPages_sharedState appId items runtime)
  | applicationSentData appId destId data =>
      simp only [handleRpcMessage, handleAppData]
      split <;> rfl
  | applicationUpdated appId destId => simp only [handleRpcMessage, addAppId_sharedState]
  | unknown selector => rfl

theorem handle_sharedPort (runtime : DeviceRuntime) (event : RuntimeEvent) :
    (runtime.handle event).sharedState.port = runtime.sharedState.port := by
  cases event with
  | rpc message => exact handleRpcMessage_sharedPort message runtime
  | wsMessage message =>
      exact congrArg DevicePortState.port (handleWsMessage_apps message runtime).2
  | registration registration => rfl

end DeviceRuntime

theorem run_sharedPort (bridge : ProxyBridge) (environment : ConnectEnvironment)
    (events : List ProxyEvent) : ∀ deviceId runtime,
    (bridge.run environment events).devices.lookup deviceId = some runtime →
      runtime.sharedState.port = runtime.port := by
  refine ProxyBridge.run_devices ?_ ?_ environment events
  · intro environment deviceId port connection codec
    rw [ProxyBridge.newRuntime, DeviceRuntime.send_sharedState]
    exact (ProxyBridge.newRuntime_port connection codec).symm
  · intro deviceId runtime event same
    rw [DeviceRuntime.handle_sharedPort, DeviceRuntime.handle_port, same]

/-- The URL of a socket in the answer to a client, for the page at this place. -/
def advertisedUrl (state : DevicePortState) (header : String) (index : Nat) : Option String :=
  (Json.read (handleJson .get (some header) state).body).bind fun records =>
    (records[index]?).bind fun record => record.lookup "webSocketDebuggerUrl"

/-- The URL is under this host and leads to the page. -/
def LeadsBack (state : DevicePortState) (page : PageEntry) (host : List Char) (url : String) :
    Prop :=
  ∃ target pageNum,
    Authority.readAfter "ws://".toList url.toList = some (⟨host, some state.port⟩, target) ∧
      deviceRoute (cutTarget target).1 = .wsUpgrade pageNum ∧
      handleWsUpgrade pageNum state = .upgraded page.pageNum

/-- The URL is the one that the listener gets, for a device that the state is of. -/
def Told (state : DevicePortState) (page : PageEntry) (url : String) : Prop :=
  ∀ (bridge : ProxyBridge) (environment : ConnectEnvironment) (events : List ProxyEvent) deviceId
    runtime, (bridge.run environment events).devices.lookup deviceId = some runtime →
      runtime.sharedState = state → ∃ info ∈ runtime.debuggablePages,
        info.pageNum = page.pageNum ∧ info.webSocketDebuggerUrl = url

def socketUrl (host : String) (state : DevicePortState) (pageNum : Nat) : String :=
  "ws://" ++ host ++ ":" ++ toString state.port ++ "/devtools/page/" ++ toString pageNum

variable {state : DevicePortState} {index : Nat} {page : PageEntry}

theorem advertisedUrl_eq (listed : state.pages[index]? = some page) (header : String) :
    advertisedUrl state header index =
      some (socketUrl (requestHost (some header)) state page.pageNum) := by
  have body : (handleJson .get (some header) state).body =
      Json.write (state.pages.map (pageRecord state (requestHost (some header)))) := rfl
  rw [advertisedUrl, body, Json.read_write, Option.bind_some, List.getElem?_map, listed]
  rfl

theorem deviceRoute_page {digits : List Char} (nonempty : digits ≠ []) (apart : '/' ∉ digits) :
    deviceRoute ("/devtools/page/".toList ++ digits) = .wsUpgrade digits := by
  have other (path : String) (differs : ¬"/devtools/page/".toList <+: path.toList) :
      "/devtools/page/".toList ++ digits ≠ path.toList :=
    fun same => differs ⟨digits, same⟩
  rw [deviceRoute, if_neg (other "/" (by decide)),
    if_neg (not_or.mpr ⟨other "/json" (by decide), other "/json/list" (by decide)⟩),
    if_neg (other "/json/version" (by decide)), Text.stripStart_append]
  exact if_pos ⟨nonempty, apart⟩

theorem handleWsUpgrade_page (member : page ∈ state.pages) (small : page.pageNum < 2 ^ 32) :
    handleWsUpgrade (toString page.pageNum).toList state = .upgraded page.pageNum := by
  obtain ⟨nonempty, number⟩ := toString_number page.pageNum
  have digits := toString_digits page.pageNum
  have plain : '%' ∉ (toString page.pageNum).toList := notMem_toString (by decide) _
  have found : state.pages.any (fun known => known.pageNum == page.pageNum) = true :=
    List.any_eq_true.mpr ⟨page, member, beq_self_eq_true _⟩
  rw [handleWsUpgrade, decode_eq plain, parseU32_eq nonempty digits (by rw [number]; exact small),
    number]
  exact if_pos found

theorem socketUrl_leadsBack {host : List Char} (valid : Authority.HostText host)
    (member : page ∈ state.pages) (port : state.port < 2 ^ 16) (small : page.pageNum < 2 ^ 32) :
    LeadsBack state page host (socketUrl (String.ofList host) state page.pageNum) := by
  obtain ⟨nonempty, number⟩ := toString_number state.port
  have text : (socketUrl (String.ofList host) state page.pageNum).toList =
      "ws://".toList ++ (host ++ ':' :: (toString state.port).toList ++
        '/' :: ("devtools/page/".toList ++ (toString page.pageNum).toList)) := by
    have colon : ":".toList = [':'] := by decide
    have path : "/devtools/page/".toList = '/' :: "devtools/page/".toList := by decide
    unfold socketUrl
    simp only [-String.reduceToList, String.toList_append, String.toList_ofList, colon, path,
      List.append_assoc, List.cons_append, List.nil_append]
  have path : '/' :: ("devtools/page/".toList ++ (toString page.pageNum).toList) =
      "/devtools/page/".toList ++ (toString page.pageNum).toList := by
    rw [← List.cons_append]
    rfl
  have clean : '?' ∉ (toString page.pageNum).toList ∧ '#' ∉ (toString page.pageNum).toList :=
    ⟨notMem_toString (by decide) _, notMem_toString (by decide) _⟩
  refine ⟨'/' :: ("devtools/page/".toList ++ (toString page.pageNum).toList),
    (toString page.pageNum).toList, ?_, ?_, handleWsUpgrade_page member small⟩
  · rw [text, Authority.readAfter_append _ valid nonempty (toString_digits state.port)
      (by rw [number]; exact port), number]
  · rw [path, cutTarget_front (by decide), cutTarget_of_clean clean]
    exact deviceRoute_page (toString_number _).1 (notMem_toString (by decide) _)

theorem socketUrl_told (member : page ∈ state.pages) :
    Told state page (socketUrl "localhost" state page.pageNum) := by
  rintro bridge environment events deviceId runtime found rfl
  have shown : page.shown ∈ runtime.pages.values.map PageInfo.shown := by
    refine runtime.syncedPages_perm.mem_iff.mp ?_
    rw [← (run_published bridge environment events deviceId runtime found).pages]
    exact List.mem_map_of_mem member
  obtain ⟨known, inside, same⟩ := List.mem_map.mp shown
  have number : known.pageNum = page.pageNum := congrArg Prod.fst same
  refine ⟨_, List.mem_map_of_mem inside, number, ?_⟩
  have start : "ws://" ++ "localhost" ++ ":" = "ws://localhost:" := by decide
  rw [socketUrl, start, number, run_sharedPort bridge environment events deviceId runtime found]

theorem requestHost_of_port {host digits : List Char} {header : String}
    (shape : header.toList = host ++ ':' :: digits) (apart : ':' ∉ digits) :
    requestHost (some header) = String.ofList host := by
  simp only [requestHost, shape, Text.cutLast_append apart]

theorem requestHost_of_name {header : String} (apart : ':' ∉ header.toList) :
    requestHost (some header) = header := by
  simp only [requestHost, Text.cutLast_of_notMem apart]

/-- What is left of an address whose last colon is taken for that of a port is not
closed. -/
theorem literal_lost {address : List Char} {header : String} (colon : ':' ∈ address)
    (letters : ∀ letter ∈ address, Authority.isLiteralLetter letter = true)
    (shape : header.toList = '[' :: (address ++ [']'])) (host : List Char) :
    ¬LeadsBack state page host (socketUrl (requestHost (some header)) state page.pageNum) := by
  obtain ⟨back, front, cut, apart⟩ :=
    List.eq_append_cons_of_mem (List.mem_reverse.mpr colon)
  have whole : address = front.reverse ++ ':' :: back.reverse := by
    rw [← List.reverse_reverse address, cut]
    simp
  have last : ':' ∉ back.reverse ++ [']'] := by
    simp only [List.mem_append, List.mem_reverse, List.mem_singleton, not_or]
    exact ⟨apart, by decide⟩
  have header' : header.toList = ('[' :: front.reverse) ++ ':' :: (back.reverse ++ [']']) := by
    rw [shape, whole]
    simp
  have digits : ∀ number : Nat, ']' ∉ (toString number).toList := notMem_toString (by decide)
  have unclosed : ']' ∉ front.reverse := by
    intro inside
    have letter := letters ']' (by rw [whole]; exact List.mem_append_left _ inside)
    exact absurd letter (by decide)
  have text : (socketUrl (requestHost (some header)) state page.pageNum).toList =
      "ws://".toList ++ '[' :: (front.reverse ++ (":".toList ++ ((toString state.port).toList ++
        ("/devtools/page/".toList ++ (toString page.pageNum).toList)))) := by
    rw [requestHost_of_port header' last, socketUrl]
    simp only [-String.reduceToList, String.toList_append, String.toList_ofList,
      List.append_assoc, List.cons_append]
  rintro ⟨target, pageNum, read, _⟩
  rw [text, Authority.readAfter_unclosed] at read
  · cases read
  · simp only [List.mem_append, not_or]
    exact ⟨unclosed, by decide, digits _, by decide, digits _⟩

/-- The URL of a page leads back to it, and is the listener's for this machine,
unless the client has asked for an address in brackets without a port. -/
theorem handleJson_leadsBack_iff (state : DevicePortState) (header : String)
    (authority : Authority) (index : Nat) (page : PageEntry)
    (valid : Authority.read header.toList = some authority)
    (listed : state.pages[index]? = some page) (port : state.port < 2 ^ 16)
    (small : page.pageNum < 2 ^ 32) :
    (∃ url, advertisedUrl state header index = some url ∧
      LeadsBack state page authority.host url ∧
      (authority.host = "localhost".toList → Told state page url)) ↔
    header.toList.getLast? ≠ some ']' := by
  have member : page ∈ state.pages := List.mem_of_getElem? listed
  have whole (host : requestHost (some header) = String.ofList authority.host)
      (hostText : Authority.HostText authority.host) :
      ∃ url, advertisedUrl state header index = some url ∧
        LeadsBack state page authority.host url ∧
        (authority.host = "localhost".toList → Told state page url) := by
    refine ⟨_, advertisedUrl_eq listed header, ?_, fun here => ?_⟩
    · rw [host]
      exact socketUrl_leadsBack hostText member port small
    · rw [host, here]
      exact socketUrl_told member
  obtain ⟨after, hostText, shape, portText⟩ := Authority.read_sound valid
  obtain ⟨_, rest⟩ := Authority.readPort_cases portText
  rcases rest with rfl | ⟨digits, rfl, decimals⟩
  · rw [List.append_nil] at shape
    generalize authority.host = host at shape hostText whole
    cases hostText with
    | name _ nonempty letters =>
        have apart : ':' ∉ header.toList := by
          rw [shape]
          exact fun inside => (Authority.isNameLetter_apart (letters ':' inside)).1 rfl
        have ends : header.toList.getLast? ≠ some ']' := by
          rw [shape]
          intro last
          exact (Authority.isNameLetter_apart (letters ']' (List.mem_of_getLast? last))).2.2 rfl
        have same : requestHost (some header) = String.ofList host := by
          rw [requestHost_of_name apart, ← shape, String.ofList_toList]
        exact iff_of_true (whole same (.name host nonempty letters)) ends
    | literal address letters valid =>
        have ends : header.toList.getLast? = some ']' := by
          rw [shape, ← List.cons_append, List.getLast?_concat]
        refine iff_of_false ?_ (not_not_intro ends)
        rintro ⟨url, given, leads, _⟩
        rw [advertisedUrl_eq listed] at given
        cases given
        exact literal_lost (Authority.colon_mem valid) letters shape _ leads
  · have apart : ':' ∉ digits := fun inside => absurd (decimals ':' inside) (by decide)
    have ends : header.toList.getLast? ≠ some ']' := by
      rw [shape, List.getLast?_append_cons]
      intro last
      rcases List.mem_cons.mp (List.mem_of_getLast? last) with same | inside
      · cases same
      · exact absurd (decimals ']' inside) (by decide)
    exact iff_of_true (whole (requestHost_of_port shape apart) hostText) ends

def twoPages : DevicePortState :=
  ⟨9222, some "UDID", some "Phone", 0x110400, true,
    [⟨3, "PID:1", 1, none, none, none⟩, ⟨7, "PID:1", 2, none, none, none⟩], none⟩

theorem handleJson_leadsBack_iff_port :
    (∃ url, advertisedUrl twoPages "[::1]:9222" 1 = some url ∧
      LeadsBack twoPages ⟨7, "PID:1", 2, none, none, none⟩ "[::1]".toList url ∧
      ("[::1]".toList = "localhost".toList →
        Told twoPages ⟨7, "PID:1", 2, none, none, none⟩ url)) :=
  (handleJson_leadsBack_iff twoPages "[::1]:9222" ⟨"[::1]".toList, some 9222⟩ 1
    ⟨7, "PID:1", 2, none, none, none⟩ (by decide) rfl (by decide) (by decide)).mpr (by decide)

theorem bracketed_host_cut :
    Authority.read "[::1]".toList = some ⟨"[::1]".toList, none⟩ ∧
      ¬∃ url, advertisedUrl twoPages "[::1]" 0 = some url ∧
        LeadsBack twoPages ⟨3, "PID:1", 1, none, none, none⟩ "[::1]".toList url := by
  refine ⟨by decide, ?_⟩
  rintro ⟨url, given, leads⟩
  have listed : twoPages.pages[0]? = some ⟨3, "PID:1", 1, none, none, none⟩ := rfl
  rw [advertisedUrl_eq listed] at given
  cases given
  have colon : ':' ∈ "::1".toList := by decide
  exact literal_lost colon (List.all_eq_true.mp (by decide)) (by decide) _ leads

end IosWebkitDebugProxy
