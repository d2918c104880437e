import Mathlib.Data.List.Dedup
import IosWebkitDebugProxy.HttpSockets
import IosWebkitDebugProxy.ProxyConnections
import IosWebkitDebugProxy.ProxyIdentifiers

/-! The list of pages and the listings of the device. What the table of pages holds after
any events, and so what the list shows, is of each application its last listing, and of the
items for one page the last. -/

namespace IosWebkitDebugProxy

open Transition

/-- What was listed last of each application, and nothing of one that has ended. -/
def listings (known : String → List RpcPage) : RuntimeEvent → String → List RpcPage
  | .rpc (.applicationSentListing appId items) => Function.update known appId items
  | .rpc (.applicationDisconnected app) => Function.update known app.appId []
  | _ => known

def countingItems (items : List RpcPage) : List RpcPage :=
  (items.map RpcPage.pageId).dedup.filterMap (DeviceRuntime.lastListed items)

namespace DeviceRuntime

/-- The pages of every application are those of its listing. -/
structure ShowsListings (known : String → List RpcPage) (pages : Table Nat PageInfo) : Prop where
  listed : ∀ appId pageId, (∃ num page, pages.lookup num = some page ∧ page.appId = appId ∧
    page.pageId = pageId) ↔ ∃ item ∈ known appId, item.pageId = pageId
  current : ∀ num page item, pages.lookup num = some page →
    lastListed (known page.appId) page.pageId = some item →
      page.title = item.title ∧ page.url = item.url

variable {known : String → List RpcPage} {runtime : DeviceRuntime} {appId : String}
variable {items : List RpcPage}

theorem lastListed_some {pageId : Nat} (named : ∃ item ∈ items, item.pageId = pageId) :
    ∃ item, lastListed items pageId = some item := by
  obtain ⟨item, member, same⟩ := named
  refine Option.isSome_iff_exists.mp (List.find?_isSome.mpr ⟨item, ?_, beq_iff_eq.mpr same⟩)
  exact List.mem_reverse.mpr member

theorem createdBy_append (runtime : DeviceRuntime) (appId : String) (earlier later : List RpcPage) :
    runtime.createdBy appId (earlier ++ later) = runtime.createdBy appId earlier +
      (earlier.foldl (listPage appId) runtime).createdBy appId later := by
  induction earlier generalizing runtime with
  | nil => simp [createdBy]
  | cons item earlier ih => simp [createdBy, ih, Nat.add_assoc]

theorem listPages_hasPage (valid : PageTable runtime.pages) {pageId : Nat}
    (has : (items.foldl (listPage appId) runtime).hasPage appId pageId = true) :
    runtime.hasPage appId pageId = true ∨ ∃ item ∈ items, item.pageId = pageId := by
  induction items generalizing runtime with
  | nil => exact .inl has
  | cons item items ih =>
      rcases ih (listPage_table valid appId item) has with earlier | ⟨later, member, same⟩
      · rw [hasPage_iff] at earlier
        obtain ⟨num, page, found, app, identifier⟩ := earlier
        rcases listPage_news valid appId item with
          ⟨place, entry, _, _, _, shape⟩ | ⟨_, shape⟩
        · rw [shape] at found
          rcases Table.lookup_of_modify found with ⟨rfl, old, before, rfl⟩ | ⟨_, before⟩
          · exact .inl ((hasPage_iff _ _ _).mpr ⟨num, old, before, app, identifier⟩)
          · exact .inl ((hasPage_iff _ _ _).mpr ⟨num, page, before, app, identifier⟩)
        · rw [shape, Table.lookup_assign] at found
          split at found
          · cases found
            exact .inr ⟨item, List.mem_cons_self, identifier⟩
          · exact .inl ((hasPage_iff _ _ _).mpr ⟨num, page, found, app, identifier⟩)
      · exact .inr ⟨later, List.mem_cons_of_mem item member, same⟩

theorem newIds_le_createdBy (valid : PageTable runtime.pages) (appId : String)
    (items : List RpcPage) :
    (runtime.newIds appId items).card ≤ runtime.createdBy appId items := by
  induction items using List.reverseRecOn with
  | nil => simp [newIds]
  | append_singleton items item ih =>
      rw [createdBy_append]
      by_cases old : runtime.hasPage appId item.pageId = true ∨
          ∃ other ∈ items, other.pageId = item.pageId
      · rw [newIds_append_known old]
        exact Nat.le_add_right_of_le ih
      · obtain ⟨unknown, unlisted⟩ := not_or.mp old
        rw [Bool.not_eq_true] at unknown
        have missing : ¬((items.foldl (listPage appId) runtime).pages.findValue fun known =>
            known.appId == appId && known.pageId == item.pageId).isSome :=
          fun has => old (listPages_hasPage valid has)
        rw [card_newIds_append_new unknown fun other member same => unlisted ⟨other, member, same⟩]
        simp only [createdBy, if_neg missing]
        omega

/-- There is a free number for every new page as long as the counter does not come around. -/
theorem roomFor_of_few (valid : PageTable runtime.pages) (bounded : Bounded runtime)
    (room : runtime.maxPageNum + runtime.createdBy appId items < 2 ^ 32) :
    RoomFor appId items runtime := by
  have few := newIds_le_createdBy valid appId items
  refine ⟨by omega, ?_⟩
  intro later less page found
  have given := (bounded _ page found).2
  rw [newNum, Nat.mod_eq_of_lt (by omega)] at given
  omega

theorem ShowsListings.handlePageListing (shows : ShowsListings known runtime.pages)
    (valid : PageTable runtime.pages) (room : RoomFor appId items runtime) :
    ShowsListings (Function.update known appId items)
      (runtime.handlePageListing appId items).pages := by
  have listed := listPages_listed room (List.nil_append items) valid
    (Listed.begin appId items runtime)
  have after := handlePageListing_lookup runtime appId items
  have others {num : Nat} {page : PageInfo} (apart : page.appId ≠ appId) :
      (runtime.handlePageListing appId items).pages.lookup num = some page ↔
        runtime.pages.lookup num = some page := by
    rw [after]
    constructor
    · rintro ⟨found, _⟩
      exact listPages_others valid appId items found apart
    · intro found
      obtain ⟨later, stored, _, same⟩ := listed.kept num page found fun app => absurd app apart
      rw [same apart] at stored
      exact ⟨stored, fun app => absurd app apart⟩
  refine ⟨?_, ?_⟩
  · intro other pageId
    by_cases here : other = appId
    · subst here
      rw [Function.update_self]
      constructor
      · rintro ⟨num, page, found, app, rfl⟩
        exact ((after num page).mp found).2 app
      · rintro ⟨item, member, rfl⟩
        obtain ⟨num, page, found, app, identifier⟩ :=
          (hasPage_iff _ _ _).mp (listed.shown item member)
        refine ⟨num, page, (after num page).mpr ⟨found, fun _ => ?_⟩, app, identifier⟩
        exact ⟨item, member, identifier.symm⟩
    · rw [Function.update_of_ne here, ← shows.listed]
      constructor
      · rintro ⟨num, page, found, rfl, identifier⟩
        exact ⟨num, page, (others here).mp found, rfl, identifier⟩
      · rintro ⟨num, page, found, rfl, identifier⟩
        exact ⟨num, page, (others here).mpr found, rfl, identifier⟩
  · intro num page item found last
    by_cases here : page.appId = appId
    · rw [here, Function.update_self] at last
      obtain ⟨title, url, _⟩ :=
        listed.current num page item ((after num page).mp found).1 here last
      exact ⟨title, url⟩
    · rw [Function.update_of_ne here] at last
      exact shows.current num page item ((others here).mp found) last

theorem removeAppId_lookup (ended : String) {num : Nat} {page : PageInfo} :
    (runtime.removeAppId ended).pages.lookup num = some page ↔
      runtime.pages.lookup num = some page ∧ page.appId ≠ ended := by
  have after : (runtime.removeAppId ended).pages.lookup num =
      if num ∈ runtime.pages.keysWhere (fun page => page.appId == ended) then none
      else runtime.pages.lookup num := Table.lookup_eraseAll _ _ _
  rw [after]
  split
  · rename_i removed
    obtain ⟨other, stored, same⟩ := Table.mem_keysWhere.mp removed
    refine iff_of_false (by simp) ?_
    rintro ⟨found, apart⟩
    rw [stored] at found
    cases found
    exact apart (beq_iff_eq.mp same)
  · rename_i stays
    refine (and_iff_left_of_imp fun found same => stays ?_).symm
    exact Table.mem_keysWhere.mpr ⟨page, found, beq_iff_eq.mpr same⟩

theorem ShowsListings.removeAppId (shows : ShowsListings known runtime.pages) (ended : String) :
    ShowsListings (Function.update known ended []) (runtime.removeAppId ended).pages := by
  refine ⟨?_, ?_⟩
  · intro appId pageId
    by_cases here : appId = ended
    · subst here
      rw [Function.update_self]
      refine iff_of_false ?_ (by simp)
      rintro ⟨num, page, found, app, _⟩
      exact ((removeAppId_lookup appId).mp found).2 app
    · rw [Function.update_of_ne here, ← shows.listed]
      constructor
      · rintro ⟨num, page, found, rfl, identifier⟩
        exact ⟨num, page, ((removeAppId_lookup ended).mp found).1, rfl, identifier⟩
      · rintro ⟨num, page, found, rfl, identifier⟩
        exact ⟨num, page, (removeAppId_lookup ended).mpr ⟨found, here⟩, rfl, identifier⟩
  · intro num page item found last
    obtain ⟨stored, apart⟩ := (removeAppId_lookup ended).mp found
    rw [Function.update_of_ne apart] at last
    exact shows.current num page item stored last

/-- The pages are the same but for the sessions on them. -/
theorem ShowsListings.of_shown (shows : ShowsListings known runtime.pages) {after : DeviceRuntime}
    (valid : PageTable runtime.pages) (later : PageTable after.pages)
    (same : after.pages.values.map PageInfo.shown = runtime.pages.values.map PageInfo.shown) :
    ShowsListings known after.pages := by
  have matching {first second : DeviceRuntime} (table : PageTable first.pages)
      (table' : PageTable second.pages)
      (same : first.pages.values.map PageInfo.shown = second.pages.values.map PageInfo.shown)
      {num : Nat} {page : PageInfo} (found : first.pages.lookup num = some page) :
      ∃ other, second.pages.lookup num = some other ∧ other.shown = page.shown := by
    have listed : page.shown ∈ second.pages.values.map PageInfo.shown := by
      rw [← same]
      exact List.mem_map_of_mem (Table.mem_values.mpr ⟨num, found⟩)
    obtain ⟨other, member, shown⟩ := List.mem_map.mp listed
    obtain ⟨place, stored⟩ := Table.mem_values.mp member
    have number : other.pageNum = page.pageNum := congrArg Prod.fst shown
    rw [table.numbered num page found, table'.numbered place other stored] at number
    subst number
    exact ⟨other, stored, shown⟩
  refine ⟨?_, ?_⟩
  · intro appId pageId
    rw [← shows.listed]
    constructor
    · rintro ⟨num, page, found, rfl, rfl⟩
      obtain ⟨other, stored, shown⟩ := matching later valid same found
      simp only [PageInfo.shown, Prod.mk.injEq] at shown
      exact ⟨num, other, stored, shown.2.1, shown.2.2.1⟩
    · rintro ⟨num, page, found, rfl, rfl⟩
      obtain ⟨other, stored, shown⟩ := matching valid later same.symm found
      simp only [PageInfo.shown, Prod.mk.injEq] at shown
      exact ⟨num, other, stored, shown.2.1, shown.2.2.1⟩
  · intro num page item found last
    obtain ⟨other, stored, shown⟩ := matching later valid same found
    simp only [PageInfo.shown, Prod.mk.injEq] at shown
    obtain ⟨_, app, identifier, title, url⟩ := shown
    rw [← app, ← identifier] at last
    rw [← title, ← url]
    exact shows.current num other item stored last

theorem handle_showsListings (shows : ShowsListings known runtime.pages) (valid : Paged runtime)
    (bounded : Bounded runtime) (event : RuntimeEvent)
    (room : runtime.maxPageNum + runtime.created event < 2 ^ 32) :
    ShowsListings (listings known event) (runtime.handle event).pages := by
  by_cases listing : ∃ appId items, event = .rpc (.applicationSentListing appId items)
  · obtain ⟨appId, items, rfl⟩ := listing
    exact shows.handlePageListing valid.table (roomFor_of_few valid.table bounded room)
  · by_cases ending : ∃ app, event = .rpc (.applicationDisconnected app)
    · obtain ⟨app, rfl⟩ := ending
      exact shows.removeAppId app.appId
    · have noListing : ∀ appId items, event ≠ .rpc (.applicationSentListing appId items) :=
        fun appId items same => listing ⟨appId, items, same⟩
      have noEnd := not_exists.mp ending
      have quiet : listings known event = known := by
        unfold listings
        split
        · exact absurd rfl (noListing _ _)
        · exact absurd rfl (noEnd _)
        · rfl
      rw [quiet]
      exact shows.of_shown valid.table (handle_paged valid event).table
        (handle_shown noListing noEnd)

theorem run_showsListings (shows : ShowsListings known runtime.pages) (valid : Paged runtime)
    (bounded : Bounded runtime) (events : List RuntimeEvent)
    (room : runtime.maxPageNum + runtime.createdIn events < 2 ^ 32) :
    ShowsListings (run listings known events) (run handle runtime events).pages := by
  induction events generalizing known runtime with
  | nil => exact shows
  | cons event events ih =>
      rw [createdIn] at room
      obtain ⟨counter, after, _⟩ := handle_grows valid bounded event (by omega)
      exact ih (handle_showsListings shows valid bounded event (by omega))
        (handle_paged valid event) after (by rw [counter]; omega)

def answeredTexts (title url : Option String) : Option String × Option String :=
  (some (title.getD ""), some (url.getD ""))

theorem own_pageIds (shows : ShowsListings known runtime.pages) (valid : PageTable runtime.pages)
    (appId : String) :
    ((runtime.pages.values.filter fun page => page.appId == appId).map PageInfo.pageId).Perm
      ((known appId).map RpcPage.pageId).dedup := by
  have own {page : PageInfo}
      (member : page ∈ runtime.pages.values.filter fun page => page.appId == appId) :
      ∃ num, runtime.pages.lookup num = some page ∧ page.appId = appId := by
    obtain ⟨stored, app⟩ := List.mem_filter.mp member
    obtain ⟨num, found⟩ := Table.mem_values.mp stored
    exact ⟨num, found, beq_iff_eq.mp app⟩
  rw [List.perm_ext_iff_of_nodup _ (List.nodup_dedup _)]
  · intro pageId
    rw [List.mem_dedup, List.mem_map, List.mem_map, ← shows.listed]
    constructor
    · rintro ⟨page, member, same⟩
      obtain ⟨num, found, app⟩ := own member
      exact ⟨num, page, found, app, same⟩
    · rintro ⟨num, page, found, app, same⟩
      exact ⟨page, List.mem_filter.mpr ⟨Table.mem_values.mpr ⟨num, found⟩, beq_iff_eq.mpr app⟩, same⟩
  · refine List.Nodup.map_on ?_ ((pageNums_nodup valid).of_map.filter _)
    intro first inside second inside' same
    obtain ⟨num, found, app⟩ := own inside
    obtain ⟨place, stored, app'⟩ := own inside'
    have here := valid.distinct num place first second found stored (app.trans app'.symm) same
    rw [here, stored] at found
    exact (Option.some.inj found).symm

theorem own_texts (shows : ShowsListings known runtime.pages) (valid : PageTable runtime.pages)
    (appId : String) :
    ((runtime.pages.values.filter fun page => page.appId == appId).map fun page =>
        answeredTexts page.title page.url).Perm
      ((countingItems (known appId)).map fun item => answeredTexts item.title item.url) := by
  have same : ((runtime.pages.values.filter fun page => page.appId == appId).map fun page =>
      answeredTexts page.title page.url) =
      (((runtime.pages.values.filter fun page => page.appId == appId).map
        PageInfo.pageId).filterMap (lastListed (known appId))).map fun item =>
          answeredTexts item.title item.url := by
    rw [List.filterMap_map, List.map_filterMap, ← List.filterMap_eq_map]
    refine List.filterMap_congr ?_
    intro page member
    obtain ⟨stored, app⟩ := List.mem_filter.mp member
    obtain ⟨num, found⟩ := Table.mem_values.mp stored
    have named := (shows.listed page.appId page.pageId).mp ⟨num, page, found, rfl, rfl⟩
    obtain ⟨item, last⟩ := lastListed_some named
    obtain ⟨title, url⟩ := shows.current num page item found last
    rw [beq_iff_eq.mp app] at last
    simp [last, title, url]
  rw [same]
  exact ((own_pageIds shows valid appId).filterMap _).map _

theorem pageRecord_appId (state : DevicePortState) (host : String) (page : PageEntry) :
    (pageRecord state host page).lookup "appId" = some page.appId := rfl

theorem pageRecord_texts (state : DevicePortState) (host : String) (page : PageEntry) :
    ((pageRecord state host page).lookup "title", (pageRecord state host page).lookup "url") =
      answeredTexts page.title page.url := rfl

/-- What a client reads of an application is what counts in its listing. -/
theorem answer_texts (shows : ShowsListings known runtime.pages) (valid : PageTable runtime.pages)
    (published : runtime.sharedState.pages.map PageEntry.shown =
      runtime.syncedPages.map PageEntry.shown) (host : String) (appId : String) :
    (((runtime.sharedState.pages.map (pageRecord runtime.sharedState host)).filter fun record =>
        record.lookup "appId" == some appId).map fun record =>
          (record.lookup "title", record.lookup "url")).Perm
      ((countingItems (known appId)).map fun item => answeredTexts item.title item.url) := by
  let own (entry : Nat × String × Nat × Option String × Option String) : Bool :=
    entry.2.1 == appId
  let texts (entry : Nat × String × Nat × Option String × Option String) :=
    answeredTexts entry.2.2.2.1 entry.2.2.2.2
  have answered : ((runtime.sharedState.pages.map
      (pageRecord runtime.sharedState host)).filter fun record =>
        record.lookup "appId" == some appId).map (fun record =>
          (record.lookup "title", record.lookup "url")) =
      ((runtime.sharedState.pages.map PageEntry.shown).filter own).map texts := by
    rw [List.filter_map, List.filter_map, List.map_map, List.map_map]
    rfl
  have shown : ((runtime.pages.values.map PageInfo.shown).filter own).map texts =
      (runtime.pages.values.filter fun page => page.appId == appId).map fun page =>
        answeredTexts page.title page.url := by
    rw [List.filter_map, List.map_map]
    rfl
  rw [answered, published]
  refine ((runtime.syncedPages_perm.filter own).map texts).trans ?_
  rw [shown]
  exact own_texts shows valid appId

end DeviceRuntime

/-- A client that reads the list of pages finds of each application what counts in the
last listing among these events. -/
def ServesListings (own : List RuntimeEvent) (runtime : DeviceRuntime) (header : Option String) :
    Prop :=
  ∃ records, Json.read (handleJson .get header runtime.sharedState).body = some records ∧
    ∀ appId, ((records.filter fun record => record.lookup "appId" == some appId).map fun record =>
        (record.lookup "title", record.lookup "url")).Perm
      ((countingItems (run listings (fun _ => []) own appId)).map fun item =>
        (some (item.title.getD ""), some (item.url.getD "")))

namespace ProxyBridge

variable {bridge : ProxyBridge} {environment : ConnectEnvironment} {events : List ProxyEvent}
variable {deviceId : String} {start : DeviceRuntime} {own : List RuntimeEvent}

theorem ConnectedSince.begins (since : ConnectedSince bridge events deviceId start own) :
    start.pages = ∅ ∧ start.maxPageNum = 0 ∧ start.Paged ∧ start.Bounded := by
  obtain ⟨_, _, told, _, _, connected, _⟩ := since
  obtain ⟨port, connection, codec, _, rfl⟩ := connects_new connected
  obtain ⟨noPages, counter⟩ := newRuntime_pages bridge told deviceId port connection codec
  refine ⟨noPages, counter, newRuntime_paged bridge told deviceId port connection codec, ?_⟩
  intro num page stored
  rw [noPages] at stored
  cases stored

/-- At any time of a connection, the list of pages that the device is served with has of
each application what its last listing said, as long as page numbers do not come around. -/
theorem run_servesListings
    (since : ConnectedSince bridge (.attached "SIMULATOR" environment :: events) deviceId start own)
    (few : start.createdIn own < 2 ^ 32 - 1) (header : Option String) :
    ∃ runtime, (bridge.run environment events).devices.lookup deviceId = some runtime ∧
      ServesListings own runtime header := by
  have published := (run_published bridge environment events deviceId _ since.found).pages
  obtain ⟨noPages, counter, paged, bounded⟩ := since.begins
  have shows : DeviceRuntime.ShowsListings (fun _ => []) start.pages := by
    rw [noPages]
    exact ⟨by simp, by simp⟩
  refine ⟨_, since.found, _, Json.read_write _, fun appId => ?_⟩
  exact DeviceRuntime.answer_texts
    (DeviceRuntime.run_showsListings shows paged bounded own (by rw [counter]; omega))
    (DeviceRuntime.run_paged paged own).table published _ appId

def listedEvents : List ProxyEvent :=
  [.attached "UDID" phoneEnvironment, .wiEvent "UDID" (.recvPlist (listingMessage "PID:1" 1)),
    .wsMessage "SIMULATOR" ⟨1, "B", [], false⟩, .registration "UDID" ⟨1, "A", ⟨"A"⟩⟩]

def listedOwn : List RuntimeEvent :=
  [.rpc (.applicationSentListing "PID:1" [⟨1, .webPage, none, none, none⟩]),
    .registration ⟨1, "A", ⟨"A"⟩⟩]

theorem listedEvents_since : ConnectedSince plainBridge
    (.attached "SIMULATOR" idleEnvironment :: listedEvents) "UDID" phoneRuntime listedOwn :=
  ⟨[.attached "SIMULATOR" idleEnvironment], listedEvents.tail, phoneEnvironment, rfl, by decide, rfl,
    by simp [listedEvents], rfl⟩

theorem run_servesListings_phone :
    ∃ runtime, (plainBridge.run idleEnvironment listedEvents).devices.lookup "UDID" =
        some runtime ∧ ServesListings listedOwn runtime (some "localhost:49152") :=
  run_servesListings listedEvents_since (by decide) _

end ProxyBridge

end IosWebkitDebugProxy
