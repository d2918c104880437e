import IosWebkitDebugProxy.ProxyMoves

/-! What a page number means over the life of a runtime. As long as the counter
of pages does not come around, a number is given to one page only. -/

namespace IosWebkitDebugProxy

open Transition Relation

/-- Two states of one entry, apart from what a listing says about it. -/
structure PageInfo.SameEntry (first second : PageInfo) : Prop where
  pageNum : second.pageNum = first.pageNum
  appId : second.appId = first.appId
  pageId : second.pageId = first.pageId
  senderId : second.senderId = first.senderId
  wsClientId : second.wsClientId = first.wsClientId

theorem PageInfo.SameEntry.refl (page : PageInfo) : page.SameEntry page :=
  ⟨rfl, rfl, rfl, rfl, rfl⟩

theorem PageInfo.SameEntry.trans {first second third : PageInfo}
    (earlier : first.SameEntry second) (later : second.SameEntry third) :
    first.SameEntry third :=
  ⟨later.pageNum.trans earlier.pageNum, later.appId.trans earlier.appId,
    later.pageId.trans earlier.pageId, later.senderId.trans earlier.senderId,
    later.wsClientId.trans earlier.wsClientId⟩

namespace DeviceRuntime

variable {runtime : DeviceRuntime} {touched : Nat → Prop}

def createdBy (appId : String) (runtime : DeviceRuntime) : List RpcPage → Nat
  | [] => 0
  | item :: later =>
      let known := runtime.pages.findValue fun known =>
        known.appId == appId && known.pageId == item.pageId
      (if known.isSome then 0 else 1) + createdBy appId (runtime.listPage appId item) later

def created (runtime : DeviceRuntime) : RuntimeEvent → Nat
  | .rpc (.applicationSentListing appId items) => runtime.createdBy appId items
  | _ => 0

def createdIn (runtime : DeviceRuntime) : List RuntimeEvent → Nat
  | [] => 0
  | event :: later => runtime.created event + createdIn (runtime.handle event) later

theorem createdIn_append (runtime : DeviceRuntime) (earlier later : List RuntimeEvent) :
    runtime.createdIn (earlier ++ later) =
      runtime.createdIn earlier + createdIn (run handle runtime earlier) later := by
  induction earlier generalizing runtime with
  | nil => simp [createdIn, run]
  | cons event earlier ih =>
      simp only [List.cons_append, createdIn, ih, Nat.add_assoc]
      rfl

def Bounded (runtime : DeviceRuntime) : Prop :=
  ∀ num page, runtime.pages.lookup num = some page → 1 ≤ num ∧ num ≤ runtime.maxPageNum

/-- Numbers that were given out already still mean the same page, or none. -/
structure Grows (before after : DeviceRuntime) : Prop where
  counter : before.maxPageNum ≤ after.maxPageNum
  same : ∀ num page, num ≤ before.maxPageNum → after.pages.lookup num = some page →
    ∃ old, before.pages.lookup num = some old ∧ old.appId = page.appId ∧ old.pageId = page.pageId

theorem Grows.refl (runtime : DeviceRuntime) : Grows runtime runtime :=
  ⟨Nat.le_refl _, fun _ page _ found => ⟨page, found, rfl, rfl⟩⟩

theorem Grows.trans {first second third : DeviceRuntime} (earlier : Grows first second)
    (later : Grows second third) : Grows first third := by
  refine ⟨Nat.le_trans earlier.counter later.counter, ?_⟩
  intro num page given found
  obtain ⟨middle, middleFound, middleApp, middlePage⟩ :=
    later.same num page (Nat.le_trans given earlier.counter) found
  obtain ⟨old, oldFound, oldApp, oldPage⟩ := earlier.same num middle given middleFound
  exact ⟨old, oldFound, oldApp.trans middleApp, oldPage.trans middlePage⟩

/-- A move creates no page, changes no page's identity, and leaves alone the
pages that it may not touch. -/
structure Reshapes (touched : Nat → Prop) (before after : DeviceRuntime) : Prop where
  counter : after.maxPageNum = before.maxPageNum
  same : ∀ num page, after.pages.lookup num = some page →
    ∃ old, before.pages.lookup num = some old ∧ old.appId = page.appId ∧ old.pageId = page.pageId
  others : ∀ num, ¬touched num → after.pages.lookup num = before.pages.lookup num

theorem Reshapes.of_pages {before after : DeviceRuntime}
    (counter : after.maxPageNum = before.maxPageNum) (pages : after.pages = before.pages) :
    Reshapes touched before after :=
  ⟨counter, fun _ page found => ⟨page, pages ▸ found, rfl, rfl⟩, fun _ _ => by rw [pages]⟩

theorem Reshapes.of_modify {before after : DeviceRuntime} {num : Nat}
    (update : PageInfo → PageInfo) (allowed : touched num)
    (identity : ∀ page, (update page).appId = page.appId ∧ (update page).pageId = page.pageId)
    (counter : after.maxPageNum = before.maxPageNum)
    (pages : after.pages = before.pages.modify num update) : Reshapes touched before after := by
  refine ⟨counter, ?_, ?_⟩
  · intro other page found
    rw [pages, Table.lookup_modify] at found
    split at found
    · obtain ⟨old, stored, rfl⟩ := Option.map_eq_some_iff.mp found
      exact ⟨old, stored, (identity old).1.symm, (identity old).2.symm⟩
    · exact ⟨page, found, rfl, rfl⟩
  · intro other untouched
    rw [pages, Table.lookup_modify, if_neg]
    rintro rfl
    exact untouched allowed

theorem Reshapes.trans {first second third : DeviceRuntime}
    (earlier : Reshapes touched first second) (later : Reshapes touched second third) :
    Reshapes touched first third := by
  refine ⟨later.counter.trans earlier.counter, ?_, ?_⟩
  · intro num page found
    obtain ⟨middle, middleFound, middleApp, middlePage⟩ := later.same num page found
    obtain ⟨old, oldFound, oldApp, oldPage⟩ := earlier.same num middle middleFound
    exact ⟨old, oldFound, oldApp.trans middleApp, oldPage.trans middlePage⟩
  · intro num untouched
    rw [later.others num untouched, earlier.others num untouched]

theorem send_maxPageNum (command : RpcCommand) (runtime : DeviceRuntime) :
    (runtime.send command).maxPageNum = runtime.maxPageNum := by rw [send_eq]

theorem SessionMove.reshapes {before after : DeviceRuntime}
    (move : SessionMove touched before after) : Reshapes touched before after := by
  cases move with
  | idle after pages counter => exact .of_pages counter pages
  | tells command => exact .of_pages (send_maxPageNum _ _) (send_pages _ _)
  | relays num page sender data => exact .of_pages (send_maxPageNum _ _) (send_pages _ _)
  | opens num page wsId allowed =>
      exact .of_modify (PageInfo.hold wsId) allowed (fun _ => ⟨rfl, rfl⟩) (send_maxPageNum _ _)
        (send_pages _ _)
  | closes num page sender allowed =>
      exact .of_modify PageInfo.release allowed (fun _ => ⟨rfl, rfl⟩) (send_maxPageNum _ _) rfl
  | removes nums allowed =>
      refine ⟨rfl, ?_, ?_⟩
      · intro num page found
        rw [Table.lookup_eraseAll] at found
        split at found
        · cases found
        · exact ⟨page, found, rfl, rfl⟩
      · intro num untouched
        rw [Table.lookup_eraseAll, if_neg]
        exact fun member => untouched (allowed num member)

theorem SessionMoves.reshapes {before after : DeviceRuntime}
    (moves : SessionMoves touched before after) : Reshapes touched before after := by
  induction moves with
  | refl => exact .of_pages rfl rfl
  | tail _ move ih => exact ih.trans move.reshapes

theorem Reshapes.grows {before after : DeviceRuntime} (reshapes : Reshapes touched before after) :
    Grows before after :=
  ⟨Nat.le_of_eq reshapes.counter.symm, fun num page _ => reshapes.same num page⟩

theorem Reshapes.bounded {before after : DeviceRuntime} (reshapes : Reshapes touched before after)
    (bounded : Bounded before) : Bounded after := by
  intro num page found
  obtain ⟨old, stored, _⟩ := reshapes.same num page found
  rw [reshapes.counter]
  exact bounded num old stored

/-- The items of a listing, before the pages that it leaves out are removed. -/
structure ListsPages (before after : DeviceRuntime) (count : Nat) : Prop where
  counter : after.maxPageNum = before.maxPageNum + count
  bounded : Bounded after
  grows : Grows before after
  kept : ∀ num page, before.pages.lookup num = some page →
    ∃ later, after.pages.lookup num = some later ∧ page.SameEntry later

theorem findValue_isSome_iff (runtime : DeviceRuntime) (appId : String) (pageId : Nat) :
    (runtime.pages.findValue fun known =>
      known.appId == appId && known.pageId == pageId).isSome ↔
        ∃ num page, runtime.pages.lookup num = some page ∧ page.appId = appId ∧
          page.pageId = pageId := by
  simp only [Table.findValue, List.find?_isSome, Bool.and_eq_true, beq_iff_eq]
  constructor
  · rintro ⟨page, member, app, identifier⟩
    obtain ⟨num, stored⟩ := Table.mem_values.mp member
    exact ⟨num, page, stored, app, identifier⟩
  · rintro ⟨num, page, stored, app, identifier⟩
    exact ⟨page, Table.mem_values.mpr ⟨num, stored⟩, app, identifier⟩

theorem listPage_lists (valid : PageTable runtime.pages) (bounded : Bounded runtime)
    (appId : String) (item : RpcPage)
    (room : runtime.maxPageNum + runtime.createdBy appId [item] < 2 ^ 32) :
    ListsPages runtime (runtime.listPage appId item) (runtime.createdBy appId [item]) := by
  simp only [createdBy, Nat.add_zero] at room ⊢
  rcases listPage_cases valid appId item with
    ⟨num, page, found, app, identifier, shape⟩ | ⟨unknown, page, number, _, _, _, _, shape⟩
  · have known : runtime.Known appId item := ⟨num, page, found, app, identifier⟩
    have reshapes : Reshapes (fun _ => True) runtime (runtime.listPage appId item) := by
      rw [shape]
      exact .of_modify (PageInfo.list item) trivial (fun _ => ⟨rfl, rfl⟩) rfl rfl
    rw [if_pos ((findValue_isSome_iff runtime appId item.pageId).mpr known)]
    refine ⟨reshapes.counter, reshapes.bounded bounded, reshapes.grows, ?_⟩
    intro other entry stored
    rw [shape]
    simp only [Table.lookup_modify]
    split
    · rw [stored]
      exact ⟨_, rfl, rfl, rfl, rfl, rfl, rfl⟩
    · exact ⟨entry, stored, .refl entry⟩
  · have missing : ¬(runtime.pages.findValue fun known =>
        known.appId == appId && known.pageId == item.pageId).isSome :=
      fun some => unknown ((findValue_isSome_iff runtime appId item.pageId).mp some)
    rw [if_neg missing] at room ⊢
    rw [Nat.mod_eq_of_lt room] at shape
    rw [shape]
    refine ⟨rfl, ?_, ⟨Nat.le_succ _, ?_⟩, ?_⟩
    · intro other entry stored
      simp only [Table.lookup_assign] at stored
      split at stored
      · rename_i here
        subst here
        exact ⟨Nat.succ_pos _, Nat.le_refl _⟩
      · obtain ⟨low, high⟩ := bounded other entry stored
        exact ⟨low, Nat.le_succ_of_le high⟩
    · intro other entry given stored
      simp only [Table.lookup_assign] at stored
      rw [if_neg (by omega)] at stored
      exact ⟨entry, stored, rfl, rfl⟩
    · intro other entry stored
      have given := (bounded other entry stored).2
      simp only [Table.lookup_assign]
      rw [if_neg (by omega)]
      exact ⟨entry, stored, .refl entry⟩

theorem listPages_lists (valid : Paged runtime) (bounded : Bounded runtime) (appId : String)
    (items : List RpcPage) (room : runtime.maxPageNum + runtime.createdBy appId items < 2 ^ 32) :
    ListsPages runtime (items.foldl (listPage appId) runtime) (runtime.createdBy appId items) := by
  induction items generalizing runtime with
  | nil => exact ⟨rfl, bounded, .refl runtime, fun num page found => ⟨page, found, .refl page⟩⟩
  | cons item items ih =>
      have split : runtime.createdBy appId (item :: items) =
          runtime.createdBy appId [item] + (runtime.listPage appId item).createdBy appId items := by
        simp [createdBy]
      rw [split] at room ⊢
      have first := listPage_lists valid.table bounded appId item (by omega)
      have later := ih (listPage_paged valid appId item) first.bounded
        (by rw [first.counter]; omega)
      refine ⟨?_, later.bounded, first.grows.trans later.grows, ?_⟩
      · rw [List.foldl_cons, later.counter, first.counter, Nat.add_assoc]
      · intro num page found
        obtain ⟨middle, middleFound, middleSame⟩ := first.kept num page found
        obtain ⟨last, lastFound, lastSame⟩ := later.kept num middle middleFound
        exact ⟨last, lastFound, middleSame.trans lastSame⟩

theorem handlePageListing_lists (valid : Paged runtime) (bounded : Bounded runtime)
    (appId : String) (items : List RpcPage)
    (room : runtime.maxPageNum + runtime.createdBy appId items < 2 ^ 32) :
    (runtime.handlePageListing appId items).maxPageNum =
        runtime.maxPageNum + runtime.createdBy appId items ∧
      Bounded (runtime.handlePageListing appId items) ∧
      Grows runtime (runtime.handlePageListing appId items) ∧
      ∀ num page, runtime.pages.lookup num = some page →
        (runtime.handlePageListing appId items).pages.lookup num = none ∧ page.appId = appId ∧
            (∀ item ∈ items, item.pageId ≠ page.pageId) ∨
          ∃ later, (runtime.handlePageListing appId items).pages.lookup num = some later ∧
            page.SameEntry later := by
  have lists := listPages_lists valid bounded appId items room
  generalize shape : items.foldl (listPage appId) runtime = listed at lists
  have removes : SessionMove (fun _ => True) listed
      { listed with pages := listed.pages.eraseAll (listed.unlistedPages appId items) } :=
    .removes _ fun _ _ => trivial
  have reshapes : Reshapes (fun _ => True) listed (runtime.handlePageListing appId items) := by
    rw [handlePageListing, shape]
    exact ⟨removes.reshapes.counter, removes.reshapes.same, removes.reshapes.others⟩
  refine ⟨reshapes.counter.trans lists.counter, reshapes.bounded lists.bounded,
    lists.grows.trans reshapes.grows, ?_⟩
  intro num page found
  obtain ⟨later, stored, same⟩ := lists.kept num page found
  have after : (runtime.handlePageListing appId items).pages.lookup num =
      if num ∈ listed.unlistedPages appId items then none else some later := by
    simp only [handlePageListing, shape, syncPages, Table.lookup_eraseAll, stored]
  rw [after]
  split
  · rename_i unlisted
    obtain ⟨known, knownFound, app, missing⟩ := mem_unlistedPages.mp unlisted
    rw [stored] at knownFound
    cases knownFound
    refine .inl ⟨rfl, same.appId.symm.trans app, fun item member named => ?_⟩
    have skipped := List.find?_eq_none.mp missing item (List.mem_reverse.mpr member)
    simp [named, same.pageId] at skipped
  · exact .inr ⟨later, rfl, same⟩

theorem handle_grows (valid : Paged runtime) (bounded : Bounded runtime) (event : RuntimeEvent)
    (room : runtime.maxPageNum + runtime.created event < 2 ^ 32) :
    (runtime.handle event).maxPageNum = runtime.maxPageNum + runtime.created event ∧
      Bounded (runtime.handle event) ∧ Grows runtime (runtime.handle event) := by
  by_cases listing : ∃ appId items, event = .rpc (.applicationSentListing appId items)
  · obtain ⟨appId, items, rfl⟩ := listing
    obtain ⟨counter, after, grows, _⟩ := handlePageListing_lists valid bounded appId items room
    exact ⟨counter, after, grows⟩
  · have other : ∀ appId items, event ≠ .rpc (.applicationSentListing appId items) :=
      fun appId items same => listing ⟨appId, items, same⟩
    have none : runtime.created event = 0 := by
      unfold created
      split
      · exact absurd rfl (other _ _)
      · rfl
    have reshapes := (handle_moves valid.table other).reshapes
    rw [none]
    exact ⟨reshapes.counter, reshapes.bounded bounded, reshapes.grows⟩

theorem run_paged (valid : Paged runtime) (events : List RuntimeEvent) :
    Paged (run handle runtime events) :=
  run_invariant Paged valid (fun _ event held => handle_paged held event) events

theorem run_grows (valid : Paged runtime) (bounded : Bounded runtime) (events : List RuntimeEvent)
    (room : runtime.maxPageNum + runtime.createdIn events < 2 ^ 32) :
    (run handle runtime events).maxPageNum = runtime.maxPageNum + runtime.createdIn events ∧
      Bounded (run handle runtime events) ∧ Grows runtime (run handle runtime events) := by
  induction events generalizing runtime with
  | nil => exact ⟨rfl, bounded, .refl runtime⟩
  | cons event events ih =>
      rw [createdIn] at room ⊢
      obtain ⟨counter, after, grows⟩ := handle_grows valid bounded event (by omega)
      obtain ⟨last, lastBounded, lastGrows⟩ :=
        ih (handle_paged valid event) after (by rw [counter]; omega)
      refine ⟨?_, lastBounded, grows.trans lastGrows⟩
      rw [← Nat.add_assoc, ← counter]
      exact last

def AboutTouched (touched : Nat → Prop) (before : DeviceRuntime) (command : RpcCommand) : Prop :=
  ∀ target, command.target = some target →
    ∃ num page, touched num ∧ before.pages.lookup num = some page ∧
      target = (page.appId, page.pageId)

theorem SessionMove.sends {before after : DeviceRuntime}
    (move : SessionMove touched before after) :
    Sends (AboutTouched touched before) before after := by
  cases move with
  | idle after _ _ handle => exact ⟨[], by simp [written, handle], by simp⟩
  | tells command silent =>
      refine sends_send (fun target named => ?_) before
      rw [silent] at named
      cases named
  | relays num page sender data allowed found =>
      refine sends_send (fun target named => ?_) before
      cases named
      exact ⟨num, page, allowed, found, rfl⟩
  | opens num page wsId allowed found =>
      refine sends_send (fun target named => ?_)
        { before with pages := before.pages.modify num (PageInfo.hold wsId) }
      cases named
      exact ⟨num, page, allowed, found, rfl⟩
  | closes num page sender allowed found =>
      have sent : Sends (AboutTouched touched before) before
          (before.send (.forwardDidClose page.appId page.pageId sender)) := by
        refine sends_send (fun target named => ?_) before
        cases named
        exact ⟨num, page, allowed, found, rfl⟩
      exact sent
  | removes nums => exact .nothing before

theorem SessionMoves.sends {before after : DeviceRuntime}
    (moves : SessionMoves touched before after) :
    Sends (AboutTouched touched before) before after := by
  induction moves with
  | refl => exact .nothing before
  | tail earlier move ih =>
      refine ih.trans (move.sends.mono ?_)
      intro command about target named
      obtain ⟨num, page, allowed, found, rfl⟩ := about target named
      obtain ⟨old, stored, app, identifier⟩ := (SessionMoves.reshapes earlier).same num page found
      exact ⟨num, old, allowed, stored, by rw [app, identifier]⟩

/-- What page numbers promise at every point of a run: entries are stored under
their own numbers, a number means one page for ever, a listing leaves the entry
of a listed page alone, and a client's message reaches no page but the one its
number was given to. -/
structure NumbersPages (start : DeviceRuntime) (events : List RuntimeEvent) : Prop where
  table : ∀ past, past <+: events → PageTable (run handle start past).pages
  bounds : ∀ past, past <+: events → ∀ num page,
    (run handle start past).pages.lookup num = some page →
    page.pageNum = num ∧ 1 ≤ page.pageNum ∧ page.pageNum ≤ (run handle start past).maxPageNum
  same : ∀ past later, past <+: later → later <+: events → ∀ num first second,
    (run handle start past).pages.lookup num = some first →
    (run handle start later).pages.lookup num = some second →
    first.appId = second.appId ∧ first.pageId = second.pageId
  retired : ∀ past between later, past <+: between → between <+: later → later <+: events →
    ∀ num, num ∈ (run handle start past).pages → num ∉ (run handle start between).pages →
    num ∉ (run handle start later).pages
  listed : ∀ past appId items,
    past ++ [.rpc (.applicationSentListing appId items)] <+: events → ∀ num page,
    (run handle start past).pages.lookup num = some page →
    ((run handle start past).handlePageListing appId items).pages.lookup num = none ∧
        page.appId = appId ∧ (∀ item ∈ items, item.pageId ≠ page.pageId) ∨
      ∃ later, ((run handle start past).handlePageListing appId items).pages.lookup num =
        some later ∧ page.SameEntry later
  reached : ∀ earlier past message, earlier <+: past → past ++ [.wsMessage message] <+: events →
    ∀ page, (run handle start earlier).pages.lookup message.pageNum = some page →
    (∀ command ∈ (run handle start past).sentBy (.wsMessage message), ∀ target,
      command.target = some target → target = (page.appId, page.pageId)) ∧
    ∀ num, num ≠ message.pageNum →
      ((run handle start past).handleWsMessage message).pages.lookup num =
        (run handle start past).pages.lookup num

theorem run_grows_between (valid : Paged runtime) (bounded : Bounded runtime)
    {events past later : List RuntimeEvent}
    (room : runtime.maxPageNum + runtime.createdIn events < 2 ^ 32)
    (between : past <+: later) (within : later <+: events) :
    Bounded (run handle runtime past) ∧
      Grows (run handle runtime past) (run handle runtime later) := by
  obtain ⟨middle, rfl⟩ := between
  obtain ⟨rest, rfl⟩ := within
  rw [createdIn_append, createdIn_append] at room
  obtain ⟨counter, pastBounded, _⟩ := run_grows valid bounded past (by omega)
  obtain ⟨_, _, grows⟩ := run_grows (run_paged valid past) pastBounded middle (by omega)
  rw [run_append]
  exact ⟨pastBounded, grows⟩

theorem run_numbersPages_of (valid : Paged runtime) (bounded : Bounded runtime)
    {events : List RuntimeEvent}
    (room : runtime.maxPageNum + runtime.createdIn events < 2 ^ 32) :
    NumbersPages runtime events := by
  refine ⟨?_, ?_, ?_, ?_, ?_, ?_⟩
  · exact fun past _ => (run_paged valid past).table
  · intro past within num page found
    have number := (run_paged valid past).table.numbered num page found
    obtain ⟨low, high⟩ :=
      (run_grows_between valid bounded room (List.prefix_refl past) within).1 num page found
    rw [number]
    exact ⟨rfl, low, high⟩
  · intro past later between within num first second firstFound secondFound
    obtain ⟨pastBounded, grows⟩ := run_grows_between valid bounded room between within
    obtain ⟨old, stored, app, identifier⟩ :=
      grows.same num second (pastBounded num first firstFound).2 secondFound
    rw [firstFound] at stored
    cases stored
    exact ⟨app, identifier⟩
  · intro past between later toBetween toLater within num given removed again
    obtain ⟨first, firstFound⟩ := Table.exists_lookup given
    obtain ⟨last, lastFound⟩ := Table.exists_lookup again
    obtain ⟨pastBounded, grows⟩ :=
      run_grows_between valid bounded room toBetween (toLater.trans within)
    obtain ⟨_, laterGrows⟩ := run_grows_between valid bounded room toLater within
    have low := Nat.le_trans (pastBounded num first firstFound).2 grows.counter
    obtain ⟨old, stored, _⟩ := laterGrows.same num last low lastFound
    exact removed (Table.mem_of_lookup stored)
  · intro past appId items within num page found
    have bound := run_grows_between valid bounded room (List.prefix_append past _) within
    obtain ⟨rest, rfl⟩ := within
    rw [createdIn_append, createdIn_append] at room
    obtain ⟨counter, _, _⟩ := run_grows valid bounded past (by omega)
    refine (handlePageListing_lists (run_paged valid past) bound.1 appId items ?_).2.2.2 num page
      found
    simp only [createdIn, created] at room
    omega
  · intro earlier past message before within page found
    obtain ⟨earlierBounded, grows⟩ := run_grows_between valid bounded room before
      ((List.prefix_append past _).trans within)
    have moves := handleWsMessage_moves (run_paged valid past).table message
    refine ⟨?_, moves.reshapes.others⟩
    intro command member target named
    obtain ⟨num, last, rfl, stored, rfl⟩ := moves.sends.drop command member target named
    obtain ⟨old, oldStored, app, identifier⟩ :=
      grows.same message.pageNum last (earlierBounded _ page found).2 stored
    rw [found] at oldStored
    cases oldStored
    rw [app, identifier]

end DeviceRuntime

theorem newRuntime_pages (bridge : ProxyBridge) (environment : ConnectEnvironment)
    (deviceId : String) (port : Nat) (connection : DeviceConnection) (codec : WebInspectorCodec) :
    (bridge.newRuntime environment deviceId port connection codec).pages = ∅ ∧
      (bridge.newRuntime environment deviceId port connection codec).maxPageNum = 0 :=
  ⟨DeviceRuntime.send_pages _ _, DeviceRuntime.send_maxPageNum _ _⟩

/-- In every run that creates fewer pages than there are numbers, a page number
keeps its meaning. -/
theorem run_numbersPages (bridge : ProxyBridge) (environment : ConnectEnvironment)
    (deviceId : String) (port : Nat) (connection : DeviceConnection) (codec : WebInspectorCodec)
    (events : List RuntimeEvent)
    (few : (bridge.newRuntime environment deviceId port connection codec).createdIn events <
      2 ^ 32 - 1) :
    DeviceRuntime.NumbersPages (bridge.newRuntime environment deviceId port connection codec)
      events := by
  obtain ⟨noPages, counter⟩ := newRuntime_pages bridge environment deviceId port connection codec
  refine DeviceRuntime.run_numbersPages_of
    (newRuntime_paged bridge environment deviceId port connection codec) ?_
    (by rw [counter]; omega)
  intro num page found
  rw [noPages] at found
  cases found

def relistedRun : List RuntimeEvent :=
  [.rpc (.applicationSentListing "PID:1" [⟨1, .webPage, none, none, none⟩,
      ⟨2, .webPage, none, none, none⟩, ⟨1, .webPage, none, some "Again", none⟩]),
    .wsMessage ⟨1, "A", [], false⟩, .rpc (.applicationDisconnected ⟨"PID:1", "Safari", false⟩),
    .rpc (.applicationSentListing "PID:1" [⟨1, .webPage, none, none, none⟩]),
    .wsMessage ⟨1, "A", [123, 125], false⟩]

theorem run_numbersPages_relisted : DeviceRuntime.NumbersPages phoneRuntime relistedRun :=
  run_numbersPages plainBridge phoneEnvironment "UDID" 49152 phoneConnection (.new false false)
    relistedRun (by decide)

end IosWebkitDebugProxy
