import IosWebkitDebugProxy.ProxyNumbers

/-! The sessions of one page entry, read off the commands sent since the entry
was created: each is set up while no other is open, and closed under its own
sender. What the entry records is always the session that is open. -/

namespace IosWebkitDebugProxy

open Transition

/-- The session of a page that is open after more commands, if each of them
respects the session before it. -/
def sessionAfter (appId : String) (pageId : Nat) : Option String → List RpcCommand →
    Option (Option String)
  | session, [] => some session
  | session, .forwardSocketSetup app page sender :: later =>
      if app = appId ∧ page = pageId then
        if session = none ∨ session = some sender then
          sessionAfter appId pageId (some sender) later
        else none
      else sessionAfter appId pageId session later
  | session, .forwardDidClose app page sender :: later =>
      if app = appId ∧ page = pageId then
        if session = some sender then sessionAfter appId pageId none later else none
      else sessionAfter appId pageId session later
  | session, _ :: later => sessionAfter appId pageId session later

theorem sessionAfter_append (appId : String) (pageId : Nat) (session : Option String)
    (earlier later : List RpcCommand) :
    sessionAfter appId pageId session (earlier ++ later) =
      (sessionAfter appId pageId session earlier).bind fun middle =>
        sessionAfter appId pageId middle later := by
  induction earlier generalizing session with
  | nil => rfl
  | cons command earlier ih =>
      cases command with
      | forwardSocketSetup app page sender =>
          simp only [List.cons_append, sessionAfter, ih]
          split
          · split <;> rfl
          · rfl
      | forwardDidClose app page sender =>
          simp only [List.cons_append, sessionAfter, ih]
          split
          · split <;> rfl
          · rfl
      | _ => exact ih session

theorem sessionAfter_other {appId : String} {pageId : Nat} {session : Option String}
    {command : RpcCommand} (other : command.target ≠ some (appId, pageId)) :
    sessionAfter appId pageId session [command] = some session := by
  cases command with
  | forwardSocketSetup app page sender =>
      have apart : ¬(app = appId ∧ page = pageId) := by
        rintro ⟨rfl, rfl⟩
        exact other rfl
      simp [sessionAfter, apart]
  | forwardDidClose app page sender =>
      have apart : ¬(app = appId ∧ page = pageId) := by
        rintro ⟨rfl, rfl⟩
        exact other rfl
      simp [sessionAfter, apart]
  | _ => rfl

/-- A runtime with a note, for each entry, of how much had been written when it
was created. -/
structure Recorded where
  runtime : DeviceRuntime
  createdAt : Table Nat Nat

namespace Recorded

open DeviceRuntime

def recordPage (appId : String) (recorded : Recorded) (item : RpcPage) : Recorded where
  runtime := recorded.runtime.listPage appId item
  createdAt :=
    let known := recorded.runtime.pages.findValue fun known =>
      known.appId == appId && known.pageId == item.pageId
    if known.isSome then recorded.createdAt
    else recorded.createdAt.assign ((recorded.runtime.maxPageNum + 1) % 2 ^ 32)
      recorded.runtime.written.length

def handle (recorded : Recorded) (event : RuntimeEvent) : Recorded where
  runtime := recorded.runtime.handle event
  createdAt :=
    match event with
    | .rpc (.applicationSentListing appId items) =>
        (items.foldl (recordPage appId) recorded).createdAt
    | _ => recorded.createdAt

theorem run_runtime (recorded : Recorded) (events : List RuntimeEvent) :
    (run handle recorded events).runtime = run DeviceRuntime.handle recorded.runtime events := by
  induction events generalizing recorded with
  | nil => rfl
  | cons event events ih => exact ih (recorded.handle event)

/-- What was sent for an entry since it was created opened and closed sessions in
turn, and the entry names the one that is open. -/
def EntryBracketed (recorded : Recorded) (num : Nat) (page : PageInfo) : Prop :=
  page.wsClientId = page.senderId ∧ (recorded.runtime.canSend →
    ∃ start, recorded.createdAt.lookup num = some start ∧
      start ≤ recorded.runtime.written.length ∧
      sessionAfter page.appId page.pageId none (recorded.runtime.written.drop start) =
        some page.senderId)

def Bracketed (recorded : Recorded) : Prop :=
  ∀ num page, recorded.runtime.pages.lookup num = some page → recorded.EntryBracketed num page

variable {touched : Nat → Prop} {before after : DeviceRuntime} {createdAt : Table Nat Nat}

theorem EntryBracketed.send {runtime : DeviceRuntime} {num : Nat} {page : PageInfo}
    (bracketed : EntryBracketed ⟨runtime, createdAt⟩ num page) (command : RpcCommand)
    (later : PageInfo) (mirrored : later.wsClientId = later.senderId)
    (identity : later.appId = page.appId ∧ later.pageId = page.pageId)
    (follows : sessionAfter page.appId page.pageId page.senderId [command] = some later.senderId)
    {sent : DeviceRuntime} (written : sent.wiHandle = (runtime.send command).wiHandle)
    (codec : sent.wiCodec = runtime.wiCodec) (sender : sent.rpcSender = runtime.rpcSender) :
    EntryBracketed ⟨sent, createdAt⟩ num later := by
  refine ⟨mirrored, fun ready => ?_⟩
  have sentReady : (runtime.send command).canSend := by
    rw [send_eq]
    simpa only [canSend, written, codec, sender] using ready
  have before := canSend_send sentReady
  have more : sent.written = runtime.written ++ [command] := by
    rw [← written_send command before]
    simp only [DeviceRuntime.written, written]
  obtain ⟨start, created, bound, session⟩ := bracketed.2 before
  refine ⟨start, created, ?_, ?_⟩
  · rw [more, List.length_append]
    exact Nat.le_add_right_of_le bound
  · rw [more, List.drop_append_of_le_length bound, sessionAfter_append, identity.1, identity.2,
      session]
    exact follows

theorem send_wiHandle_pages (command : RpcCommand) (runtime : DeviceRuntime)
    (pages : Table Nat PageInfo) :
    (send command { runtime with pages }).wiHandle = (runtime.send command).wiHandle := by
  unfold DeviceRuntime.send
  simp only
  split
  · split <;> rfl
  · rfl

theorem target_ne_of_ne (valid : PageTable before.pages) {num other : Nat}
    {page entry : PageInfo} (stored : before.pages.lookup num = some page)
    (found : before.pages.lookup other = some entry) (apart : other ≠ num) :
    some (page.appId, page.pageId) ≠ some (entry.appId, entry.pageId) := by
  intro same
  simp only [Option.some.injEq, Prod.mk.injEq] at same
  exact apart (valid.distinct other num entry page found stored same.1.symm same.2.symm)

theorem SessionMove.bracketed (valid : PageTable before.pages)
    (bracketed : Bracketed ⟨before, createdAt⟩) (move : SessionMove touched before after) :
    Bracketed ⟨after, createdAt⟩ := by
  cases move with
  | idle after pages counter handle codec sender =>
      intro num page found
      rw [pages] at found
      obtain ⟨mirrored, session⟩ := bracketed num page found
      refine ⟨mirrored, fun ready => ?_⟩
      have sameReady : after.canSend = before.canSend := by
        simp only [canSend, handle, codec, sender]
      have sameWritten : after.written = before.written := by simp only [written, handle]
      rw [sameWritten]
      exact session (sameReady ▸ ready)
  | tells command silent =>
      intro num page found
      rw [send_pages] at found
      refine (bracketed num page found).send command page (bracketed num page found).1 ⟨rfl, rfl⟩
        (sessionAfter_other ?_) rfl ?_ ?_
      · simp [silent]
      · rw [send_eq]
      · rw [send_eq]
  | relays target page sender data allowed stored =>
      intro num entry found
      rw [send_pages] at found
      refine (bracketed num entry found).send _ entry (bracketed num entry found).1 ⟨rfl, rfl⟩ rfl
        rfl ?_ ?_
      · rw [send_eq]
      · rw [send_eq]
  | opens target page wsId allowed stored free =>
      obtain ⟨mirrored, _⟩ := bracketed target page stored
      have idle : page.senderId = none ∨ page.senderId = some wsId := by
        rcases free with none | own | none
        · exact .inl (mirrored.symm.trans none)
        · exact .inr (mirrored.symm.trans own)
        · exact .inl none
      have handle := send_wiHandle_pages (.forwardSocketSetup page.appId page.pageId wsId) before
        (before.pages.modify target (PageInfo.hold wsId))
      intro num entry found
      rw [send_pages, Table.lookup_modify] at found
      split at found
      · rename_i here
        subst here
        rw [stored] at found
        cases found
        refine (bracketed num page stored).send _ (page.hold wsId) rfl ⟨rfl, rfl⟩ ?_ handle
          (by rw [send_eq]) (by rw [send_eq])
        simp [sessionAfter, idle, PageInfo.hold]
      · rename_i apart
        refine (bracketed num entry found).send _ entry (bracketed num entry found).1 ⟨rfl, rfl⟩
          (sessionAfter_other ?_) handle (by rw [send_eq]) (by rw [send_eq])
        exact target_ne_of_ne valid stored found apart
  | closes target page sender allowed stored held =>
      intro num entry found
      simp only [Table.lookup_modify] at found
      split at found
      · rename_i here
        subst here
        rw [stored] at found
        cases found
        refine (bracketed num page stored).send (.forwardDidClose page.appId page.pageId sender)
          page.release rfl ⟨rfl, rfl⟩ ?_ rfl (by rw [send_eq]) (by rw [send_eq])
        simp [sessionAfter, held, PageInfo.release]
      · rename_i apart
        refine (bracketed num entry found).send (.forwardDidClose page.appId page.pageId sender)
          entry (bracketed num entry found).1 ⟨rfl, rfl⟩ (sessionAfter_other ?_) rfl
          (by rw [send_eq]) (by rw [send_eq])
        exact target_ne_of_ne valid stored found apart
  | removes nums allowed =>
      intro num page found
      simp only [Table.lookup_eraseAll] at found
      split at found
      · cases found
      · exact bracketed num page found

theorem SessionMoves.bracketed (valid : PageTable before.pages)
    (bracketed : Bracketed ⟨before, createdAt⟩) (moves : SessionMoves touched before after) :
    PageTable after.pages ∧ Bracketed ⟨after, createdAt⟩ := by
  induction moves with
  | refl => exact ⟨valid, bracketed⟩
  | tail _ move ih => exact ⟨move.table ih.1, SessionMove.bracketed ih.1 ih.2 move⟩

theorem recordPage_bracketed {recorded : Recorded} (valid : PageTable recorded.runtime.pages)
    (bracketed : Bracketed recorded) (appId : String) (item : RpcPage) :
    Bracketed (recorded.recordPage appId item) := by
  obtain ⟨runtime, createdAt⟩ := recorded
  have known := findValue_isSome_iff runtime appId item.pageId
  unfold recordPage
  rcases listPage_cases valid appId item with
    ⟨target, page, stored, app, identifier, shape⟩ |
      ⟨unknown, page, number, app, identifier, noSender, noClient, shape⟩
  · simp only [shape, if_pos (known.mpr ⟨target, page, stored, app, identifier⟩)]
    intro num entry found
    simp only [Table.lookup_modify] at found
    split at found
    · rename_i here
      subst here
      rw [stored] at found
      cases found
      exact bracketed num page stored
    · exact bracketed num entry found
  · simp only [shape, if_neg fun some => unknown (known.mp some)]
    intro num entry found
    simp only [Table.lookup_assign] at found
    split at found
    · rename_i here
      cases found
      refine ⟨noClient.trans noSender.symm, fun _ => ⟨runtime.written.length, ?_, le_rfl, ?_⟩⟩
      · simp [here]
      · have nothing : (⟨{ runtime with
            maxPageNum := (runtime.maxPageNum + 1) % 2 ^ 32
            pages := runtime.pages.assign ((runtime.maxPageNum + 1) % 2 ^ 32) page },
            createdAt⟩ : Recorded).runtime.written = runtime.written := rfl
        rw [noSender]
        simp only [nothing, List.drop_length, sessionAfter]
    · rename_i elsewhere
      obtain ⟨mirrored, session⟩ := bracketed num entry found
      refine ⟨mirrored, fun ready => ?_⟩
      obtain ⟨start, created, bound, bracket⟩ := session ready
      refine ⟨start, ?_, bound, bracket⟩
      simp only [Table.lookup_assign, if_neg elsewhere]
      exact created

theorem recordPages_bracketed {recorded : Recorded} (valid : Paged recorded.runtime)
    (bracketed : Bracketed recorded) (appId : String) (items : List RpcPage) :
    (items.foldl (recordPage appId) recorded).runtime =
        items.foldl (listPage appId) recorded.runtime ∧
      Bracketed (items.foldl (recordPage appId) recorded) := by
  induction items generalizing recorded with
  | nil => exact ⟨rfl, bracketed⟩
  | cons item items ih =>
      exact ih (listPage_paged valid appId item)
        (recordPage_bracketed valid.table bracketed appId item)

theorem handle_bracketed {recorded : Recorded} (valid : Paged recorded.runtime)
    (bracketed : Bracketed recorded) (event : RuntimeEvent) :
    Bracketed (recorded.handle event) := by
  by_cases listing : ∃ appId items, event = .rpc (.applicationSentListing appId items)
  · obtain ⟨appId, items, rfl⟩ := listing
    obtain ⟨shape, listed⟩ := recordPages_bracketed valid bracketed appId items
    have kept : ∀ num page,
        (recorded.runtime.handlePageListing appId items).pages.lookup num = some page →
        (items.foldl (listPage appId) recorded.runtime).pages.lookup num = some page := by
      intro num page found
      simp only [handlePageListing, syncPages, Table.lookup_eraseAll] at found
      split at found
      · cases found
      · exact found
    intro num page found
    rw [← shape] at kept
    obtain ⟨mirrored, session⟩ := listed num page (kept num page found)
    refine ⟨mirrored, fun ready => ?_⟩
    rw [shape] at session
    exact session ready
  · have other : ∀ appId items, event ≠ .rpc (.applicationSentListing appId items) :=
      fun appId items same => listing ⟨appId, items, same⟩
    have same : (recorded.handle event).createdAt = recorded.createdAt := by
      unfold handle
      split
      · exact absurd rfl (other _ _)
      · rfl
    have held : Bracketed ⟨recorded.runtime, recorded.createdAt⟩ := bracketed
    obtain ⟨_, moved⟩ := SessionMoves.bracketed valid.table held (handle_moves valid.table other)
    rw [← same] at moved
    exact moved

end Recorded

/-- At every point of a run where messages can still be sent, the sessions of
each entry since its creation form brackets, and the entry names the open one. -/
theorem run_bracketed (bridge : ProxyBridge) (environment : ConnectEnvironment)
    (deviceId : String) (port : Nat) (connection : DeviceConnection) (codec : WebInspectorCodec)
    (events : List RuntimeEvent) :
    let start := bridge.newRuntime environment deviceId port connection codec
    (run Recorded.handle ⟨start, ∅⟩ events).runtime = run DeviceRuntime.handle start events ∧
      (run Recorded.handle ⟨start, ∅⟩ events).Bracketed := by
  refine ⟨Recorded.run_runtime _ _, (run_invariant
    (fun recorded : Recorded => recorded.runtime.Paged ∧ recorded.Bracketed) ⟨?_, ?_⟩ ?_ events).2⟩
  · exact newRuntime_paged bridge environment deviceId port connection codec
  · intro num page found
    simp only [(newRuntime_pages bridge environment deviceId port connection codec).1] at found
    cases found
  · rintro recorded event ⟨valid, bracketed⟩
    exact ⟨DeviceRuntime.handle_paged valid event, Recorded.handle_bracketed valid bracketed event⟩

end IosWebkitDebugProxy
