import IosWebkitDebugProxy.ProxyMoves

/-! Who holds the pages of a device. Only a setup message of a client makes it
a holder, of the page that it names, and a close message frees the page that it
names. -/

namespace IosWebkitDebugProxy

def PageInfo.HeldBy (wsId : String) (page : PageInfo) : Prop :=
  page.senderId = some wsId ∨ page.wsClientId = some wsId

/-- Nobody comes to hold a page by this, and pages that are new are free. -/
def KeepsHolders (before after : Table Nat PageInfo) : Prop :=
  ∀ num page, after.lookup num = some page →
    (page.senderId = none ∧ page.wsClientId = none) ∨
      ∃ old, before.lookup num = some old ∧ old.senderId = page.senderId ∧
        old.wsClientId = page.wsClientId

namespace KeepsHolders

variable {before middle after : Table Nat PageInfo}

theorem refl (pages : Table Nat PageInfo) : KeepsHolders pages pages :=
  fun _ page found => .inr ⟨page, found, rfl, rfl⟩

theorem trans (earlier : KeepsHolders before middle) (later : KeepsHolders middle after) :
    KeepsHolders before after := by
  intro num page found
  rcases later num page found with free | ⟨old, stored, sender, client⟩
  · exact .inl free
  · rcases earlier num old stored with ⟨noSender, noClient⟩ | ⟨first, known, same, also⟩
    · exact .inl ⟨sender ▸ noSender, client ▸ noClient⟩
    · exact .inr ⟨first, known, same.trans sender, also.trans client⟩

theorem eraseAll (nums : List Nat) (pages : Table Nat PageInfo) :
    KeepsHolders pages (pages.eraseAll nums) := by
  intro num page found
  rw [Table.lookup_eraseAll] at found
  split at found
  · cases found
  · exact .inr ⟨page, found, rfl, rfl⟩

theorem modify (num : Nat) (update : PageInfo → PageInfo)
    (keeps : ∀ page, ((update page).senderId = none ∧ (update page).wsClientId = none) ∨
      (page.senderId = (update page).senderId ∧ page.wsClientId = (update page).wsClientId))
    (pages : Table Nat PageInfo) : KeepsHolders pages (pages.modify num update) := by
  intro other page found
  rcases Table.lookup_of_modify found with ⟨_, old, stored, rfl⟩ | ⟨_, found⟩
  · rcases keeps old with free | ⟨sender, client⟩
    · exact .inl free
    · exact .inr ⟨old, stored, sender, client⟩
  · exact .inr ⟨page, found, rfl, rfl⟩

theorem assign (num : Nat) {added : PageInfo}
    (free : added.senderId = none ∧ added.wsClientId = none) (pages : Table Nat PageInfo) :
    KeepsHolders pages (pages.assign num added) := by
  intro other page found
  rw [Table.lookup_assign] at found
  split at found
  · cases found
    exact .inl free
  · exact .inr ⟨page, found, rfl, rfl⟩

end KeepsHolders

namespace DeviceRuntime

variable {runtime : DeviceRuntime}

theorem listPage_keepsHolders (appId : String) (runtime : DeviceRuntime) (item : RpcPage) :
    KeepsHolders runtime.pages (runtime.listPage appId item).pages := by
  unfold listPage
  split
  · exact .modify _ (PageInfo.list item) (fun _ => .inr ⟨rfl, rfl⟩) _
  · exact .assign _ ⟨rfl, rfl⟩ _

theorem listPages_keepsHolders (appId : String) (items : List RpcPage) (runtime : DeviceRuntime) :
    KeepsHolders runtime.pages (items.foldl (listPage appId) runtime).pages := by
  induction items generalizing runtime with
  | nil => exact .refl _
  | cons item items ih => exact (listPage_keepsHolders appId runtime item).trans (ih _)

theorem addAppId_pages (appId : String) (runtime : DeviceRuntime) :
    (runtime.addAppId appId).pages = runtime.pages := by
  unfold addAppId
  split
  · rfl
  · exact send_pages _ _

theorem addListedApps_pages (apps : List RpcApp) (runtime : DeviceRuntime) :
    (apps.foldl addListedApp runtime).pages = runtime.pages := by
  induction apps generalizing runtime with
  | nil => rfl
  | cons app apps ih =>
      rw [List.foldl_cons, ih]
      exact addAppId_pages app.appId runtime

theorem handleRpcMessage_keepsHolders (message : RpcMessage) (runtime : DeviceRuntime) :
    KeepsHolders runtime.pages (runtime.handleRpcMessage message).pages := by
  have same {after : DeviceRuntime} (pages : after.pages = runtime.pages) :
      KeepsHolders runtime.pages after.pages := by
    rw [pages]
    exact .refl _
  cases message with
  | reportSetup => exact .refl _
  | reportConnectedApplicationList apps =>
      apply same
      simp only [handleRpcMessage, addListedApps_pages]
      split <;> rfl
  | applicationConnected app => exact same (addAppId_pages app.appId _)
  | applicationDisconnected app => exact .eraseAll _ _
  | applicationSentListing appId items =>
      exact (listPages_keepsHolders appId items runtime).trans (.eraseAll _ _)
  | applicationSentData appId destId data =>
      apply same
      simp only [handleRpcMessage, handleAppData]
      split <;> rfl
  | applicationUpdated appId destId => exact same (addAppId_pages destId runtime)
  | unknown selector => exact .refl _

theorem stopDevtools_keepsHolders (valid : PageTable runtime.pages) (num : Nat) :
    KeepsHolders runtime.pages (runtime.stopDevtools num).pages := by
  cases found : runtime.pages.lookup num with
  | none =>
      rw [stopDevtools_absent valid found]
      exact .refl _
  | some page =>
      cases held : page.senderId with
      | none =>
          rw [stopDevtools_idle valid found held]
          exact .refl _
      | some sender =>
          rw [stopDevtools_held valid found held]
          exact .modify num PageInfo.release (fun _ => .inl ⟨rfl, rfl⟩) _

theorem stopDevtools_released (valid : PageTable runtime.pages) {num : Nat} {page : PageInfo}
    (found : (runtime.stopDevtools num).pages.lookup num = some page) : page.senderId = none := by
  cases before : runtime.pages.lookup num with
  | none =>
      rw [stopDevtools_absent valid before, before] at found
      cases found
  | some known =>
      cases held : known.senderId with
      | none =>
          rw [stopDevtools_idle valid before held, before] at found
          cases found
          exact held
      | some sender =>
          rw [stopDevtools_held valid before held] at found
          simp only [Table.lookup_modify, if_true, before, Option.map_some,
            Option.some.injEq] at found
          rw [← found]
          rfl

theorem openDevtools_holders (valid : PageTable runtime.pages) (wsId : String) (num : Nat)
    {other : Nat} {page : PageInfo}
    (found : (runtime.openDevtools wsId num).pages.lookup other = some page) :
    (other = num ∧ page.senderId = some wsId ∧ page.wsClientId = some wsId) ∨
      runtime.pages.lookup other = some page := by
  cases before : runtime.pages.lookup num with
  | none =>
      rw [openDevtools_absent valid before] at found
      exact .inr found
  | some known =>
      rw [openDevtools_found valid before, send_pages] at found
      simp only [Table.lookup_modify] at found
      split at found
      · rename_i here
        obtain ⟨old, _, rfl⟩ := Option.map_eq_some_iff.mp found
        exact .inl ⟨here, rfl, rfl⟩
      · exact .inr found

def SetsUp (message : WsToWiMessage) (num : Nat) (page : PageInfo) : Prop :=
  message.isClose = false ∧ num = message.pageNum ∧ page.senderId = some message.wsId ∧
    page.wsClientId = some message.wsId

theorem handleWsMessage_holders (valid : Paged runtime) (message : WsToWiMessage) {num : Nat}
    {page : PageInfo} (found : (runtime.handleWsMessage message).pages.lookup num = some page) :
    SetsUp message num page ∨ (page.senderId = none ∧ page.wsClientId = none) ∨
      ∃ old, runtime.pages.lookup num = some old ∧ old.senderId = page.senderId ∧
        old.wsClientId = page.wsClientId := by
  unfold handleWsMessage at found
  split at found
  · exact .inr (stopDevtools_keepsHolders valid.table message.pageNum num page found)
  · rename_i live
    rw [Bool.not_eq_true] at live
    have opened {earlier : DeviceRuntime} (table : PageTable earlier.pages)
        (kept : KeepsHolders runtime.pages earlier.pages)
        (stored : (earlier.openDevtools message.wsId message.pageNum).pages.lookup num =
          some page) : SetsUp message num page ∨ (page.senderId = none ∧ page.wsClientId = none) ∨
      ∃ old, runtime.pages.lookup num = some old ∧ old.senderId = page.senderId ∧
        old.wsClientId = page.wsClientId := by
      rcases openDevtools_holders table message.wsId message.pageNum stored with
        ⟨here, sender, client⟩ | before
      · exact .inl ⟨live, here, sender, client⟩
      · exact .inr (kept num page before)
    split at found
    · unfold sendForwardSocketSetup at found
      split at found
      · split at found
        · exact opened (stopDevtools_paged valid message.pageNum).table
            (stopDevtools_keepsHolders valid.table message.pageNum) found
        · exact opened valid.table (.refl _) found
      · exact opened valid.table (.refl _) found
    · unfold forwardData at found
      split at found
      · exact .inr (.inr ⟨page, found, rfl, rfl⟩)
      · rw [send_pages] at found
        exact .inr (.inr ⟨page, found, rfl, rfl⟩)

end DeviceRuntime

end IosWebkitDebugProxy
