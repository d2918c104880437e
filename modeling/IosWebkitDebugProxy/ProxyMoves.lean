import Mathlib.Logic.Relation
import IosWebkitDebugProxy.ProxyInert
import IosWebkitDebugProxy.ProxySessions

/-! What a handler can do to the pages of a runtime, move by move. Everything but
a listing opens, closes, relays or removes, and a listing updates and adds. -/

namespace IosWebkitDebugProxy

open Relation

def RpcCommand.target : RpcCommand → Option (String × Nat)
  | .reportIdentifier => none
  | .forwardGetListing _ => none
  | .forwardSocketSetup appId pageId _ => some (appId, pageId)
  | .forwardSocketData appId pageId _ _ => some (appId, pageId)
  | .forwardDidClose appId pageId _ => some (appId, pageId)

namespace DeviceRuntime

/-- No other client than this one holds the page, as far as both fields say so. -/
def FreeFor (wsId : String) (page : PageInfo) : Prop :=
  page.wsClientId = none ∨ page.wsClientId = some wsId ∨ page.senderId = none

/-- One move of a handler, on pages that it may touch. -/
inductive SessionMove (touched : Nat → Prop) (before : DeviceRuntime) : DeviceRuntime → Prop
  | idle (after) : after.pages = before.pages → after.maxPageNum = before.maxPageNum →
      after.wiHandle = before.wiHandle → after.wiCodec = before.wiCodec →
      after.rpcSender = before.rpcSender → SessionMove touched before after
  | tells (command) : command.target = none → SessionMove touched before (before.send command)
  | relays (num page sender data) : touched num → before.pages.lookup num = some page →
      SessionMove touched before
        (before.send (.forwardSocketData page.appId page.pageId sender data))
  | opens (num page wsId) : touched num → before.pages.lookup num = some page →
      FreeFor wsId page → SessionMove touched before
        (send (.forwardSocketSetup page.appId page.pageId wsId)
          { before with pages := before.pages.modify num (PageInfo.hold wsId) })
  | closes (num page sender) : touched num → before.pages.lookup num = some page →
      page.senderId = some sender → SessionMove touched before
        { before.send (.forwardDidClose page.appId page.pageId sender) with
          pages := before.pages.modify num PageInfo.release }
  | removes (nums) : (∀ num ∈ nums, touched num) →
      SessionMove touched before { before with pages := before.pages.eraseAll nums }

def SessionMoves (touched : Nat → Prop) : DeviceRuntime → DeviceRuntime → Prop :=
  ReflTransGen (SessionMove touched)

variable {runtime : DeviceRuntime} {touched : Nat → Prop}

theorem SessionMove.table {before after : DeviceRuntime} (valid : PageTable before.pages)
    (move : SessionMove touched before after) : PageTable after.pages := by
  cases move with
  | idle after pages =>
      rw [pages]
      exact valid
  | tells command =>
      rw [send_pages]
      exact valid
  | relays num page sender data =>
      rw [send_pages]
      exact valid
  | opens num page wsId =>
      rw [send_pages]
      exact valid.modify num (PageInfo.hold wsId) fun _ => ⟨rfl, rfl, rfl⟩
  | closes num page sender => exact valid.modify num PageInfo.release fun _ => ⟨rfl, rfl, rfl⟩
  | removes nums => exact valid.eraseAll nums

theorem stopDevtools_moves (valid : PageTable runtime.pages) {num : Nat} (allowed : touched num) :
    SessionMoves touched runtime (runtime.stopDevtools num) := by
  cases found : runtime.pages.lookup num with
  | none =>
      rw [stopDevtools_absent valid found]
      exact .refl
  | some page =>
      cases held : page.senderId with
      | none =>
          rw [stopDevtools_idle valid found held]
          exact .refl
      | some sender =>
          rw [stopDevtools_held valid found held]
          exact .single (.closes num page sender allowed found held)

theorem openDevtools_moves (valid : PageTable runtime.pages) {wsId : String} {num : Nat}
    (allowed : touched num)
    (free : ∀ page, runtime.pages.lookup num = some page → FreeFor wsId page) :
    SessionMoves touched runtime (runtime.openDevtools wsId num) := by
  cases found : runtime.pages.lookup num with
  | none =>
      rw [openDevtools_absent valid found]
      exact .refl
  | some page =>
      rw [openDevtools_found valid found]
      exact .single (.opens num page wsId allowed found (free page found))

theorem stopDevtools_free (valid : PageTable runtime.pages) (wsId : String) {num : Nat}
    {page : PageInfo} (found : (runtime.stopDevtools num).pages.lookup num = some page) :
    FreeFor wsId page := by
  cases before : runtime.pages.lookup num with
  | none =>
      rw [stopDevtools_absent valid before, before] at found
      cases found
  | some known =>
      cases held : known.senderId with
      | none =>
          rw [stopDevtools_idle valid before held, before] at found
          cases found
          exact .inr (.inr held)
      | some sender =>
          rw [stopDevtools_held valid before held] at found
          simp only [Table.lookup_modify, if_true, before, Option.map_some,
            Option.some.injEq] at found
          rw [← found]
          exact .inl rfl

theorem SessionMoves.table {before after : DeviceRuntime} (valid : PageTable before.pages)
    (moves : SessionMoves touched before after) : PageTable after.pages := by
  induction moves with
  | refl => exact valid
  | tail _ move ih => exact move.table ih

theorem sendForwardSocketSetup_moves (valid : PageTable runtime.pages) (wsId : String) {num : Nat}
    (allowed : touched num) :
    SessionMoves touched runtime (runtime.sendForwardSocketSetup wsId num) := by
  unfold sendForwardSocketSetup
  rw [findPage_eq valid]
  split
  · rename_i oldId holder
    split
    · have stopped := stopDevtools_moves valid allowed
      exact stopped.trans (openDevtools_moves (stopped.table valid) allowed
        fun page found => stopDevtools_free valid wsId found)
    · rename_i same
      refine openDevtools_moves valid allowed fun page found => .inr (.inl ?_)
      rw [found, Option.bind_some, not_ne_iff.mp same] at holder
      exact holder
  · rename_i idle
    refine openDevtools_moves valid allowed fun page found => .inl ?_
    rw [found, Option.bind_some] at idle
    exact idle

theorem handleWsMessage_moves (valid : PageTable runtime.pages) (message : WsToWiMessage) :
    SessionMoves (· = message.pageNum) runtime (runtime.handleWsMessage message) := by
  unfold handleWsMessage
  split
  · have stopped : SessionMoves (· = message.pageNum) runtime
        (runtime.stopDevtools message.pageNum) := stopDevtools_moves valid rfl
    exact stopped.tail (.idle _ rfl rfl rfl rfl rfl)
  · split
    · exact sendForwardSocketSetup_moves valid message.wsId rfl
    · unfold forwardData
      cases found : runtime.findPage message.pageNum with
      | none => exact .refl
      | some page =>
          rw [findPage_eq valid] at found
          exact .single (.relays message.pageNum page _ _ rfl found)

theorem addAppId_moves (runtime : DeviceRuntime) (appId : String) :
    SessionMoves touched runtime (runtime.addAppId appId) := by
  unfold addAppId
  split
  · exact .refl
  · have added : SessionMoves touched runtime
        { runtime with appIds := runtime.appIds.assign appId true } :=
      .single (.idle _ rfl rfl rfl rfl rfl)
    exact added.tail (.tells (.forwardGetListing appId) rfl)

theorem addListedApps_moves (apps : List RpcApp) (runtime : DeviceRuntime) :
    SessionMoves touched runtime (apps.foldl addListedApp runtime) := by
  apply List.foldlRecOn apps addListedApp (ReflTransGen.refl)
  intro known moved app _
  exact (moved.trans (addAppId_moves known app.appId)).tail (.idle _ rfl rfl rfl rfl rfl)

/-- The pages that an event may touch: a client names a page by its number. -/
def touchedBy : RuntimeEvent → Nat → Prop
  | .wsMessage message, num => num = message.pageNum
  | _, _ => True

theorem handle_moves (valid : PageTable runtime.pages) {event : RuntimeEvent}
    (other : ∀ appId items, event ≠ .rpc (.applicationSentListing appId items)) :
    SessionMoves (touchedBy event) runtime (runtime.handle event) := by
  cases event with
  | wsMessage message => exact handleWsMessage_moves valid message
  | registration registration => exact .single (.idle _ rfl rfl rfl rfl rfl)
  | rpc message =>
      cases message with
      | reportSetup => exact .single (.idle _ rfl rfl rfl rfl rfl)
      | reportConnectedApplicationList apps =>
          simp only [handle, handleRpcMessage]
          split
          · exact addListedApps_moves apps runtime
          · exact (ReflTransGen.single (.idle _ rfl rfl rfl rfl rfl)).trans
              (addListedApps_moves apps _)
      | applicationConnected app =>
          exact (ReflTransGen.single (.idle _ rfl rfl rfl rfl rfl)).trans (addAppId_moves _ app.appId)
      | applicationDisconnected app =>
          have removed : SessionMoves (fun _ => True) runtime { runtime with
              pages := runtime.pages.eraseAll
                (runtime.pages.keysWhere fun page => page.appId == app.appId) } :=
            .single (.removes _ fun _ _ => trivial)
          exact removed.tail (.idle _ rfl rfl rfl rfl rfl)
      | applicationSentListing appId items => exact absurd rfl (other appId items)
      | applicationSentData appId destId data =>
          simp only [handle, handleRpcMessage, handleAppData]
          split
          · exact .single (.idle _ rfl rfl rfl rfl rfl)
          · exact .refl
      | applicationUpdated appId destId => exact addAppId_moves runtime destId
      | unknown selector => exact .refl

theorem listPage_cases (valid : PageTable runtime.pages) (appId : String) (item : RpcPage) :
    (∃ num page, runtime.pages.lookup num = some page ∧ page.appId = appId ∧
        page.pageId = item.pageId ∧ runtime.listPage appId item =
          { runtime with pages := runtime.pages.modify num (PageInfo.list item) }) ∨
      ¬runtime.Known appId item ∧ ∃ page, page.pageNum = (runtime.maxPageNum + 1) % 2 ^ 32 ∧
        page.appId = appId ∧ page.pageId = item.pageId ∧ page.senderId = none ∧
        page.wsClientId = none ∧ runtime.listPage appId item =
          { runtime with
            maxPageNum := (runtime.maxPageNum + 1) % 2 ^ 32
            pages := runtime.pages.assign ((runtime.maxPageNum + 1) % 2 ^ 32) page } := by
  unfold listPage
  split
  · rename_i existing found
    have same := List.find?_some found
    obtain ⟨num, stored⟩ := Table.mem_values.mp (List.mem_of_find?_eq_some found)
    simp only [Bool.and_eq_true, beq_iff_eq] at same
    rw [valid.numbered num existing stored]
    exact .inl ⟨num, existing, stored, same.1, same.2, rfl⟩
  · rename_i missing
    refine .inr ⟨?_, _, rfl, rfl, rfl, rfl, rfl, rfl⟩
    rintro ⟨num, page, stored, app, identifier⟩
    have skipped := List.find?_eq_none.mp missing page (Table.mem_values.mpr ⟨num, stored⟩)
    simp [app, identifier] at skipped

end DeviceRuntime

end IosWebkitDebugProxy
