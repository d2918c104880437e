import IosWebkitDebugProxy.ProxyClients
import IosWebkitDebugProxy.ProxyHolders
import IosWebkitDebugProxy.ProxyInert

/-! The messages that open sessions, and what a frame of a client does to the
sessions there are. An empty frame reads like the opening of a session. -/

namespace IosWebkitDebugProxy

def RpcCommand.setsUp (wsId : String) : RpcCommand → Bool
  | .forwardSocketSetup _ _ sender => sender == wsId
  | _ => false

namespace DeviceRuntime

variable {runtime : DeviceRuntime}

theorem setsUp_iff {wsId : String} {command : RpcCommand} :
    command.setsUp wsId = true ↔ IsSetup wsId command := by
  cases command with
  | forwardSocketSetup appId pageId sender => simp [RpcCommand.setsUp, IsSetup]
  | _ => simp [RpcCommand.setsUp, IsSetup]

/-- How many sessions have been opened for the client. -/
def setupsOf (wsId : String) (runtime : DeviceRuntime) : Nat :=
  runtime.written.countP (RpcCommand.setsUp wsId)

theorem Sends.setupsOf {wsId : String} {before after : DeviceRuntime}
    (sent : Sends (fun command => ¬IsSetup wsId command) before after) :
    after.setupsOf wsId = before.setupsOf wsId := by
  obtain ⟨added, shape, quiet⟩ := sent
  have none : added.countP (RpcCommand.setsUp wsId) = 0 :=
    List.countP_eq_zero.mpr fun command member setup => quiet command member (setsUp_iff.mp setup)
  rw [DeviceRuntime.setupsOf, shape, List.countP_append, none, Nat.add_zero, DeviceRuntime.setupsOf]

theorem IsClose.not_isSetup {command : RpcCommand} (close : IsClose command) (wsId : String) :
    ¬IsSetup wsId command := by
  rintro ⟨appId, pageId, rfl⟩
  obtain ⟨_, _, _, other⟩ := close
  cases other

theorem send_setupsOf_le (wsId : String) (command : RpcCommand) (runtime : DeviceRuntime) :
    (runtime.send command).setupsOf wsId ≤ runtime.setupsOf wsId + 1 := by
  cases ready : runtime.canSend with
  | false =>
      rw [send_eq_self command ready]
      exact Nat.le_succ _
  | true =>
      rw [setupsOf, written_send command ready, List.countP_append]
      exact Nat.add_le_add_left (List.countP_le_length) _

theorem openDevtools_setupsOf_le (wsId mover : String) (num : Nat) (runtime : DeviceRuntime) :
    (runtime.openDevtools mover num).setupsOf wsId ≤ runtime.setupsOf wsId + 1 := by
  unfold openDevtools
  split
  · exact Nat.le_succ _
  · exact send_setupsOf_le wsId _ _

theorem openDevtools_setupsOf (valid : PageTable runtime.pages) {wsId : String} {num : Nat}
    {page : PageInfo} (found : runtime.pages.lookup num = some page) (ready : runtime.canSend) :
    (runtime.openDevtools wsId num).setupsOf wsId = runtime.setupsOf wsId + 1 := by
  have held : canSend { runtime with pages := runtime.pages.modify num (PageInfo.hold wsId) } :=
    ready
  rw [openDevtools_found valid found, setupsOf, written_send _ held, List.countP_append,
    List.countP_singleton, if_pos (setsUp_iff.mpr ⟨_, _, rfl⟩)]
  rfl

theorem stopDevtools_setupsOf (wsId : String) (num : Nat) (runtime : DeviceRuntime) :
    (runtime.stopDevtools num).setupsOf wsId = runtime.setupsOf wsId :=
  ((stopDevtools_sends runtime num).mono fun _ close => close.not_isSetup wsId).setupsOf

theorem sendForwardSocketSetup_setupsOf_le (wsId mover : String) (num : Nat)
    (runtime : DeviceRuntime) :
    (runtime.sendForwardSocketSetup mover num).setupsOf wsId ≤ runtime.setupsOf wsId + 1 := by
  unfold sendForwardSocketSetup
  split
  · split
    · rw [← stopDevtools_setupsOf wsId num runtime]
      exact openDevtools_setupsOf_le wsId mover num _
    · exact openDevtools_setupsOf_le wsId mover num runtime
  · exact openDevtools_setupsOf_le wsId mover num runtime

theorem forwardData_setupsOf (wsId : String) (message : WsToWiMessage) (runtime : DeviceRuntime) :
    (runtime.forwardData message).setupsOf wsId = runtime.setupsOf wsId := by
  unfold forwardData
  split
  · rfl
  · refine (sends_send ?_ runtime).setupsOf
    rintro ⟨_, _, setup⟩
    cases setup

theorem forwardData_pages (message : WsToWiMessage) (runtime : DeviceRuntime) :
    (runtime.forwardData message).pages = runtime.pages := by
  unfold forwardData
  split
  · rfl
  · exact send_pages _ _

theorem handleWsMessage_setupsOf_le (wsId : String) (message : WsToWiMessage)
    (runtime : DeviceRuntime) :
    (runtime.handleWsMessage message).setupsOf wsId ≤ runtime.setupsOf wsId + 1 := by
  unfold handleWsMessage
  split
  · exact (stopDevtools_setupsOf wsId message.pageNum runtime).le.trans (Nat.le_succ _)
  · split
    · exact sendForwardSocketSetup_setupsOf_le wsId message.wsId message.pageNum runtime
    · exact (forwardData_setupsOf wsId message runtime).le.trans (Nat.le_succ _)

/-- Nothing but a message of the client itself opens a session for it. -/
theorem handleWsMessage_setupsOf {wsId : String} {message : WsToWiMessage}
    (other : message.wsId ≠ wsId ∨ message.isClose = true) (runtime : DeviceRuntime) :
    (runtime.handleWsMessage message).setupsOf wsId = runtime.setupsOf wsId := by
  rcases other with elsewhere | close
  · refine ((handleWsMessage_sends message runtime).mono fun command opens setup => ?_).setupsOf
    exact elsewhere (opens wsId setup).symm
  · unfold handleWsMessage
    rw [if_pos close]
    exact stopDevtools_setupsOf wsId message.pageNum runtime

theorem handleRpcMessage_setupsOf (wsId : String) (message : RpcMessage) (runtime : DeviceRuntime) :
    (runtime.handleRpcMessage message).setupsOf wsId = runtime.setupsOf wsId :=
  ((handleRpcMessage_leavesClients message runtime).sent.mono fun _ quiet => quiet wsId).setupsOf

/-- The message opens no session for its client, and nobody else loses one. -/
structure LeavesSessions (message : WsToWiMessage) (runtime : DeviceRuntime) : Prop where
  quiet : ∀ command ∈ runtime.sentBy (.wsMessage message), ¬IsSetup message.wsId command
  others : ∀ num page other, runtime.pages.lookup num = some page → page.HeldBy other →
    other ≠ message.wsId →
      ∃ later, (runtime.handleWsMessage message).pages.lookup num = some later ∧
        later.HeldBy other

/-- If the message is empty, then its page is gone, or it has no other holder and
nothing can be sent. -/
def Harmless (message : WsToWiMessage) (runtime : DeviceRuntime) : Prop :=
  message.data = [] → ∀ page, runtime.pages.lookup message.pageNum = some page →
    runtime.canSend = false ∧ ∀ other, page.HeldBy other → other = message.wsId

theorem LeavesSessions.setupsOf {message : WsToWiMessage}
    (leaves : LeavesSessions message runtime) :
    (runtime.handleWsMessage message).setupsOf message.wsId = runtime.setupsOf message.wsId := by
  obtain ⟨added, shape, _⟩ := handleWsMessage_sends message runtime
  refine Sends.setupsOf ⟨added, shape, fun command member => leaves.quiet command ?_⟩
  change command ∈ (runtime.handleWsMessage message).written.drop runtime.written.length
  rw [shape, List.drop_left]
  exact member

theorem setup_unopposed (valid : PageTable runtime.pages) {wsId : String} {num : Nat}
    {page : PageInfo} (found : runtime.pages.lookup num = some page)
    (alone : ∀ other, page.HeldBy other → other = wsId) :
    runtime.sendForwardSocketSetup wsId num = runtime.openDevtools wsId num := by
  simp only [sendForwardSocketSetup, findPage_eq valid, found, Option.bind_some]
  cases held : page.wsClientId with
  | none => rfl
  | some other =>
      have own : other = wsId := alone other (.inr held)
      simp only [own, ne_eq, not_true_eq_false, if_false]

theorem empty_leaves_iff (valid : Paged runtime) {message : WsToWiMessage}
    (live : message.isClose = false) (empty : message.data = []) :
    LeavesSessions message runtime ↔ Harmless message runtime := by
  have handled : runtime.handleWsMessage message =
      runtime.sendForwardSocketSetup message.wsId message.pageNum := by
    simp [handleWsMessage, live, empty]
  cases found : runtime.pages.lookup message.pageNum with
  | none =>
      have same : runtime.handleWsMessage message = runtime := by
        rw [handled]
        simp [sendForwardSocketSetup, findPage_eq valid.table, found,
          openDevtools_absent valid.table found]
      refine iff_of_true ⟨?_, ?_⟩ fun _ page stored => ?_
      · intro command member
        simp [sentBy, handle, same] at member
      · intro num page other stored held _
        exact ⟨page, by rw [same, stored], held⟩
      · rw [found] at stored
        cases stored
  | some page =>
      constructor
      · rintro leaves - known stored
        rw [found] at stored
        cases stored
        have alone : ∀ other, page.HeldBy other → other = message.wsId := by
          intro other held
          by_contra apart
          obtain ⟨later, after, still⟩ := leaves.others _ page other found held apart
          obtain ⟨before, taken⟩ := sendForwardSocketSetup_holds valid message.wsId found
          rw [handled, taken] at after
          cases after
          rcases still with sender | client
          · exact apart (Option.some.inj sender).symm
          · exact apart (Option.some.inj client).symm
        refine ⟨?_, alone⟩
        rw [← Bool.not_eq_true]
        intro ready
        have opened := leaves.setupsOf
        rw [handled, setup_unopposed valid.table found alone,
          openDevtools_setupsOf valid.table found ready] at opened
        exact absurd opened (Nat.succ_ne_self _)
      · intro harmless
        obtain ⟨closed, alone⟩ := harmless empty page found
        have reached : runtime.handleWsMessage message = { runtime with
            pages := runtime.pages.modify message.pageNum (PageInfo.hold message.wsId) } := by
          rw [handled, setup_unopposed valid.table found alone,
            openDevtools_found valid.table found]
          exact send_eq_self _ closed
        refine ⟨?_, ?_⟩
        · intro command member
          have sent : runtime.sentBy (.wsMessage message) =
              runtime.written.drop runtime.written.length :=
            congrArg (fun after => after.written.drop runtime.written.length) reached
          rw [sent, List.drop_length] at member
          cases member
        · intro num known other stored held apart
          have elsewhere : num ≠ message.pageNum := by
            rintro rfl
            rw [found] at stored
            cases stored
            exact apart (alone other held)
          refine ⟨known, ?_, held⟩
          rw [reached, Table.lookup_modify, if_neg elsewhere, stored]

theorem frame_leaves_iff (valid : Paged runtime) {message : WsToWiMessage}
    (live : message.isClose = false) :
    LeavesSessions message runtime ↔ Harmless message runtime := by
  by_cases empty : message.data = []
  · exact empty_leaves_iff valid live empty
  · refine iff_of_true ⟨?_, ?_⟩ fun nothing => absurd nothing empty
    · intro command member
      rw [sentBy_data valid.table live empty] at member
      split at member
      · split at member
        · cases List.mem_singleton.mp member
          rintro ⟨_, _, setup⟩
          cases setup
        · cases member
      · cases member
    · intro num page other stored held _
      have same : (runtime.handleWsMessage message).pages = runtime.pages := by
        simp [handleWsMessage, live, empty, forwardData_pages]
      exact ⟨page, by rw [same, stored], held⟩

end DeviceRuntime

end IosWebkitDebugProxy
