import IosWebkitDebugProxy.ProxyClients
import IosWebkitDebugProxy.TasksSteps

/-! Registration of a client against the opening of its session. The two go to
the core through queues of their own, so the session can be open while the
registration is still on its way, and a reply then finds nobody to go to. -/

namespace IosWebkitDebugProxy

open Transition

/-- How far a client has come: its registration may be under way, or its
handler serves it, or has ended. -/
inductive Stage where
  | entering
  | served
  | ended
  deriving DecidableEq, Repr

def HandlerPhase.stage : HandlerPhase → Stage
  | wants .registration => .entering
  | sending .registration => .entering
  | ended => .ended
  | _ => .served

structure Unknown (wsId : String) (messages : List WsToWiMessage)
    (registrations : List WiToWsRegistration) (runtime : DeviceRuntime) : Prop where
  silent : ∀ message ∈ messages, message.wsId ≠ wsId
  unannounced : ∀ registration ∈ registrations, registration.wsId ≠ wsId
  unregistered : runtime.wsClientTxs.lookup wsId = none
  closed : ∀ command ∈ runtime.written, ¬DeviceRuntime.IsSetup wsId command

/-- The client has registered once, and its registration has either been
handled or is still on its way. -/
structure Registered (wsId : String) (messages : List WsToWiMessage)
    (registrations : List WiToWsRegistration) (runtime : DeviceRuntime) : Prop where
  stays : ∀ message ∈ messages, message.wsId = wsId → message.isClose = false
  registration : (registrations.filter (fun registration => registration.wsId == wsId) = [] ∧
      runtime.wsClientTxs.lookup wsId = some ⟨wsId⟩) ∨
    (∃ pageNum, registrations.filter (fun registration => registration.wsId == wsId) =
      [⟨pageNum, wsId, ⟨wsId⟩⟩]) ∧ runtime.wsClientTxs.lookup wsId = none

def Tracked (wsId : String) (messages : List WsToWiMessage)
    (registrations : List WiToWsRegistration) (runtime : DeviceRuntime) : Stage → Prop
  | .entering => Unknown wsId messages registrations runtime
  | .served => Registered wsId messages registrations runtime
  | .ended => True

namespace Tracked

variable {wsId : String} {messages : List WsToWiMessage}
variable {registrations : List WiToWsRegistration} {runtime : DeviceRuntime} {stage : Stage}

theorem putMessage (tracked : Tracked wsId messages registrations runtime stage)
    {message : WsToWiMessage} (other : message.wsId ≠ wsId) :
    Tracked wsId (messages ++ [message]) registrations runtime stage := by
  cases stage with
  | entering =>
      refine { tracked with silent := ?_ }
      rw [List.forall_mem_append, List.forall_mem_singleton]
      exact ⟨tracked.silent, other⟩
  | served =>
      refine { tracked with stays := ?_ }
      rw [List.forall_mem_append, List.forall_mem_singleton]
      exact ⟨tracked.stays, fun own => absurd own other⟩
  | ended => trivial

theorem putOwnMessage (tracked : Tracked wsId messages registrations runtime .served)
    (pageNum : Nat) (data : List UInt8) (isClose : Bool) :
    Tracked wsId (messages ++ [⟨pageNum, wsId, data, isClose⟩]) registrations runtime
      (Outgoing.message data isClose).next.stage := by
  cases isClose with
  | true => trivial
  | false =>
      refine { tracked with stays := ?_ }
      rw [List.forall_mem_append, List.forall_mem_singleton]
      exact ⟨tracked.stays, fun _ => rfl⟩

theorem putRegistration (tracked : Tracked wsId messages registrations runtime stage)
    {registration : WiToWsRegistration} (other : registration.wsId ≠ wsId) :
    Tracked wsId messages (registrations ++ [registration]) runtime stage := by
  cases stage with
  | entering =>
      refine { tracked with unannounced := ?_ }
      rw [List.forall_mem_append, List.forall_mem_singleton]
      exact ⟨tracked.unannounced, other⟩
  | served =>
      refine { tracked with registration := ?_ }
      simpa [other] using tracked.registration
  | ended => trivial

theorem register (tracked : Tracked wsId messages registrations runtime .entering)
    (pageNum : Nat) :
    Tracked wsId messages (registrations ++ [⟨pageNum, wsId, ⟨wsId⟩⟩]) runtime .served := by
  refine ⟨?_, .inr ⟨⟨pageNum, ?_⟩, tracked.unregistered⟩⟩
  · intro message member own
    exact absurd own (tracked.silent message member)
  · simpa using tracked.unannounced

theorem handleWsMessage {message : WsToWiMessage}
    (tracked : Tracked wsId (message :: messages) registrations runtime stage) :
    Tracked wsId messages registrations (runtime.handleWsMessage message) stage := by
  have lookup (still : message.wsId = wsId → message.isClose = false) :
      (runtime.handleWsMessage message).wsClientTxs.lookup wsId =
        runtime.wsClientTxs.lookup wsId := by
    rw [DeviceRuntime.handleWsMessage_wsClientTxs]
    split
    · rename_i close
      have other : wsId ≠ message.wsId := by
        intro own
        rw [still own.symm] at close
        cases close
      exact AList.lookup_erase_ne other
    · rfl
  cases stage with
  | entering =>
      have other : message.wsId ≠ wsId := tracked.silent message List.mem_cons_self
      refine ⟨?_, tracked.unannounced, ?_, ?_⟩
      · intro later member
        exact tracked.silent later (List.mem_cons_of_mem message member)
      · rw [lookup fun own => absurd own other]
        exact tracked.unregistered
      · obtain ⟨added, shape, opens⟩ := runtime.handleWsMessage_sends message
        rw [shape]
        intro command member setup
        rcases List.mem_append.mp member with earlier | new
        · exact tracked.closed command earlier setup
        · exact other (opens command new wsId setup).symm
  | served =>
      refine ⟨?_, ?_⟩
      · intro later member
        exact tracked.stays later (List.mem_cons_of_mem message member)
      · rw [lookup (tracked.stays message List.mem_cons_self)]
        exact tracked.registration
  | ended => trivial

theorem handleWsRegistration {registration : WiToWsRegistration}
    (tracked : Tracked wsId messages (registration :: registrations) runtime stage) :
    Tracked wsId messages registrations (runtime.handleWsRegistration registration) stage := by
  cases stage with
  | entering =>
      have other : registration.wsId ≠ wsId := tracked.unannounced registration List.mem_cons_self
      refine ⟨tracked.silent, ?_, ?_, tracked.closed⟩
      · intro later member
        exact tracked.unannounced later (List.mem_cons_of_mem registration member)
      · simpa [DeviceRuntime.handleWsRegistration, other.symm] using tracked.unregistered
  | served =>
      refine ⟨tracked.stays, ?_⟩
      by_cases own : registration.wsId = wsId
      · rcases tracked.registration with ⟨handled, _⟩ | ⟨⟨pageNum, pending⟩, _⟩
        · simp [own] at handled
        · simp only [own, beq_self_eq_true, List.filter_cons_of_pos, List.cons.injEq] at pending
          obtain ⟨rfl, rest⟩ := pending
          exact .inl ⟨rest, by simp [DeviceRuntime.handleWsRegistration]⟩
      · have apart : wsId ≠ registration.wsId := fun same => own same.symm
        simpa [DeviceRuntime.handleWsRegistration, own, apart] using tracked.registration
  | ended => trivial

theorem leavesClients (tracked : Tracked wsId messages registrations runtime stage)
    {later : DeviceRuntime} (leaves : runtime.LeavesClients later) :
    Tracked wsId messages registrations later stage := by
  cases stage with
  | entering =>
      refine ⟨tracked.silent, tracked.unannounced, ?_, ?_⟩
      · rw [leaves.registered]
        exact tracked.unregistered
      · obtain ⟨added, shape, quiet⟩ := leaves.sent
        rw [shape]
        intro command member setup
        rcases List.mem_append.mp member with earlier | new
        · exact tracked.closed command earlier setup
        · exact quiet command new wsId setup
  | served =>
      refine ⟨tracked.stays, ?_⟩
      rw [leaves.registered]
      exact tracked.registration
  | ended => trivial

end Tracked

namespace DeviceTasks

variable {tasks after : DeviceTasks}

def stage (wsId : String) (tasks : DeviceTasks) : Stage :=
  match tasks.handlers.lookup wsId with
  | none => .entering
  | some handler => handler.phase.stage

theorem stage_eq {wsId : String} {handler : WsHandler}
    (found : tasks.handlers.lookup wsId = some handler) :
    tasks.stage wsId = handler.phase.stage := by
  simp only [stage, found]

theorem stage_setPhase {mover : String} {handler : WsHandler}
    (found : tasks.handlers.lookup mover = some handler) (phase : HandlerPhase) (wsId : String) :
    (tasks.setPhase mover phase).stage wsId =
      if wsId = mover then phase.stage else tasks.stage wsId := by
  by_cases own : wsId = mover
  · subst own
    simp [stage, setPhase, found]
  · simp [stage, setPhase, own]

theorem stage_setInbox (mover : String) (inbox : Channel (List UInt8) 64) (wsId : String) :
    (tasks.setInbox mover inbox).stage wsId = tasks.stage wsId := by
  by_cases own : wsId = mover
  · subst own
    cases found : tasks.handlers.lookup wsId <;> simp [stage, setInbox, found]
  · simp [stage, setInbox, own]

theorem stage_upgrade {mover : String} (fresh : mover ∉ tasks.handlers) (pageNum : Nat)
    (wsId : String) :
    stage wsId { tasks with
      handlers := tasks.handlers.insert mover ⟨pageNum, .wants .registration, .empty⟩ } =
        tasks.stage wsId := by
  by_cases own : wsId = mover
  · subst own
    simp [stage, AList.lookup_eq_none.mpr fresh, HandlerPhase.stage]
  · simp [stage, own]

structure Orderly (tasks : DeviceTasks) : Prop where
  clients : ∀ wsId, Tracked wsId tasks.messages.contents tasks.registrations.contents
    tasks.runtime (tasks.stage wsId)
  awaited : ∀ destId data, tasks.main = .awaitRoom destId data →
    ∃ tx, tasks.runtime.wsClientTxs.lookup destId = some tx

theorem handleAppData_leavesClients (destId : String) (data : List UInt8)
    (runtime : DeviceRuntime) : runtime.LeavesClients (runtime.handleAppData destId data) :=
  DeviceRuntime.handleRpcMessage_leavesClients (.applicationSentData "" destId data) runtime

theorem handOver_tracked {destId : String} {data : List UInt8}
    (given : tasks.handOver destId data = some after) {wsId : String}
    (tracked : Tracked wsId tasks.messages.contents tasks.registrations.contents tasks.runtime
      (tasks.stage wsId)) :
    Tracked wsId after.messages.contents after.registrations.contents after.runtime
      (after.stage wsId) := by
  rcases handOver_cases given with rfl | ⟨tx, _, inbox, _, _, _, _, rfl⟩
  · exact tracked
  · rw [← stage_setInbox tx.owner inbox wsId] at tracked
    exact tracked.leavesClients (handleAppData_leavesClients destId data tasks.runtime)

theorem taskStep_tracked {action : TaskAction} (moved : TaskStep tasks action after)
    {wsId : String} (tracked : Tracked wsId tasks.messages.contents tasks.registrations.contents
      tasks.runtime (tasks.stage wsId)) :
    Tracked wsId after.messages.contents after.registrations.contents after.runtime
      (after.stage wsId) := by
  have goesOn {mover : String} {handler : WsHandler} {phase : HandlerPhase}
      (found : tasks.handlers.lookup mover = some handler)
      (same : phase.stage = handler.phase.stage ∨ phase.stage = .ended) :
      Tracked wsId tasks.messages.contents tasks.registrations.contents tasks.runtime
        ((tasks.setPhase mover phase).stage wsId) := by
    rw [stage_setPhase found]
    split
    · rename_i own
      subst own
      rcases same with same | finished
      · rw [same, ← stage_eq found]
        exact tracked
      · rw [finished]
        trivial
    · exact tracked
  cases moved with
  | @upgrade mover pageNum _ fresh =>
      rw [stage_upgrade fresh pageNum wsId]
      exact tracked
  | @acquire mover handler outgoing found wanted _ =>
      refine goesOn found (.inl ?_)
      rw [wanted]
      cases outgoing <;> rfl
  | @register mover handler registrations found sending sent =>
      change Tracked wsId tasks.messages.contents registrations.contents tasks.runtime
        ((tasks.setPhase mover (.wants .setup)).stage wsId)
      rw [(Pipeline.send_contents sent).1, stage_setPhase found]
      by_cases own : wsId = mover
      · subst own
        rw [stage_eq found, sending] at tracked
        rw [if_pos rfl]
        exact tracked.register handler.pageNum
      · rw [if_neg own]
        exact tracked.putRegistration fun same => own same.symm
  | @put mover handler data isClose messages found sending sent =>
      change Tracked wsId messages.contents tasks.registrations.contents tasks.runtime
        ((tasks.setPhase mover (Outgoing.message data isClose).next).stage wsId)
      rw [(Pipeline.send_contents sent).1, stage_setPhase found]
      by_cases own : wsId = mover
      · subst own
        rw [stage_eq found, sending] at tracked
        rw [if_pos rfl]
        exact tracked.putOwnMessage handler.pageNum data isClose
      · rw [if_neg own]
        exact tracked.putMessage fun same => own same.symm
  | frame found bridging => exact goesOn found (.inl (by rw [bridging]; rfl))
  | closeFrame found bridging => exact goesOn found (.inl (by rw [bridging]; rfl))
  | socketFailed found _ => exact goesOn found (.inr rfl)
  | @receive mover _ _ inbox _ _ _ =>
      rw [stage_setInbox]
      exact tracked
  | @forwardMessage messages forwarded =>
      rw [← Pipeline.forward_contents forwarded] at tracked
      exact tracked
  | @forwardRegistration registrations forwarded =>
      rw [← Pipeline.forward_contents forwarded] at tracked
      exact tracked
  | takeMessage _ received =>
      rw [Pipeline.recv_contents received] at tracked
      exact tracked.handleWsMessage
  | takeRegistration _ received =>
      rw [Pipeline.recv_contents received] at tracked
      exact tracked.handleWsRegistration
  | startWrite _ _ => exact tracked
  | @handleRpc message _ _ _ =>
      exact tracked.leavesClients (tasks.runtime.handleRpcMessage_leavesClients message)
  | handOver _ given => exact handOver_tracked given tracked
  | awaitRoom _ _ => exact tracked
  | @grantWrite message _ _ =>
      exact tracked.leavesClients (tasks.runtime.handleRpcMessage_leavesClients message)
  | deliver _ given => exact handOver_tracked given tracked

theorem exists_tx_of_handOver {destId : String} {data : List UInt8}
    (full : tasks.handOver destId data = none) :
    ∃ tx, tasks.runtime.wsClientTxs.lookup destId = some tx := by
  unfold handOver at full
  split at full
  · cases full
  · rename_i tx registered
    exact ⟨tx, registered⟩

theorem step_orderly (orderly : tasks.Orderly) (action : TaskAction) :
    (tasks.step action).Orderly := by
  unfold step
  cases moved : tasks.next action with
  | none => exact orderly
  | some after =>
      have stepped := next_taskStep moved
      refine ⟨fun wsId => taskStep_tracked stepped (orderly.clients wsId), ?_⟩
      intro destId data waiting
      simp only [Option.getD_some] at waiting ⊢
      rcases taskStep_main stepped with same | idle | ⟨_, _, _, _, rfl⟩ |
        ⟨_, _, _, _, _, full, rfl⟩
      · rw [same] at waiting
        have busy : tasks.main ≠ .select := by
          rw [waiting]
          exact MainTask.noConfusion
        rw [(taskStep_busy stepped busy (by rw [same]; exact busy)).2]
        exact orderly.awaited destId data waiting
      · rw [idle] at waiting
        cases waiting
      · cases waiting
      · cases waiting
        have known := exists_tx_of_handOver full
        exact known

theorem start_orderly (bridge : ProxyBridge) (environment : ConnectEnvironment)
    (deviceId : String) (port : Nat) (connection : DeviceConnection) (codec : WebInspectorCodec) :
    (start (bridge.newRuntime environment deviceId port connection codec)).Orderly := by
  constructor
  · intro wsId
    refine ⟨by simp [start], by simp [start], by simp [start, ProxyBridge.newRuntime], ?_⟩
    have identifies (runtime : DeviceRuntime) : DeviceRuntime.Sends
        (fun command => ¬DeviceRuntime.IsSetup wsId command) runtime
        (runtime.send .reportIdentifier) := by
      apply DeviceRuntime.sends_send
      rintro ⟨_, _, setup⟩
      cases setup
    obtain ⟨added, shape, quiet⟩ := identifies _
    intro command member
    change command ∈ (DeviceRuntime.send _ _).written at member
    rw [shape, DeviceRuntime.written] at member
    exact quiet command (by simpa using member)
  · intro destId data waiting
    cases waiting

/-- From the opening of its session until its handler ends, a client is served. -/
structure Serves (tasks : DeviceTasks) (wsId : String) : Prop where
  opened : ∃ command ∈ tasks.runtime.written, DeviceRuntime.IsSetup wsId command
  running : ∃ handler, tasks.handlers.lookup wsId = some handler ∧ handler.phase ≠ .ended

/-- A reply is put into the queue of its client, or the main loop waits for room there. -/
def ReplyKept (wsId : String) (data : List UInt8) (before after : DeviceTasks) : Prop :=
  after.main = .awaitRoom wsId data ∨
    ∃ handler inbox, before.handlers.lookup wsId = some handler ∧
      after.handlers.lookup wsId = some { handler with inbox } ∧
      inbox.items = handler.inbox.items ++ [data]

/-- No reply to a client that is served is lost, neither where the core takes it
nor while it waits with it. -/
structure RepliesKept (tasks : DeviceTasks) (action : TaskAction) : Prop where
  taken : ∀ appId wsId data, tasks.Serves wsId → tasks.main = .select →
    action = .takeRpc (.applicationSentData appId wsId data) →
    ReplyKept wsId data tasks (tasks.step action)
  awaited : ∀ wsId data, tasks.Serves wsId → tasks.main = .awaitRoom wsId data →
    ReplyKept wsId data tasks (tasks.step action)

/-- When a reply to a client that is served is taken, the registration of the
client is no longer on its way. -/
def RegisteredInTime (tasks : DeviceTasks) (action : TaskAction) : Prop :=
  ∀ appId wsId data, tasks.Serves wsId → tasks.main = .select →
    action = .takeRpc (.applicationSentData appId wsId data) →
    ∀ registration ∈ tasks.registrations.contents, registration.wsId ≠ wsId

theorem Serves.registered {wsId : String} (serves : tasks.Serves wsId) (orderly : tasks.Orderly) :
    Registered wsId tasks.messages.contents tasks.registrations.contents tasks.runtime := by
  have tracked := orderly.clients wsId
  obtain ⟨handler, found, running⟩ := serves.running
  cases stage : tasks.stage wsId with
  | entering =>
      rw [stage] at tracked
      obtain ⟨command, sent, setup⟩ := serves.opened
      exact absurd setup (tracked.closed command sent)
  | served =>
      rw [stage] at tracked
      exact tracked
  | ended =>
      rw [stage_eq found] at stage
      unfold HandlerPhase.stage at stage
      split at stage
      · cases stage
      · cases stage
      · rename_i finished
        exact absurd finished running
      · cases stage

theorem handOver_registered {wsId : String} {data : List UInt8}
    (given : tasks.handOver wsId data = some after) {handler : WsHandler}
    (registered : tasks.runtime.wsClientTxs.lookup wsId = some ⟨wsId⟩)
    (found : tasks.handlers.lookup wsId = some handler) (running : handler.phase ≠ .ended) :
    ∃ inbox, after.handlers.lookup wsId = some { handler with inbox } ∧
      inbox.items = handler.inbox.items ++ [data] := by
  simp only [handOver, registered, found, running, if_false, Option.map_eq_some_iff] at given
  obtain ⟨inbox, sent, rfl⟩ := given
  exact ⟨inbox, by simp [setInbox, found], (Channel.send_items sent).1⟩

theorem handOver_unregistered {wsId : String} {data : List UInt8}
    (missing : tasks.runtime.wsClientTxs.lookup wsId = none) :
    tasks.handOver wsId data = some tasks := by
  simp only [handOver, missing]

theorem step_takeReply (idle : tasks.main = .select) (appId wsId : String) (data : List UInt8) :
    tasks.step (.takeRpc (.applicationSentData appId wsId data)) =
      (tasks.handOver wsId data).getD { tasks with main := .awaitRoom wsId data } := by
  simp [step, next, idle, takeRpc, DeviceRuntime.needsWrite]

theorem awaited_kept (orderly : tasks.Orderly) {wsId : String} {data : List UInt8}
    (serves : tasks.Serves wsId) (waiting : tasks.main = .awaitRoom wsId data)
    (action : TaskAction) : ReplyKept wsId data tasks (tasks.step action) := by
  unfold step
  cases moved : tasks.next action with
  | none => exact .inl waiting
  | some after =>
      simp only [Option.getD_some]
      by_cases still : after.main = tasks.main
      · exact .inl (still.trans waiting)
      · cases next_taskStep moved with
        | takeMessage idle _ => exact absurd (waiting.symm.trans idle) MainTask.noConfusion
        | takeRegistration idle _ => exact absurd (waiting.symm.trans idle) MainTask.noConfusion
        | startWrite idle _ => exact absurd (waiting.symm.trans idle) MainTask.noConfusion
        | handleRpc idle _ _ => exact absurd (waiting.symm.trans idle) MainTask.noConfusion
        | handOver idle _ => exact absurd (waiting.symm.trans idle) MainTask.noConfusion
        | awaitRoom idle _ => exact absurd (waiting.symm.trans idle) MainTask.noConfusion
        | grantWrite writing _ => exact absurd (waiting.symm.trans writing) MainTask.noConfusion
        | @deliver destId sent _ awaited given =>
            rw [waiting] at awaited
            cases awaited
            obtain ⟨tx, known⟩ := orderly.awaited wsId data waiting
            obtain ⟨handler, found, running⟩ := serves.running
            have registered : tasks.runtime.wsClientTxs.lookup wsId = some ⟨wsId⟩ := by
              rcases (serves.registered orderly).registration with ⟨_, registered⟩ | ⟨_, missing⟩
              · exact registered
              · rw [missing] at known
                cases known
            obtain ⟨inbox, later, put⟩ := handOver_registered given registered found running
            exact .inr ⟨handler, inbox, found, later, put⟩
        | _ => exact absurd rfl still

theorem repliesKept_iff (orderly : tasks.Orderly) (action : TaskAction) :
    tasks.RepliesKept action ↔ tasks.RegisteredInTime action := by
  constructor
  · rintro kept appId wsId data serves idle rfl registration member own
    have reply := kept.taken appId wsId data serves idle rfl
    have missing : tasks.runtime.wsClientTxs.lookup wsId = none := by
      rcases (serves.registered orderly).registration with ⟨handled, _⟩ | ⟨_, missing⟩
      · exact absurd (beq_iff_eq.mpr own) (List.filter_eq_nil_iff.mp handled registration member)
      · exact missing
    rw [step_takeReply idle, handOver_unregistered missing, Option.getD_some] at reply
    rcases reply with waiting | ⟨handler, inbox, found, later, put⟩
    · rw [idle] at waiting
      cases waiting
    · rw [found, Option.some.injEq] at later
      have same : handler.inbox = inbox := congrArg WsHandler.inbox later
      rw [same] at put
      simp at put
  · intro inTime
    refine ⟨?_, fun wsId data serves waiting => awaited_kept orderly serves waiting action⟩
    rintro appId wsId data serves idle rfl
    obtain ⟨handler, found, running⟩ := serves.running
    have registered : tasks.runtime.wsClientTxs.lookup wsId = some ⟨wsId⟩ := by
      rcases (serves.registered orderly).registration with ⟨_, registered⟩ | ⟨⟨_, pending⟩, _⟩
      · exact registered
      · have onItsWay := List.mem_of_mem_filter (pending ▸ List.mem_singleton_self _)
        exact absurd rfl (inTime appId wsId data serves idle rfl _ onItsWay)
    rw [step_takeReply idle]
    cases given : tasks.handOver wsId data with
    | none => exact .inl rfl
    | some after =>
        obtain ⟨inbox, later, put⟩ := handOver_registered given registered found running
        exact .inr ⟨handler, inbox, found, later, put⟩

/-- In every run from a new connection, no reply to a client that is served is
lost exactly when every client is registered before its first reply is taken. -/
theorem run_repliesKept_iff (bridge : ProxyBridge) (environment : ConnectEnvironment)
    (deviceId : String) (port : Nat) (connection : DeviceConnection) (codec : WebInspectorCodec)
    (actions : List TaskAction) :
    Throughout step (start (bridge.newRuntime environment deviceId port connection codec)) actions
        RepliesKept ↔
      Throughout step (start (bridge.newRuntime environment deviceId port connection codec))
        actions RegisteredInTime := by
  apply throughout_congr
  intro before action
  apply repliesKept_iff
  exact run_invariant Orderly
    (start_orderly bridge environment deviceId port connection codec)
    (fun _ action orderly => step_orderly orderly action) before

def openedEarly : List TaskAction :=
  [.takeRpc (.applicationSentListing "PID:1" [⟨1, .webPage, none, some "Start", none⟩]),
    .grantWrite, .upgrade "A" 1, .acquire "A", .put "A", .acquire "A", .put "A", .forwardMessage,
    .forwardMessage, .takeMessage]

/-- The first reply to a client that is not registered yet is dropped. -/
theorem first_reply_is_lost :
    ¬Throughout step (start phoneRuntime)
      (openedEarly ++ [.takeRpc (.applicationSentData "PID:1" "A" [123, 125])]) RepliesKept := by
  intro kept
  have opened : .forwardSocketSetup "PID:1" 1 "A" ∈
      (run step (start phoneRuntime) openedEarly).runtime.written := by decide
  have idle : (run step (start phoneRuntime) openedEarly).main = .select := by decide
  have phase : ((run step (start phoneRuntime) openedEarly).handlers.lookup "A").map
      WsHandler.phase = some .bridging := by decide
  have stillIdle : ((run step (start phoneRuntime) openedEarly).step
      (.takeRpc (.applicationSentData "PID:1" "A" [123, 125]))).main = .select := by decide
  have empty : (((run step (start phoneRuntime) openedEarly).step
      (.takeRpc (.applicationSentData "PID:1" "A" [123, 125]))).handlers.lookup "A").map
      (fun handler => handler.inbox.items) = some [] := by decide
  obtain ⟨handler, found, bridging⟩ := Option.map_eq_some_iff.mp phase
  have serves : (run step (start phoneRuntime) openedEarly).Serves "A" :=
    ⟨⟨_, opened, _, _, rfl⟩, handler, found, by simp [bridging]⟩
  rcases (kept openedEarly _ [] rfl).taken "PID:1" "A" [123, 125] serves idle rfl with
    waiting | ⟨before, inbox, _, later, put⟩
  · rw [stillIdle] at waiting
    cases waiting
  · rw [later] at empty
    simp [put] at empty

end DeviceTasks

end IosWebkitDebugProxy
