import IosWebkitDebugProxy.ProxySetups
import IosWebkitDebugProxy.TasksMessages

/-! The one session that a connection opens. The message that opens it has no data,
and neither has an empty frame, so the core takes the one for the other. -/

namespace IosWebkitDebugProxy

open Transition

namespace DeviceTasks

variable {tasks after start : DeviceTasks}

/-- After so much of a run the core takes up a message of the client that is neither
the first one nor its close: a frame that the client sent. -/
structure TakesFrame (start : DeviceTasks) (before : List TaskAction) (wsId : String)
    (message : WsToWiMessage) : Prop where
  idle : (run step start before).main = .select
  head : ∃ messages, (run step start before).messages.recv = some (message, messages)
  own : message.wsId = wsId
  live : message.isClose = false
  later : collected step (takenMessages wsId) start before ≠ []

/-- At most one session is opened for the client, no frame opens one, and no frame
takes a page from another client. -/
structure SetUpOnce (start : DeviceTasks) (actions : List TaskAction) (wsId : String) : Prop where
  once : (run step start actions).runtime.setupsOf wsId ≤ 1
  frames : ∀ before after message, actions = before ++ .takeMessage :: after →
    TakesFrame start before wsId message →
      DeviceRuntime.LeavesSessions message (run step start before).runtime

/-- Every empty frame of the client finds its page gone, or without another holder
while nothing can be sent. -/
def EmptyFramesHarmless (start : DeviceTasks) (actions : List TaskAction) (wsId : String) : Prop :=
  ∀ before after message, actions = before ++ .takeMessage :: after →
    TakesFrame start before wsId message →
      DeviceRuntime.Harmless message (run step start before).runtime

theorem takenMessages_step {wsId : String} {message : WsToWiMessage}
    {messages : Pipeline WsToWiMessage 64 256} {before : List TaskAction}
    (idle : (run step start before).main = .select)
    (received : (run step start before).messages.recv = some (message, messages))
    (own : message.wsId = wsId) :
    collected step (takenMessages wsId) start (before ++ [.takeMessage]) =
      collected step (takenMessages wsId) start before ++ [message] := by
  rw [collected_concat, takenMessages_eq idle received, if_pos own]

theorem clientMessages_frame {wsId : String} {action : TaskAction} {message : WsToWiMessage}
    (member : message ∈ tasks.clientMessages wsId action) (live : message.isClose = false) :
    action = .frame wsId message.data := by
  cases action with
  | frame mover data =>
      simp only [clientMessages] at member
      split at member
      · rename_i both
        obtain ⟨_, _, rfl⟩ := List.mem_map.mp member
        rw [both.1]
      · cases member
  | closeFrame mover =>
      simp only [clientMessages] at member
      split at member
      · obtain ⟨_, _, rfl⟩ := List.mem_map.mp member
        cases live
      · cases member
  | _ => cases member

theorem takesFrame_sent {runtime : DeviceRuntime} {before : List TaskAction} {wsId : String}
    {message : WsToWiMessage} (takes : TakesFrame (.start runtime) before wsId message) :
    .frame wsId message.data ∈ before := by
  obtain ⟨messages, received⟩ := takes.head
  have order := run_messages wsId runtime (before ++ [.takeMessage])
  have quiet : clientMessages wsId (run step (.start runtime) before) .takeMessage = [] := rfl
  rw [takenMessages_step takes.idle received takes.own, collected_sentMessages, collected_concat,
    quiet, List.append_nil] at order
  have member : message ∈ collected step (clientMessages wsId) (.start runtime) before := by
    cases taken : collected step (takenMessages wsId) (.start runtime) before with
    | nil => exact absurd taken takes.later
    | cons first rest =>
        rw [taken] at order
        unfold openingOf at order
        cases opened : pageOf wsId (run step (.start runtime) (before ++ [.takeMessage])) with
        | none =>
            rw [opened] at order
            have sent : first :: rest ++ [message] ++ _ =
                collected step (clientMessages wsId) (.start runtime) before := order
            rw [← sent]
            simp
        | some pageNum =>
            rw [opened] at order
            have sent : rest ++ [message] ++ _ =
                collected step (clientMessages wsId) (.start runtime) before :=
              (List.cons.inj order).2
            rw [← sent]
            simp
  obtain ⟨earlier, action, later, rfl, given⟩ := mem_collected member
  rw [clientMessages_frame given takes.live]
  exact List.mem_append_right _ List.mem_cons_self

theorem handOver_setupsOf {destId : String} {data : List UInt8}
    (given : tasks.handOver destId data = some after) (wsId : String) :
    after.runtime.setupsOf wsId = tasks.runtime.setupsOf wsId := by
  rcases handOver_runtime given with same | handled
  · rw [same]
  · rw [handled, DeviceRuntime.handleRpcMessage_setupsOf]

theorem taskStep_setupsOf {action : TaskAction} (moved : TaskStep tasks action after)
    (wsId : String) :
    after.runtime.setupsOf wsId = tasks.runtime.setupsOf wsId ∨
      ∃ message messages, action = .takeMessage ∧ tasks.main = .select ∧
        tasks.messages.recv = some (message, messages) ∧ message.wsId = wsId ∧
        message.isClose = false ∧
        after.runtime = tasks.runtime.handleWsMessage message := by
  cases moved with
  | @takeMessage message messages idle received =>
      by_cases other : message.wsId ≠ wsId ∨ message.isClose = true
      · exact .inl (DeviceRuntime.handleWsMessage_setupsOf other tasks.runtime)
      · obtain ⟨own, live⟩ := not_or.mp other
        exact .inr ⟨message, messages, rfl, idle, received, not_not.mp own,
          (Bool.not_eq_true _).mp live, rfl⟩
  | handleRpc _ _ _ => exact .inl (DeviceRuntime.handleRpcMessage_setupsOf wsId _ tasks.runtime)
  | grantWrite _ _ => exact .inl (DeviceRuntime.handleRpcMessage_setupsOf wsId _ tasks.runtime)
  | handOver _ given => exact .inl (handOver_setupsOf given wsId)
  | deliver _ given => exact .inl (handOver_setupsOf given wsId)
  | _ => exact .inl rfl

/-- The first message of the client opens its session, and its frames open none. -/
theorem run_setupsOf {wsId : String} (none : start.runtime.setupsOf wsId = 0)
    {actions : List TaskAction}
    (frames : ∀ before after message, actions = before ++ .takeMessage :: after →
      TakesFrame start before wsId message →
        DeviceRuntime.LeavesSessions message (run step start before).runtime) :
    (run step start actions).runtime.setupsOf wsId ≤ 1 ∧
      (collected step (takenMessages wsId) start actions = [] →
        (run step start actions).runtime.setupsOf wsId = 0) := by
  induction actions using List.reverseRecOn with
  | nil => exact ⟨none.le.trans (Nat.zero_le 1), fun _ => none⟩
  | append_singleton actions action ih =>
      obtain ⟨few, first⟩ := ih fun before after message split =>
        frames before (after ++ [action]) message (by rw [split]; simp)
      have keeps (same : (run step start (actions ++ [action])).runtime.setupsOf wsId =
          (run step start actions).runtime.setupsOf wsId) :
          (run step start (actions ++ [action])).runtime.setupsOf wsId ≤ 1 ∧
            (collected step (takenMessages wsId) start (actions ++ [action]) = [] →
              (run step start (actions ++ [action])).runtime.setupsOf wsId = 0) := by
        rw [same, collected_concat]
        exact ⟨few, fun nothing => first (List.append_eq_nil_iff.mp nothing).1⟩
      rcases step_cases (run step start actions) action with stays | moved
      · exact keeps (by rw [run_concat, stays])
      · rcases taskStep_setupsOf moved wsId with same |
          ⟨message, messages, rfl, idle, received, own, live, handled⟩
        · exact keeps (by rw [run_concat, same])
        · by_cases opening : collected step (takenMessages wsId) start actions = []
          · refine ⟨?_, fun nothing => ?_⟩
            · rw [run_concat, handled]
              have more := DeviceRuntime.handleWsMessage_setupsOf_le wsId message
                (run step start actions).runtime
              rwa [first opening] at more
            · rw [takenMessages_step idle received own] at nothing
              simp at nothing
          · have leaves := frames actions [] message rfl
              ⟨idle, ⟨messages, received⟩, own, live, opening⟩
            have same := leaves.setupsOf
            rw [own, ← handled] at same
            exact keeps (by rw [run_concat, same])

theorem setUpOnce_iff (addressed : start.Addressed) {wsId : String}
    (none : start.runtime.setupsOf wsId = 0) (actions : List TaskAction) :
    SetUpOnce start actions wsId ↔ EmptyFramesHarmless start actions wsId := by
  have valid (before : List TaskAction) : DeviceRuntime.Paged (run step start before).runtime :=
    (run_invariant Addressed addressed (fun _ action kept => step_addressed kept action)
      before).paged
  constructor
  · intro once before after message split takes
    exact (DeviceRuntime.frame_leaves_iff (valid before) takes.live).mp
      (once.frames before after message split takes)
  · intro harmless
    have frames : ∀ before after message, actions = before ++ .takeMessage :: after →
        TakesFrame start before wsId message →
          DeviceRuntime.LeavesSessions message (run step start before).runtime :=
      fun before after message split takes =>
        (DeviceRuntime.frame_leaves_iff (valid before) takes.live).mpr
          (harmless before after message split takes)
    exact ⟨(run_setupsOf none frames).1, frames⟩

theorem newRuntime_setupsOf (bridge : ProxyBridge) (environment : ConnectEnvironment)
    (deviceId : String) (port : Nat) (connection : DeviceConnection) (codec : WebInspectorCodec)
    (wsId : String) :
    (bridge.newRuntime environment deviceId port connection codec).setupsOf wsId = 0 := by
  have identifies (runtime : DeviceRuntime) :
      (runtime.send .reportIdentifier).setupsOf wsId = runtime.setupsOf wsId := by
    refine (DeviceRuntime.sends_send ?_ runtime).setupsOf
    rintro ⟨_, _, setup⟩
    cases setup
  exact identifies _

/-- In whatever order all tasks move, a client gets one session at most, which its
frames neither open again nor get at the cost of another client, just where no
empty frame is taken that could do so. -/
theorem run_setUpOnce_iff (bridge : ProxyBridge) (environment : ConnectEnvironment)
    (deviceId : String) (port : Nat) (connection : DeviceConnection) (codec : WebInspectorCodec)
    (actions : List TaskAction) (wsId : String) :
    SetUpOnce (DeviceTasks.start
        (bridge.newRuntime environment deviceId port connection codec)) actions wsId ↔
      EmptyFramesHarmless (DeviceTasks.start
        (bridge.newRuntime environment deviceId port connection codec)) actions wsId :=
  setUpOnce_iff (start_addressed bridge environment deviceId port connection codec)
    (newRuntime_setupsOf bridge environment deviceId port connection codec wsId) actions

def emptyFrame : List TaskAction :=
  openedEarly ++ [.frame "A" [], .acquire "A", .put "A", .forwardMessage, .forwardMessage]

theorem empty_frame_sets_up_again :
    ¬SetUpOnce (DeviceTasks.start phoneRuntime) (emptyFrame ++ [.takeMessage]) "A" := by
  intro keeps
  have twice : (run step (DeviceTasks.start phoneRuntime)
      (emptyFrame ++ [.takeMessage])).runtime.setupsOf "A" = 2 := by decide
  have once := keeps.once
  rw [twice] at once
  exact absurd once (by decide)

end DeviceTasks

end IosWebkitDebugProxy
