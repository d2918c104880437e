import IosWebkitDebugProxy.Library.Transition
import IosWebkitDebugProxy.TasksCore

/-! Everything that one step of a task around a device can do. -/

namespace IosWebkitDebugProxy

namespace DeviceTasks

variable {tasks after : DeviceTasks}

theorem step_stuck {action : TaskAction} (stuck : tasks.next action = none) :
    tasks.step action = tasks := by
  rw [step, stuck]
  rfl

theorem step_moved {action : TaskAction} (moved : tasks.next action = some after) :
    tasks.step action = after := by
  rw [step, moved]
  rfl

inductive TaskStep (tasks : DeviceTasks) : TaskAction → DeviceTasks → Prop
  | upgrade {wsId pageNum} : tasks.writerWaits = false → wsId ∉ tasks.handlers →
      TaskStep tasks (.upgrade wsId pageNum) { tasks with
        handlers := tasks.handlers.insert wsId ⟨pageNum, .wants .registration, .empty⟩ }
  | acquire {wsId handler outgoing} : tasks.handlers.lookup wsId = some handler →
      handler.phase = .wants outgoing → tasks.writerWaits = false →
      TaskStep tasks (.acquire wsId) (tasks.setPhase wsId (.sending outgoing))
  | register {wsId handler registrations} : tasks.handlers.lookup wsId = some handler →
      handler.phase = .sending .registration →
      tasks.registrations.send ⟨handler.pageNum, wsId, ⟨wsId⟩⟩ = some registrations →
      TaskStep tasks (.put wsId) { tasks.setPhase wsId (.wants .setup) with registrations }
  | put {wsId handler data isClose messages} : tasks.handlers.lookup wsId = some handler →
      handler.phase = .sending (.message data isClose) →
      tasks.messages.send ⟨handler.pageNum, wsId, data, isClose⟩ = some messages →
      TaskStep tasks (.put wsId)
        { tasks.setPhase wsId (Outgoing.message data isClose).next with messages }
  | frame {wsId handler data} : tasks.handlers.lookup wsId = some handler →
      handler.phase = .bridging →
      TaskStep tasks (.frame wsId data) (tasks.setPhase wsId (.wants (.message data false)))
  | closeFrame {wsId handler} : tasks.handlers.lookup wsId = some handler →
      handler.phase = .bridging →
      TaskStep tasks (.closeFrame wsId) (tasks.setPhase wsId (.wants .close))
  | socketFailed {wsId handler} : tasks.handlers.lookup wsId = some handler →
      handler.phase = .bridging →
      TaskStep tasks (.socketFailed wsId) (tasks.setPhase wsId .ended)
  | receive {wsId handler data inbox} : tasks.handlers.lookup wsId = some handler →
      handler.phase = .bridging → handler.inbox.recv = some (data, inbox) →
      TaskStep tasks (.receive wsId) (tasks.setInbox wsId inbox)
  | forwardMessage {messages} : tasks.messages.forward = some messages →
      TaskStep tasks .forwardMessage { tasks with messages }
  | forwardRegistration {registrations} : tasks.registrations.forward = some registrations →
      TaskStep tasks .forwardRegistration { tasks with registrations }
  | takeMessage {message messages} : tasks.main = .select →
      tasks.messages.recv = some (message, messages) →
      TaskStep tasks .takeMessage
        { tasks with messages, runtime := tasks.runtime.handleWsMessage message }
  | takeRegistration {registration registrations} : tasks.main = .select →
      tasks.registrations.recv = some (registration, registrations) →
      TaskStep tasks .takeRegistration
        { tasks with registrations, runtime := tasks.runtime.handleWsRegistration registration }
  | startWrite {message} : tasks.main = .select → tasks.runtime.needsWrite message = true →
      TaskStep tasks (.takeRpc message) { tasks with main := .awaitWrite message }
  | handleRpc {message} : tasks.main = .select → tasks.runtime.needsWrite message = false →
      (∀ appId destId data, message ≠ .applicationSentData appId destId data) →
      TaskStep tasks (.takeRpc message)
        { tasks with runtime := tasks.runtime.handleRpcMessage message }
  | handOver {appId destId data after} : tasks.main = .select →
      tasks.handOver destId data = some after →
      TaskStep tasks (.takeRpc (.applicationSentData appId destId data)) after
  | awaitRoom {appId destId data} : tasks.main = .select → tasks.handOver destId data = none →
      TaskStep tasks (.takeRpc (.applicationSentData appId destId data))
        { tasks with main := .awaitRoom destId data }
  | grantWrite {message} : tasks.main = .awaitWrite message → tasks.readerHolds = false →
      TaskStep tasks .grantWrite
        { tasks with main := .select, runtime := tasks.runtime.handleRpcMessage message }
  | deliver {destId data after} : tasks.main = .awaitRoom destId data →
      { tasks with main := .select }.handOver destId data = some after →
      TaskStep tasks .deliver after

theorem acquire_taskStep {wsId : String} (moved : tasks.acquire wsId = some after) :
    TaskStep tasks (.acquire wsId) after := by
  simp only [acquire, Option.bind_eq_bind, Option.bind_eq_some_iff] at moved
  obtain ⟨handler, found, moved⟩ := moved
  split at moved
  · rename_i outgoing wanted
    split at moved
    · cases moved
    · rename_i free
      cases moved
      exact .acquire found wanted (by simpa using free)
  · cases moved

theorem put_taskStep {wsId : String} (moved : tasks.put wsId = some after) :
    TaskStep tasks (.put wsId) after := by
  simp only [put, Option.bind_eq_bind, Option.bind_eq_some_iff] at moved
  obtain ⟨handler, found, moved⟩ := moved
  split at moved
  · rename_i sending
    obtain ⟨registrations, sent, same⟩ := Option.bind_eq_some_iff.mp moved
    cases same
    exact .register found sending sent
  · rename_i data isClose sending
    obtain ⟨messages, sent, same⟩ := Option.bind_eq_some_iff.mp moved
    cases same
    exact .put found sending sent
  · cases moved

theorem socketEvent_cases {wsId : String} {phase : HandlerPhase}
    (moved : tasks.socketEvent wsId phase = some after) :
    ∃ handler, tasks.handlers.lookup wsId = some handler ∧ handler.phase = .bridging ∧
      after = tasks.setPhase wsId phase := by
  simp only [socketEvent, Option.bind_eq_bind, Option.bind_eq_some_iff] at moved
  obtain ⟨handler, found, moved⟩ := moved
  split at moved
  · rename_i bridging
    cases moved
    exact ⟨handler, found, bridging, rfl⟩
  · cases moved

theorem receive_taskStep {wsId : String} (moved : tasks.receive wsId = some after) :
    TaskStep tasks (.receive wsId) after := by
  simp only [receive, Option.bind_eq_bind, Option.bind_eq_some_iff] at moved
  obtain ⟨handler, found, moved⟩ := moved
  split at moved
  · rename_i bridging
    obtain ⟨⟨data, inbox⟩, received, same⟩ := Option.map_eq_some_iff.mp moved
    cases same
    exact .receive found bridging received
  · cases moved

theorem takeRpc_taskStep (message : RpcMessage) (idle : tasks.main = .select) :
    TaskStep tasks (.takeRpc message) (tasks.takeRpc message) := by
  unfold takeRpc
  split
  · rename_i writes
    exact .startWrite idle writes
  · rename_i reads
    rw [Bool.not_eq_true] at reads
    split
    · rename_i appId destId data
      cases given : tasks.handOver destId data with
      | none => exact .awaitRoom idle given
      | some after => exact .handOver idle given
    · rename_i other
      exact .handleRpc idle reads other

theorem next_taskStep {action : TaskAction} (moved : tasks.next action = some after) :
    TaskStep tasks action after := by
  cases action with
  | upgrade wsId pageNum =>
      simp only [next, DeviceTasks.upgrade] at moved
      split at moved
      · rename_i allowed
        simp only [Bool.and_eq_true, Bool.not_eq_true', decide_eq_true_eq] at allowed
        cases moved
        exact .upgrade allowed.1.1 allowed.1.2
      · cases moved
  | acquire wsId => exact acquire_taskStep moved
  | put wsId => exact put_taskStep moved
  | frame wsId data =>
      obtain ⟨handler, found, bridging, rfl⟩ := socketEvent_cases moved
      exact .frame found bridging
  | closeFrame wsId =>
      obtain ⟨handler, found, bridging, rfl⟩ := socketEvent_cases moved
      exact .closeFrame found bridging
  | socketFailed wsId =>
      obtain ⟨handler, found, bridging, rfl⟩ := socketEvent_cases moved
      exact .socketFailed found bridging
  | receive wsId => exact receive_taskStep moved
  | forwardMessage =>
      obtain ⟨messages, forwarded, rfl⟩ := Option.map_eq_some_iff.mp moved
      exact .forwardMessage forwarded
  | forwardRegistration =>
      obtain ⟨registrations, forwarded, rfl⟩ := Option.map_eq_some_iff.mp moved
      exact .forwardRegistration forwarded
  | takeMessage =>
      simp only [next] at moved
      split at moved
      · rename_i idle
        obtain ⟨⟨message, messages⟩, received, rfl⟩ := Option.map_eq_some_iff.mp moved
        exact .takeMessage idle received
      · cases moved
  | takeRegistration =>
      simp only [next] at moved
      split at moved
      · rename_i idle
        obtain ⟨⟨registration, registrations⟩, received, rfl⟩ := Option.map_eq_some_iff.mp moved
        exact .takeRegistration idle received
      · cases moved
  | takeRpc message =>
      simp only [next] at moved
      split at moved
      · rename_i idle
        cases moved
        exact takeRpc_taskStep message idle
      · cases moved
  | grantWrite =>
      simp only [next] at moved
      split at moved
      · rename_i message waiting
        split at moved
        · cases moved
        · rename_i free
          cases moved
          exact .grantWrite waiting (by simpa using free)
      · cases moved
  | deliver =>
      simp only [next] at moved
      split at moved
      · rename_i destId data waiting
        exact .deliver waiting moved
      · cases moved

theorem handOver_cases {destId : String} {data : List UInt8}
    (given : tasks.handOver destId data = some after) :
    after = tasks ∨ ∃ tx handler inbox, tasks.runtime.wsClientTxs.lookup destId = some tx ∧
      tasks.handlers.lookup tx.owner = some handler ∧ handler.phase ≠ .ended ∧
      handler.inbox.send data = some inbox ∧
      after = { tasks.setInbox tx.owner inbox with
        runtime := tasks.runtime.handleAppData destId data } := by
  unfold handOver at given
  split at given
  · cases given
    exact .inl rfl
  · rename_i tx registered
    split at given
    · cases given
      exact .inl rfl
    · rename_i handler found
      split at given
      · cases given
        exact .inl rfl
      · rename_i alive
        obtain ⟨inbox, sent, same⟩ := Option.map_eq_some_iff.mp given
        exact .inr ⟨tx, handler, inbox, registered, found, alive, sent, same.symm⟩

theorem handOver_main {destId : String} {data : List UInt8}
    (given : tasks.handOver destId data = some after) : after.main = tasks.main := by
  rcases handOver_cases given with rfl | ⟨_, _, _, _, _, _, _, rfl⟩ <;> rfl

theorem taskStep_main {action : TaskAction} (moved : TaskStep tasks action after) :
    after.main = tasks.main ∨ after.main = .select ∨
      (∃ message, action = .takeRpc message ∧ tasks.main = .select ∧
        tasks.runtime.needsWrite message = true ∧
        after = { tasks with main := .awaitWrite message }) ∨
      ∃ appId destId data, action = .takeRpc (.applicationSentData appId destId data) ∧
        tasks.main = .select ∧ tasks.handOver destId data = none ∧
        after = { tasks with main := .awaitRoom destId data } := by
  cases moved with
  | startWrite idle writes => exact .inr (.inr (.inl ⟨_, rfl, idle, writes, rfl⟩))
  | awaitRoom idle full => exact .inr (.inr (.inr ⟨_, _, _, rfl, idle, full, rfl⟩))
  | handOver idle given => exact .inl (handOver_main given)
  | deliver _ given => exact .inr (.inl (handOver_main given))
  | grantWrite _ _ => exact .inr (.inl rfl)
  | _ => exact .inl rfl

theorem taskStep_busy {action : TaskAction} (moved : TaskStep tasks action after)
    (busy : tasks.main ≠ .select) (still : after.main ≠ .select) :
    after.main = tasks.main ∧ after.runtime = tasks.runtime := by
  cases moved with
  | takeMessage idle _ => exact absurd idle busy
  | takeRegistration idle _ => exact absurd idle busy
  | startWrite idle _ => exact absurd idle busy
  | handleRpc idle _ _ => exact absurd idle busy
  | handOver idle _ => exact absurd idle busy
  | awaitRoom idle _ => exact absurd idle busy
  | grantWrite _ _ => exact absurd rfl still
  | deliver _ given => exact absurd (handOver_main given) still
  | _ => exact ⟨rfl, rfl⟩

end DeviceTasks

end IosWebkitDebugProxy
