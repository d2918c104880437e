import IosWebkitDebugProxy.Library.History
import IosWebkitDebugProxy.TasksRegistration

/-! What one step of a task does to each part of the state on its own: to the
runtime, to the two queues and to a handler. Every message and registration
names the page of its handler, and only its own client. -/

namespace IosWebkitDebugProxy

open Transition

namespace DeviceTasks

variable {tasks after : DeviceTasks}

theorem step_cases (tasks : DeviceTasks) (action : TaskAction) :
    tasks.step action = tasks ∨ TaskStep tasks action (tasks.step action) := by
  cases moved : tasks.next action with
  | none => exact .inl (step_stuck moved)
  | some after =>
      rw [step_moved moved]
      exact .inr (next_taskStep moved)

theorem handOver_runtime {destId : String} {data : List UInt8}
    (given : tasks.handOver destId data = some after) :
    after.runtime = tasks.runtime ∨
      after.runtime = tasks.runtime.handleRpcMessage (.applicationSentData "" destId data) := by
  rcases handOver_cases given with rfl | ⟨_, _, _, _, _, _, _, rfl⟩
  · exact .inl rfl
  · exact .inr rfl

theorem taskStep_runtime {action : TaskAction} (moved : TaskStep tasks action after) :
    after.runtime = tasks.runtime ∨
      (∃ message, tasks.messages.contents = message :: after.messages.contents ∧
        after.runtime = tasks.runtime.handleWsMessage message) ∨
      (∃ registration, tasks.registrations.contents =
          registration :: after.registrations.contents ∧
        after.runtime = tasks.runtime.handleWsRegistration registration) ∨
      ∃ message, after.runtime = tasks.runtime.handleRpcMessage message := by
  cases moved with
  | takeMessage _ received => exact .inr (.inl ⟨_, Pipeline.recv_contents received, rfl⟩)
  | takeRegistration _ received =>
      exact .inr (.inr (.inl ⟨_, Pipeline.recv_contents received, rfl⟩))
  | handleRpc _ _ _ => exact .inr (.inr (.inr ⟨_, rfl⟩))
  | handOver _ given =>
      rcases handOver_runtime given with same | handled
      · exact .inl same
      · exact .inr (.inr (.inr ⟨_, handled⟩))
  | grantWrite _ _ => exact .inr (.inr (.inr ⟨_, rfl⟩))
  | deliver _ given =>
      rcases handOver_runtime given with same | handled
      · exact .inl same
      · exact .inr (.inr (.inr ⟨_, handled⟩))
  | _ => exact .inl rfl

theorem taskStep_messages {action : TaskAction} (moved : TaskStep tasks action after) :
    after.messages.contents = tasks.messages.contents ∨
      (∃ wsId handler data isClose, action = .put wsId ∧
        tasks.handlers.lookup wsId = some handler ∧
        handler.phase = .sending (.message data isClose) ∧
        after.handlers = (tasks.setPhase wsId (Outgoing.message data isClose).next).handlers ∧
        after.messages.contents =
          tasks.messages.contents ++ [⟨handler.pageNum, wsId, data, isClose⟩]) ∨
      ∃ message messages, action = .takeMessage ∧ tasks.main = .select ∧
        tasks.messages.recv = some (message, messages) ∧
        tasks.messages.contents = message :: after.messages.contents ∧
        after.runtime = tasks.runtime.handleWsMessage message := by
  cases moved with
  | put found sending sent =>
      exact .inr (.inl ⟨_, _, _, _, rfl, found, sending, rfl, (Pipeline.send_contents sent).1⟩)
  | forwardMessage forwarded => exact .inl (Pipeline.forward_contents forwarded)
  | takeMessage idle received =>
      exact .inr (.inr ⟨_, _, rfl, idle, received, Pipeline.recv_contents received, rfl⟩)
  | handOver _ given =>
      rcases handOver_cases given with rfl | ⟨_, _, _, _, _, _, _, rfl⟩ <;> exact .inl rfl
  | deliver _ given =>
      rcases handOver_cases given with rfl | ⟨_, _, _, _, _, _, _, rfl⟩ <;> exact .inl rfl
  | _ => exact .inl rfl

theorem taskStep_registrations {action : TaskAction} (moved : TaskStep tasks action after) :
    after.registrations.contents = tasks.registrations.contents ∨
      (∃ wsId handler, action = .put wsId ∧ tasks.handlers.lookup wsId = some handler ∧
        handler.phase = .sending .registration ∧
        after.registrations.contents =
          tasks.registrations.contents ++ [⟨handler.pageNum, wsId, ⟨wsId⟩⟩]) ∨
      ∃ registration, tasks.registrations.contents =
          registration :: after.registrations.contents ∧
        after.runtime = tasks.runtime.handleWsRegistration registration := by
  cases moved with
  | register found sending sent =>
      exact .inr (.inl ⟨_, _, rfl, found, sending, (Pipeline.send_contents sent).1⟩)
  | forwardRegistration forwarded => exact .inl (Pipeline.forward_contents forwarded)
  | takeRegistration _ received =>
      exact .inr (.inr ⟨_, Pipeline.recv_contents received, rfl⟩)
  | handOver _ given =>
      rcases handOver_cases given with rfl | ⟨_, _, _, _, _, _, _, rfl⟩ <;> exact .inl rfl
  | deliver _ given =>
      rcases handOver_cases given with rfl | ⟨_, _, _, _, _, _, _, rfl⟩ <;> exact .inl rfl
  | _ => exact .inl rfl

def pageOf (wsId : String) (tasks : DeviceTasks) : Option Nat :=
  (tasks.handlers.lookup wsId).map WsHandler.pageNum

theorem pageOf_eq {wsId : String} {handler : WsHandler}
    (found : tasks.handlers.lookup wsId = some handler) :
    tasks.pageOf wsId = some handler.pageNum := by
  rw [pageOf, found, Option.map_some]

theorem pageOf_modify (mover wsId : String) {update : WsHandler → WsHandler}
    (same : ∀ handler, (update handler).pageNum = handler.pageNum) :
    ((tasks.handlers.modify mover update).lookup wsId).map WsHandler.pageNum =
      tasks.pageOf wsId := by
  rw [Table.lookup_modify, pageOf]
  split
  · cases tasks.handlers.lookup wsId with
    | none => rfl
    | some handler => simp [same]
  · rfl

theorem handOver_pageOf {destId : String} {data : List UInt8}
    (given : tasks.handOver destId data = some after) (wsId : String) :
    after.pageOf wsId = tasks.pageOf wsId := by
  rcases handOver_cases given with rfl | ⟨tx, _, _, _, _, _, _, rfl⟩
  · rfl
  · exact pageOf_modify tx.owner wsId fun _ => rfl

theorem taskStep_pageOf {action : TaskAction} (moved : TaskStep tasks action after)
    {wsId : String} {pageNum : Nat} (served : tasks.pageOf wsId = some pageNum) :
    after.pageOf wsId = some pageNum := by
  have kept (mover : String) {update : WsHandler → WsHandler}
      (same : ∀ handler, (update handler).pageNum = handler.pageNum) :
      ((tasks.handlers.modify mover update).lookup wsId).map WsHandler.pageNum = some pageNum := by
    rw [pageOf_modify mover wsId same, served]
  cases moved with
  | @upgrade mover _ _ fresh =>
      have other : wsId ≠ mover := by
        rintro rfl
        rw [pageOf, AList.lookup_eq_none.mpr fresh] at served
        cases served
      rw [pageOf, AList.lookup_insert_ne other, ← pageOf, served]
  | acquire _ _ _ => exact kept _ fun _ => rfl
  | register _ _ _ => exact kept _ fun _ => rfl
  | put _ _ _ => exact kept _ fun _ => rfl
  | frame _ _ => exact kept _ fun _ => rfl
  | closeFrame _ _ => exact kept _ fun _ => rfl
  | socketFailed _ _ => exact kept _ fun _ => rfl
  | receive _ _ _ => exact kept _ fun _ => rfl
  | handOver _ given => rw [handOver_pageOf given, served]
  | deliver _ given => rw [handOver_pageOf given]; exact served
  | _ => exact served

/-- What is on its way, and what is registered, belongs to a handler. -/
structure Addressed (tasks : DeviceTasks) : Prop where
  paged : DeviceRuntime.Paged tasks.runtime
  messages : ∀ message ∈ tasks.messages.contents,
    tasks.pageOf message.wsId = some message.pageNum
  registrations : ∀ registration ∈ tasks.registrations.contents,
    registration.tx = ⟨registration.wsId⟩
  clients : ∀ wsId tx, tasks.runtime.wsClientTxs.lookup wsId = some tx → tx = ⟨wsId⟩

theorem Addressed.clients_erase (addressed : tasks.Addressed) (removed : String) :
    ∀ wsId tx, (tasks.runtime.wsClientTxs.erase removed).lookup wsId = some tx → tx = ⟨wsId⟩ := by
  intro wsId tx known
  exact addressed.clients wsId tx (Table.lookup_of_erase known)

theorem taskStep_addressed {action : TaskAction} (moved : TaskStep tasks action after)
    (addressed : tasks.Addressed) : after.Addressed where
  paged := by
    rcases taskStep_runtime moved with same | ⟨message, _, handled⟩ | ⟨registration, _, handled⟩ |
      ⟨message, handled⟩
    · rw [same]
      exact addressed.paged
    · rw [handled]
      exact DeviceRuntime.handle_paged addressed.paged (.wsMessage message)
    · rw [handled]
      exact DeviceRuntime.handle_paged addressed.paged (.registration registration)
    · rw [handled]
      exact DeviceRuntime.handle_paged addressed.paged (.rpc message)
  messages := by
    have earlier : ∀ message ∈ tasks.messages.contents,
        after.pageOf message.wsId = some message.pageNum :=
      fun message member => taskStep_pageOf moved (addressed.messages message member)
    rcases taskStep_messages moved with same | ⟨wsId, handler, data, isClose, _, found, _, _, put⟩ |
      ⟨message, _, _, _, _, taken, _⟩
    · rw [same]
      exact earlier
    · rw [put, List.forall_mem_append, List.forall_mem_singleton]
      exact ⟨earlier, taskStep_pageOf moved (pageOf_eq found)⟩
    · intro later member
      exact earlier later (by rw [taken]; exact List.mem_cons_of_mem message member)
  registrations := by
    rcases taskStep_registrations moved with same | ⟨wsId, handler, _, _, _, put⟩ |
      ⟨registration, taken, _⟩
    · rw [same]
      exact addressed.registrations
    · rw [put, List.forall_mem_append, List.forall_mem_singleton]
      exact ⟨addressed.registrations, rfl⟩
    · intro later member
      exact addressed.registrations later
        (by rw [taken]; exact List.mem_cons_of_mem registration member)
  clients := by
    rcases taskStep_runtime moved with same | ⟨message, _, handled⟩ |
      ⟨registration, taken, handled⟩ | ⟨message, handled⟩
    · rw [same]
      exact addressed.clients
    · rw [handled, DeviceRuntime.handleWsMessage_wsClientTxs]
      split
      · exact addressed.clients_erase message.wsId
      · exact addressed.clients
    · intro wsId tx known
      rw [handled] at known
      simp only [DeviceRuntime.handleWsRegistration, Table.lookup_assign] at known
      split at known
      · rename_i here
        cases known
        rw [here]
        exact addressed.registrations registration (by rw [taken]; exact List.mem_cons_self)
      · exact addressed.clients wsId tx known
    · rw [handled, (DeviceRuntime.handleRpcMessage_leavesClients message _).registered]
      exact addressed.clients

theorem step_addressed (addressed : tasks.Addressed) (action : TaskAction) :
    (tasks.step action).Addressed := by
  rcases step_cases tasks action with same | moved
  · rw [same]
    exact addressed
  · exact taskStep_addressed moved addressed

theorem start_addressed (bridge : ProxyBridge) (environment : ConnectEnvironment)
    (deviceId : String) (port : Nat) (connection : DeviceConnection) (codec : WebInspectorCodec) :
    (start (bridge.newRuntime environment deviceId port connection codec)).Addressed where
  paged := newRuntime_paged bridge environment deviceId port connection codec
  messages := by simp [start]
  registrations := by simp [start]
  clients := by simp [start, ProxyBridge.newRuntime]

end DeviceTasks

end IosWebkitDebugProxy
