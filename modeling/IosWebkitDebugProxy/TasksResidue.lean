import IosWebkitDebugProxy.ProxyHolders
import IosWebkitDebugProxy.TasksRelay

/-! What is left of a client that has closed its connection. The close and the
registration travel in queues of their own, and a registration that comes last
puts a client back into the tables whose handler has ended. -/

namespace IosWebkitDebugProxy

open Transition

namespace DeviceTasks

variable {tasks after : DeviceTasks}

/-- The close is the last message of its client, and a page is held by a client
whose handler is there for it. -/
structure Parting (tasks : DeviceTasks) : Prop where
  closes : ∀ front message rest, tasks.messages.contents = front ++ message :: rest →
    message.isClose = true →
    (∀ later ∈ rest, later.wsId ≠ message.wsId) ∧ tasks.stage message.wsId = .ended
  holders : ∀ num page, tasks.runtime.pages.lookup num = some page →
    page.wsClientId = page.senderId ∧
      ∀ wsId, page.senderId = some wsId → tasks.pageOf wsId = some num

theorem sending_ne_ended {wsId other : String} {handler : WsHandler} {outgoing : Outgoing}
    (found : tasks.handlers.lookup wsId = some handler)
    (sending : handler.phase = .sending outgoing) (finished : tasks.stage other = .ended) :
    wsId ≠ other := by
  rintro rfl
  rw [stage_eq found, HandlerPhase.stage_eq_ended, sending] at finished
  cases finished

theorem stage_congr (same : after.handlers = tasks.handlers) (wsId : String) :
    after.stage wsId = tasks.stage wsId := by
  rw [stage, same, stage]

theorem step_closes (parting : tasks.Parting) {action : TaskAction}
    (moved : TaskStep tasks action (tasks.step action)) :
    ∀ front message rest, (tasks.step action).messages.contents = front ++ message :: rest →
      message.isClose = true → (∀ later ∈ rest, later.wsId ≠ message.wsId) ∧
        (tasks.step action).stage message.wsId = .ended := by
  intro front message rest shape close
  rcases taskStep_messages moved with same |
    ⟨wsId, handler, data, isClose, _, found, sending, handlers, put⟩ | ⟨head, _, _, _, _, taken, _⟩
  · rw [same] at shape
    obtain ⟨last, finished⟩ := parting.closes front message rest shape close
    exact ⟨last, step_stage_ended finished action⟩
  · rw [put] at shape
    rcases List.eq_nil_or_concat rest with rfl | ⟨middle, final, rfl⟩
    · obtain ⟨_, own⟩ := List.append_inj' shape rfl
      simp only [List.cons.injEq, and_true] at own
      subst own
      simp only at close
      subst close
      refine ⟨by simp, ?_⟩
      rw [stage_congr handlers, stage_setPhase found, if_pos rfl]
      rfl
    · rw [List.concat_eq_append, ← List.cons_append, ← List.append_assoc] at shape
      obtain ⟨before, own⟩ := List.append_inj' shape rfl
      obtain ⟨last, finished⟩ := parting.closes front message middle before close
      refine ⟨?_, step_stage_ended finished action⟩
      rw [List.concat_eq_append, List.forall_mem_append, List.forall_mem_singleton]
      refine ⟨last, ?_⟩
      simp only [List.cons.injEq, and_true] at own
      rw [← own]
      exact sending_ne_ended found sending finished
  · obtain ⟨last, finished⟩ :=
      parting.closes (head :: front) message rest (by rw [taken, shape]; rfl) close
    exact ⟨last, step_stage_ended finished action⟩

theorem taskStep_holders (addressed : tasks.Addressed) (parting : tasks.Parting)
    {action : TaskAction} (moved : TaskStep tasks action after) :
    ∀ num page, after.runtime.pages.lookup num = some page →
      page.wsClientId = page.senderId ∧
        ∀ wsId, page.senderId = some wsId → after.pageOf wsId = some num := by
  intro num page found
  have known {old : PageInfo} (stored : tasks.runtime.pages.lookup num = some old)
      (sender : old.senderId = page.senderId) (client : old.wsClientId = page.wsClientId) :
      page.wsClientId = page.senderId ∧
        ∀ wsId, page.senderId = some wsId → after.pageOf wsId = some num := by
    obtain ⟨paired, served⟩ := parting.holders num old stored
    refine ⟨by rw [← client, ← sender, paired], ?_⟩
    intro wsId held
    exact taskStep_pageOf moved (served wsId (sender.trans held))
  have free (sender : page.senderId = none) (client : page.wsClientId = none) :
      page.wsClientId = page.senderId ∧
        ∀ wsId, page.senderId = some wsId → after.pageOf wsId = some num := by
    refine ⟨by rw [sender, client], ?_⟩
    intro wsId held
    rw [sender] at held
    cases held
  rcases taskStep_runtime moved with same | ⟨message, taken, handled⟩ |
    ⟨registration, _, handled⟩ | ⟨message, handled⟩
  · rw [same] at found
    exact known found rfl rfl
  · rw [handled] at found
    rcases DeviceRuntime.handleWsMessage_holders addressed.paged message found with
      ⟨_, rfl, sender, client⟩ | ⟨sender, client⟩ | ⟨old, stored, sender, client⟩
    · refine ⟨by rw [sender, client], ?_⟩
      intro wsId held
      rw [sender, Option.some.injEq] at held
      rw [← held]
      exact taskStep_pageOf moved
        (addressed.messages message (by rw [taken]; exact List.mem_cons_self))
    · exact free sender client
    · exact known stored sender client
  · rw [handled] at found
    exact known found rfl rfl
  · rw [handled] at found
    rcases DeviceRuntime.handleRpcMessage_keepsHolders message tasks.runtime num page found with
      ⟨sender, client⟩ | ⟨old, stored, sender, client⟩
    · exact free sender client
    · exact known stored sender client

theorem step_parting (addressed : tasks.Addressed) (parting : tasks.Parting)
    (action : TaskAction) : (tasks.step action).Parting := by
  rcases step_cases tasks action with same | moved
  · rw [same]
    exact parting
  · exact ⟨step_closes parting moved, taskStep_holders addressed parting moved⟩

/-- The client has ended, nothing of it is on its way to the core but perhaps
its registration, and it holds no page. -/
structure Parted (tasks : DeviceTasks) (wsId : String) : Prop where
  finished : tasks.stage wsId = .ended
  silent : ∀ message ∈ tasks.messages.contents, message.wsId ≠ wsId
  free : ∀ num page, tasks.runtime.pages.lookup num = some page → ¬page.HeldBy wsId

theorem not_heldBy_of_kept {before : Table Nat PageInfo} {wsId : String} {num : Nat}
    {page : PageInfo} (free : ∀ num page, before.lookup num = some page → ¬page.HeldBy wsId)
    (kept : (page.senderId = none ∧ page.wsClientId = none) ∨
      ∃ old, before.lookup num = some old ∧ old.senderId = page.senderId ∧
        old.wsClientId = page.wsClientId) : ¬page.HeldBy wsId := by
  rcases kept with ⟨sender, client⟩ | ⟨old, stored, sender, client⟩
  · simp [PageInfo.HeldBy, sender, client]
  · have apart := free num old stored
    rwa [PageInfo.HeldBy, sender, client] at apart

theorem step_parted (addressed : tasks.Addressed) {wsId : String} (parted : tasks.Parted wsId)
    (action : TaskAction) : (tasks.step action).Parted wsId := by
  rcases step_cases tasks action with same | moved
  · rw [same]
    exact parted
  · refine ⟨step_stage_ended parted.finished action, ?_, ?_⟩
    · rcases taskStep_messages moved with same |
        ⟨mover, handler, data, isClose, _, found, sending, _, put⟩ | ⟨head, _, _, _, _, taken, _⟩
      · rw [same]
        exact parted.silent
      · rw [put, List.forall_mem_append, List.forall_mem_singleton]
        exact ⟨parted.silent, sending_ne_ended found sending parted.finished⟩
      · intro message member
        exact parted.silent message (by rw [taken]; exact List.mem_cons_of_mem head member)
    · intro num page found
      rcases taskStep_runtime moved with same | ⟨message, taken, handled⟩ |
        ⟨registration, _, handled⟩ | ⟨message, handled⟩
      · rw [same] at found
        exact parted.free num page found
      · rw [handled] at found
        rcases DeviceRuntime.handleWsMessage_holders addressed.paged message found with
          ⟨_, _, sender, client⟩ | kept
        · have other : message.wsId ≠ wsId :=
            parted.silent message (by rw [taken]; exact List.mem_cons_self)
          simp [PageInfo.HeldBy, sender, client, other]
        · exact not_heldBy_of_kept parted.free kept
      · rw [handled] at found
        exact parted.free num page found
      · rw [handled] at found
        exact not_heldBy_of_kept parted.free
          (DeviceRuntime.handleRpcMessage_keepsHolders message tasks.runtime num page found)

structure Cleared (tasks : DeviceTasks) (wsId : String) : Prop extends Parted tasks wsId where
  unannounced : ∀ registration ∈ tasks.registrations.contents, registration.wsId ≠ wsId
  forgotten : wsId ∉ tasks.runtime.wsClients
  unregistered : wsId ∉ tasks.runtime.wsClientTxs

/-- The registration of the client is still to be handled, or has been since it ended. -/
structure Haunted (tasks : DeviceTasks) (wsId : String) : Prop extends Parted tasks wsId where
  remains : (∃ registration ∈ tasks.registrations.contents, registration.wsId = wsId) ∨
    wsId ∈ tasks.runtime.wsClients

theorem taskStep_cleared (addressed : tasks.Addressed) {wsId : String} {action : TaskAction}
    (cleared : tasks.Cleared wsId) (moved : TaskStep tasks action (tasks.step action)) :
    (tasks.step action).Cleared wsId := by
  refine ⟨step_parted addressed cleared.toParted action, ?_, ?_, ?_⟩
  · rcases taskStep_registrations moved with same | ⟨mover, handler, _, found, sending, put⟩ |
      ⟨registration, taken, _⟩
    · rw [same]
      exact cleared.unannounced
    · rw [put, List.forall_mem_append, List.forall_mem_singleton]
      exact ⟨cleared.unannounced, sending_ne_ended found sending cleared.finished⟩
    · intro later member
      exact cleared.unannounced later (by rw [taken]; exact List.mem_cons_of_mem registration member)
  · rcases taskStep_runtime moved with same | ⟨message, _, handled⟩ |
      ⟨registration, taken, handled⟩ | ⟨message, handled⟩
    · rw [same]
      exact cleared.forgotten
    · rw [handled, DeviceRuntime.handleWsMessage_wsClients]
      split
      · exact fun known => cleared.forgotten (AList.mem_erase.mp known).2
      · exact cleared.forgotten
    · have other := cleared.unannounced registration (by rw [taken]; exact List.mem_cons_self)
      rw [handled]
      simpa [DeviceRuntime.handleWsRegistration, other.symm] using cleared.forgotten
    · rw [handled, DeviceRuntime.handleRpcMessage_wsClients]
      exact cleared.forgotten
  · rcases taskStep_runtime moved with same | ⟨message, _, handled⟩ |
      ⟨registration, taken, handled⟩ | ⟨message, handled⟩
    · rw [same]
      exact cleared.unregistered
    · rw [handled, DeviceRuntime.handleWsMessage_wsClientTxs]
      split
      · exact fun known => cleared.unregistered (AList.mem_erase.mp known).2
      · exact cleared.unregistered
    · have other := cleared.unannounced registration (by rw [taken]; exact List.mem_cons_self)
      rw [handled]
      simpa [DeviceRuntime.handleWsRegistration, other.symm] using cleared.unregistered
    · rw [handled, (DeviceRuntime.handleRpcMessage_leavesClients message _).registered]
      exact cleared.unregistered

theorem step_cleared (addressed : tasks.Addressed) {wsId : String} (cleared : tasks.Cleared wsId)
    (action : TaskAction) : (tasks.step action).Cleared wsId := by
  rcases step_cases tasks action with same | moved
  · rw [same]
    exact cleared
  · exact taskStep_cleared addressed cleared moved

theorem taskStep_haunted (addressed : tasks.Addressed) {wsId : String} {action : TaskAction}
    (haunted : tasks.Haunted wsId) (moved : TaskStep tasks action (tasks.step action)) :
    (tasks.step action).Haunted wsId := by
  refine ⟨step_parted addressed haunted.toParted action, ?_⟩
  rcases haunted.remains with ⟨registration, member, own⟩ | known
  · rcases taskStep_registrations moved with same | ⟨_, _, _, _, _, put⟩ | ⟨head, taken, handled⟩
    · exact .inl ⟨registration, by rw [same]; exact member, own⟩
    · exact .inl ⟨registration, by rw [put]; exact List.mem_append_left _ member, own⟩
    · rw [taken] at member
      rcases List.mem_cons.mp member with rfl | later
      · right
        rw [handled, ← own]
        simp [DeviceRuntime.handleWsRegistration]
      · exact .inl ⟨registration, later, own⟩
  · right
    rcases taskStep_runtime moved with same | ⟨message, taken, handled⟩ |
      ⟨registration, _, handled⟩ | ⟨message, handled⟩
    · rw [same]
      exact known
    · have other := haunted.silent message (by rw [taken]; exact List.mem_cons_self)
      rw [handled, DeviceRuntime.handleWsMessage_wsClients]
      split
      · exact AList.mem_erase.mpr ⟨other.symm, known⟩
      · exact known
    · rw [handled]
      simp [DeviceRuntime.handleWsRegistration, known]
    · rw [handled, DeviceRuntime.handleRpcMessage_wsClients]
      exact known

theorem step_haunted (addressed : tasks.Addressed) {wsId : String} (haunted : tasks.Haunted wsId)
    (action : TaskAction) : (tasks.step action).Haunted wsId := by
  rcases step_cases tasks action with same | moved
  · rw [same]
    exact haunted
  · exact taskStep_haunted addressed haunted moved

def SendsClose (wsId : String) (tasks : DeviceTasks) (action : TaskAction) : Prop :=
  action = .put wsId ∧ ¬tasks.messages.entry.Full ∧
    ∃ handler, tasks.handlers.lookup wsId = some handler ∧ handler.phase = .sending .close

def TakesClose (wsId : String) (tasks : DeviceTasks) (action : TaskAction) : Prop :=
  action = .takeMessage ∧ tasks.main = .select ∧ ∃ message messages,
    tasks.messages.recv = some (message, messages) ∧ message.wsId = wsId ∧ message.isClose = true

def AllMessagesHandled (wsId : String) (tasks : DeviceTasks) : Prop :=
  ∀ message ∈ tasks.messages.contents, message.wsId ≠ wsId

def RegistrationHandled (wsId : String) (tasks : DeviceTasks) : Prop :=
  ∀ registration ∈ tasks.registrations.contents, registration.wsId ≠ wsId

/-- When the core takes up the close message of the client, its registration is
no longer on its way. -/
def ClosedAfterRegistration (wsId : String) (tasks : DeviceTasks) (action : TaskAction) : Prop :=
  TakesClose wsId tasks action → tasks.RegistrationHandled wsId

structure NoResidue (tasks : DeviceTasks) (wsId : String) : Prop where
  forgotten : wsId ∉ tasks.runtime.wsClients
  unregistered : wsId ∉ tasks.runtime.wsClientTxs
  free : ∀ num page, tasks.runtime.pages.lookup num = some page →
    page.senderId ≠ some wsId ∧ page.wsClientId ≠ some wsId

def CloseQueued (wsId : String) (tasks : DeviceTasks) : Prop :=
  ∃ message ∈ tasks.messages.contents, message.wsId = wsId ∧ message.isClose = true

theorem sendsClose_queued {wsId : String} {action : TaskAction}
    (sends : SendsClose wsId tasks action) : (tasks.step action).CloseQueued wsId := by
  obtain ⟨rfl, room, handler, found, sending⟩ := sends
  obtain ⟨messages, sent⟩ := Pipeline.exists_send room
    (⟨handler.pageNum, wsId, [], true⟩ : WsToWiMessage)
  have moved : (tasks.step (.put wsId)).messages = messages := by
    simp [step, next, DeviceTasks.put, found, sending, Outgoing.close, sent]
  refine ⟨⟨handler.pageNum, wsId, [], true⟩, ?_, rfl, rfl⟩
  rw [moved, (Pipeline.send_contents sent).1]
  exact List.mem_append_right _ (List.mem_singleton_self _)

theorem takesClose_of_gone {wsId : String} {action : TaskAction} (queued : tasks.CloseQueued wsId)
    (gone : ¬(tasks.step action).CloseQueued wsId) : TakesClose wsId tasks action := by
  obtain ⟨message, member, own, close⟩ := queued
  rcases step_cases tasks action with same | moved
  · rw [same] at gone
    exact absurd ⟨message, member, own, close⟩ gone
  · rcases taskStep_messages moved with same | ⟨_, _, _, _, _, _, _, _, put⟩ |
      ⟨head, messages, isTake, idle, received, taken, _⟩
    · exact absurd ⟨message, by rw [same]; exact member, own, close⟩ gone
    · exact absurd ⟨message, by rw [put]; exact List.mem_append_left _ member, own, close⟩ gone
    · rw [taken] at member
      rcases List.mem_cons.mp member with rfl | later
      · exact ⟨isTake, idle, message, messages, received, own, close⟩
      · exact absurd ⟨message, later, own, close⟩ gone

theorem exists_takesClose {start : DeviceTasks} {wsId : String} {actions : List TaskAction}
    (closed : Happens step start actions (SendsClose wsId))
    (handled : (run step start actions).AllMessagesHandled wsId) :
    Happens step start actions (TakesClose wsId) := by
  obtain ⟨before, action, after, rfl, sends⟩ := closed
  rw [run_append] at handled
  have final : ¬(run step ((run step start before).step action) after).CloseQueued wsId := by
    rintro ⟨message, member, own, _⟩
    exact handled message member own
  obtain ⟨earlier, last, later, rfl, queued, gone⟩ := exists_last (sendsClose_queued sends) final
  refine ⟨before ++ action :: earlier, last, later, by simp, ?_⟩
  rw [run_append]
  exact takesClose_of_gone queued gone

theorem close_frees (addressed : tasks.Addressed) (parting : tasks.Parting)
    {message : WsToWiMessage} (member : message ∈ tasks.messages.contents)
    (close : message.isClose = true) {num : Nat} {page : PageInfo}
    (found : (tasks.runtime.handleWsMessage message).pages.lookup num = some page) :
    ¬page.HeldBy message.wsId := by
  have table := addressed.paged.table
  simp only [DeviceRuntime.handleWsMessage, close, if_true] at found
  rcases DeviceRuntime.stopDevtools_keepsHolders table message.pageNum num page found with
    ⟨sender, client⟩ | ⟨old, stored, sender, client⟩
  · simp [PageInfo.HeldBy, sender, client]
  · obtain ⟨paired, served⟩ := parting.holders num old stored
    intro held
    have holds : page.senderId = some message.wsId := by
      rcases held with bySender | byClient
      · exact bySender
      · rw [← sender, ← paired, client, byClient]
    have here := served message.wsId (sender.trans holds)
    rw [addressed.messages message member, Option.some.injEq] at here
    subst here
    rw [DeviceRuntime.stopDevtools_released table found] at holds
    cases holds

theorem takesClose_parted (addressed : tasks.Addressed) (parting : tasks.Parting) {wsId : String}
    {action : TaskAction} (takes : TakesClose wsId tasks action) :
    (tasks.step action).Parted wsId ∧
      (tasks.step action).registrations = tasks.registrations ∧
      wsId ∉ (tasks.step action).runtime.wsClients ∧
      wsId ∉ (tasks.step action).runtime.wsClientTxs := by
  obtain ⟨rfl, idle, message, messages, received, rfl, close⟩ := takes
  have contents := Pipeline.recv_contents received
  have member : message ∈ tasks.messages.contents := by
    rw [contents]
    exact List.mem_cons_self
  obtain ⟨last, finished⟩ := parting.closes [] message messages.contents contents close
  have moved : tasks.step .takeMessage =
      { tasks with messages, runtime := tasks.runtime.handleWsMessage message } := by
    simp [step, next, idle, received]
  rw [moved]
  refine ⟨⟨finished, last, fun num page => close_frees addressed parting member close⟩, rfl, ?_, ?_⟩
  · simp only [DeviceRuntime.handleWsMessage_wsClients, close, if_true]
    exact fun known => (AList.mem_erase.mp known).1 rfl
  · simp only [DeviceRuntime.handleWsMessage_wsClientTxs, close, if_true]
    exact fun known => (AList.mem_erase.mp known).1 rfl

theorem run_cleared {start : DeviceTasks} {wsId : String} (addressed : start.Addressed)
    (cleared : start.Cleared wsId) (actions : List TaskAction) :
    (run step start actions).Cleared wsId := by
  have kept := run_invariant (fun tasks : DeviceTasks => tasks.Addressed ∧ tasks.Cleared wsId)
    ⟨addressed, cleared⟩ (fun _ action both =>
      ⟨step_addressed both.1 action, step_cleared both.1 both.2 action⟩) actions
  exact kept.2

theorem run_haunted {start : DeviceTasks} {wsId : String} (addressed : start.Addressed)
    (haunted : start.Haunted wsId) (actions : List TaskAction) :
    (run step start actions).Haunted wsId := by
  have kept := run_invariant (fun tasks : DeviceTasks => tasks.Addressed ∧ tasks.Haunted wsId)
    ⟨addressed, haunted⟩ (fun _ action both =>
      ⟨step_addressed both.1 action, step_haunted both.1 both.2 action⟩) actions
  exact kept.2

theorem start_parting (bridge : ProxyBridge) (environment : ConnectEnvironment)
    (deviceId : String) (port : Nat) (connection : DeviceConnection) (codec : WebInspectorCodec) :
    (start (bridge.newRuntime environment deviceId port connection codec)).Parting where
  closes := by simp [start]
  holders := by simp [start, ProxyBridge.newRuntime]

/-- Once everything of a closed client has been handled, nothing of it is left
exactly when its registration was handled before its close. -/
theorem run_noResidue_iff (bridge : ProxyBridge) (environment : ConnectEnvironment)
    (deviceId : String) (port : Nat) (connection : DeviceConnection) (codec : WebInspectorCodec)
    (actions : List TaskAction) (wsId : String)
    (closed : Happens step (start (bridge.newRuntime environment deviceId port connection codec))
      actions (SendsClose wsId))
    (messagesHandled : (run step (start (bridge.newRuntime environment deviceId port connection
      codec)) actions).AllMessagesHandled wsId)
    (registrationHandled : (run step (start (bridge.newRuntime environment deviceId port connection
      codec)) actions).RegistrationHandled wsId) :
    (run step (start (bridge.newRuntime environment deviceId port connection codec))
        actions).NoResidue wsId ↔
      Throughout step (start (bridge.newRuntime environment deviceId port connection codec))
        actions (ClosedAfterRegistration wsId) := by
  have kept (before : List TaskAction) :=
    run_invariant (fun tasks : DeviceTasks => tasks.Addressed ∧ tasks.Parting)
      ⟨start_addressed bridge environment deviceId port connection codec,
        start_parting bridge environment deviceId port connection codec⟩
      (fun _ action both => ⟨step_addressed both.1 action, step_parting both.1 both.2 action⟩)
      before
  constructor
  · rintro none before action after rfl takes
    by_contra pending
    obtain ⟨addressed, parting⟩ := kept before
    obtain ⟨parted, registrations, -, -⟩ := takesClose_parted addressed parting takes
    simp only [RegistrationHandled, not_forall, not_not] at pending
    obtain ⟨registration, member, own⟩ := pending
    have haunted := run_haunted (step_addressed addressed action)
      ⟨parted, .inl ⟨registration, by rw [registrations]; exact member, own⟩⟩ after
    rw [run_append] at none registrationHandled
    rcases haunted.remains with ⟨later, stays, same⟩ | known
    · exact registrationHandled later stays same
    · exact none.forgotten known
  · intro inOrder
    obtain ⟨before, action, after, rfl, takes⟩ := exists_takesClose closed messagesHandled
    obtain ⟨addressed, parting⟩ := kept before
    obtain ⟨parted, registrations, forgotten, unregistered⟩ :=
      takesClose_parted addressed parting takes
    have unannounced := inOrder before action after rfl takes
    have cleared := run_cleared (step_addressed addressed action)
      ⟨parted, by rw [registrations]; exact unannounced, forgotten, unregistered⟩ after
    rw [run_append]
    refine ⟨cleared.forgotten, cleared.unregistered, ?_⟩
    intro num page found
    exact not_or.mp (cleared.free num page found)

def closing : List TaskAction := openedEarly ++ [.closeFrame "A", .acquire "A"]

def closeHandled : List TaskAction := [.forwardMessage, .forwardMessage, .takeMessage]

def registrationHandled : List TaskAction :=
  [.forwardRegistration, .forwardRegistration, .takeRegistration]

theorem closing_sendsClose (later : List TaskAction) :
    Happens step (start phoneRuntime) (closing ++ .put "A" :: later) (SendsClose "A") := by
  have phase : ((run step (start phoneRuntime) closing).handlers.lookup "A").map
      WsHandler.phase = some (.sending .close) := by decide
  obtain ⟨handler, found, sending⟩ := Option.map_eq_some_iff.mp phase
  exact ⟨closing, .put "A", later, rfl, rfl, by decide, handler, found, sending⟩

theorem run_noResidue_iff_inOrder :
    (run step (start phoneRuntime)
        (closing ++ .put "A" :: (registrationHandled ++ closeHandled))).NoResidue "A" ↔
      Throughout step (start phoneRuntime)
        (closing ++ .put "A" :: (registrationHandled ++ closeHandled))
        (ClosedAfterRegistration "A") :=
  run_noResidue_iff plainBridge phoneEnvironment "UDID" 49152 phoneConnection (.new false false)
    (closing ++ .put "A" :: (registrationHandled ++ closeHandled)) "A" (closing_sendsClose _)
    (by unfold AllMessagesHandled; decide) (by unfold RegistrationHandled; decide)

/-- A close that overtakes the registration leaves the client in the tables for good. -/
theorem overtaken_registration_stays :
    ¬∀ actions wsId, Happens step (start phoneRuntime) actions (SendsClose wsId) →
      (run step (start phoneRuntime) actions).AllMessagesHandled wsId →
      (run step (start phoneRuntime) actions).RegistrationHandled wsId →
      (run step (start phoneRuntime) actions).NoResidue wsId := by
  intro clean
  have none := clean (closing ++ .put "A" :: (closeHandled ++ registrationHandled)) "A"
    (closing_sendsClose _) (by unfold AllMessagesHandled; decide)
    (by unfold RegistrationHandled; decide)
  have known : "A" ∈ (run step (start phoneRuntime)
      (closing ++ .put "A" :: (closeHandled ++ registrationHandled))).runtime.wsClients := by decide
  exact none.forgotten known

end DeviceTasks

end IosWebkitDebugProxy
