import IosWebkitDebugProxy.TasksTraffic

/-! The messages of a client on their way to the core. The core takes them in the
order in which they came up: first the one that opens the session, which the
connection sends on its own, then those of the client. -/

namespace IosWebkitDebugProxy

open Transition

/-- The message that is to come. A registration is followed by the setup. -/
def Outgoing.announced (pageNum : Nat) (wsId : String) : Outgoing → WsToWiMessage
  | registration => ⟨pageNum, wsId, [], false⟩
  | message data isClose => ⟨pageNum, wsId, data, isClose⟩

def HandlerPhase.announced (pageNum : Nat) (wsId : String) : HandlerPhase → List WsToWiMessage
  | wants outgoing => [outgoing.announced pageNum wsId]
  | sending outgoing => [outgoing.announced pageNum wsId]
  | _ => []

namespace DeviceTasks

variable {tasks after : DeviceTasks}

def openingMessage (wsId : String) (tasks : DeviceTasks) : TaskAction → List WsToWiMessage
  | .upgrade mover pageNum =>
      if mover = wsId ∧ (tasks.next (.upgrade mover pageNum)).isSome then
        [⟨pageNum, wsId, [], false⟩]
      else []
  | _ => []

def clientMessages (wsId : String) (tasks : DeviceTasks) : TaskAction → List WsToWiMessage
  | .frame mover data =>
      if mover = wsId ∧ (tasks.next (.frame mover data)).isSome then
        (tasks.pageOf wsId).toList.map fun pageNum => ⟨pageNum, wsId, data, false⟩
      else []
  | .closeFrame mover =>
      if mover = wsId ∧ (tasks.next (.closeFrame mover)).isSome then
        (tasks.pageOf wsId).toList.map fun pageNum => ⟨pageNum, wsId, [], true⟩
      else []
  | _ => []

def sentMessages (wsId : String) (tasks : DeviceTasks) (action : TaskAction) :
    List WsToWiMessage :=
  tasks.openingMessage wsId action ++ tasks.clientMessages wsId action

def takenMessages (wsId : String) (tasks : DeviceTasks) : TaskAction → List WsToWiMessage
  | .takeMessage =>
      if tasks.main = .select then
        (tasks.messages.recv.toList.map Prod.fst).filter fun message => message.wsId == wsId
      else []
  | _ => []

def heldMessages (wsId : String) (tasks : DeviceTasks) : List WsToWiMessage :=
  ((tasks.handlers.lookup wsId).map fun handler =>
    handler.phase.announced handler.pageNum wsId).getD []

def pendingMessages (wsId : String) (tasks : DeviceTasks) : List WsToWiMessage :=
  tasks.messages.contents.filter (fun message => message.wsId == wsId) ++ tasks.heldMessages wsId

theorem heldMessages_eq {wsId : String} {handler : WsHandler}
    (found : tasks.handlers.lookup wsId = some handler) :
    tasks.heldMessages wsId = handler.phase.announced handler.pageNum wsId := by
  rw [heldMessages, found]
  rfl

theorem heldMessages_setPhase {mover : String} {handler : WsHandler}
    (found : tasks.handlers.lookup mover = some handler) (phase : HandlerPhase) (wsId : String) :
    (tasks.setPhase mover phase).heldMessages wsId =
      if wsId = mover then phase.announced handler.pageNum wsId else tasks.heldMessages wsId := by
  by_cases own : wsId = mover
  · subst own
    simp [heldMessages, setPhase, found]
  · simp [heldMessages, setPhase, own]

theorem heldMessages_move {mover : String} {handler : WsHandler}
    (found : tasks.handlers.lookup mover = some handler) {phase : HandlerPhase}
    (same : ∀ pageNum wsId, phase.announced pageNum wsId = handler.phase.announced pageNum wsId)
    (wsId : String) :
    (tasks.setPhase mover phase).heldMessages wsId = tasks.heldMessages wsId := by
  rw [heldMessages_setPhase found]
  split
  · rename_i own
    rw [own, heldMessages_eq found, same]
  · rfl

variable (tasks) in
theorem heldMessages_setInbox (mover : String) (inbox : Channel (List UInt8) 64) (wsId : String) :
    (tasks.setInbox mover inbox).heldMessages wsId = tasks.heldMessages wsId := by
  by_cases own : wsId = mover
  · subst own
    cases found : tasks.handlers.lookup wsId <;> simp [heldMessages, setInbox, found]
  · simp [heldMessages, setInbox, own]

theorem handOver_pendingMessages {destId : String} {data : List UInt8}
    (given : tasks.handOver destId data = some after) (wsId : String) :
    after.pendingMessages wsId = tasks.pendingMessages wsId := by
  rcases handOver_cases given with rfl | ⟨tx, _, inbox, _, _, _, _, rfl⟩
  · rfl
  · have held := tasks.heldMessages_setInbox tx.owner inbox wsId
    exact congrArg (tasks.messages.contents.filter (fun message => message.wsId == wsId) ++ ·) held

theorem upgrade_pendingMessages {mover : String} (fresh : mover ∉ tasks.handlers) {pageNum : Nat}
    (accepted : (tasks.next (.upgrade mover pageNum)).isSome) (wsId : String) :
    pendingMessages wsId { tasks with
      handlers := tasks.handlers.insert mover ⟨pageNum, .wants .registration, .empty⟩ } =
        tasks.pendingMessages wsId ++ tasks.sentMessages wsId (.upgrade mover pageNum) := by
  by_cases own : mover = wsId
  · subst own
    simp [pendingMessages, heldMessages, sentMessages, openingMessage, clientMessages, accepted,
      AList.lookup_eq_none.mpr fresh, HandlerPhase.announced, Outgoing.announced]
  · have other : wsId ≠ mover := fun same => own same.symm
    simp [pendingMessages, heldMessages, sentMessages, openingMessage, clientMessages, own, other]

theorem put_pendingMessages {mover : String} {handler : WsHandler} {data : List UInt8}
    {isClose : Bool} {messages : Pipeline WsToWiMessage 64 256}
    (found : tasks.handlers.lookup mover = some handler)
    (sending : handler.phase = .sending (.message data isClose))
    (sent : tasks.messages.send ⟨handler.pageNum, mover, data, isClose⟩ = some messages)
    (wsId : String) :
    pendingMessages wsId
        { tasks.setPhase mover (Outgoing.message data isClose).next with messages } =
      tasks.pendingMessages wsId := by
  have rests (pageNum : Nat) :
      (Outgoing.message data isClose).next.announced pageNum wsId = [] := by
    cases isClose <;> rfl
  change messages.contents.filter _ ++ (tasks.setPhase mover _).heldMessages wsId = _
  rw [(Pipeline.send_contents sent).1, List.filter_append, heldMessages_setPhase found, rests,
    pendingMessages]
  by_cases own : wsId = mover
  · subst own
    rw [if_pos rfl, heldMessages_eq found, sending]
    simp [HandlerPhase.announced, Outgoing.announced]
  · have other : mover ≠ wsId := fun same => own same.symm
    rw [if_neg own]
    simp [other]

/-- A message that comes up is the last of its client's. -/
theorem socketEvent_pendingMessages {mover : String} {handler : WsHandler}
    (found : tasks.handlers.lookup mover = some handler) (bridging : handler.phase = .bridging)
    (outgoing : Outgoing) (wsId : String) :
    (tasks.setPhase mover (.wants outgoing)).pendingMessages wsId =
      tasks.pendingMessages wsId ++
        if mover = wsId then [outgoing.announced handler.pageNum wsId] else [] := by
  change tasks.messages.contents.filter _ ++ (tasks.setPhase mover _).heldMessages wsId = _
  rw [heldMessages_setPhase found, pendingMessages, List.append_assoc]
  congr 1
  by_cases own : wsId = mover
  · subst own
    rw [if_pos rfl, if_pos rfl, heldMessages_eq found, bridging]
    rfl
  · have other : mover ≠ wsId := fun same => own same.symm
    rw [if_neg own, if_neg other, List.append_nil]

theorem frame_sentMessages {mover : String} {handler : WsHandler}
    (found : tasks.handlers.lookup mover = some handler) (bridging : handler.phase = .bridging)
    (data : List UInt8) (wsId : String) :
    tasks.sentMessages wsId (.frame mover data) =
      if mover = wsId then [⟨handler.pageNum, wsId, data, false⟩] else [] := by
  have accepted : (tasks.next (.frame mover data)).isSome := by
    simp [next, socketEvent, found, bridging]
  by_cases own : mover = wsId
  · subst own
    simp [sentMessages, openingMessage, clientMessages, accepted, pageOf_eq found]
  · simp [sentMessages, openingMessage, clientMessages, own]

theorem closeFrame_sentMessages {mover : String} {handler : WsHandler}
    (found : tasks.handlers.lookup mover = some handler) (bridging : handler.phase = .bridging)
    (wsId : String) :
    tasks.sentMessages wsId (.closeFrame mover) =
      if mover = wsId then [⟨handler.pageNum, wsId, [], true⟩] else [] := by
  have accepted : (tasks.next (.closeFrame mover)).isSome := by
    simp [next, socketEvent, found, bridging]
  by_cases own : mover = wsId
  · subst own
    simp [sentMessages, openingMessage, clientMessages, accepted, pageOf_eq found]
  · simp [sentMessages, openingMessage, clientMessages, own]

theorem sentMessages_idle {wsId : String} {action : TaskAction}
    (stuck : tasks.next action = none) : tasks.sentMessages wsId action = [] := by
  cases action <;> simp [sentMessages, openingMessage, clientMessages, stuck]

theorem takenMessages_idle {wsId : String} {action : TaskAction}
    (stuck : tasks.next action = none) : tasks.takenMessages wsId action = [] := by
  cases action with
  | takeMessage =>
      simp only [takenMessages]
      split
      · rename_i idle
        simp only [next, if_pos idle, Option.map_eq_none_iff] at stuck
        rw [stuck]
        rfl
      · rfl
  | _ => rfl

theorem takenMessages_eq (idle : tasks.main = .select) {message : WsToWiMessage}
    {messages : Pipeline WsToWiMessage 64 256}
    (received : tasks.messages.recv = some (message, messages)) (wsId : String) :
    tasks.takenMessages wsId .takeMessage = if message.wsId = wsId then [message] else [] := by
  simp only [takenMessages, if_pos idle, received, Option.toList_some, List.map_cons, List.map_nil,
    List.filter_cons, List.filter_nil, beq_iff_eq]

theorem messages_balanced (wsId : String) (tasks : DeviceTasks) (action : TaskAction) :
    tasks.takenMessages wsId action ++ (tasks.step action).pendingMessages wsId =
      tasks.pendingMessages wsId ++ tasks.sentMessages wsId action := by
  cases stepped : tasks.next action with
  | none =>
      rw [takenMessages_idle stepped, sentMessages_idle stepped, step_stuck stepped]
      simp
  | some after =>
      have keeps {later : DeviceTasks}
          (queued : later.messages.contents = tasks.messages.contents)
          (held : later.heldMessages wsId = tasks.heldMessages wsId) :
          [] ++ later.pendingMessages wsId = tasks.pendingMessages wsId ++ [] := by
        rw [List.nil_append, List.append_nil, pendingMessages, queued, held, pendingMessages]
      rw [step_moved stepped]
      cases next_taskStep stepped with
      | upgrade _ fresh =>
          exact upgrade_pendingMessages fresh (by rw [stepped]; rfl) wsId
      | acquire found wanted _ =>
          exact keeps rfl (heldMessages_move found (by simp [wanted, HandlerPhase.announced]) wsId)
      | register found sending _ =>
          exact keeps rfl (heldMessages_move found (by
            simp [sending, HandlerPhase.announced, Outgoing.announced, Outgoing.setup]) wsId)
      | put found sending sent =>
          rw [put_pendingMessages found sending sent wsId]
          simp [takenMessages, sentMessages, openingMessage, clientMessages]
      | frame found bridging =>
          rw [frame_sentMessages found bridging]
          exact socketEvent_pendingMessages found bridging _ wsId
      | closeFrame found bridging =>
          rw [closeFrame_sentMessages found bridging]
          exact socketEvent_pendingMessages found bridging _ wsId
      | socketFailed found bridging =>
          exact keeps rfl
            (heldMessages_move found (by simp [bridging, HandlerPhase.announced]) wsId)
      | receive _ _ _ => exact keeps rfl (heldMessages_setInbox _ _ _ wsId)
      | forwardMessage forwarded => exact keeps (Pipeline.forward_contents forwarded) rfl
      | @takeMessage message messages idle received =>
          have nothing : tasks.sentMessages wsId .takeMessage = [] := rfl
          rw [takenMessages_eq idle received, nothing, List.append_nil, pendingMessages,
            pendingMessages, Pipeline.recv_contents received, ← List.append_assoc]
          congr 1
          rw [List.filter_cons]
          by_cases own : message.wsId = wsId
          · simp [own]
          · simp [own]
      | handOver _ given =>
          rw [handOver_pendingMessages given]
          simp [takenMessages, sentMessages, openingMessage, clientMessages]
      | deliver _ given =>
          rw [handOver_pendingMessages given]
          exact keeps rfl rfl
      | _ => exact keeps rfl rfl

/-- The core takes the messages of a client in order, and what it has not taken
is on its way. -/
theorem run_messages (wsId : String) (runtime : DeviceRuntime) (actions : List TaskAction) :
    collected step (takenMessages wsId) (start runtime) actions ++
        (run step (start runtime) actions).pendingMessages wsId =
      collected step (sentMessages wsId) (start runtime) actions := by
  have always : Throughout step (start runtime) actions fun _ _ => True := by
    intro before action after split
    trivial
  exact collected_balanced (takenMessages wsId) (sentMessages wsId) (pendingMessages wsId)
    (fun _ => True) trivial (fun _ _ _ => trivial)
    (fun tasks action _ _ => messages_balanced wsId tasks action) always

theorem step_pageOf {wsId : String} (action : TaskAction)
    (absent : (tasks.step action).pageOf wsId = none) : tasks.pageOf wsId = none := by
  rcases step_cases tasks action with same | moved
  · rw [same] at absent
    exact absent
  · cases served : tasks.pageOf wsId with
    | none => rfl
    | some pageNum =>
        rw [taskStep_pageOf moved served] at absent
        cases absent

theorem clientMessages_absent {wsId : String} (absent : tasks.pageOf wsId = none)
    (action : TaskAction) : tasks.clientMessages wsId action = [] := by
  cases action <;> simp [clientMessages, absent]

/-- There is nothing of a client before its connection is there. -/
theorem collected_absent {Item : Type} {gives : DeviceTasks → TaskAction → List Item}
    {wsId : String} {runtime : DeviceRuntime} {actions : List TaskAction}
    (nothing : ∀ tasks : DeviceTasks, tasks.pageOf wsId = none → ∀ action, gives tasks action = [])
    (absent : (run step (start runtime) actions).pageOf wsId = none) :
    collected step gives (start runtime) actions = [] := by
  induction actions using List.reverseRecOn with
  | nil => rfl
  | append_singleton actions action ih =>
      rw [run_concat] at absent
      have before := step_pageOf action absent
      rw [collected_concat, ih before, nothing _ before, List.append_nil]

/-- What the connection of a client sends on its own. -/
def openingOf (wsId : String) (tasks : DeviceTasks) : List WsToWiMessage :=
  (tasks.pageOf wsId).toList.map fun pageNum => ⟨pageNum, wsId, [], false⟩

theorem openingOf_congr {wsId : String} (same : after.pageOf wsId = tasks.pageOf wsId) :
    after.openingOf wsId = tasks.openingOf wsId := by
  rw [openingOf, same, openingOf]

theorem step_openingOf (wsId : String) (tasks : DeviceTasks) (action : TaskAction) :
    (tasks.step action).openingOf wsId =
        tasks.openingOf wsId ++ tasks.openingMessage wsId action ∧
      (tasks.openingMessage wsId action = [] ∨ tasks.pageOf wsId = none) := by
  cases stepped : tasks.next action with
  | none =>
      have nothing : tasks.openingMessage wsId action = [] := by
        cases action <;> simp [openingMessage, stepped]
      rw [nothing, List.append_nil, step_stuck stepped]
      exact ⟨rfl, .inl rfl⟩
  | some after =>
      rw [step_moved stepped]
      have keeps {later : DeviceTasks} (same : later.pageOf wsId = tasks.pageOf wsId) :
          later.openingOf wsId = tasks.openingOf wsId ++ [] ∧
            (([] : List WsToWiMessage) = [] ∨ tasks.pageOf wsId = none) := by
        rw [List.append_nil]
        exact ⟨openingOf_congr same, .inl rfl⟩
      cases next_taskStep stepped with
      | @upgrade mover pageNum _ fresh =>
          have accepted : (tasks.next (.upgrade mover pageNum)).isSome := by
            rw [stepped]
            rfl
          by_cases own : mover = wsId
          · subst own
            have absent : tasks.pageOf mover = none := by
              rw [pageOf, AList.lookup_eq_none.mpr fresh]
              rfl
            refine ⟨?_, .inr absent⟩
            simp [openingOf, openingMessage, accepted, pageOf, AList.lookup_eq_none.mpr fresh]
          · have other : wsId ≠ mover := fun same => own same.symm
            simp [openingOf, openingMessage, pageOf, own, other]
      | acquire _ _ _ => exact keeps (pageOf_modify _ _ fun _ => rfl)
      | register _ _ _ => exact keeps (pageOf_modify _ _ fun _ => rfl)
      | put _ _ _ => exact keeps (pageOf_modify _ _ fun _ => rfl)
      | frame _ _ => exact keeps (pageOf_modify _ _ fun _ => rfl)
      | closeFrame _ _ => exact keeps (pageOf_modify _ _ fun _ => rfl)
      | socketFailed _ _ => exact keeps (pageOf_modify _ _ fun _ => rfl)
      | receive _ _ _ => exact keeps (pageOf_modify _ _ fun _ => rfl)
      | handOver _ given => exact keeps (handOver_pageOf given wsId)
      | deliver _ given => exact keeps (handOver_pageOf given wsId)
      | _ => exact keeps rfl

/-- The first message is the one that opens the session, and all others are the
client's. -/
theorem collected_sentMessages (wsId : String) (runtime : DeviceRuntime)
    (actions : List TaskAction) :
    collected step (sentMessages wsId) (start runtime) actions =
      (run step (start runtime) actions).openingOf wsId ++
        collected step (clientMessages wsId) (start runtime) actions := by
  induction actions using List.reverseRecOn with
  | nil => rfl
  | append_singleton actions action ih =>
      obtain ⟨opened, first⟩ := step_openingOf wsId (run step (start runtime) actions) action
      rw [collected_concat, collected_concat, run_concat, ih, opened, sentMessages]
      rcases first with none | absent
      · rw [none, List.append_nil, List.nil_append, List.append_assoc]
      · rw [collected_absent (fun tasks => clientMessages_absent) absent]
        simp

end DeviceTasks

end IosWebkitDebugProxy
