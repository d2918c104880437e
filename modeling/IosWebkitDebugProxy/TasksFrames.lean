import IosWebkitDebugProxy.TasksMessages

/-! The way of the frames of a client to the device. Whatever the other tasks
do, the frames that a client sent are those that were relayed, then those in
the queues, then the one that its handler holds. -/

namespace IosWebkitDebugProxy

open Transition

def RpcCommand.socketData : RpcCommand → Option (List UInt8)
  | .forwardSocketData _ _ _ data => some data
  | _ => none

def Outgoing.frames : Outgoing → List (List UInt8)
  | .message data false => if data.isEmpty then [] else [data]
  | _ => []

def HandlerPhase.frames : HandlerPhase → List (List UInt8)
  | .wants outgoing => outgoing.frames
  | .sending outgoing => outgoing.frames
  | _ => []

def WsToWiMessage.frames (message : WsToWiMessage) : List (List UInt8) :=
  (Outgoing.message message.data message.isClose).frames

namespace DeviceTasks

variable {tasks after : DeviceTasks}

def sentFrames (wsId : String) (tasks : DeviceTasks) : TaskAction → List (List UInt8)
  | .frame mover data =>
      if mover = wsId ∧ (tasks.next (.frame mover data)).isSome then
        (Outgoing.message data false).frames
      else []
  | _ => []

def relayedFrames (wsId : String) (tasks : DeviceTasks) : TaskAction → List (List UInt8)
  | .takeMessage =>
      match tasks.messages.recv with
      | some (message, _) =>
          if message.wsId = wsId then
            ((tasks.step .takeMessage).runtime.written.drop
              tasks.runtime.written.length).filterMap RpcCommand.socketData
          else []
      | none => []
  | _ => []

def queuedFrames (wsId : String) (messages : List WsToWiMessage) : List (List UInt8) :=
  messages.flatMap fun message => if message.wsId = wsId then message.frames else []

def heldFrames (wsId : String) (tasks : DeviceTasks) : List (List UInt8) :=
  ((tasks.handlers.lookup wsId).map fun handler => handler.phase.frames).getD []

def pendingFrames (wsId : String) (tasks : DeviceTasks) : List (List UInt8) :=
  queuedFrames wsId tasks.messages.contents ++ tasks.heldFrames wsId

/-- The page of the client is in the table, and what is sent on can be written. -/
def PageServed (wsId : String) (tasks : DeviceTasks) : Prop :=
  ∀ pageNum, tasks.pageOf wsId = some pageNum →
    pageNum ∈ tasks.runtime.pages ∧ tasks.runtime.canSend

instance (wsId : String) (tasks : DeviceTasks) : Decidable (tasks.PageServed wsId) :=
  match held : tasks.pageOf wsId with
  | none => .isTrue (by simp [PageServed, held])
  | some pageNum =>
      decidable_of_iff (pageNum ∈ tasks.runtime.pages ∧ tasks.runtime.canSend)
        (by simp [PageServed, held])

theorem queuedFrames_eq (wsId : String) (messages : List WsToWiMessage) :
    queuedFrames wsId messages =
      (messages.filter fun message => message.wsId == wsId).flatMap WsToWiMessage.frames := by
  induction messages with
  | nil => rfl
  | cons message messages ih =>
      rw [queuedFrames, List.flatMap_cons, ← queuedFrames, ih, List.filter_cons]
      by_cases own : message.wsId = wsId
      · simp [own]
      · simp [own]

theorem announced_frames (pageNum : Nat) (wsId : String) (phase : HandlerPhase) :
    (phase.announced pageNum wsId).flatMap WsToWiMessage.frames = phase.frames := by
  cases phase with
  | wants outgoing => cases outgoing <;> exact List.append_nil _
  | sending outgoing => cases outgoing <;> exact List.append_nil _
  | _ => rfl

theorem pendingFrames_eq (wsId : String) (tasks : DeviceTasks) :
    tasks.pendingFrames wsId = (tasks.pendingMessages wsId).flatMap WsToWiMessage.frames := by
  rw [pendingFrames, pendingMessages, List.flatMap_append, queuedFrames_eq, heldFrames,
    heldMessages]
  cases tasks.handlers.lookup wsId with
  | none => rfl
  | some handler =>
      exact congrArg (_ ++ ·) (announced_frames handler.pageNum wsId handler.phase).symm

theorem sentBy_frames {runtime : DeviceRuntime} (paged : DeviceRuntime.Paged runtime)
    (ready : runtime.canSend) {message : WsToWiMessage} (listed : message.pageNum ∈ runtime.pages) :
    (runtime.sentBy (.wsMessage message)).filterMap RpcCommand.socketData = message.frames := by
  by_cases control : message.isClose ∨ message.data = []
  · have quiet : (runtime.sentBy (.wsMessage message)).filterMap RpcCommand.socketData = [] := by
      rw [List.filterMap_eq_nil_iff]
      intro command member
      have other := DeviceRuntime.sentBy_control control command member
      cases command with
      | forwardSocketData appId pageId sender data => exact absurd rfl (other _ _ _ _)
      | _ => rfl
    have empty : message.frames = [] := by
      unfold WsToWiMessage.frames Outgoing.frames
      rcases control with close | nothing
      · rw [close]
      · rw [nothing]
        cases message.isClose <;> rfl
    rw [quiet, empty]
  · obtain ⟨live, frame⟩ := not_or.mp control
    rw [Bool.not_eq_true] at live
    obtain ⟨page, found⟩ := Table.exists_lookup listed
    rw [DeviceRuntime.sentBy_data paged.table live frame, found]
    simp [ready, RpcCommand.socketData, WsToWiMessage.frames, Outgoing.frames, live, frame]

theorem relayedFrames_idle {wsId : String} {action : TaskAction}
    (same : tasks.step action = tasks) : tasks.relayedFrames wsId action = [] := by
  unfold relayedFrames
  split
  · split
    · rw [same]
      simp
    · rfl
  · rfl

theorem sentFrames_eq (wsId : String) (tasks : DeviceTasks) (action : TaskAction) :
    tasks.sentFrames wsId action =
      (tasks.sentMessages wsId action).flatMap WsToWiMessage.frames := by
  cases stepped : tasks.next action with
  | none =>
      rw [sentMessages_idle stepped]
      cases action <;> simp [sentFrames, stepped]
  | some after =>
      cases next_taskStep stepped with
      | @upgrade mover pageNum _ _ =>
          by_cases own : mover = wsId
          · simp [sentFrames, sentMessages, openingMessage, clientMessages, own,
              WsToWiMessage.frames, Outgoing.frames]
          · simp [sentFrames, sentMessages, openingMessage, clientMessages, own]
      | @frame mover handler data found bridging =>
          rw [frame_sentMessages found bridging]
          simp only [sentFrames, stepped, Option.isSome_some, and_true]
          split
          · exact (List.append_nil _).symm
          · rfl
      | @closeFrame mover handler found bridging =>
          rw [closeFrame_sentMessages found bridging]
          simp only [sentFrames]
          split <;> rfl
      | _ => rfl

theorem relayedFrames_taken (addressed : tasks.Addressed) {wsId : String}
    (served : tasks.PageServed wsId) (idle : tasks.main = .select) {message : WsToWiMessage}
    {messages : Pipeline WsToWiMessage 64 256}
    (received : tasks.messages.recv = some (message, messages)) :
    tasks.relayedFrames wsId .takeMessage = if message.wsId = wsId then message.frames else [] := by
  have handled : (tasks.step .takeMessage).runtime = tasks.runtime.handleWsMessage message := by
    simp [step, next, idle, received]
  simp only [relayedFrames, received, handled]
  split
  · rename_i own
    have member : message ∈ tasks.messages.contents := by
      rw [Pipeline.recv_contents received]
      exact List.mem_cons_self
    have page := addressed.messages message member
    rw [own] at page
    obtain ⟨listed, ready⟩ := served message.pageNum page
    exact sentBy_frames addressed.paged ready listed
  · rfl

theorem relayedFrames_eq (addressed : tasks.Addressed) {wsId : String}
    (served : tasks.PageServed wsId) (action : TaskAction) :
    tasks.relayedFrames wsId action =
      (tasks.takenMessages wsId action).flatMap WsToWiMessage.frames := by
  cases stepped : tasks.next action with
  | none =>
      rw [relayedFrames_idle (step_stuck stepped), takenMessages_idle stepped]
      rfl
  | some after =>
      cases next_taskStep stepped with
      | takeMessage idle received =>
          rw [relayedFrames_taken addressed served idle received, takenMessages_eq idle received]
          split
          · exact (List.append_nil _).symm
          · rfl
      | _ => rfl

theorem frames_balanced (addressed : tasks.Addressed) {wsId : String}
    (served : tasks.PageServed wsId) (action : TaskAction) :
    tasks.relayedFrames wsId action ++ (tasks.step action).pendingFrames wsId =
      tasks.pendingFrames wsId ++ tasks.sentFrames wsId action := by
  rw [relayedFrames_eq addressed served, pendingFrames_eq, pendingFrames_eq, sentFrames_eq,
    ← List.flatMap_append, ← List.flatMap_append, messages_balanced]

theorem run_frames {start : DeviceTasks} (addressed : start.Addressed) {wsId : String}
    {actions : List TaskAction}
    (served : Throughout step start actions fun tasks _ => tasks.PageServed wsId) :
    collected step (relayedFrames wsId) start actions ++
        (run step start actions).pendingFrames wsId =
      start.pendingFrames wsId ++ collected step (sentFrames wsId) start actions := by
  exact collected_balanced (relayedFrames wsId) (sentFrames wsId) (pendingFrames wsId) Addressed
    addressed (fun _ action kept => step_addressed kept action)
    (fun _ action kept served => frames_balanced kept served action) served

end DeviceTasks

end IosWebkitDebugProxy
