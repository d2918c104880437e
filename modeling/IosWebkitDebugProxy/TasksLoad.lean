import IosWebkitDebugProxy.ProxyRuns
import IosWebkitDebugProxy.TasksSteps

/-! How much is on its way from the connection handlers to the main loop: what
stands in a queue, and what a handler is about to put there. A task that waits
for room in such a queue can be freed only by the main loop once all places are
taken. -/

namespace IosWebkitDebugProxy

open Transition

def HandlerPhase.sends (isMessage : Bool) : HandlerPhase → Bool
  | sending (.message _ _) => isMessage
  | sending .registration => !isMessage
  | _ => false

namespace DeviceTasks

variable {tasks after : DeviceTasks}

def senders (isMessage : Bool) (tasks : DeviceTasks) : Nat :=
  tasks.handlers.values.countP fun handler => handler.phase.sends isMessage

def messageLoad (tasks : DeviceTasks) : Nat :=
  tasks.messages.contents.length + tasks.senders true

def registrationLoad (tasks : DeviceTasks) : Nat :=
  tasks.registrations.contents.length + tasks.senders false

/-- All places between a handler and the main loop: both queues and the one
message in the hand of the forwarding task. -/
def places : Nat := 64 + 256 + 1

def QueueStuck (tasks : DeviceTasks) : Outgoing → Prop
  | .registration => tasks.registrations.Stuck
  | .message _ _ => tasks.messages.Stuck

theorem senders_setPhase {wsId : String} {handler : WsHandler}
    (found : tasks.handlers.lookup wsId = some handler) (phase : HandlerPhase) (isMessage : Bool) :
    (tasks.setPhase wsId phase).senders isMessage +
        (if handler.phase.sends isMessage then 1 else 0) =
      tasks.senders isMessage + if phase.sends isMessage then 1 else 0 :=
  Table.countP_modify (fun handler : WsHandler => handler.phase.sends isMessage)
    (fun handler => { handler with phase }) found

theorem senders_same {wsId : String} {handler : WsHandler}
    (found : tasks.handlers.lookup wsId = some handler) {phase : HandlerPhase} {isMessage : Bool}
    (before : handler.phase.sends isMessage = false) (later : phase.sends isMessage = false) :
    (tasks.setPhase wsId phase).senders isMessage = tasks.senders isMessage := by
  have counted := senders_setPhase found phase isMessage
  simpa only [before, later, Bool.false_eq_true, if_false, Nat.add_zero] using counted

theorem senders_stop {wsId : String} {handler : WsHandler}
    (found : tasks.handlers.lookup wsId = some handler) {phase : HandlerPhase} {isMessage : Bool}
    (before : handler.phase.sends isMessage = true) (later : phase.sends isMessage = false) :
    (tasks.setPhase wsId phase).senders isMessage + 1 = tasks.senders isMessage := by
  have counted := senders_setPhase found phase isMessage
  simpa only [before, later, Bool.false_eq_true, if_true, if_false, Nat.add_zero] using counted

theorem senders_start {wsId : String} {handler : WsHandler}
    (found : tasks.handlers.lookup wsId = some handler) {phase : HandlerPhase} {isMessage : Bool}
    (before : handler.phase.sends isMessage = false) (later : phase.sends isMessage = true) :
    (tasks.setPhase wsId phase).senders isMessage = tasks.senders isMessage + 1 := by
  have counted := senders_setPhase found phase isMessage
  simpa only [before, later, Bool.false_eq_true, if_true, if_false, Nat.add_zero] using counted

theorem senders_setInbox {wsId : String} {handler : WsHandler}
    (found : tasks.handlers.lookup wsId = some handler) (inbox : Channel (List UInt8) 64)
    (isMessage : Bool) :
    (tasks.setInbox wsId inbox).senders isMessage = tasks.senders isMessage :=
  Nat.add_right_cancel (Table.countP_modify
    (fun handler : WsHandler => handler.phase.sends isMessage)
    (fun handler => { handler with inbox }) found)

@[simp] theorem wants_sends (outgoing : Outgoing) (isMessage : Bool) :
    (HandlerPhase.wants outgoing).sends isMessage = false := rfl

@[simp] theorem bridging_sends (isMessage : Bool) :
    HandlerPhase.bridging.sends isMessage = false := rfl

@[simp] theorem next_sends (outgoing : Outgoing) (isMessage : Bool) :
    outgoing.next.sends isMessage = false := by
  cases outgoing with
  | registration => rfl
  | message data isClose => cases isClose <;> rfl

theorem senders_pos {wsId : String} {handler : WsHandler}
    (found : tasks.handlers.lookup wsId = some handler) {isMessage : Bool}
    (sends : handler.phase.sends isMessage = true) : 0 < tasks.senders isMessage :=
  List.countP_pos_iff.mpr ⟨handler, Table.mem_values.mpr ⟨wsId, found⟩, sends⟩

theorem exists_sender {isMessage : Bool} (positive : 0 < tasks.senders isMessage) :
    ∃ wsId handler, tasks.handlers.lookup wsId = some handler ∧
      handler.phase.sends isMessage = true := by
  obtain ⟨handler, member, sends⟩ := List.countP_pos_iff.mp positive
  obtain ⟨wsId, found⟩ := Table.mem_values.mp member
  exact ⟨wsId, handler, found, sends⟩

theorem exists_messageSender (positive : 0 < tasks.senders true) :
    ∃ wsId handler data isClose, tasks.handlers.lookup wsId = some handler ∧
      handler.phase = .sending (.message data isClose) := by
  obtain ⟨wsId, handler, found, sends⟩ := exists_sender positive
  unfold HandlerPhase.sends at sends
  split at sends
  · rename_i data isClose sending
    exact ⟨wsId, handler, data, isClose, found, sending⟩
  · cases sends
  · cases sends

theorem exists_registering (positive : 0 < tasks.senders false) :
    ∃ wsId handler, tasks.handlers.lookup wsId = some handler ∧
      handler.phase = .sending .registration := by
  obtain ⟨wsId, handler, found, sends⟩ := exists_sender positive
  unfold HandlerPhase.sends at sends
  split at sends
  · cases sends
  · rename_i sending
    exact ⟨wsId, handler, found, sending⟩
  · cases sends

theorem writerWaits_eq_false (idle : tasks.main = .select) : tasks.writerWaits = false := by
  simp only [writerWaits, idle]

theorem taskStep_load {action : TaskAction} (moved : TaskStep tasks action after)
    (unlocked : ∀ wsId, action ≠ .acquire wsId) (busy : tasks.main ≠ .select) :
    after.messageLoad = tasks.messageLoad ∧ after.registrationLoad = tasks.registrationLoad := by
  have silent {changed : DeviceTasks}
      (same : ∀ isMessage, changed.senders isMessage = tasks.senders isMessage)
      (messages : changed.messages = tasks.messages)
      (registrations : changed.registrations = tasks.registrations) :
      changed.messageLoad = tasks.messageLoad ∧
        changed.registrationLoad = tasks.registrationLoad := by
    simp only [messageLoad, registrationLoad, same, messages, registrations, and_self]
  cases moved with
  | @upgrade wsId pageNum _ fresh =>
      refine silent ?_ rfl rfl
      intro isMessage
      simp only [senders, Table.values, AList.entries_insert_of_notMem fresh, List.map_cons,
        List.countP_cons, wants_sends]
      rfl
  | @acquire wsId _ _ _ _ _ => exact absurd rfl (unlocked wsId)
  | @register wsId handler registrations found sending sent =>
      have longer := congrArg List.length (Pipeline.send_contents sent).1
      rw [List.length_append, List.length_singleton] at longer
      have same : (tasks.setPhase wsId (.wants .setup)).senders true = tasks.senders true :=
        senders_same found (by simp [sending, HandlerPhase.sends]) rfl
      have fewer : (tasks.setPhase wsId (.wants .setup)).senders false + 1 = tasks.senders false :=
        senders_stop found (by simp [sending, HandlerPhase.sends]) rfl
      refine ⟨congrArg (tasks.messages.contents.length + ·) same, ?_⟩
      change registrations.contents.length + (tasks.setPhase wsId (.wants .setup)).senders false =
        tasks.registrations.contents.length + tasks.senders false
      omega
  | @put wsId handler data isClose messages found sending sent =>
      have longer := congrArg List.length (Pipeline.send_contents sent).1
      rw [List.length_append, List.length_singleton] at longer
      have same : (tasks.setPhase wsId (Outgoing.message data isClose).next).senders false =
          tasks.senders false :=
        senders_same found (by simp [sending, HandlerPhase.sends]) (by simp)
      have fewer : (tasks.setPhase wsId (Outgoing.message data isClose).next).senders true + 1 =
          tasks.senders true :=
        senders_stop found (by simp [sending, HandlerPhase.sends]) (by simp)
      refine ⟨?_, congrArg (tasks.registrations.contents.length + ·) same⟩
      change messages.contents.length +
        (tasks.setPhase wsId (Outgoing.message data isClose).next).senders true =
          tasks.messages.contents.length + tasks.senders true
      omega
  | frame found bridging =>
      exact silent (fun _ => senders_same found (by simp [bridging]) rfl) rfl rfl
  | closeFrame found bridging =>
      exact silent (fun _ => senders_same found (by simp [bridging]) rfl) rfl rfl
  | socketFailed found bridging =>
      exact silent (fun _ => senders_same found (by simp [bridging]) rfl) rfl rfl
  | receive found _ _ => exact silent (fun _ => senders_setInbox found _ _) rfl rfl
  | forwardMessage forwarded =>
      have same := congrArg List.length (Pipeline.forward_contents forwarded)
      exact ⟨congrArg (· + tasks.senders true) same, rfl⟩
  | forwardRegistration forwarded =>
      have same := congrArg List.length (Pipeline.forward_contents forwarded)
      exact ⟨rfl, congrArg (· + tasks.senders false) same⟩
  | takeMessage idle _ => exact absurd idle busy
  | takeRegistration idle _ => exact absurd idle busy
  | startWrite idle _ => exact absurd idle busy
  | handleRpc idle _ _ => exact absurd idle busy
  | handOver idle _ => exact absurd idle busy
  | awaitRoom idle _ => exact absurd idle busy
  | grantWrite _ _ => exact ⟨rfl, rfl⟩
  | deliver _ given =>
      rcases handOver_cases given with rfl | ⟨tx, handler, inbox, _, found, _, _, rfl⟩
      · exact ⟨rfl, rfl⟩
      · exact silent (fun _ => senders_setInbox found inbox _) rfl rfl

theorem pipeline_clogs {Item : Type} (pipe : DeviceTasks → Pipeline Item 64 256) (isMessage : Bool)
    (forwards : ∀ tasks forwarded, (pipe tasks).forward = some forwarded →
      ∃ action, pipe (tasks.step action) = forwarded ∧ (tasks.step action).main = tasks.main ∧
        (tasks.step action).senders isMessage = tasks.senders isMessage)
    (puts : ∀ tasks, 0 < tasks.senders isMessage → ¬(pipe tasks).entry.Full →
      ∃ action, (pipe (tasks.step action)).contents.length = (pipe tasks).contents.length + 1 ∧
        (tasks.step action).main = tasks.main ∧
        (tasks.step action).senders isMessage + 1 = tasks.senders isMessage)
    (crowded : places < (pipe tasks).contents.length + tasks.senders isMessage) :
    ∃ actions, (pipe (run step tasks actions)).Stuck ∧
      (run step tasks actions).main = tasks.main ∧
      0 < (run step tasks actions).senders isMessage := by
  have forwardsKeep : ∀ count state forwarded,
      (state.main = tasks.main ∧ state.senders isMessage = count) →
      (pipe state).forward = some forwarded → ∃ actions, pipe (run step state actions) = forwarded ∧
        (run step state actions).main = tasks.main ∧
        (run step state actions).senders isMessage = count := by
    intro count state forwarded keep moved
    obtain ⟨action, reached, main, same⟩ := forwards state forwarded moved
    exact ⟨[action], reached, main.trans keep.1, same.trans keep.2⟩
  have putsKeep : ∀ count state,
      (state.main = tasks.main ∧ state.senders isMessage = count + 1) →
      ¬(pipe state).entry.Full → ∃ actions,
        (pipe (run step state actions)).contents.length = (pipe state).contents.length + 1 ∧
        (run step state actions).main = tasks.main ∧
        (run step state actions).senders isMessage = count := by
    intro count state keep room
    obtain ⟨action, longer, main, fewer⟩ := puts state (by omega) room
    exact ⟨[action], longer, main.trans keep.1, Nat.add_right_cancel (fewer.trans keep.2)⟩
  obtain ⟨actions, rest, stuck, ⟨main, left⟩, total⟩ := Pipeline.clogs step pipe
    (fun count state => state.main = tasks.main ∧ state.senders isMessage = count)
    (by decide) forwardsKeep putsKeep ⟨rfl, rfl⟩ (by unfold places at crowded; omega)
  refine ⟨actions, stuck, main, ?_⟩
  unfold places at crowded
  omega

theorem messages_clog (crowded : places < tasks.messageLoad) :
    ∃ actions, (run step tasks actions).messages.Stuck ∧
      (run step tasks actions).main = tasks.main ∧
      0 < (run step tasks actions).senders true := by
  apply pipeline_clogs DeviceTasks.messages true _ _ crowded
  · intro tasks forwarded moved
    exact ⟨.forwardMessage, by simp [step, next, moved, senders]⟩
  · intro tasks positive room
    obtain ⟨wsId, handler, data, isClose, found, sending⟩ := exists_messageSender positive
    obtain ⟨messages, sent⟩ := Pipeline.exists_send room ⟨handler.pageNum, wsId, data, isClose⟩
    have moved : tasks.step (.put wsId) =
        { tasks.setPhase wsId (Outgoing.message data isClose).next with messages } := by
      simp [step, next, put, found, sending, sent]
    have longer := congrArg List.length (Pipeline.send_contents sent).1
    refine ⟨.put wsId, ?_⟩
    rw [moved]
    exact ⟨by simpa using longer, rfl,
      senders_stop found (by simp [sending, HandlerPhase.sends]) (by simp)⟩

theorem registrations_clog (crowded : places < tasks.registrationLoad) :
    ∃ actions, (run step tasks actions).registrations.Stuck ∧
      (run step tasks actions).main = tasks.main ∧
      0 < (run step tasks actions).senders false := by
  apply pipeline_clogs DeviceTasks.registrations false _ _ crowded
  · intro tasks forwarded moved
    exact ⟨.forwardRegistration, by simp [step, next, moved, senders]⟩
  · intro tasks positive room
    obtain ⟨wsId, handler, found, sending⟩ := exists_registering positive
    obtain ⟨registrations, sent⟩ := Pipeline.exists_send room ⟨handler.pageNum, wsId, ⟨wsId⟩⟩
    have moved : tasks.step (.put wsId) =
        { tasks.setPhase wsId Outgoing.registration.next with registrations } := by
      simp [step, next, put, found, sending, sent]
    have longer := congrArg List.length (Pipeline.send_contents sent).1
    refine ⟨.put wsId, ?_⟩
    rw [moved]
    exact ⟨by simpa using longer, rfl,
      senders_stop found (by simp [sending, HandlerPhase.sends]) (by simp)⟩

theorem readerHolds_of_sending {wsId : String} {handler : WsHandler} {outgoing : Outgoing}
    (found : tasks.handlers.lookup wsId = some handler)
    (sending : handler.phase = .sending outgoing) : tasks.readerHolds = true := by
  unfold readerHolds
  rw [List.any_eq_true]
  exact ⟨handler, Table.mem_values.mpr ⟨wsId, found⟩, by simp [sending]⟩

theorem taskStep_blocked {action : TaskAction} (moved : TaskStep tasks action after)
    {wsId : String} {handler : WsHandler} {outgoing : Outgoing}
    (found : tasks.handlers.lookup wsId = some handler)
    (sending : handler.phase = .sending outgoing) (stuck : tasks.QueueStuck outgoing)
    (busy : tasks.main ≠ .select)
    (full : ∀ destId data, tasks.main = .awaitRoom destId data →
      { tasks with main := .select }.handOver destId data = none) :
    after.handlers.lookup wsId = some handler ∧ after.QueueStuck outgoing ∧
      after.main = tasks.main ∧ after.runtime = tasks.runtime := by
  -- Whoever moves is not the handler that waits for room.
  have others {mover : String} {other : WsHandler} (update : WsHandler → WsHandler)
      (located : tasks.handlers.lookup mover = some other) (moves : other.phase ≠ handler.phase) :
      (tasks.handlers.modify mover update).lookup wsId = some handler := by
    have apart : wsId ≠ mover := by
      rintro rfl
      rw [found] at located
      cases located
      exact moves rfl
    simp [apart, found]
  cases moved with
  | @upgrade newId pageNum _ fresh =>
      have apart : wsId ≠ newId := by
        rintro rfl
        exact fresh (Table.mem_of_lookup found)
      exact ⟨by simp [apart, found], stuck, rfl, rfl⟩
  | acquire located wanted _ =>
      exact ⟨others _ located (by simp [wanted, sending]), stuck, rfl, rfl⟩
  | @register mover other registrations located registering sent =>
      have free := (Pipeline.send_contents sent).2
      cases outgoing with
      | registration => exact absurd stuck.1 free
      | message data isClose =>
          exact ⟨others _ located (by simp [registering, sending]), stuck, rfl, rfl⟩
  | @put mover other data isClose messages located putting sent =>
      have free := (Pipeline.send_contents sent).2
      cases outgoing with
      | message _ _ => exact absurd stuck.1 free
      | registration => exact ⟨others _ located (by simp [putting, sending]), stuck, rfl, rfl⟩
  | frame located bridging =>
      exact ⟨others _ located (by simp [bridging, sending]), stuck, rfl, rfl⟩
  | closeFrame located bridging =>
      exact ⟨others _ located (by simp [bridging, sending]), stuck, rfl, rfl⟩
  | socketFailed located bridging =>
      exact ⟨others _ located (by simp [bridging, sending]), stuck, rfl, rfl⟩
  | receive located bridging _ =>
      exact ⟨others _ located (by simp [bridging, sending]), stuck, rfl, rfl⟩
  | @forwardMessage messages forwarded =>
      have same := Pipeline.forward_contents forwarded
      cases outgoing with
      | registration => exact ⟨found, stuck, rfl, rfl⟩
      | message _ _ =>
          refine ⟨found, Pipeline.stuck_iff.mpr ?_, rfl, rfl⟩
          rw [same]
          exact Pipeline.stuck_iff.mp stuck
  | @forwardRegistration registrations forwarded =>
      have same := Pipeline.forward_contents forwarded
      cases outgoing with
      | message _ _ => exact ⟨found, stuck, rfl, rfl⟩
      | registration =>
          refine ⟨found, Pipeline.stuck_iff.mpr ?_, rfl, rfl⟩
          rw [same]
          exact Pipeline.stuck_iff.mp stuck
  | takeMessage idle _ => exact absurd idle busy
  | takeRegistration idle _ => exact absurd idle busy
  | startWrite idle _ => exact absurd idle busy
  | handleRpc idle _ _ => exact absurd idle busy
  | handOver idle _ => exact absurd idle busy
  | awaitRoom idle _ => exact absurd idle busy
  | grantWrite _ free =>
      rw [readerHolds_of_sending found sending] at free
      cases free
  | deliver waiting given =>
      rw [full _ _ waiting] at given
      cases given

structure Bridges (wsId : String) (handler : WsHandler) (runtime : DeviceRuntime)
    (tasks : DeviceTasks) : Prop where
  idle : tasks.main = .select
  runtime : tasks.runtime = runtime
  found : tasks.handlers.lookup wsId = some handler
  bridging : handler.phase = .bridging

theorem step_frame {wsId : String} {handler : WsHandler} {runtime : DeviceRuntime}
    (bridges : Bridges wsId handler runtime tasks) (data : List UInt8) :
    tasks.step (.frame wsId data) = tasks.setPhase wsId (.wants (.message data false)) := by
  simp [step, next, socketEvent, bridges.found, bridges.bridging]

theorem step_acquire {wsId : String} {handler : WsHandler} {outgoing : Outgoing}
    (found : tasks.handlers.lookup wsId = some handler) (wanted : handler.phase = .wants outgoing)
    (free : tasks.writerWaits = false) :
    tasks.step (.acquire wsId) = tasks.setPhase wsId (.sending outgoing) := by
  simp [step, next, acquire, found, wanted, free]

theorem run_frame_acquire {wsId : String} {handler : WsHandler} {runtime : DeviceRuntime}
    (bridges : Bridges wsId handler runtime tasks) (data : List UInt8) :
    ∃ held, run step tasks [.frame wsId data, .acquire wsId] = held ∧
      held.main = .select ∧ held.runtime = runtime ∧ held.messages = tasks.messages ∧
      held.handlers.lookup wsId = some { handler with phase := .sending (.message data false) } := by
  have wanted : (tasks.setPhase wsId (.wants (.message data false))).handlers.lookup wsId =
      some { handler with phase := .wants (.message data false) } := by
    simp [setPhase, bridges.found]
  refine ⟨_, rfl, ?_⟩
  simp only [run, List.foldl_cons, List.foldl_nil]
  rw [step_frame bridges, step_acquire wanted rfl (writerWaits_eq_false bridges.idle)]
  exact ⟨bridges.idle, bridges.runtime, rfl, by simp [setPhase, bridges.found]⟩

theorem run_frame {wsId : String} {handler : WsHandler} {runtime : DeviceRuntime}
    (bridges : Bridges wsId handler runtime tasks) (data : List UInt8)
    {messages : Pipeline WsToWiMessage 64 256}
    (sent : tasks.messages.send ⟨handler.pageNum, wsId, data, false⟩ = some messages) :
    (run step tasks ([.frame wsId data, .acquire wsId] ++ [.put wsId])).messages = messages ∧
      Bridges wsId handler runtime
        (run step tasks ([.frame wsId data, .acquire wsId] ++ [.put wsId])) := by
  obtain ⟨held, reached, idle, same, queue, found⟩ := run_frame_acquire bridges data
  rw [run_append, reached]
  rw [← queue] at sent
  have moved : run step held [.put wsId] =
      { held.setPhase wsId (Outgoing.message data false).next with messages } := by
    simp [run, step, next, put, found, sent]
  rw [moved]
  refine ⟨rfl, idle, same, ?_, bridges.bridging⟩
  obtain ⟨pageNum, phase, inbox⟩ := handler
  have bridging : phase = .bridging := bridges.bridging
  simp [setPhase, found, bridging, Outgoing.next]

theorem fills {wsId : String} {handler : WsHandler} {runtime : DeviceRuntime}
    (bridges : Bridges wsId handler runtime tasks) :
    ∃ actions, (run step tasks actions).messages.Stuck ∧
      Bridges wsId handler runtime (run step tasks actions) := by
  have forwardsKeep : ∀ (count : Nat) (state : DeviceTasks) forwarded,
      Bridges wsId handler runtime state → state.messages.forward = some forwarded →
      ∃ actions, (run step state actions).messages = forwarded ∧
        Bridges wsId handler runtime (run step state actions) := by
    intro _ state forwarded keep moved
    refine ⟨[.forwardMessage], ?_⟩
    have reached : run step state [.forwardMessage] = { state with messages := forwarded } := by
      simp [run, step, next, moved]
    rw [reached]
    exact ⟨rfl, keep.idle, keep.runtime, keep.found, keep.bridging⟩
  have putsKeep : ∀ (count : Nat) (state : DeviceTasks), Bridges wsId handler runtime state →
      ¬state.messages.entry.Full → ∃ actions,
        (run step state actions).messages.contents.length = state.messages.contents.length + 1 ∧
        Bridges wsId handler runtime (run step state actions) := by
    intro _ state keep room
    obtain ⟨messages, sent⟩ := Pipeline.exists_send room ⟨handler.pageNum, wsId, [123, 125], false⟩
    obtain ⟨reached, still⟩ := run_frame keep [123, 125] sent
    refine ⟨_, ?_, still⟩
    rw [reached, (Pipeline.send_contents sent).1, List.length_append, List.length_singleton]
  obtain ⟨actions, _, stuck, still, _⟩ := Pipeline.clogs step DeviceTasks.messages
    (fun _ => Bridges wsId handler runtime) (by decide) forwardsKeep putsKeep bridges
    (Nat.le_add_left places tasks.messages.contents.length)
  exact ⟨actions, stuck, still⟩

def connected : List TaskAction :=
  [.takeRpc (.applicationSentListing "PID:1" [⟨1, .webPage, none, some "Start", none⟩]),
    .grantWrite, .upgrade "A" 1, .acquire "A", .put "A", .acquire "A", .put "A"]

theorem connected_bridges :
    ∃ handler, Bridges "A" handler (run step (start phoneRuntime) connected).runtime
      (run step (start phoneRuntime) connected) := by
  have idle : (run step (start phoneRuntime) connected).main = .select := by decide
  have phase : ((run step (start phoneRuntime) connected).handlers.lookup "A").map
      WsHandler.phase = some .bridging := by decide
  obtain ⟨handler, found, bridging⟩ := Option.map_eq_some_iff.mp phase
  exact ⟨handler, idle, rfl, found, bridging⟩

end DeviceTasks

end IosWebkitDebugProxy
