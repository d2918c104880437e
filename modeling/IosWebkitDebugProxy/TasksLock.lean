import IosWebkitDebugProxy.TasksLoad

/-! The lock of the shared state and the queues to the core. A handler keeps the
lock for reading while it waits for room in a queue, and the main loop empties
that queue only when it is not waiting to write. -/

namespace IosWebkitDebugProxy

open Transition

namespace DeviceTasks

variable {tasks after : DeviceTasks}

/-- The main loop waits to write while a handler holds the lock for reading and
waits for room that only the main loop can make. -/
def LockDeadlock (tasks : DeviceTasks) : Prop :=
  tasks.writerWaits = true ∧ ∃ wsId handler outgoing,
    tasks.handlers.lookup wsId = some handler ∧ handler.phase = .sending outgoing ∧
      tasks.QueueStuck outgoing

/-- A message that makes the main loop wait to write is taken only while
everything that handlers are about to send finds a place. -/
def RoomForReaders (tasks : DeviceTasks) (action : TaskAction) : Prop :=
  ∀ message, action = .takeRpc message → tasks.main = .select →
    tasks.runtime.needsWrite message = true →
    tasks.messageLoad ≤ places ∧ tasks.registrationLoad ≤ places

theorem writerWaits_congr {other : DeviceTasks} (same : tasks.main = other.main) :
    tasks.writerWaits = other.writerWaits := by
  simp only [writerWaits, same]

def WriterHasRoom (tasks : DeviceTasks) : Prop :=
  tasks.writerWaits = true → tasks.messageLoad ≤ places ∧ tasks.registrationLoad ≤ places

theorem step_writerHasRoom {action : TaskAction} (roomy : tasks.WriterHasRoom)
    (allowed : tasks.RoomForReaders action) : (tasks.step action).WriterHasRoom := by
  unfold step
  cases moved : tasks.next action with
  | none => exact roomy
  | some after =>
      intro waiting
      have stepped := next_taskStep moved
      simp only [Option.getD_some] at waiting ⊢
      rcases taskStep_main stepped with same | idle | ⟨message, rfl, idle, writes, rfl⟩ |
        ⟨_, _, _, _, _, _, rfl⟩
      · have before : tasks.writerWaits = true := by
          rw [← waiting]
          simp only [writerWaits, same]
        have busy : tasks.main ≠ .select := by
          intro idle
          rw [writerWaits_eq_false idle] at before
          cases before
        have unlocked : ∀ wsId, action ≠ .acquire wsId := by
          rintro wsId rfl
          cases stepped with
          | acquire _ _ free =>
              rw [free] at before
              cases before
        obtain ⟨messages, registrations⟩ := taskStep_load stepped unlocked busy
        rw [messages, registrations]
        exact roomy before
      · rw [writerWaits_eq_false idle] at waiting
        cases waiting
      · exact allowed message rfl idle writes
      · cases waiting

theorem sends_of_sending {handler : WsHandler} {outgoing : Outgoing}
    (sending : handler.phase = .sending outgoing) :
    handler.phase.sends (match outgoing with
      | .registration => false
      | .message _ _ => true) = true := by
  cases outgoing <;> simp [sending, HandlerPhase.sends]

theorem not_lockDeadlock (roomy : tasks.WriterHasRoom) : ¬tasks.LockDeadlock := by
  rintro ⟨waiting, wsId, handler, outgoing, found, sending, stuck⟩
  obtain ⟨messages, registrations⟩ := roomy waiting
  have positive := senders_pos found (sends_of_sending sending)
  cases outgoing with
  | registration =>
      have full := Pipeline.stuck_iff.mp stuck
      simp only [registrationLoad, places] at registrations
      simp only at positive
      omega
  | message data isClose =>
      have full := Pipeline.stuck_iff.mp stuck
      simp only [messageLoad, places] at messages
      simp only at positive
      omega

/-- No step of any task leads out of a deadlock. -/
theorem lockDeadlock_step (locked : tasks.LockDeadlock) (action : TaskAction) :
    (tasks.step action).LockDeadlock := by
  unfold step
  cases moved : tasks.next action with
  | none => exact locked
  | some after =>
      obtain ⟨waiting, wsId, handler, outgoing, found, sending, stuck⟩ := locked
      have busy : tasks.main ≠ .select := by
        intro idle
        rw [writerWaits_eq_false idle] at waiting
        cases waiting
      have full : ∀ destId data, tasks.main = .awaitRoom destId data →
          { tasks with main := .select }.handOver destId data = none := by
        intro destId data roomless
        simp only [writerWaits, roomless] at waiting
        cases waiting
      obtain ⟨stays, clogged, main, _⟩ :=
        taskStep_blocked (next_taskStep moved) found sending stuck busy full
      exact ⟨(writerWaits_congr main).trans waiting, wsId, handler, outgoing, stays, sending,
        clogged⟩

theorem exists_lockDeadlock (tasks : DeviceTasks) (waiting : tasks.writerWaits = true)
    (crowded : ¬(tasks.messageLoad ≤ places ∧ tasks.registrationLoad ≤ places)) :
    ∃ actions, (run step tasks actions).LockDeadlock := by
  by_cases messages : tasks.messageLoad ≤ places
  · have registrations : places < tasks.registrationLoad := by
      by_contra fits
      exact crowded ⟨messages, Nat.le_of_not_lt fits⟩
    obtain ⟨actions, stuck, main, positive⟩ := registrations_clog registrations
    obtain ⟨wsId, handler, found, sending⟩ := exists_registering positive
    exact ⟨actions, (writerWaits_congr main).trans waiting, wsId, handler, _, found, sending, stuck⟩
  · obtain ⟨actions, stuck, main, positive⟩ := messages_clog (Nat.lt_of_not_le messages)
    obtain ⟨wsId, handler, data, isClose, found, sending⟩ := exists_messageSender positive
    exact ⟨actions, (writerWaits_congr main).trans waiting, wsId, handler, _, found, sending, stuck⟩

/-- A run in which the main loop starts to wait to write only when there is room
for everything that is to be sent never locks up. Where it starts to wait
without that room, some continuation does. -/
theorem run_lockDeadlock (runtime : DeviceRuntime) :
    (∀ actions, Throughout step (start runtime) actions RoomForReaders →
      ¬(run step (start runtime) actions).LockDeadlock) ∧
    ∀ actions action, ¬(run step (start runtime) actions).RoomForReaders action →
      ∃ later, (run step (start runtime) (actions ++ action :: later)).LockDeadlock := by
  constructor
  · intro actions allowed
    apply not_lockDeadlock
    apply run_invariant_throughout WriterHasRoom _ _ allowed
    · intro waiting
      cases waiting
    · intro tasks action roomy permitted
      exact step_writerHasRoom roomy permitted
  · intro actions action violated
    simp only [RoomForReaders, not_forall] at violated
    obtain ⟨message, rfl, idle, writes, crowded⟩ := violated
    generalize reached : run step (start runtime) actions = tasks at idle writes crowded
    have moved : tasks.step (.takeRpc message) = { tasks with main := .awaitWrite message } := by
      simp [step, next, idle, takeRpc, writes]
    obtain ⟨later, locked⟩ :=
      exists_lockDeadlock { tasks with main := .awaitWrite message } rfl crowded
    refine ⟨later, ?_⟩
    rw [run_append, reached]
    simp only [run, List.foldl_cons, moved]
    exact locked

/-- A client has written more frames than there are places when the next page
listing arrives. -/
theorem listing_locks_up :
    ¬∀ runtime actions, ¬(run step (start runtime) actions).LockDeadlock := by
  intro safe
  obtain ⟨handler, bridges⟩ := connected_bridges
  obtain ⟨filling, stuck, still⟩ := fills bridges
  obtain ⟨held, reached, idle, _, queue, found⟩ := run_frame_acquire still [123, 125]
  apply safe phoneRuntime (connected ++ (filling ++ ([.frame "A" [123, 125], .acquire "A"] ++
    [.takeRpc (.applicationSentListing "PID:1" [])])))
  rw [run_append, run_append, run_append, reached]
  have moved : run step held [.takeRpc (.applicationSentListing "PID:1" [])] =
      { held with main := .awaitWrite (.applicationSentListing "PID:1" []) } := by
    simp [run, step, next, idle, takeRpc, DeviceRuntime.needsWrite]
  rw [moved]
  refine ⟨rfl, "A", _, _, found, rfl, ?_⟩
  change held.messages.Stuck
  rw [queue]
  exact stuck

end DeviceTasks

end IosWebkitDebugProxy
