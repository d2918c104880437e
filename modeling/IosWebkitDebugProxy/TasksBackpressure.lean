import IosWebkitDebugProxy.TasksLoad

/-! Back-pressure in both directions. The main loop waits for room in the queue
of a client, whose handler alone empties it, while that handler waits for room
in the queues to the main loop. -/

namespace IosWebkitDebugProxy

open Transition

namespace DeviceTasks

variable {tasks after : DeviceTasks}

def awaitedClient (tasks : DeviceTasks) : Option String :=
  match tasks.main with
  | .awaitRoom destId _ => (tasks.runtime.wsClientTxs.lookup destId).map WiMsgTx.owner
  | _ => none

def Clogged (tasks : DeviceTasks) (wsId : String) : Prop :=
  ∃ handler data isClose, tasks.handlers.lookup wsId = some handler ∧ handler.inbox.Full ∧
    handler.phase = .sending (.message data isClose)

/-- The main loop waits for a client that waits for the main loop. -/
def BackpressureDeadlock (tasks : DeviceTasks) : Prop :=
  ∃ wsId, tasks.awaitedClient = some wsId ∧ tasks.Clogged wsId ∧ tasks.messages.Stuck

/-- A reply is not waited with, and no message is started while one is waited
with, unless everything that handlers are about to send finds a place, where
the client in question is itself about to send. -/
structure RoomForReplies (tasks : DeviceTasks) (action : TaskAction) : Prop where
  reply : ∀ appId destId data tx, action = .takeRpc (.applicationSentData appId destId data) →
    tasks.main = .select → tasks.runtime.wsClientTxs.lookup destId = some tx →
    tasks.Clogged tx.owner → tasks.messageLoad ≤ places
  message : ∀ mover handler data isClose wsId client, action = .acquire mover →
    tasks.handlers.lookup mover = some handler → handler.phase = .wants (.message data isClose) →
    tasks.awaitedClient = some wsId → tasks.handlers.lookup wsId = some client →
    client.inbox.Full → mover = wsId ∨ tasks.Clogged wsId → tasks.messageLoad < places

/-- Whenever the main loop waits for a client that is about to send, everything
that is about to be sent finds a place. -/
def RepliesHaveRoom (tasks : DeviceTasks) : Prop :=
  ∀ wsId, tasks.awaitedClient = some wsId → tasks.Clogged wsId → tasks.messageLoad ≤ places

theorem not_backpressureDeadlock (roomy : tasks.RepliesHaveRoom) : ¬tasks.BackpressureDeadlock := by
  rintro ⟨wsId, awaited, clogged, stuck⟩
  have bound := roomy wsId awaited clogged
  obtain ⟨handler, data, isClose, found, _, sending⟩ := clogged
  have positive : 0 < tasks.senders true :=
    senders_pos found (by simp [sending, HandlerPhase.sends])
  have full := Pipeline.stuck_iff.mp stuck
  simp only [messageLoad, places] at bound
  omega

theorem awaitedClient_of_select (idle : tasks.main = .select) : tasks.awaitedClient = none := by
  simp only [awaitedClient, idle]

theorem taskStep_clogged {action : TaskAction} (moved : TaskStep tasks action after)
    (busy : tasks.main ≠ .select) (still : after.main ≠ .select) {wsId : String}
    (clogged : after.Clogged wsId) (unlocked : action ≠ .acquire wsId) : tasks.Clogged wsId := by
  obtain ⟨handler, data, isClose, found, full, sending⟩ := clogged
  have earlier {mover : String} {phase : HandlerPhase}
      (quiet : mover = wsId → phase ≠ .sending (.message data isClose))
      (located : (tasks.handlers.modify mover fun handler => { handler with phase }).lookup wsId =
        some handler) : tasks.Clogged wsId := by
    rcases Table.lookup_of_modify located with ⟨here, old, _, rfl⟩ | ⟨_, located⟩
    · exact absurd sending (quiet here.symm)
    · exact ⟨handler, data, isClose, located, full, sending⟩
  cases moved with
  | @upgrade newId pageNum _ fresh =>
      by_cases here : wsId = newId
      · subst here
        simp only [AList.lookup_insert, Option.some.injEq] at found
        subst found
        cases sending
      · simp only [ne_eq, here, not_false_eq_true, AList.lookup_insert_ne] at found
        exact ⟨handler, data, isClose, found, full, sending⟩
  | @acquire mover _ _ _ _ _ =>
      refine earlier ?_ found
      rintro rfl
      exact absurd rfl unlocked
  | register _ _ _ => exact earlier (by simp) found
  | @put mover _ _ closing _ _ _ _ =>
      refine earlier ?_ found
      intro _
      cases closing <;> simp [Outgoing.next]
  | frame _ _ => exact earlier (by simp) found
  | closeFrame _ _ => exact earlier (by simp) found
  | socketFailed _ _ => exact earlier (by simp) found
  | @receive mover other _ inbox located bridging _ =>
      simp only [setInbox, Table.lookup_modify] at found
      split at found
      · rename_i here
        subst here
        rw [located, Option.map_some, Option.some.injEq] at found
        subst found
        rw [bridging] at sending
        cases sending
      · exact ⟨handler, data, isClose, found, full, sending⟩
  | forwardMessage _ => exact ⟨handler, data, isClose, found, full, sending⟩
  | forwardRegistration _ => exact ⟨handler, data, isClose, found, full, sending⟩
  | takeMessage idle _ => exact absurd idle busy
  | takeRegistration idle _ => exact absurd idle busy
  | startWrite idle _ => exact absurd idle busy
  | handleRpc idle _ _ => exact absurd idle busy
  | handOver idle _ => exact absurd idle busy
  | awaitRoom idle _ => exact absurd idle busy
  | grantWrite _ _ => exact absurd rfl still
  | deliver _ given => exact absurd (handOver_main given) still

theorem awaitedClient_congr (main : after.main = tasks.main) (runtime : after.runtime = tasks.runtime) :
    after.awaitedClient = tasks.awaitedClient := by
  simp only [awaitedClient, main, runtime]

theorem busy_of_awaitedClient {wsId : String} (awaited : tasks.awaitedClient = some wsId) :
    tasks.main ≠ .select := by
  intro idle
  rw [awaitedClient_of_select idle] at awaited
  cases awaited

theorem acquire_repliesHaveRoom (roomy : tasks.RepliesHaveRoom) {mover : String}
    {handler : WsHandler} {outgoing : Outgoing}
    (allowed : tasks.RoomForReplies (.acquire mover))
    (found : tasks.handlers.lookup mover = some handler) (wanted : handler.phase = .wants outgoing)
    (free : tasks.writerWaits = false) :
    (tasks.setPhase mover (.sending outgoing)).RepliesHaveRoom := by
  intro wsId awaited clogged
  change tasks.awaitedClient = some wsId at awaited
  have busy := busy_of_awaitedClient awaited
  have stepped : TaskStep tasks (.acquire mover) (tasks.setPhase mover (.sending outgoing)) :=
    .acquire found wanted free
  have before (other : mover ≠ wsId) : tasks.Clogged wsId :=
    taskStep_clogged stepped busy busy clogged (by simpa using other)
  cases outgoing with
  | registration =>
      have other : mover ≠ wsId := by
        rintro rfl
        obtain ⟨_, _, _, located, _, sending⟩ := clogged
        simp only [setPhase, Table.lookup_modify, if_true, found, Option.map_some,
          Option.some.injEq] at located
        subst located
        cases sending
      have same : (tasks.setPhase mover (.sending .registration)).senders true =
          tasks.senders true := senders_same found (by simp [wanted]) rfl
      have bound := roomy wsId awaited (before other)
      unfold messageLoad at bound ⊢
      rw [same]
      exact bound
  | message data isClose =>
      have more : (tasks.setPhase mover (.sending (.message data isClose))).senders true =
          tasks.senders true + 1 := senders_start found (by simp [wanted]) rfl
      have bound : tasks.messageLoad < places := by
        by_cases own : mover = wsId
        · subst own
          obtain ⟨client, _, _, located, full, _⟩ := clogged
          simp only [setPhase, Table.lookup_modify, if_true, found, Option.map_some,
            Option.some.injEq] at located
          subst located
          exact allowed.message mover handler data isClose mover handler rfl found wanted awaited
            found full (.inl rfl)
        · have clogged := before own
          obtain ⟨client, _, _, located, full, _⟩ := before own
          exact allowed.message mover handler data isClose wsId client rfl found wanted awaited
            located full (.inr clogged)
      change tasks.messages.contents.length +
        (tasks.setPhase mover (.sending (.message data isClose))).senders true ≤ places
      unfold messageLoad at bound
      omega

theorem step_repliesHaveRoom {action : TaskAction} (roomy : tasks.RepliesHaveRoom)
    (allowed : tasks.RoomForReplies action) : (tasks.step action).RepliesHaveRoom := by
  unfold step
  cases moved : tasks.next action with
  | none => exact roomy
  | some after =>
      have stepped := next_taskStep moved
      intro wsId awaited clogged
      simp only [Option.getD_some] at awaited clogged ⊢
      have still := busy_of_awaitedClient awaited
      by_cases idle : tasks.main = .select
      · rcases taskStep_main stepped with same | idle | ⟨_, _, _, _, rfl⟩ |
          ⟨appId, destId, data, rfl, _, _, rfl⟩
        · exact absurd (same.trans idle) still
        · exact absurd idle still
        · cases awaited
        · obtain ⟨tx, registered, rfl⟩ := Option.map_eq_some_iff.mp awaited
          exact allowed.reply appId destId data tx rfl idle registered clogged
      · obtain ⟨main, runtime⟩ := taskStep_busy stepped idle still
        rw [awaitedClient_congr main runtime] at awaited
        by_cases locking : ∃ mover, action = .acquire mover
        · obtain ⟨mover, rfl⟩ := locking
          cases stepped with
          | acquire found wanted free =>
              exact acquire_repliesHaveRoom roomy allowed found wanted free wsId awaited clogged
        · have unlocked : ∀ mover, action ≠ .acquire mover := by
            rintro mover rfl
            exact locking ⟨mover, rfl⟩
          rw [(taskStep_load stepped unlocked idle).1]
          exact roomy wsId awaited
            (taskStep_clogged stepped idle still clogged (unlocked wsId))

theorem exists_otherSender {wsId : String} {handler : WsHandler}
    (found : tasks.handlers.lookup wsId = some handler)
    (sends : handler.phase.sends true = true) (many : 1 < tasks.senders true) :
    ∃ mover other data isClose, tasks.handlers.lookup mover = some other ∧
      other.phase = .sending (.message data isClose) ∧ wsId ≠ mover := by
  have fewer : (tasks.setPhase wsId .bridging).senders true + 1 = tasks.senders true :=
    senders_stop found sends rfl
  have positive : 0 < (tasks.setPhase wsId .bridging).senders true := by omega
  obtain ⟨mover, other, data, isClose, located, sending⟩ := exists_messageSender positive
  simp only [setPhase, Table.lookup_modify] at located
  split at located
  · obtain ⟨old, _, rfl⟩ := Option.map_eq_some_iff.mp located
    cases sending
  · rename_i apart
    exact ⟨mover, other, data, isClose, located, sending, fun same => apart same.symm⟩

theorem exists_backpressureDeadlock {wsId : String} (awaited : tasks.awaitedClient = some wsId)
    (clogged : tasks.Clogged wsId) (crowded : places < tasks.messageLoad) :
    ∃ actions, (run step tasks actions).BackpressureDeadlock := by
  obtain ⟨handler, data, isClose, found, full, sending⟩ := clogged
  have sends : handler.phase.sends true = true := by simp [sending, HandlerPhase.sends]
  have forwardsKeep : ∀ count (state : DeviceTasks) forwarded,
      (state.main = tasks.main ∧ state.runtime = tasks.runtime ∧
        state.handlers.lookup wsId = some handler ∧ state.senders true = count + 1) →
      state.messages.forward = some forwarded → ∃ actions,
        (run step state actions).messages = forwarded ∧
        (run step state actions).main = tasks.main ∧
        (run step state actions).runtime = tasks.runtime ∧
        (run step state actions).handlers.lookup wsId = some handler ∧
        (run step state actions).senders true = count + 1 := by
    intro count state forwarded keep moved
    refine ⟨[.forwardMessage], ?_⟩
    have reached : run step state [.forwardMessage] = { state with messages := forwarded } := by
      simp [run, step, next, moved]
    rw [reached]
    exact ⟨rfl, keep⟩
  have putsKeep : ∀ count (state : DeviceTasks),
      (state.main = tasks.main ∧ state.runtime = tasks.runtime ∧
        state.handlers.lookup wsId = some handler ∧ state.senders true = count + 1 + 1) →
      ¬state.messages.entry.Full → ∃ actions,
        (run step state actions).messages.contents.length = state.messages.contents.length + 1 ∧
        (run step state actions).main = tasks.main ∧
        (run step state actions).runtime = tasks.runtime ∧
        (run step state actions).handlers.lookup wsId = some handler ∧
        (run step state actions).senders true = count + 1 := by
    rintro count state ⟨main, runtime, located, counted⟩ room
    obtain ⟨mover, other, data, isClose, moverFound, putting, apart⟩ :=
      exists_otherSender located sends (by omega)
    obtain ⟨messages, sent⟩ := Pipeline.exists_send room ⟨other.pageNum, mover, data, isClose⟩
    have longer := congrArg List.length (Pipeline.send_contents sent).1
    have fewer : (state.setPhase mover (Outgoing.message data isClose).next).senders true + 1 =
        state.senders true :=
      senders_stop moverFound (by simp [putting, HandlerPhase.sends]) (by simp)
    have reached : run step state [.put mover] =
        { state.setPhase mover (Outgoing.message data isClose).next with messages } := by
      simp [run, step, next, put, moverFound, putting, sent]
    refine ⟨[.put mover], ?_⟩
    rw [reached]
    refine ⟨by simpa using longer, main, runtime, by simp [setPhase, apart, located], ?_⟩
    change (state.setPhase mover (Outgoing.message data isClose).next).senders true = count + 1
    omega
  have positive := senders_pos found sends
  have enough : 64 + 256 + 1 ≤ tasks.messages.contents.length + (tasks.senders true - 1) := by
    simp only [messageLoad, places] at crowded
    omega
  obtain ⟨actions, _, stuck, ⟨main, runtime, located, _⟩, _⟩ :=
    Pipeline.clogs step DeviceTasks.messages
      (fun count state => state.main = tasks.main ∧ state.runtime = tasks.runtime ∧
        state.handlers.lookup wsId = some handler ∧ state.senders true = count + 1)
      (by decide) forwardsKeep putsKeep ⟨rfl, rfl, found, by omega⟩ enough
  exact ⟨actions, wsId, (awaitedClient_congr main runtime).trans awaited,
    ⟨handler, data, isClose, located, full, sending⟩, stuck⟩

theorem handOver_clogged {destId : String} {data : List UInt8} {tx : WiMsgTx}
    (registered : tasks.runtime.wsClientTxs.lookup destId = some tx)
    (clogged : tasks.Clogged tx.owner) : tasks.handOver destId data = none := by
  obtain ⟨handler, _, _, found, full, sending⟩ := clogged
  simp [handOver, registered, found, sending, Channel.send_eq_none.mpr full]

theorem reply_deadlocks {appId destId : String} {data : List UInt8} {tx : WiMsgTx}
    (idle : tasks.main = .select)
    (registered : tasks.runtime.wsClientTxs.lookup destId = some tx)
    (clogged : tasks.Clogged tx.owner) (crowded : places < tasks.messageLoad) :
    ∃ later, (run step (tasks.step (.takeRpc (.applicationSentData appId destId data)))
      later).BackpressureDeadlock := by
  have moved : tasks.step (.takeRpc (.applicationSentData appId destId data)) =
      { tasks with main := .awaitRoom destId data } := by
    simp [step, next, idle, takeRpc, DeviceRuntime.needsWrite,
      handOver_clogged registered clogged]
  rw [moved]
  have awaited : { tasks with main := .awaitRoom destId data }.awaitedClient = some tx.owner := by
    simp [awaitedClient, registered]
  exact exists_backpressureDeadlock awaited clogged crowded

theorem message_deadlocks {mover wsId : String} {handler client : WsHandler} {data : List UInt8}
    {isClose : Bool} (found : tasks.handlers.lookup mover = some handler)
    (wanted : handler.phase = .wants (.message data isClose))
    (awaited : tasks.awaitedClient = some wsId)
    (located : tasks.handlers.lookup wsId = some client) (full : client.inbox.Full)
    (blocked : mover = wsId ∨ tasks.Clogged wsId) (crowded : places ≤ tasks.messageLoad) :
    ∃ later, (run step (tasks.step (.acquire mover)) later).BackpressureDeadlock := by
  have free : tasks.writerWaits = false := by
    unfold awaitedClient at awaited
    unfold writerWaits
    split at awaited
    · rename_i waiting
      rw [waiting]
    · cases awaited
  rw [step_acquire found wanted free]
  have more : (tasks.setPhase mover (.sending (.message data isClose))).senders true =
      tasks.senders true + 1 := senders_start found (by simp [wanted]) rfl
  have clogged : (tasks.setPhase mover (.sending (.message data isClose))).Clogged wsId := by
    by_cases own : mover = wsId
    · subst own
      rw [found] at located
      cases located
      exact ⟨{ handler with phase := .sending (.message data isClose) }, data, isClose,
        by simp [setPhase, found], full, rfl⟩
    · obtain ⟨other, sentData, closing, otherFound, otherFull, sending⟩ := blocked.resolve_left own
      have apart : wsId ≠ mover := fun same => own same.symm
      exact ⟨other, sentData, closing, by simp [setPhase, apart, otherFound], otherFull, sending⟩
  have still : (tasks.setPhase mover (.sending (.message data isClose))).awaitedClient =
      some wsId := awaited
  apply exists_backpressureDeadlock still clogged
  change places < tasks.messages.contents.length +
    (tasks.setPhase mover (.sending (.message data isClose))).senders true
  unfold messageLoad at crowded
  omega

/-- A run in which every reply and every message that could close the circle
finds room for all that is to be sent never comes to a standstill. Where one
does not, some continuation does. -/
theorem run_backpressureDeadlock (runtime : DeviceRuntime) :
    (∀ actions, Throughout step (start runtime) actions RoomForReplies →
      ¬(run step (start runtime) actions).BackpressureDeadlock) ∧
    ∀ actions action, ¬(run step (start runtime) actions).RoomForReplies action →
      ∃ later,
        (run step (start runtime) (actions ++ action :: later)).BackpressureDeadlock := by
  constructor
  · intro actions allowed
    apply not_backpressureDeadlock
    apply run_invariant_throughout RepliesHaveRoom _ _ allowed
    · intro wsId awaited
      cases awaited
    · intro tasks action roomy permitted
      exact step_repliesHaveRoom roomy permitted
  · intro actions action violated
    simp only [run_append]
    generalize run step (start runtime) actions = tasks at violated ⊢
    simp only [run, List.foldl_cons]
    by_contra never
    apply violated
    constructor
    · rintro appId destId data tx rfl idle registered clogged
      by_contra crowded
      exact never (reply_deadlocks idle registered clogged (Nat.lt_of_not_le crowded))
    · rintro mover handler data isClose wsId client rfl found wanted awaited located full blocked
      by_contra crowded
      exact never (message_deadlocks found wanted awaited located full blocked
        (Nat.le_of_not_lt crowded))

/-- No step of any task leads out of the standstill. -/
theorem backpressureDeadlock_step (locked : tasks.BackpressureDeadlock) (action : TaskAction) :
    (tasks.step action).BackpressureDeadlock := by
  unfold step
  cases moved : tasks.next action with
  | none => exact locked
  | some after =>
      obtain ⟨wsId, awaited, clogged, stuck⟩ := locked
      have full : ∀ destId data, tasks.main = .awaitRoom destId data →
          { tasks with main := .select }.handOver destId data = none := by
        intro destId data waiting
        simp only [awaitedClient, waiting] at awaited
        obtain ⟨tx, registered, rfl⟩ := Option.map_eq_some_iff.mp awaited
        exact handOver_clogged registered clogged
      obtain ⟨handler, data, isClose, found, inboxFull, sending⟩ := clogged
      obtain ⟨stays, stillStuck, main, runtime⟩ := taskStep_blocked (next_taskStep moved) found
        sending stuck (busy_of_awaitedClient awaited) full
      exact ⟨wsId, (awaitedClient_congr main runtime).trans awaited,
        ⟨handler, data, isClose, stays, inboxFull, sending⟩, stillStuck⟩

theorem replies_fill {wsId : String} {handler : WsHandler} (appId : String) (data : List UInt8)
    (count : Nat) (idle : tasks.main = .select)
    (registered : tasks.runtime.wsClientTxs.lookup wsId = some ⟨wsId⟩)
    (found : tasks.handlers.lookup wsId = some handler) (alive : handler.phase ≠ .ended)
    (room : handler.inbox.items.length + count ≤ 64) :
    ∃ filled filler, run step tasks
        (List.replicate count (.takeRpc (.applicationSentData appId wsId data))) = filled ∧
      filled.main = .select ∧ filled.messages = tasks.messages ∧
      filled.runtime.wsClientTxs.lookup wsId = some ⟨wsId⟩ ∧
      filled.handlers.lookup wsId = some filler ∧ filler.phase = handler.phase ∧
      filler.inbox.items.length = handler.inbox.items.length + count := by
  induction count generalizing tasks handler with
  | zero => exact ⟨tasks, handler, rfl, idle, rfl, registered, found, rfl, rfl⟩
  | succ count ih =>
      obtain ⟨inbox, sent, longer⟩ := Channel.exists_send
        (Channel.not_full_iff.mpr (by omega : handler.inbox.items.length < 64)) data
      have moved : tasks.step (.takeRpc (.applicationSentData appId wsId data)) =
          { tasks.setInbox wsId inbox with
            runtime := tasks.runtime.handleAppData wsId data } := by
        simp [step, next, idle, takeRpc, DeviceRuntime.needsWrite, handOver, registered, found,
          alive, sent]
      have length := congrArg List.length longer
      rw [List.length_append, List.length_singleton] at length
      have stillIdle : (tasks.step (.takeRpc (.applicationSentData appId wsId data))).main =
          .select := by rw [moved]; exact idle
      have stillKnown : (tasks.step (.takeRpc (.applicationSentData appId wsId
          data))).runtime.wsClientTxs.lookup wsId = some ⟨wsId⟩ := by
        rw [moved]
        simp [DeviceRuntime.handleAppData, registered]
      have stillFound : (tasks.step (.takeRpc (.applicationSentData appId wsId
          data))).handlers.lookup wsId = some { handler with inbox } := by
        rw [moved]
        simp [setInbox, found]
      obtain ⟨filled, filler, reached, filledIdle, messages, known, filledFound, phase, total⟩ :=
        ih stillIdle stillKnown stillFound alive (by simp only; omega)
      refine ⟨filled, filler, reached, filledIdle, ?_, known, filledFound, phase, ?_⟩
      · rw [messages, moved]
        rfl
      · rw [total]
        simp only
        omega

def registered : List TaskAction :=
  connected ++ [.forwardRegistration, .forwardRegistration, .takeRegistration]

/-- A client that writes without reading, and a phone that goes on replying. -/
theorem replies_come_to_a_standstill :
    ¬∀ runtime actions, ¬(run step (start runtime) actions).BackpressureDeadlock := by
  intro safe
  have idle : (run step (start phoneRuntime) registered).main = .select := by decide
  have phase : ((run step (start phoneRuntime) registered).handlers.lookup "A").map
      (fun handler => (handler.phase, handler.inbox.items)) = some (.bridging, []) := by decide
  have known : (run step (start phoneRuntime) registered).runtime.wsClientTxs.lookup "A" =
      some ⟨"A"⟩ := by decide
  obtain ⟨handler, found, shape⟩ := Option.map_eq_some_iff.mp phase
  obtain ⟨bridging, empty⟩ := Prod.mk.inj shape
  have bridges : Bridges "A" handler (run step (start phoneRuntime) registered).runtime
      (run step (start phoneRuntime) registered) := ⟨idle, rfl, found, bridging⟩
  obtain ⟨filling, stuck, still⟩ := fills bridges
  obtain ⟨held, reached, heldIdle, runtime, queue, heldFound⟩ :=
    run_frame_acquire still [123, 125]
  obtain ⟨filled, filler, answered, filledIdle, messages, filledKnown, filledFound, sending,
    length⟩ := replies_fill "PID:1" [123, 125] 64 heldIdle (by rw [runtime]; exact known)
      heldFound (by simp) (by simp [empty])
  have clogged : filled.Clogged "A" :=
    ⟨filler, [123, 125], false, filledFound, by simpa [Channel.Full, empty] using length, sending⟩
  apply safe phoneRuntime (registered ++ (filling ++ ([.frame "A" [123, 125], .acquire "A"] ++
    (List.replicate 64 (.takeRpc (.applicationSentData "PID:1" "A" [123, 125])) ++
      [.takeRpc (.applicationSentData "PID:1" "A" [123, 125])]))))
  rw [run_append, run_append, run_append, run_append, reached, answered]
  have moved : run step filled [.takeRpc (.applicationSentData "PID:1" "A" [123, 125])] =
      { filled with main := .awaitRoom "A" [123, 125] } := by
    simp [run, step, next, filledIdle, takeRpc, DeviceRuntime.needsWrite,
      handOver_clogged filledKnown clogged]
  rw [moved]
  refine ⟨"A", by simp [awaitedClient, filledKnown], clogged, ?_⟩
  change filled.messages.Stuck
  rw [messages, queue]
  exact stuck

end DeviceTasks

end IosWebkitDebugProxy
