import IosWebkitDebugProxy.TasksFrames

/-! The relay between a client and the device, in both directions. Replies to a
registered client go into its queue in the order in which the core takes them,
until its handler ends and nobody reads the queue any more. -/

namespace IosWebkitDebugProxy

open Transition

theorem HandlerPhase.stage_eq_ended {phase : HandlerPhase} :
    phase.stage = .ended ↔ phase = .ended := by
  unfold HandlerPhase.stage
  split <;> simp_all

namespace DeviceTasks

variable {tasks after : DeviceTasks}

def inboxOf (wsId : String) (tasks : DeviceTasks) : List (List UInt8) :=
  ((tasks.handlers.lookup wsId).map fun handler => handler.inbox.items).getD []

def awaitedReplies (wsId : String) (tasks : DeviceTasks) : List (List UInt8) :=
  match tasks.main with
  | .awaitRoom destId data => if destId = wsId then [data] else []
  | _ => []

def receivedReplies (wsId : String) (tasks : DeviceTasks) : TaskAction → List (List UInt8)
  | .receive mover =>
      if mover = wsId ∧ (tasks.next (.receive mover)).isSome then (tasks.inboxOf wsId).take 1
      else []
  | _ => []

def arrivedReplies (wsId : String) (tasks : DeviceTasks) : TaskAction → List (List UInt8)
  | .takeRpc (.applicationSentData _ destId data) =>
      if destId = wsId ∧ tasks.main = .select ∧ wsId ∈ tasks.runtime.wsClientTxs then [data]
      else []
  | _ => []

def putReplies (wsId : String) (start : DeviceTasks) (actions : List TaskAction) :
    List (List UInt8) :=
  collected step (receivedReplies wsId) start actions ++ (run step start actions).inboxOf wsId

theorem inboxOf_eq {wsId : String} {handler : WsHandler}
    (found : tasks.handlers.lookup wsId = some handler) :
    tasks.inboxOf wsId = handler.inbox.items := by
  rw [inboxOf, found]
  rfl

theorem inboxOf_setPhase (mover : String) (phase : HandlerPhase) (wsId : String) :
    (tasks.setPhase mover phase).inboxOf wsId = tasks.inboxOf wsId := by
  by_cases own : wsId = mover
  · subst own
    cases found : tasks.handlers.lookup wsId <;> simp [inboxOf, setPhase, found]
  · simp [inboxOf, setPhase, own]

theorem inboxOf_setInbox {mover : String} {handler : WsHandler}
    (found : tasks.handlers.lookup mover = some handler) (inbox : Channel (List UInt8) 64)
    (wsId : String) :
    (tasks.setInbox mover inbox).inboxOf wsId =
      if wsId = mover then inbox.items else tasks.inboxOf wsId := by
  by_cases own : wsId = mover
  · subst own
    simp [inboxOf, setInbox, found]
  · simp [inboxOf, setInbox, own]

theorem inboxOf_upgrade {mover : String} (fresh : mover ∉ tasks.handlers) (pageNum : Nat)
    (wsId : String) :
    inboxOf wsId { tasks with
      handlers := tasks.handlers.insert mover ⟨pageNum, .wants .registration, .empty⟩ } =
        tasks.inboxOf wsId := by
  by_cases own : wsId = mover
  · subst own
    simp [inboxOf, AList.lookup_eq_none.mpr fresh, Channel.empty]
  · simp [inboxOf, own]

theorem step_stage_ended {wsId : String} (finished : tasks.stage wsId = .ended)
    (action : TaskAction) : (tasks.step action).stage wsId = .ended := by
  have moves {mover : String} {handler : WsHandler} {phase : HandlerPhase}
      (found : tasks.handlers.lookup mover = some handler) (running : handler.phase ≠ .ended) :
      (tasks.setPhase mover phase).stage wsId = .ended := by
    rw [stage_setPhase found, if_neg, finished]
    rintro rfl
    rw [stage_eq found, HandlerPhase.stage_eq_ended] at finished
    exact running finished
  have given {earlier later : DeviceTasks} {destId : String} {data : List UInt8}
      (handed : earlier.handOver destId data = some later)
      (same : earlier.stage wsId = tasks.stage wsId) : later.stage wsId = .ended := by
    rcases handOver_cases handed with rfl | ⟨tx, _, inbox, _, _, _, _, rfl⟩
    · rw [same, finished]
    · exact (stage_setInbox tx.owner inbox wsId).trans (same.trans finished)
  rcases step_cases tasks action with same | moved
  · rw [same, finished]
  · generalize tasks.step action = after at moved
    cases moved with
    | @upgrade mover pageNum _ fresh => rw [stage_upgrade fresh pageNum wsId, finished]
    | acquire found wanted _ => exact moves found (by simp [wanted])
    | register found sending _ => exact moves found (by simp [sending])
    | put found sending _ => exact moves found (by simp [sending])
    | frame found bridging => exact moves found (by simp [bridging])
    | closeFrame found bridging => exact moves found (by simp [bridging])
    | socketFailed found bridging => exact moves found (by simp [bridging])
    | receive _ _ _ => rw [stage_setInbox, finished]
    | handOver _ handed => exact given handed rfl
    | deliver _ handed => exact given handed rfl
    | _ => exact finished

theorem awaitedReplies_eq_nil {wsId : String}
    (quiet : ∀ destId data, tasks.main ≠ .awaitRoom destId data) :
    tasks.awaitedReplies wsId = [] := by
  unfold awaitedReplies
  split
  · rename_i destId data waiting
    exact absurd waiting (quiet destId data)
  · rfl

theorem awaitedReplies_select {wsId : String} (idle : tasks.main = .select) :
    tasks.awaitedReplies wsId = [] :=
  awaitedReplies_eq_nil (by simp [idle])

theorem receivedReplies_idle {wsId : String} {action : TaskAction}
    (stuck : tasks.next action = none) : tasks.receivedReplies wsId action = [] := by
  unfold receivedReplies
  split
  · rw [stuck]
    simp
  · rfl

theorem arrivedReplies_idle {wsId : String} {action : TaskAction}
    (stuck : tasks.next action = none) : tasks.arrivedReplies wsId action = [] := by
  unfold arrivedReplies
  split
  · rw [if_neg]
    rintro ⟨_, idle, _⟩
    simp [next, idle] at stuck
  · rfl

theorem arrivedReplies_other {wsId : String} {message : RpcMessage}
    (other : ∀ appId destId data, message ≠ .applicationSentData appId destId data) :
    tasks.arrivedReplies wsId (.takeRpc message) = [] := by
  cases message with
  | applicationSentData appId destId data => exact absurd rfl (other appId destId data)
  | _ => rfl

theorem exists_handler_of_registered (orderly : tasks.Orderly) {wsId : String}
    (running : tasks.stage wsId ≠ .ended) (registered : wsId ∈ tasks.runtime.wsClientTxs) :
    ∃ handler, tasks.handlers.lookup wsId = some handler ∧ handler.phase ≠ .ended := by
  have tracked := orderly.clients wsId
  cases found : tasks.handlers.lookup wsId with
  | none =>
      have entering : tasks.stage wsId = .entering := by simp only [stage, found]
      rw [entering] at tracked
      exact absurd registered (AList.lookup_eq_none.mp tracked.unregistered)
  | some handler =>
      refine ⟨handler, rfl, ?_⟩
      rw [stage_eq found] at running
      exact fun finished => running (HandlerPhase.stage_eq_ended.mpr finished)

theorem handOver_inboxOf {destId wsId : String} {data : List UInt8}
    (given : tasks.handOver destId data = some after)
    (clients : ∀ wsId tx, tasks.runtime.wsClientTxs.lookup wsId = some tx → tx = ⟨wsId⟩)
    (alive : wsId ∈ tasks.runtime.wsClientTxs →
      ∃ handler, tasks.handlers.lookup wsId = some handler ∧ handler.phase ≠ .ended) :
    after.inboxOf wsId = tasks.inboxOf wsId ++
      if destId = wsId ∧ wsId ∈ tasks.runtime.wsClientTxs then [data] else [] := by
  by_cases own : destId = wsId
  · subst own
    by_cases registered : destId ∈ tasks.runtime.wsClientTxs
    · obtain ⟨tx, known⟩ := Table.exists_lookup registered
      rw [clients destId tx known] at known
      obtain ⟨handler, found, running⟩ := alive registered
      obtain ⟨inbox, later, put⟩ := handOver_registered given known found running
      rw [inboxOf_eq later, inboxOf_eq found, put, if_pos ⟨rfl, registered⟩]
    · rw [handOver_unregistered (AList.lookup_eq_none.mpr registered)] at given
      cases given
      simp [registered]
  · rw [if_neg fun both => own both.1, List.append_nil]
    rcases handOver_cases given with rfl | ⟨tx, handler, inbox, known, found, _, _, rfl⟩
    · rfl
    · have elsewhere : wsId ≠ tx.owner := by
        rw [clients destId tx known]
        exact fun same => own same.symm
      exact (inboxOf_setInbox found inbox wsId).trans (if_neg elsewhere)

theorem receive_inboxOf {mover wsId : String} {handler : WsHandler} {data : List UInt8}
    {inbox : Channel (List UInt8) 64} (found : tasks.handlers.lookup mover = some handler)
    (bridging : handler.phase = .bridging) (received : handler.inbox.recv = some (data, inbox)) :
    tasks.receivedReplies wsId (.receive mover) ++ (tasks.setInbox mover inbox).inboxOf wsId =
      tasks.inboxOf wsId := by
  have accepted : (tasks.next (.receive mover)).isSome := by
    simp [next, DeviceTasks.receive, found, bridging, received]
  rw [inboxOf_setInbox found]
  by_cases own : wsId = mover
  · subst own
    simp [receivedReplies, accepted, inboxOf_eq found, Channel.recv_items received]
  · have other : mover ≠ wsId := fun same => own same.symm
    simp [receivedReplies, own, other]

theorem replies_balanced (orderly : tasks.Orderly) (addressed : tasks.Addressed) {wsId : String}
    (running : tasks.stage wsId ≠ .ended) (action : TaskAction) :
    tasks.receivedReplies wsId action ++
        ((tasks.step action).inboxOf wsId ++ (tasks.step action).awaitedReplies wsId) =
      (tasks.inboxOf wsId ++ tasks.awaitedReplies wsId) ++ tasks.arrivedReplies wsId action := by
  have alive := exists_handler_of_registered orderly running
  cases stepped : tasks.next action with
  | none =>
      rw [receivedReplies_idle stepped, arrivedReplies_idle stepped, step_stuck stepped]
      simp
  | some after =>
      have keeps {later : DeviceTasks}
          (awaited : later.awaitedReplies wsId = tasks.awaitedReplies wsId)
          (inbox : later.inboxOf wsId = tasks.inboxOf wsId) :
          [] ++ (later.inboxOf wsId ++ later.awaitedReplies wsId) =
            (tasks.inboxOf wsId ++ tasks.awaitedReplies wsId) ++ [] := by
        rw [List.nil_append, List.append_nil, inbox, awaited]
      rw [step_moved stepped]
      cases next_taskStep stepped with
      | @upgrade _ pageNum _ fresh => exact keeps rfl (inboxOf_upgrade fresh pageNum wsId)
      | acquire _ _ _ => exact keeps rfl (inboxOf_setPhase _ _ wsId)
      | register _ _ _ => exact keeps rfl (inboxOf_setPhase _ _ wsId)
      | put _ _ _ => exact keeps rfl (inboxOf_setPhase _ _ wsId)
      | frame _ _ => exact keeps rfl (inboxOf_setPhase _ _ wsId)
      | closeFrame _ _ => exact keeps rfl (inboxOf_setPhase _ _ wsId)
      | socketFailed _ _ => exact keeps rfl (inboxOf_setPhase _ _ wsId)
      | receive found bridging received =>
          have nothing : ∀ mover, tasks.arrivedReplies wsId (.receive mover) = [] := fun _ => rfl
          rw [nothing, List.append_nil, ← List.append_assoc,
            receive_inboxOf found bridging received]
          rfl
      | startWrite idle writes =>
          rw [arrivedReplies_other]
          · exact keeps ((awaitedReplies_eq_nil (by simp)).trans
              (awaitedReplies_select idle).symm) rfl
          · rintro appId destId data rfl
            cases writes
      | handleRpc idle _ other =>
          rw [arrivedReplies_other other]
          exact keeps rfl rfl
      | @handOver appId destId data _ idle given =>
          rw [awaitedReplies_select idle, awaitedReplies_select ((handOver_main given).trans idle),
            handOver_inboxOf given addressed.clients alive]
          simp [receivedReplies, arrivedReplies, idle]
      | @awaitRoom appId destId data idle full =>
          obtain ⟨tx, known⟩ := exists_tx_of_handOver full
          have registered : destId ∈ tasks.runtime.wsClientTxs :=
            Table.mem_of_lookup known
          rw [awaitedReplies_select idle]
          by_cases own : destId = wsId
          · subst own
            simp [receivedReplies, arrivedReplies, awaitedReplies, inboxOf, idle, registered]
          · simp [receivedReplies, arrivedReplies, awaitedReplies, inboxOf, own]
      | grantWrite waiting _ =>
          exact keeps ((awaitedReplies_select rfl).trans
            (awaitedReplies_eq_nil (by simp [waiting])).symm) rfl
      | @deliver destId data _ waiting given =>
          rw [awaitedReplies_select (handOver_main given),
            handOver_inboxOf given addressed.clients alive]
          by_cases own : destId = wsId
          · subst own
            obtain ⟨tx, known⟩ := orderly.awaited destId data waiting
            have registered : destId ∈ tasks.runtime.wsClientTxs :=
              Table.mem_of_lookup known
            simp [receivedReplies, arrivedReplies, awaitedReplies, inboxOf, waiting, registered]
          · simp [receivedReplies, arrivedReplies, awaitedReplies, inboxOf, waiting, own]
      | _ => exact keeps rfl rfl

theorem replies_ended {wsId : String}
    (finished : tasks.stage wsId = .ended) (action : TaskAction) :
    tasks.receivedReplies wsId action ++ (tasks.step action).inboxOf wsId =
      tasks.inboxOf wsId := by
  have given {earlier later : DeviceTasks} {destId : String} {data : List UInt8}
      (handed : earlier.handOver destId data = some later)
      (same : earlier.handlers = tasks.handlers) :
      later.inboxOf wsId = tasks.inboxOf wsId := by
    rcases handOver_cases handed with rfl | ⟨tx, handler, inbox, _, found, running, _, rfl⟩
    · rw [inboxOf, same, inboxOf]
    · have elsewhere : wsId ≠ tx.owner := by
        rintro rfl
        rw [same] at found
        rw [stage_eq found, HandlerPhase.stage_eq_ended] at finished
        exact running finished
      refine (inboxOf_setInbox found inbox wsId).trans ((if_neg elsewhere).trans ?_)
      rw [inboxOf, same, inboxOf]
  cases stepped : tasks.next action with
  | none =>
      rw [receivedReplies_idle stepped, step_stuck stepped]
      rfl
  | some after =>
      rw [step_moved stepped]
      cases next_taskStep stepped with
      | @upgrade _ pageNum _ fresh => exact inboxOf_upgrade fresh pageNum wsId
      | acquire _ _ _ => exact inboxOf_setPhase _ _ wsId
      | register _ _ _ => exact inboxOf_setPhase _ _ wsId
      | put _ _ _ => exact inboxOf_setPhase _ _ wsId
      | frame _ _ => exact inboxOf_setPhase _ _ wsId
      | closeFrame _ _ => exact inboxOf_setPhase _ _ wsId
      | socketFailed _ _ => exact inboxOf_setPhase _ _ wsId
      | receive found bridging received => exact receive_inboxOf found bridging received
      | handOver _ handed => exact given handed rfl
      | deliver _ handed => exact given handed rfl
      | _ => rfl

variable {start : DeviceTasks}

theorem throughout_running {wsId : String} {actions : List TaskAction}
    (running : (run step start actions).stage wsId ≠ .ended) :
    Throughout step start actions fun tasks _ => tasks.stage wsId ≠ .ended := by
  refine throughout_of_run ?_ running
  intro tasks action alive finished
  exact alive (step_stage_ended finished action)

theorem run_replies (orderly : start.Orderly) (addressed : start.Addressed) {wsId : String}
    {actions : List TaskAction}
    (running : Throughout step start actions fun tasks _ => tasks.stage wsId ≠ .ended) :
    putReplies wsId start actions ++ (run step start actions).awaitedReplies wsId =
      start.inboxOf wsId ++ start.awaitedReplies wsId ++
        collected step (arrivedReplies wsId) start actions := by
  have balanced := collected_balanced (receivedReplies wsId) (arrivedReplies wsId)
    (fun tasks => tasks.inboxOf wsId ++ tasks.awaitedReplies wsId)
    (fun tasks => tasks.Orderly ∧ tasks.Addressed) ⟨orderly, addressed⟩
    (fun _ action kept => ⟨step_orderly kept.1 action, step_addressed kept.2 action⟩)
    (fun _ action kept alive => replies_balanced kept.1 kept.2 alive action) running
  rw [putReplies, List.append_assoc]
  exact balanced

/-- Once its handler has ended, nothing is put for a client any more. -/
theorem putReplies_ended {wsId : String} {actions : List TaskAction}
    (finished : (run step start actions).stage wsId = .ended) (later : List TaskAction) :
    putReplies wsId start (actions ++ later) = putReplies wsId start actions := by
  induction later using List.reverseRecOn with
  | nil => rw [List.append_nil]
  | append_singleton later action ih =>
      have still : (run step start (actions ++ later)).stage wsId = .ended := by
        rw [run_append]
        exact run_invariant (fun tasks : DeviceTasks => tasks.stage wsId = .ended) finished
          (fun _ action ended => step_stage_ended ended action) later
      rw [← ih, ← List.append_assoc, putReplies, collected_concat, run_concat, List.append_assoc,
        replies_ended still action, putReplies]

theorem putReplies_isPrefix (orderly : start.Orderly) (addressed : start.Addressed)
    {wsId : String} (unread : start.inboxOf wsId = []) (idle : start.awaitedReplies wsId = [])
    (actions : List TaskAction) :
    putReplies wsId start actions <+: collected step (arrivedReplies wsId) start actions := by
  induction actions using List.reverseRecOn with
  | nil => simp [putReplies, collected, run, unread]
  | append_singleton actions action ih =>
      by_cases running : (run step start actions).stage wsId = .ended
      · rw [putReplies_ended running, collected_concat]
        exact ih.trans (List.prefix_append _ _)
      · have alive : Throughout step start (actions ++ [action])
            fun tasks _ => tasks.stage wsId ≠ .ended :=
          throughout_concat.mpr ⟨throughout_running running, running⟩
        have whole := run_replies orderly addressed alive
        rw [unread, idle, List.append_nil, List.nil_append] at whole
        exact ⟨_, whole⟩

/-- What a client sends goes out in order and once, as long as its page stays,
and the replies that the core takes up for it get into its queue in order and once. -/
structure RelaysInOrder (start : DeviceTasks) (actions : List TaskAction) (wsId : String) :
    Prop where
  frames : (Throughout step start actions fun tasks _ => tasks.PageServed wsId) →
    collected step (relayedFrames wsId) start actions <+:
      collected step (sentFrames wsId) start actions
  replies : putReplies wsId start actions ++ (run step start actions).awaitedReplies wsId =
    collected step (arrivedReplies wsId) start actions

/-- The same, but for the queue of a handler that has ended: it has got the first replies,
and gets no more. -/
structure RelaysUntilEnd (start : DeviceTasks) (actions : List TaskAction) (wsId : String) :
    Prop where
  frames : (Throughout step start actions fun tasks _ => tasks.PageServed wsId) →
    collected step (relayedFrames wsId) start actions ++
        (run step start actions).pendingFrames wsId =
      collected step (sentFrames wsId) start actions
  replies : (run step start actions).stage wsId ≠ .ended →
    putReplies wsId start actions ++ (run step start actions).awaitedReplies wsId =
      collected step (arrivedReplies wsId) start actions
  first : putReplies wsId start actions <+: collected step (arrivedReplies wsId) start actions
  closed : (run step start actions).stage wsId = .ended → ∀ later,
    putReplies wsId start (actions ++ later) = putReplies wsId start actions

/-- In every run from a new connection, both directions of the relay keep the
order and lose nothing until the page or the handler is gone. -/
theorem run_relaysUntilEnd (bridge : ProxyBridge) (environment : ConnectEnvironment)
    (deviceId : String) (port : Nat) (connection : DeviceConnection) (codec : WebInspectorCodec)
    (actions : List TaskAction) (wsId : String) :
    RelaysUntilEnd (DeviceTasks.start
      (bridge.newRuntime environment deviceId port connection codec)) actions wsId := by
  have orderly := start_orderly bridge environment deviceId port connection codec
  have addressed := start_addressed bridge environment deviceId port connection codec
  refine ⟨?_, ?_, ?_, ?_⟩
  · intro served
    exact run_frames addressed served
  · intro running
    exact run_replies orderly addressed (throughout_running running)
  · exact putReplies_isPrefix orderly addressed rfl rfl actions
  · intro finished later
    exact putReplies_ended finished later

def leftBehind : List TaskAction :=
  openedEarly ++ [.forwardRegistration, .forwardRegistration, .takeRegistration,
    .socketFailed "A", .takeRpc (.applicationSentData "PID:1" "A" [123, 125])]

/-- A client whose connection broke is still registered, and its reply is dropped. -/
theorem broken_client_gets_nothing :
    ¬RelaysInOrder (DeviceTasks.start phoneRuntime) leftBehind "A" := by
  intro inOrder
  have lost := inOrder.replies
  revert lost
  decide

end DeviceTasks

end IosWebkitDebugProxy
