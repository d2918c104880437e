import IosWebkitDebugProxy.ProxyHolders
import IosWebkitDebugProxy.TasksRelay
import IosWebkitDebugProxy.TasksMessages

/-! The handler of one WebSocket connection on its own, with each of its exits.
Most ends are announced to the core by a close message. A connection that breaks
ends without one. -/

namespace IosWebkitDebugProxy

open Transition

inductive ConnectionEvent where
  | text (text : String)
  | binary (data : List UInt8)
  | ping (pongSent : Bool)
  | closeFrame
  | endOfStream
  | otherFrame
  | receiveError
  | reply (textSent : Bool)
  | enqueue (data : List UInt8)
  | dropSender
  deriving DecidableEq, Repr

structure WsConnection where
  pageNum : Nat
  wsId : String
  put : List WsToWiMessage
  inbox : Channel (List UInt8) 64
  senderHeld : Bool
  ended : Bool

namespace WsConnection

def send (data : List UInt8) (isClose : Bool) (connection : WsConnection) : WsConnection :=
  { connection with
    put := connection.put ++ [⟨connection.pageNum, connection.wsId, data, isClose⟩] }

def finish (connection : WsConnection) : WsConnection := { connection with ended := true }

def established (pageNum : Nat) (wsId : String) : WsConnection :=
  send [] false ⟨pageNum, wsId, [], .empty, true, false⟩

/-- The queue is closed for the handler once the core has dropped the sender and
all replies have been taken. -/
def takeReply (textSent : Bool) (connection : WsConnection) : WsConnection :=
  match connection.inbox.recv with
  | some (_, inbox) =>
      if textSent then { connection with inbox } else finish { connection with inbox }
  | none => if connection.senderHeld then connection else connection.finish

def enqueue (data : List UInt8) (connection : WsConnection) : WsConnection :=
  if connection.senderHeld then
    { connection with inbox := (connection.inbox.send data).getD connection.inbox }
  else connection

/-- Nothing reaches a handler that has ended. -/
def step (connection : WsConnection) (event : ConnectionEvent) : WsConnection :=
  if connection.ended then connection
  else
    match event with
    | .text text => connection.send text.toUTF8.data.toList false
    | .binary data => connection.send data false
    | .ping pongSent => if pongSent then connection else connection.finish
    | .closeFrame => (connection.send [] true).finish
    | .endOfStream => (connection.send [] true).finish
    | .otherFrame => connection
    | .receiveError => connection.finish
    | .reply textSent => connection.takeReply textSent
    | .enqueue data => connection.enqueue data
    | .dropSender => { connection with senderHeld := false }

/-- The core is told of the end once, after everything else, and whenever it
handles that, the session on the page is closed and no map has the client. -/
structure Announced (connection : WsConnection) : Prop where
  last : ∃ frames : List (List UInt8), connection.put =
    frames.map (fun data => ⟨connection.pageNum, connection.wsId, data, false⟩) ++
      [⟨connection.pageNum, connection.wsId, [], true⟩]
  cleaned : ∀ message ∈ connection.put, message.isClose = true →
    ∀ runtime : DeviceRuntime, PageTable runtime.pages →
      connection.wsId ∉ (runtime.handleWsMessage message).wsClients ∧
        connection.wsId ∉ (runtime.handleWsMessage message).wsClientTxs ∧
        ∀ page, (runtime.handleWsMessage message).pages.lookup connection.pageNum = some page →
          page.senderId = none

def EndAnnounced (connection : WsConnection) : Prop :=
  connection.ended = true → connection.senderHeld = true → connection.Announced

def SocketFails (connection : WsConnection) : ConnectionEvent → Prop
  | .receiveError => True
  | .ping pongSent => pongSent = false
  | .reply textSent => textSent = false ∧ connection.inbox.items ≠ []
  | _ => False

def Sound (connection : WsConnection) (event : ConnectionEvent) : Prop :=
  connection.ended = false → connection.senderHeld = true → ¬connection.SocketFails event

def OnlyData (connection : WsConnection) : Prop :=
  ∃ frames : List (List UInt8), connection.put =
    frames.map fun data => ⟨connection.pageNum, connection.wsId, data, false⟩

variable {connection : WsConnection}

theorem OnlyData.live (data : OnlyData connection) {message : WsToWiMessage}
    (member : message ∈ connection.put) : message.isClose = false := by
  obtain ⟨frames, shape⟩ := data
  rw [shape] at member
  obtain ⟨_, _, rfl⟩ := List.mem_map.mp member
  rfl

theorem OnlyData.send (onlyData : OnlyData connection) (data : List UInt8) :
    OnlyData (connection.send data false) := by
  obtain ⟨frames, shape⟩ := onlyData
  refine ⟨frames ++ [data], ?_⟩
  simp only [WsConnection.send, shape, List.map_append, List.map_cons, List.map_nil]

theorem OnlyData.not_announced (data : OnlyData connection) : ¬connection.Announced := by
  intro announced
  obtain ⟨frames, shape⟩ := announced.last
  have last : ⟨connection.pageNum, connection.wsId, [], true⟩ ∈ connection.put := by
    rw [shape]
    exact List.mem_append_right _ (List.mem_singleton_self _)
  cases data.live last

/-- The close message of the client takes it out of everything. -/
theorem handleWsMessage_cleans {runtime : DeviceRuntime} (valid : PageTable runtime.pages)
    {message : WsToWiMessage} (close : message.isClose = true) :
    message.wsId ∉ (runtime.handleWsMessage message).wsClients ∧
      message.wsId ∉ (runtime.handleWsMessage message).wsClientTxs ∧
      ∀ page, (runtime.handleWsMessage message).pages.lookup message.pageNum = some page →
        page.senderId = none := by
  refine ⟨?_, ?_, ?_⟩
  · rw [DeviceRuntime.handleWsMessage_wsClients, if_pos close]
    exact fun known => (AList.mem_erase.mp known).1 rfl
  · rw [DeviceRuntime.handleWsMessage_wsClientTxs, if_pos close]
    exact fun known => (AList.mem_erase.mp known).1 rfl
  · intro page found
    simp only [DeviceRuntime.handleWsMessage, close, if_true] at found
    exact DeviceRuntime.stopDevtools_released valid found

theorem OnlyData.announced (onlyData : OnlyData connection) :
    (connection.send [] true).finish.Announced := by
  obtain ⟨frames, shape⟩ := onlyData
  refine ⟨⟨frames, congrArg (· ++ _) shape⟩, ?_⟩
  intro message member close runtime valid
  rcases List.mem_append.mp member with data | last
  · rw [OnlyData.live ⟨frames, shape⟩ data] at close
    cases close
  · cases List.mem_singleton.mp last
    exact handleWsMessage_cleans valid close

theorem step_ended (finished : connection.ended = true) (event : ConnectionEvent) :
    connection.step event = connection := by
  unfold step
  rw [if_pos finished]

theorem run_ended (finished : connection.ended = true) (events : List ConnectionEvent) :
    run step connection events = connection := by
  induction events with
  | nil => rfl
  | cons event events ih =>
      exact (congrArg (fun next => run step next events) (step_ended finished event)).trans ih

theorem OnlyData.congr (onlyData : OnlyData connection) {after : WsConnection}
    (put : after.put = connection.put) (pageNum : after.pageNum = connection.pageNum)
    (wsId : after.wsId = connection.wsId) : OnlyData after := by
  obtain ⟨frames, shape⟩ := onlyData
  exact ⟨frames, by rw [put, pageNum, wsId, shape]⟩

/-- The one step that the core is not told of is the one in which the socket fails. -/
inductive Fate (connection : WsConnection) (event : ConnectionEvent) (after : WsConnection) : Prop
  | runs : ¬connection.SocketFails event → after.ended = false → OnlyData after →
      Fate connection event after
  | breaks : connection.SocketFails event → after.ended = true →
      after.senderHeld = connection.senderHeld → OnlyData after → Fate connection event after
  | closes : ¬connection.SocketFails event → after.ended = true → after.Announced →
      Fate connection event after
  | dropped : ¬connection.SocketFails event → after.ended = true → after.senderHeld = false →
      Fate connection event after

theorem step_fate (onlyData : OnlyData connection) (running : connection.ended = false)
    (event : ConnectionEvent) : Fate connection event (connection.step event) := by
  have same {after : WsConnection} (put : after.put = connection.put)
      (pageNum : after.pageNum = connection.pageNum) (wsId : after.wsId = connection.wsId) :
      OnlyData after := onlyData.congr put pageNum wsId
  have alive : ¬connection.ended = true := by simp [running]
  simp only [step, if_neg alive]
  cases event with
  | text text => exact .runs id running (onlyData.send _)
  | binary data => exact .runs id running (onlyData.send _)
  | ping pongSent =>
      cases pongSent with
      | true => exact .runs (by simp [SocketFails]) running onlyData
      | false => exact .breaks rfl rfl rfl (same rfl rfl rfl)
  | closeFrame => exact .closes id rfl onlyData.announced
  | endOfStream => exact .closes id rfl onlyData.announced
  | otherFrame => exact .runs id running onlyData
  | receiveError => exact .breaks trivial rfl rfl (same rfl rfl rfl)
  | reply textSent =>
      simp only [takeReply]
      cases received : connection.inbox.recv with
      | none =>
          have empty : connection.inbox.items = [] := Channel.recv_eq_none.mp received
          have calm : ¬connection.SocketFails (.reply textSent) := fun fails => fails.2 empty
          cases held : connection.senderHeld with
          | true => exact .runs calm running onlyData
          | false => exact .dropped calm rfl held
      | some taken =>
          obtain ⟨data, inbox⟩ := taken
          have some : connection.inbox.items ≠ [] := by
            rw [Channel.recv_items received]
            exact List.cons_ne_nil _ _
          cases textSent with
          | true => exact .runs (by simp [SocketFails]) running (same rfl rfl rfl)
          | false => exact .breaks ⟨rfl, some⟩ rfl rfl (same rfl rfl rfl)
  | enqueue data =>
      simp only [enqueue]
      split
      · exact .runs id running (same rfl rfl rfl)
      · exact .runs id running onlyData
  | dropSender => exact .runs id running (same rfl rfl rfl)

theorem established_onlyData (pageNum : Nat) (wsId : String) :
    OnlyData (established pageNum wsId) := ⟨[[]], rfl⟩

structure Orderly (connection : WsConnection) : Prop where
  running : connection.ended = false → OnlyData connection
  announced : connection.EndAnnounced

theorem step_orderly (orderly : Orderly connection) {event : ConnectionEvent}
    (sound : connection.Sound event) : Orderly (connection.step event) := by
  cases alive : connection.ended with
  | true =>
      rw [step_ended alive]
      exact orderly
  | false =>
      have settles {after : WsConnection} (finished : after.ended = true)
          (announced : after.EndAnnounced) : Orderly after := by
        refine ⟨fun running => ?_, announced⟩
        rw [finished] at running
        cases running
      cases step_fate (orderly.running alive) alive event with
      | runs _ running onlyData =>
          refine ⟨fun _ => onlyData, fun finished => ?_⟩
          rw [running] at finished
          cases finished
      | breaks fails finished same _ =>
          refine settles finished fun _ held => ?_
          rw [same] at held
          exact absurd fails (sound alive held)
      | closes _ finished announced => exact settles finished fun _ _ => announced
      | dropped _ finished gone =>
          refine settles finished fun _ held => ?_
          rw [gone] at held
          cases held

theorem step_silent (onlyData : OnlyData connection) (alive : connection.ended = false)
    (held : connection.senderHeld = true) {event : ConnectionEvent}
    (fails : connection.SocketFails event) (later : List ConnectionEvent) :
    ¬(run step (connection.step event) later).EndAnnounced := by
  cases step_fate onlyData alive event with
  | breaks _ finished same stays =>
      rw [run_ended finished]
      intro announced
      exact stays.not_announced (announced finished (same.trans held))
  | runs calm _ _ => exact absurd fails calm
  | closes calm _ _ => exact absurd fails calm
  | dropped calm _ _ => exact absurd fails calm

theorem run_orderly {start : WsConnection} (orderly : Orderly start) {events : List ConnectionEvent}
    (sound : Throughout step start events Sound) : Orderly (run step start events) :=
  run_invariant_throughout Orderly orderly (fun _ _ kept here => step_orderly kept here) sound

/-- A running handler has met nothing that it would have ended at, so it has put data only. -/
theorem run_onlyData {start : WsConnection} (onlyData : OnlyData start)
    {events : List ConnectionEvent} (running : (run step start events).ended = false) :
    OnlyData (run step start events) := by
  induction events using List.reverseRecOn with
  | nil => exact onlyData
  | append_singleton events event ih =>
      rw [run_concat] at running ⊢
      have ended {after : WsConnection} (finished : after.ended = true)
          (still : after.ended = false) : OnlyData after := by
        rw [finished] at still
        cases still
      cases alive : (run step start events).ended with
      | true =>
          rw [step_ended alive] at running ⊢
          exact ended alive running
      | false =>
          cases step_fate (ih alive) alive event with
          | runs _ _ stays => exact stays
          | breaks _ _ _ stays => exact stays
          | closes _ finished _ => exact ended finished running
          | dropped _ finished _ => exact ended finished running

theorem run_announced {pageNum : Nat} {wsId : String} {events : List ConnectionEvent}
    (sound : Throughout step (established pageNum wsId) events Sound) :
    (run step (established pageNum wsId) events).EndAnnounced := by
  refine (run_orderly ⟨fun _ => established_onlyData pageNum wsId, fun ended => ?_⟩ sound).announced
  cases ended

/-- The end of a connection is announced wherever its socket does not fail while the
core holds the sender, and nowhere else. -/
theorem run_endAnnounced_iff (pageNum : Nat) (wsId : String) (events : List ConnectionEvent) :
    (run step (established pageNum wsId) events).EndAnnounced ↔
      Throughout step (established pageNum wsId) events Sound := by
  constructor
  · rintro announced before event after rfl alive held fails
    rw [run_append] at announced
    exact step_silent (run_onlyData (established_onlyData pageNum wsId) alive) alive held fails after
      announced
  · exact run_announced

theorem broken_connection_is_silent :
    ¬(run step (established 1 "A") [.receiveError]).EndAnnounced := by
  intro announced
  exact absurd (announced rfl rfl) (OnlyData.not_announced ⟨[[]], rfl⟩)

end WsConnection

def HandlerPhase.ending : HandlerPhase → Bool
  | wants (.message _ isClose) => isClose
  | sending (.message _ isClose) => isClose
  | ended => true
  | _ => false

namespace DeviceTasks

variable {tasks after : DeviceTasks}

def connectionEvents (wsId : String) (tasks : DeviceTasks) (action : TaskAction) :
    List ConnectionEvent :=
  match action with
  | .frame mover data =>
      if mover = wsId ∧ (tasks.next action).isSome then [.binary data] else []
  | .closeFrame mover => if mover = wsId ∧ (tasks.next action).isSome then [.closeFrame] else []
  | .socketFailed mover => if mover = wsId ∧ (tasks.next action).isSome then [.receiveError] else []
  | _ => []

structure Shows (handler : WsHandler) (wsId : String) (sent : List WsToWiMessage)
    (connection : WsConnection) : Prop where
  pageNum : connection.pageNum = handler.pageNum
  wsId : connection.wsId = wsId
  put : connection.put = sent
  held : connection.senderHeld = true
  ended : connection.ended = handler.phase.ending

theorem Shows.setPhase {wsId : String} {handler : WsHandler} {sent : List WsToWiMessage}
    {connection : WsConnection} (shows : Shows handler wsId sent connection)
    (found : tasks.handlers.lookup wsId = some handler) {mover : String} {moving : WsHandler}
    (other : tasks.handlers.lookup mover = some moving) {phase : HandlerPhase}
    (same : phase.ending = moving.phase.ending) :
    ∃ later, (tasks.setPhase mover phase).handlers.lookup wsId = some later ∧
      Shows later wsId sent connection := by
  simp only [DeviceTasks.setPhase, Table.lookup_modify]
  by_cases own : wsId = mover
  · subst own
    rw [found] at other
    cases other
    exact ⟨{ handler with phase }, by rw [if_pos rfl, found]; rfl, shows.pageNum, shows.wsId,
      shows.put, shows.held, shows.ended.trans same.symm⟩
  · exact ⟨handler, by rw [if_neg own, found], shows⟩

theorem Shows.setInbox {wsId : String} {handler : WsHandler} {sent : List WsToWiMessage}
    {connection : WsConnection} (shows : Shows handler wsId sent connection)
    (found : tasks.handlers.lookup wsId = some handler) (mover : String)
    (inbox : Channel (List UInt8) 64) :
    ∃ later, (tasks.setInbox mover inbox).handlers.lookup wsId = some later ∧
      Shows later wsId sent connection := by
  simp only [DeviceTasks.setInbox, Table.lookup_modify]
  by_cases own : wsId = mover
  · exact ⟨{ handler with inbox }, by rw [if_pos own, found]; rfl, shows.pageNum, shows.wsId,
      shows.put, shows.held, shows.ended⟩
  · exact ⟨handler, by rw [if_neg own, found], shows⟩

theorem Shows.handOver {wsId : String} {handler : WsHandler} {sent : List WsToWiMessage}
    {connection : WsConnection} (shows : Shows handler wsId sent connection)
    (found : tasks.handlers.lookup wsId = some handler) {destId : String} {data : List UInt8}
    (given : tasks.handOver destId data = some after) :
    ∃ later, after.handlers.lookup wsId = some later ∧ Shows later wsId sent connection := by
  rcases handOver_cases given with rfl | ⟨tx, _, inbox, _, _, _, _, rfl⟩
  · exact ⟨handler, found, shows⟩
  · exact shows.setInbox found tx.owner inbox

theorem Shows.send {wsId : String} {handler : WsHandler} {sent : List WsToWiMessage}
    {connection : WsConnection} (shows : Shows handler wsId sent connection) (data : List UInt8)
    (isClose : Bool) :
    (connection.send data isClose).put = sent ++ [⟨handler.pageNum, wsId, data, isClose⟩] := by
  rw [WsConnection.send, shows.put, shows.pageNum, shows.wsId]

/-- Where the handler of the client is bridging, its connection takes the event. -/
theorem Shows.socketEvent {wsId : String} {handler : WsHandler} {sent : List WsToWiMessage}
    {connection : WsConnection} (shows : Shows handler wsId sent connection)
    (found : tasks.handlers.lookup wsId = some handler) {mover : String} {moving : WsHandler}
    (other : tasks.handlers.lookup mover = some moving) (bridging : moving.phase = .bridging)
    {phase : HandlerPhase} {event : ConnectionEvent} {added : List WsToWiMessage}
    (taken : moving = handler → connection.ended = false →
      Shows { handler with phase } wsId (sent ++ added) (connection.step event)) :
    ∃ later, (tasks.setPhase mover phase).handlers.lookup wsId = some later ∧
      Shows later wsId (sent ++ if mover = wsId then added else [])
        (run WsConnection.step connection (if mover = wsId then [event] else [])) := by
  simp only [DeviceTasks.setPhase, Table.lookup_modify]
  by_cases own : mover = wsId
  · subst own
    rw [found] at other
    cases other
    rw [if_pos rfl, if_pos rfl, if_pos rfl, found]
    exact ⟨_, rfl, taken rfl (shows.ended.trans (by rw [bridging]; rfl))⟩
  · rw [if_neg own, if_neg own, if_neg fun same => own same.symm, found, List.append_nil]
    exact ⟨handler, rfl, shows⟩

theorem taskStep_shows {action : TaskAction} (accepted : tasks.next action = some after)
    {wsId : String} {handler : WsHandler} (found : tasks.handlers.lookup wsId = some handler)
    {sent : List WsToWiMessage} {connection : WsConnection}
    (shows : Shows handler wsId sent connection) :
    ∃ later, after.handlers.lookup wsId = some later ∧
      Shows later wsId (sent ++ tasks.sentMessages wsId action)
        (run WsConnection.step connection (tasks.connectionEvents wsId action)) := by
  have quiet {later : DeviceTasks} {messages : List WsToWiMessage} (nothing : messages = [])
      (kept : ∃ handler, later.handlers.lookup wsId = some handler ∧
        Shows handler wsId sent connection) :
      ∃ handler, later.handlers.lookup wsId = some handler ∧
        Shows handler wsId (sent ++ messages) connection := by
    rw [nothing, List.append_nil]
    exact kept
  cases next_taskStep accepted with
  | @upgrade mover pageNum _ fresh =>
      have other : wsId ≠ mover := by
        rintro rfl
        exact fresh (Table.mem_of_lookup found)
      refine quiet ?_ ⟨handler, ?_, shows⟩
      · simp [sentMessages, openingMessage, clientMessages, other.symm]
      · exact (AList.lookup_insert_ne other).trans found
  | acquire other wanted _ =>
      exact quiet rfl (shows.setPhase found other (by rw [wanted]; cases ‹Outgoing› <;> rfl))
  | register other sending _ => exact quiet rfl (shows.setPhase found other (by rw [sending]; rfl))
  | @put _ _ _ isClose _ other sending _ =>
      exact quiet rfl (shows.setPhase found other (by rw [sending]; cases isClose <;> rfl))
  | @frame mover moving data other bridging =>
      rw [frame_sentMessages other bridging]
      simp only [connectionEvents, accepted, Option.isSome_some, and_true]
      refine shows.socketEvent found other bridging ?_
      rintro rfl running
      have stepped : connection.step (.binary data) = connection.send data false := by
        simp [WsConnection.step, running]
      rw [stepped]
      exact ⟨shows.pageNum, shows.wsId, shows.send data false, shows.held, running⟩
  | @closeFrame mover moving other bridging =>
      rw [closeFrame_sentMessages other bridging]
      simp only [connectionEvents, accepted, Option.isSome_some, and_true]
      refine shows.socketEvent found other bridging ?_
      rintro rfl running
      have stepped : connection.step .closeFrame = (connection.send [] true).finish := by
        simp [WsConnection.step, running]
      rw [stepped]
      exact ⟨shows.pageNum, shows.wsId, shows.send [] true, shows.held, rfl⟩
  | @socketFailed mover moving other bridging =>
      have nothing : tasks.sentMessages wsId (.socketFailed mover) =
          if mover = wsId then [] else [] := (ite_self []).symm
      rw [nothing]
      simp only [connectionEvents, accepted, Option.isSome_some, and_true]
      refine shows.socketEvent found other bridging ?_
      rintro rfl running
      have stepped : connection.step .receiveError = connection.finish := by
        simp [WsConnection.step, running]
      rw [stepped, List.append_nil]
      exact ⟨shows.pageNum, shows.wsId, shows.put, shows.held, rfl⟩
  | receive _ _ _ => exact quiet rfl (shows.setInbox found _ _)
  | handOver _ given => exact quiet rfl (shows.handOver found given)
  | deliver _ given =>
      have idle : { tasks with main := .select }.handlers.lookup wsId = some handler := found
      exact quiet rfl (shows.handOver idle given)
  | _ => exact quiet rfl ⟨handler, found, shows⟩

theorem connectionEvents_idle {wsId : String} {action : TaskAction}
    (stuck : tasks.next action = none) : tasks.connectionEvents wsId action = [] := by
  cases action <;> simp [connectionEvents, stuck]

theorem connectionEvents_absent {wsId : String} (absent : tasks.pageOf wsId = none)
    (action : TaskAction) : tasks.connectionEvents wsId action = [] := by
  have missing : tasks.handlers.lookup wsId = none := Option.map_eq_none_iff.mp absent
  have silent (mover : String) (own : mover = wsId) (phase : HandlerPhase) :
      tasks.socketEvent mover phase = none := by
    subst own
    simp [DeviceTasks.socketEvent, missing]
  cases action with
  | frame mover data =>
      exact if_neg fun both => by simp [next, silent mover both.1] at both
  | closeFrame mover => exact if_neg fun both => by simp [next, silent mover both.1] at both
  | socketFailed mover => exact if_neg fun both => by simp [next, silent mover both.1] at both
  | _ => rfl

theorem upgraded_phase {wsId : String} {action : TaskAction} {message : WsToWiMessage}
    (opening : tasks.openingMessage wsId action = [message]) {handler : WsHandler}
    (found : (tasks.step action).handlers.lookup wsId = some handler) :
    handler.phase = .wants .registration := by
  cases action with
  | upgrade mover pageNum =>
      simp only [openingMessage] at opening
      split at opening
      · rename_i both
        obtain ⟨rfl, accepted⟩ := both
        obtain ⟨after, moved⟩ := Option.isSome_iff_exists.mp accepted
        rw [step_moved moved] at found
        cases next_taskStep moved with
        | upgrade _ _ =>
            rw [AList.lookup_insert] at found
            cases found
            rfl
      · cases opening
  | _ => cases opening

theorem run_shows (wsId : String) (runtime : DeviceRuntime) {actions : List TaskAction}
    {handler : WsHandler}
    (found : (run step (start runtime) actions).handlers.lookup wsId = some handler) :
    Shows handler wsId (collected step (sentMessages wsId) (start runtime) actions)
      (run WsConnection.step (.established handler.pageNum wsId)
        (collected step (connectionEvents wsId) (start runtime) actions)) := by
  induction actions using List.reverseRecOn generalizing handler with
  | nil => cases found
  | append_singleton actions action ih =>
      rw [run_concat] at found
      have page := pageOf_eq found
      cases before : (run step (start runtime) actions).handlers.lookup wsId with
      | none =>
          have absent : (run step (start runtime) actions).pageOf wsId = none := by
            rw [pageOf, before]
            rfl
          obtain ⟨opened, _⟩ := step_openingOf wsId (run step (start runtime) actions) action
          rw [openingOf, page, openingOf, absent] at opened
          have opening : openingMessage wsId (run step (start runtime) actions) action =
              [⟨handler.pageNum, wsId, [], false⟩] := opened.symm
          rw [collected_concat, collected_concat,
            collected_absent (fun _ => connectionEvents_absent) absent,
            connectionEvents_absent absent, collected_sentMessages, openingOf, absent,
            collected_absent (fun _ => clientMessages_absent) absent, sentMessages,
            clientMessages_absent absent, opening]
          exact ⟨rfl, rfl, rfl, rfl, by rw [upgraded_phase opening found]; rfl⟩
      | some earlier =>
          have same : earlier.pageNum = handler.pageNum := by
            rcases step_cases (run step (start runtime) actions) action with stays | moved
            · rw [stays, pageOf_eq before] at page
              exact Option.some.inj page
            · rw [taskStep_pageOf moved (pageOf_eq before)] at page
              exact Option.some.inj page
          have shows := ih before
          rw [collected_concat, collected_concat, run_append, ← same]
          cases stepped : (run step (start runtime) actions).next action with
          | none =>
              rw [step_stuck stepped, before] at found
              cases found
              rw [sentMessages_idle stepped, connectionEvents_idle stepped, List.append_nil]
              exact shows
          | some after =>
              rw [step_moved stepped] at found
              obtain ⟨later, here, still⟩ := taskStep_shows stepped before shows
              rw [found] at here
              cases here
              exact still

theorem connectionEvents_sound {wsId : String} {action : TaskAction} {event : ConnectionEvent}
    (member : event ∈ tasks.connectionEvents wsId action) (intact : event ≠ .receiveError)
    (connection : WsConnection) : ¬connection.SocketFails event := by
  cases event with
  | receiveError => exact absurd rfl intact
  | ping pongSent => cases action <;> simp [connectionEvents] at member
  | reply textSent => cases action <;> simp [connectionEvents] at member
  | _ => exact id

/-- In every run of the tasks, a handler that has ended with its socket intact has
told the core so, after everything else. -/
theorem run_lastMessage (wsId : String) (runtime : DeviceRuntime) {actions : List TaskAction}
    (ended : (run step (start runtime) actions).stage wsId = .ended)
    (intact : .receiveError ∉ collected step (connectionEvents wsId) (start runtime) actions) :
    ∃ (pageNum : Nat) (frames : List (List UInt8)),
      collected step (sentMessages wsId) (start runtime) actions =
        frames.map (fun data => ⟨pageNum, wsId, data, false⟩) ++ [⟨pageNum, wsId, [], true⟩] := by
  cases found : (run step (start runtime) actions).handlers.lookup wsId with
  | none =>
      rw [stage, found] at ended
      cases ended
  | some handler =>
      rw [stage_eq found, HandlerPhase.stage_eq_ended] at ended
      have shows := run_shows wsId runtime found
      have sound : Throughout WsConnection.step (.established handler.pageNum wsId)
          (collected step (connectionEvents wsId) (start runtime) actions) WsConnection.Sound := by
        intro before event after split _ _
        have member : event ∈ collected step (connectionEvents wsId) (start runtime) actions := by
          rw [split]
          exact List.mem_append_right _ List.mem_cons_self
        obtain ⟨_, _, _, _, given⟩ := mem_collected member
        exact connectionEvents_sound given (fun same => intact (same ▸ member)) _
      have announced := WsConnection.run_announced sound
      obtain ⟨frames, shape⟩ :=
        (announced (shows.ended.trans (by rw [ended]; rfl)) shows.held).last
      rw [shows.put, shows.pageNum, shows.wsId] at shape
      exact ⟨handler.pageNum, frames, shape⟩

end DeviceTasks

end IosWebkitDebugProxy
