import IosWebkitDebugProxy.Library.History
import IosWebkitDebugProxy.CodecFrames
import IosWebkitDebugProxy.ProxyRuns

/-! The read tasks beside the main loop. A connection is read by a task of its
own, and another task forwards its events to the queue of the main loop. The
main loop is told what is read, but not that the reading has ended. -/

namespace IosWebkitDebugProxy

open Transition

/-- The read task of one connection: what the connection has delivered, whether
it has ended or failed, and how many events have been forwarded. -/
structure Reader where
  codec : WebInspectorCodec
  delivered : List UInt8
  closed : Bool
  taken : Nat

namespace Reader

variable (plist : PlistCrate)

def new (codec : WebInspectorCodec) : Reader := ⟨codec, [], false, 0⟩

def events (reader : Reader) : List WiEvent :=
  (wiReadLoop plist reader.codec reader.delivered).1.map Prod.fst

def waiting (reader : Reader) : List WiEvent := (reader.events plist).drop reader.taken

def Running (reader : Reader) : Prop :=
  reader.closed = false ∧ WaitsForMore plist reader.codec reader.delivered

def receive (bytes : List UInt8) (reader : Reader) : Reader :=
  if reader.closed then reader else { reader with delivered := reader.delivered ++ bytes }

def close (reader : Reader) : Reader := { reader with closed := true }

def take (reader : Reader) : Reader := { reader with taken := reader.taken + 1 }

end Reader

/-- `leaving` holds what is still to be forwarded for connections that were
disconnected. -/
structure ReadProxy where
  core : ProxyState
  readers : Table String Reader
  leaving : List (String × List WiEvent)
  queue : List (String × WiEvent)

inductive ReadAction where
  | attached (deviceId : String) (environment : ConnectEnvironment)
  | detached (deviceId : String) (passed : Nat)
  | deliver (deviceId : String) (bytes : List UInt8)
  | close (deviceId : String)
  | forward (deviceId : String)
  | forwardLeaving (index : Nat)
  | takeWi
  | wsMessage (deviceId : String) (message : WsToWiMessage)
  | registration (deviceId : String) (registration : WiToWsRegistration)

namespace ReadProxy

variable (plist : PlistCrate) (bridge : ProxyBridge)

/-- A connection that is made comes with a read task. -/
def attach (environment : ConnectEnvironment) (deviceId : String) (state : ReadProxy) :
    ReadProxy :=
  let core := bridge.connectDevice environment deviceId state.core
  match ProxyBridge.connectWebInspector environment deviceId with
  | some (_, codec) =>
      if deviceId ∉ state.core.devices ∧ deviceId ∈ core.devices then
        { state with core, readers := state.readers.assign deviceId (.new codec) }
      else { state with core }
  | none => { state with core }

/-- Disconnecting cancels the read task. What it had passed on is still
forwarded. -/
def detach (deviceId : String) (passed : Nat) (state : ReadProxy) : ReadProxy :=
  let core := bridge.disconnectDevice deviceId state.core
  match state.readers.lookup deviceId with
  | some reader =>
      { state with
        core
        readers := state.readers.erase deviceId
        leaving := state.leaving ++ [(deviceId, (reader.waiting plist).take passed)] }
  | none => { state with core }

def forward (deviceId : String) (state : ReadProxy) : ReadProxy :=
  match (state.readers.lookup deviceId).bind fun reader => (reader.waiting plist).head? with
  | some event =>
      { state with
        readers := state.readers.modify deviceId Reader.take
        queue := state.queue ++ [(deviceId, event)] }
  | none => state

def forwardLeaving (index : Nat) (state : ReadProxy) : ReadProxy :=
  match state.leaving[index]? with
  | some (deviceId, event :: rest) =>
      { state with
        leaving := state.leaving.set index (deviceId, rest)
        queue := state.queue ++ [(deviceId, event)] }
  | some (_, []) => { state with leaving := state.leaving.eraseIdx index }
  | none => state

def takeWi (state : ReadProxy) : ReadProxy :=
  match state.queue with
  | (deviceId, event) :: queue =>
      { state with core := bridge.handleWiEvent deviceId event state.core, queue }
  | [] => state

def step (state : ReadProxy) : ReadAction → ReadProxy
  | .attached deviceId environment => state.attach bridge environment deviceId
  | .detached deviceId passed => state.detach plist bridge deviceId passed
  | .deliver deviceId bytes =>
      { state with readers := state.readers.modify deviceId (Reader.receive bytes) }
  | .close deviceId => { state with readers := state.readers.modify deviceId Reader.close }
  | .forward deviceId => state.forward plist deviceId
  | .forwardLeaving index => state.forwardLeaving index
  | .takeWi => state.takeWi bridge
  | .wsMessage deviceId message =>
      { state with core := ProxyBridge.handleWsMessage deviceId message state.core }
  | .registration deviceId registration =>
      { state with core := ProxyBridge.handleWsRegistration deviceId registration state.core }

def start (environment : ConnectEnvironment) : ReadProxy :=
  attach bridge environment "SIMULATOR" ⟨.empty, ∅, [], []⟩

def run (environment : ConnectEnvironment) (actions : List ReadAction) : ReadProxy :=
  Transition.run (step plist bridge) (start bridge environment) actions

structure Drained (state : ReadProxy) : Prop where
  queue : state.queue = []
  leaving : state.leaving = []
  readers : ∀ deviceId reader, state.readers.lookup deviceId = some reader →
    reader.waiting plist = []

/-- A device that counts as connected is being read. A device whose read task
has ended is not listed, and the next attachment is not taken for a second one. -/
structure ConnectedServed (state : ReadProxy) : Prop where
  connected : ∀ deviceId runtime, state.core.devices.lookup deviceId = some runtime →
    runtime.connected = true →
    ∃ reader, state.readers.lookup deviceId = some reader ∧ reader.Running plist
  unlisted : ∀ deviceId reader, state.readers.lookup deviceId = some reader →
    ¬reader.Running plist → ∀ info ∈ state.core.deviceListState, info.deviceId ≠ deviceId
  reopens : ∀ deviceId reader, state.readers.lookup deviceId = some reader →
    ¬reader.Running plist → deviceId ∉ state.core.devices

/-- No connection that is being read ends, and none delivers a packet that
declares more than is allowed. -/
def ReadersGoOn (state : ReadProxy) : ReadAction → Prop
  | .close deviceId => deviceId ∉ state.readers
  | .deliver deviceId bytes => ∀ reader, state.readers.lookup deviceId = some reader →
      reader.closed = false → ¬Oversized (reader.delivered ++ bytes)
  | _ => True

/-- What was read moves on, and nothing else happens. -/
def Drains : ReadAction → Prop
  | .forward _ | .forwardLeaving _ | .takeWi => True
  | _ => False

def Linked (state : ReadProxy) : Prop :=
  ∀ deviceId, deviceId ∈ state.readers ↔ deviceId ∈ state.core.devices

def Serving (state : ReadProxy) : Prop :=
  ∀ deviceId reader, state.readers.lookup deviceId = some reader → reader.Running plist

/-- How many times events still have to be moved. -/
def backlog (state : ReadProxy) : Nat :=
  2 * (state.readers.values.map fun reader => (reader.waiting plist).length).sum +
    2 * (state.leaving.map fun left => left.2.length).sum + state.leaving.length +
    state.queue.length

variable {plist bridge} {state : ReadProxy}

theorem handleWiEvent_mem {state : ProxyState} {deviceId handled : String} {event : WiEvent} :
    deviceId ∈ (bridge.handleWiEvent handled event state).devices ↔ deviceId ∈ state.devices := by
  rcases bridge.handleWiEvent_devices handled event state with same | ⟨message, updated⟩
  · rw [same]
  · rw [updated, Table.mem_modify]

theorem connectDevice_mem {state : ProxyState} {environment : ConnectEnvironment}
    {deviceId handled : String} (other : deviceId ≠ handled) :
    deviceId ∈ (bridge.connectDevice environment handled state).devices ↔
      deviceId ∈ state.devices := by
  unfold ProxyBridge.connectDevice
  split
  · rfl
  · split
    · simp [ProxyState.updateDeviceList, other]
    · rfl

theorem connectDevice_attached {state : ProxyState} {environment : ConnectEnvironment}
    {deviceId : String} (attached : deviceId ∈ state.devices) :
    deviceId ∈ (bridge.connectDevice environment deviceId state).devices := by
  rw [ProxyBridge.connectDevice, if_pos attached]
  exact attached

theorem attach_core (environment : ConnectEnvironment) (deviceId : String) :
    (state.attach bridge environment deviceId).core =
      bridge.connectDevice environment deviceId state.core := by
  simp only [attach]
  split
  · split <;> rfl
  · rfl

variable (bridge state) in
theorem attach_readers (environment : ConnectEnvironment) (deviceId : String) :
    ((state.attach bridge environment deviceId).readers = state.readers ∧
        (deviceId ∈ (bridge.connectDevice environment deviceId state.core).devices ↔
          deviceId ∈ state.core.devices)) ∨
      ∃ codec, (state.attach bridge environment deviceId).readers =
          state.readers.assign deviceId (.new codec) ∧
        deviceId ∈ (bridge.connectDevice environment deviceId state.core).devices := by
  simp only [attach]
  split
  · rename_i connection codec made
    split
    · rename_i fresh
      exact .inr ⟨codec, rfl, fresh.2⟩
    · rename_i same
      refine .inl ⟨rfl, fun now => ?_, connectDevice_attached⟩
      by_contra absent
      exact same ⟨absent, now⟩
  · rename_i unconnected
    exact .inl ⟨rfl, by rw [ProxyBridge.connectDevice_unconnected unconnected]⟩

theorem attach_linked (linked : Linked state) (environment : ConnectEnvironment)
    (deviceId : String) : Linked (state.attach bridge environment deviceId) := by
  intro other
  rw [attach_core]
  by_cases here : other = deviceId
  · subst here
    rcases state.attach_readers bridge environment other with
      ⟨same, kept⟩ | ⟨codec, added, now⟩
    · rw [same, kept]
      exact linked other
    · rw [added]
      simp [now]
  · rw [connectDevice_mem here, ← linked other]
    rcases state.attach_readers bridge environment deviceId with
      ⟨same, _⟩ | ⟨codec, added, _⟩
    · rw [same]
    · rw [added]
      simp [here]

theorem detach_linked (linked : Linked state) (deviceId : String) (passed : Nat) :
    Linked (state.detach plist bridge deviceId passed) := by
  intro other
  have kept := linked other
  simp only [detach]
  split
  · simp only [ProxyBridge.disconnectDevice_devices, AList.mem_erase]
    exact and_congr_right fun _ => kept
  · rename_i missing
    have unread : deviceId ∉ state.readers := AList.lookup_eq_none.mp missing
    have absent : deviceId ∉ state.core.devices := fun attached =>
      unread ((linked deviceId).mpr attached)
    simp only [ProxyBridge.disconnectDevice_devices, Table.erase_eq_self absent]
    exact kept

theorem forward_core (deviceId : String) : (state.forward plist deviceId).core = state.core := by
  unfold forward
  split <;> rfl

variable (plist state) in
theorem forward_readers (deviceId : String) :
    (state.forward plist deviceId).readers = state.readers ∨
      (state.forward plist deviceId).readers = state.readers.modify deviceId Reader.take := by
  unfold forward
  split
  · exact .inr rfl
  · exact .inl rfl

theorem forwardLeaving_core (index : Nat) : (state.forwardLeaving index).core = state.core := by
  unfold forwardLeaving
  split <;> rfl

theorem forwardLeaving_readers (index : Nat) :
    (state.forwardLeaving index).readers = state.readers := by
  unfold forwardLeaving
  split <;> rfl

theorem takeWi_readers : (state.takeWi bridge).readers = state.readers := by
  unfold takeWi
  split <;> rfl

theorem takeWi_mem (deviceId : String) :
    deviceId ∈ (state.takeWi bridge).core.devices ↔ deviceId ∈ state.core.devices := by
  unfold takeWi
  split
  · exact handleWiEvent_mem
  · rfl

theorem step_linked (linked : Linked state) (action : ReadAction) :
    Linked (state.step plist bridge action) := by
  cases action with
  | attached deviceId environment => exact attach_linked linked environment deviceId
  | detached deviceId passed => exact detach_linked linked deviceId passed
  | deliver deviceId bytes => exact fun other => Table.mem_modify.trans (linked other)
  | close deviceId => exact fun other => Table.mem_modify.trans (linked other)
  | forward deviceId =>
      intro other
      rw [step, forward_core, ← linked other]
      rcases state.forward_readers plist deviceId with same | moved
      · rw [same]
      · rw [moved, Table.mem_modify]
  | forwardLeaving index =>
      intro other
      rw [step, forwardLeaving_core, forwardLeaving_readers]
      exact linked other
  | takeWi =>
      intro other
      rw [step, takeWi_readers, takeWi_mem]
      exact linked other
  | wsMessage deviceId message => exact fun other => (linked other).trans Table.mem_modify.symm
  | registration deviceId registration =>
      exact fun other => (linked other).trans Table.mem_modify.symm

theorem start_linked (environment : ConnectEnvironment) : Linked (start bridge environment) := by
  apply attach_linked
  intro deviceId
  simp [ProxyState.empty]

theorem new_running (codec : WebInspectorCodec) : (Reader.new codec).Running plist :=
  ⟨rfl, .inl (congrArg Prod.snd (wiReadLoop_short rfl))⟩

theorem attach_serving (serving : Serving plist state) (environment : ConnectEnvironment)
    (deviceId : String) : Serving plist (state.attach bridge environment deviceId) := by
  intro other reader found
  rcases state.attach_readers bridge environment deviceId with
    ⟨same, _⟩ | ⟨codec, added, _⟩
  · rw [same] at found
    exact serving other reader found
  · rw [added, Table.lookup_assign] at found
    split at found
    · cases found
      exact new_running codec
    · exact serving other reader found

theorem serving_modify (serving : Serving plist state) (deviceId : String)
    {update : Reader → Reader}
    (keeps : ∀ reader, state.readers.lookup deviceId = some reader → reader.Running plist →
      (update reader).Running plist) :
    ∀ other reader, (state.readers.modify deviceId update).lookup other = some reader →
      reader.Running plist := by
  intro other reader found
  rcases Table.lookup_of_modify found with ⟨rfl, old, stored, rfl⟩ | ⟨_, found⟩
  · exact keeps old stored (serving other old stored)
  · exact serving other reader found

theorem step_serving (serving : Serving plist state) {action : ReadAction}
    (goOn : state.ReadersGoOn action) : Serving plist (state.step plist bridge action) := by
  cases action with
  | attached deviceId environment => exact attach_serving serving environment deviceId
  | detached deviceId passed =>
      intro other reader found
      simp only [step, detach] at found
      split at found
      · exact serving other reader (Table.lookup_of_erase found)
      · exact serving other reader found
  | deliver deviceId bytes =>
      apply serving_modify serving
      intro reader stored running
      have opened := running.1
      have allowed := goOn reader stored opened
      rw [Reader.receive, if_neg (by simp [opened])]
      exact ⟨opened, waitsForMore_iff.mpr allowed⟩
  | close deviceId =>
      apply serving_modify serving
      intro reader stored _
      exact absurd (Table.mem_of_lookup stored) goOn
  | forward deviceId =>
      intro other reader found
      rcases state.forward_readers plist deviceId with same | moved
      · rw [step, same] at found
        exact serving other reader found
      · rw [step, moved] at found
        refine serving_modify serving deviceId ?_ other reader found
        exact fun _ _ running => running
  | forwardLeaving index =>
      intro other reader found
      rw [step, forwardLeaving_readers] at found
      exact serving other reader found
  | takeWi =>
      intro other reader found
      rw [step, takeWi_readers] at found
      exact serving other reader found
  | wsMessage deviceId message => exact serving
  | registration deviceId registration => exact serving

variable (plist bridge) in
theorem goOn_of_serving {action : ReadAction}
    (serving : Serving plist (state.step plist bridge action)) : state.ReadersGoOn action := by
  cases action with
  | deliver deviceId bytes =>
      intro reader stored opened
      have after := serving deviceId (reader.receive bytes) (by
        rw [step, Table.lookup_modify, if_pos rfl, stored]
        rfl)
      have kept := after.2
      rw [Reader.receive, if_neg (by simp [opened])] at kept
      exact waitsForMore_iff.mp kept
  | close deviceId =>
      intro read
      obtain ⟨reader, stored⟩ := Table.exists_lookup read
      have after := serving deviceId reader.close (by
        rw [step, Table.lookup_modify, if_pos rfl, stored]
        rfl)
      cases after.1
  | _ => trivial

theorem goOn_of_drains {action : ReadAction} (drains : Drains action) :
    state.ReadersGoOn action := by
  cases action with
  | deliver deviceId bytes => cases drains
  | close deviceId => cases drains
  | _ => trivial

theorem connectedServed_of_serving (linked : Linked state) (serving : Serving plist state) :
    ConnectedServed plist state where
  connected deviceId runtime stored _ := by
    have attached : deviceId ∈ state.core.devices := Table.mem_of_lookup stored
    obtain ⟨reader, found⟩ := Table.exists_lookup ((linked deviceId).mpr attached)
    exact ⟨reader, found, serving deviceId reader found⟩
  unlisted deviceId reader found ended := absurd (serving deviceId reader found) ended
  reopens deviceId reader found ended := absurd (serving deviceId reader found) ended

theorem serving_of_connectedServed (linked : Linked state) (served : ConnectedServed plist state) :
    Serving plist state := by
  intro deviceId reader found
  by_contra ended
  have read : deviceId ∈ state.readers := Table.mem_of_lookup found
  exact served.reopens deviceId reader found ended ((linked deviceId).mp read)

theorem serving_of_drains {action : ReadAction} (drains : Drains action)
    (serving : Serving plist (state.step plist bridge action)) : Serving plist state := by
  intro deviceId reader found
  cases action with
  | forward handled =>
      rcases state.forward_readers plist handled with same | moved
      · exact serving deviceId reader (by rw [step, same, found])
      · by_cases here : deviceId = handled
        · exact serving deviceId reader.take (by
            rw [step, moved, Table.lookup_modify, if_pos here, found]
            rfl)
        · exact serving deviceId reader (by
            rw [step, moved, Table.lookup_modify, if_neg here, found])
  | forwardLeaving index =>
      exact serving deviceId reader (by rw [step, forwardLeaving_readers, found])
  | takeWi => exact serving deviceId reader (by rw [step, takeWi_readers, found])
  | _ => cases drains

theorem forward_backlog {deviceId : String} {reader : Reader}
    (found : state.readers.lookup deviceId = some reader) (left : reader.waiting plist ≠ []) :
    backlog plist (state.forward plist deviceId) < backlog plist state := by
  obtain ⟨event, rest, waiting⟩ := List.exists_cons_of_ne_nil left
  have taken : reader.take.waiting plist = rest := by
    have dropped := List.tail_drop (l := reader.events plist) (i := reader.taken)
    rw [← Reader.waiting, waiting, List.tail_cons] at dropped
    exact dropped.symm
  have balance := Table.sum_modify (fun reader => (reader.waiting plist).length) Reader.take found
  simp only [waiting, taken, List.length_cons] at balance
  simp only [forward, found, Option.bind_some, waiting, List.head?_cons, backlog,
    List.length_append, List.length_singleton]
  omega

theorem forwardLeaving_backlog (left : state.leaving ≠ []) :
    backlog plist (state.forwardLeaving 0) < backlog plist state := by
  obtain ⟨⟨deviceId, events⟩, others, leaving⟩ := List.exists_cons_of_ne_nil left
  cases events with
  | nil =>
      simp only [forwardLeaving, leaving, List.getElem?_cons_zero, List.eraseIdx_cons_zero, backlog,
        List.map_cons, List.sum_cons, List.length_cons, List.length_nil]
      omega
  | cons event rest =>
      simp only [forwardLeaving, leaving, List.getElem?_cons_zero, List.set_cons_zero, backlog,
        List.map_cons, List.sum_cons, List.length_cons, List.length_append, List.length_nil]
      omega

theorem takeWi_backlog (left : state.queue ≠ []) :
    backlog plist (state.takeWi bridge) < backlog plist state := by
  obtain ⟨⟨deviceId, event⟩, rest, queue⟩ := List.exists_cons_of_ne_nil left
  simp only [takeWi, queue, backlog, List.length_cons]
  omega

variable (bridge) in
theorem exists_drains (undrained : ¬Drained plist state) :
    ∃ action, Drains action ∧ backlog plist (state.step plist bridge action) <
      backlog plist state := by
  by_cases queue : state.queue = []
  · by_cases leaving : state.leaving = []
    · by_contra stuck
      refine undrained ⟨queue, leaving, ?_⟩
      intro deviceId reader found
      by_contra left
      exact stuck ⟨.forward deviceId, trivial, forward_backlog found left⟩
    · exact ⟨.forwardLeaving 0, trivial, forwardLeaving_backlog leaving⟩
  · exact ⟨.takeWi, trivial, takeWi_backlog queue⟩

variable (plist bridge state) in
theorem exists_drained :
    ∃ later, (∀ action ∈ later, Drains action) ∧
      Drained plist (Transition.run (step plist bridge) state later) := by
  refine exists_run_of_decreasing (backlog plist) (fun _ => True) ?_ trivial
  intro before _ undrained
  obtain ⟨action, drains, decreases⟩ := exists_drains bridge undrained
  exact ⟨action, drains, trivial, decreases⟩

theorem serving_of_drained {later : List ReadAction} (drains : ∀ action ∈ later, Drains action)
    (serving : Serving plist (Transition.run (step plist bridge) state later)) :
    Serving plist state := by
  induction later generalizing state with
  | nil => exact serving
  | cons action later ih =>
      obtain ⟨moves, rest⟩ := List.forall_mem_cons.mp drains
      exact serving_of_drains moves (ih rest serving)

theorem run_after (environment : ConnectEnvironment) (before later : List ReadAction) :
    run plist bridge environment (before ++ later) =
      Transition.run (step plist bridge) (run plist bridge environment before) later :=
  run_append before later

theorem run_linked (environment : ConnectEnvironment) (actions : List ReadAction) :
    Linked (run plist bridge environment actions) :=
  run_invariant Linked (start_linked environment)
    (fun _ action linked => step_linked linked action) actions

theorem start_serving (environment : ConnectEnvironment) :
    Serving plist (start bridge environment) := by
  apply attach_serving
  intro deviceId reader found
  simp at found

/-- Wherever everything that was read has been handled, the devices that count
as connected are being read and no others, as long as no connection ends and
none delivers too much in one packet. -/
theorem run_connectedServed_iff (plist : PlistCrate) (bridge : ProxyBridge)
    (environment : ConnectEnvironment) (actions : List ReadAction) :
    (∀ before after later, actions = before ++ after → (∀ action ∈ later, Drains action) →
        Drained plist (run plist bridge environment (before ++ later)) →
        ConnectedServed plist (run plist bridge environment (before ++ later))) ↔
      Throughout (step plist bridge) (start bridge environment) actions ReadersGoOn := by
  constructor
  · intro served
    have serving : ∀ before after, actions = before ++ after →
        Serving plist (run plist bridge environment before) := by
      intro before after split
      obtain ⟨later, drains, drained⟩ :=
        exists_drained plist bridge (run plist bridge environment before)
      apply serving_of_drained drains
      rw [← run_after] at drained ⊢
      exact serving_of_connectedServed (run_linked environment _)
        (served before after later split drains drained)
    intro before action after split
    apply goOn_of_serving plist bridge
    have next := serving (before ++ [action]) after (by simp [split])
    rw [run, run_concat] at next
    exact next
  · intro goOn before after later split drains _
    apply connectedServed_of_serving (run_linked environment _)
    refine run_invariant_throughout (Serving plist) (start_serving environment)
      (fun _ _ serving allowed => step_serving serving allowed) ?_
    rw [split, throughout_append] at goOn
    refine throughout_append.mpr ⟨goOn.1, ?_⟩
    intro front action rest cut
    exact goOn_of_drains (drains action (by simp [cut]))

open WebInspectorCodec

def setupReader (closed : Bool) (taken : Nat) : Reader :=
  ⟨.new false false, buildPacket reportSetupBin, closed, taken⟩

theorem setupReader_waiting (closed : Bool) (taken : Nat) :
    (setupReader closed taken).waiting reportSetupCrate =
      [.recvPlist reportSetupPlist].drop taken := by
  have declared : bodyLength (buildPacket reportSetupBin) =
      some reportSetupBin.length := by decide +kernel
  have whole : (buildPacket reportSetupBin).length = 4 + reportSetupBin.length := by
    decide +kernel
  have turn : packetTurn reportSetupCrate (.new false false) ((buildPacket reportSetupBin).drop 4) =
      ([(.recvPlist reportSetupPlist, .new false false)], .new false false) := rfl
  rw [Reader.waiting, Reader.events, setupReader, ← List.append_nil (buildPacket reportSetupBin),
    wiReadLoop_frame declared (by decide) whole, wiReadLoop_short rfl, turn]
  rfl

def servedPhone (runtime : DeviceRuntime) (listed : List DeviceInfo) (reader : Reader)
    (queue : List (String × WiEvent)) : ReadProxy :=
  ⟨⟨(∅ : Table String DeviceRuntime).assign "UDID" runtime, listed, []⟩,
    (∅ : Table String Reader).assign "UDID" reader, [], queue⟩

def endedConnection : List ReadAction :=
  [.attached "UDID" phoneEnvironment, .deliver "UDID" (buildPacket reportSetupBin),
    .forward "UDID", .takeWi, .close "UDID"]

theorem run_endedConnection :
    run reportSetupCrate plainBridge idleEnvironment endedConnection =
      servedPhone phoneRuntime.setConnected [phoneRuntime.deviceInfo] (setupReader true 1) [] := by
  have delivered : run reportSetupCrate plainBridge idleEnvironment (endedConnection.take 2) =
      servedPhone phoneRuntime [] (setupReader false 0) [] := rfl
  have forwarded : forward reportSetupCrate "UDID"
        (servedPhone phoneRuntime [] (setupReader false 0) []) =
      servedPhone phoneRuntime [] (setupReader false 1)
        [("UDID", .recvPlist reportSetupPlist)] := by
    have found : (servedPhone phoneRuntime [] (setupReader false 0) []).readers.lookup "UDID" =
        some (setupReader false 0) := rfl
    rw [forward, found, Option.bind_some, setupReader_waiting]
    rfl
  have rest : endedConnection =
      endedConnection.take 2 ++ [.forward "UDID", .takeWi, .close "UDID"] := rfl
  rw [rest, run_after, delivered, Transition.run, List.foldl_cons, step, forwarded]
  rfl

/-- The connection of a phone that counts as connected ends. Everything that was
read has been handled, and the phone stays listed and attached. -/
theorem ended_connection_stays_connected :
    Drained reportSetupCrate
        (run reportSetupCrate plainBridge idleEnvironment endedConnection) ∧
      ¬ConnectedServed reportSetupCrate
        (run reportSetupCrate plainBridge idleEnvironment endedConnection) := by
  rw [run_endedConnection]
  constructor
  · refine ⟨rfl, rfl, ?_⟩
    intro deviceId reader found
    rw [servedPhone, Table.lookup_assign] at found
    split at found
    · cases found
      rw [setupReader_waiting]
      rfl
    · simp at found
  · intro served
    obtain ⟨reader, found, running⟩ := served.connected "UDID" phoneRuntime.setConnected rfl rfl
    cases found
    cases running.1

end ReadProxy

end IosWebkitDebugProxy
