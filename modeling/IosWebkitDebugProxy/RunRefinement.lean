import IosWebkitDebugProxy.ListenerSessions
import IosWebkitDebugProxy.RunCore

/-! The life of the proxy against its parts: its listener task runs as one by itself,
and its core goes through the rounds of the main loop, for the device events that the
listener sent. -/

namespace IosWebkitDebugProxy

open Transition DeviceListenerParser ProxyBridge

def DeviceEvent.change : DeviceEvent → String × Bool
  | .attached deviceId _ => (deviceId, true)
  | .detached deviceId _ => (deviceId, false)

def ProxyEvent.change : ProxyEvent → Option (String × Bool)
  | .attached deviceId _ => some (deviceId, true)
  | .detached deviceId => some (deviceId, false)
  | _ => none

namespace ProxyRun

variable {plist : PlistCrate} {bridge : ProxyBridge} {life after : ProxyRun} {taken : RunAction}

inductive Connects (bridge : ProxyBridge) (environment : ConnectEnvironment) (deviceId : String)
    (life : ProxyRun) : Prop
  | stays : (bridge.connectDevice environment deviceId life.core).devices = life.core.devices →
      connect bridge environment deviceId life =
        { life with core := bridge.connectDevice environment deviceId life.core } →
      Connects bridge environment deviceId life
  | made (runtime) : deviceId ∉ life.core.devices →
      (bridge.connectDevice environment deviceId life.core).devices =
        life.core.devices.assign deviceId runtime →
      connect bridge environment deviceId life = { life with
        core := bridge.connectDevice environment deviceId life.core
        tokens := life.tokens.assign deviceId life.tasks.length
        tasks := life.tasks ++ [⟨deviceId, runtime.port, life.Cancelled, life.Cancelled⟩] } →
      Connects bridge environment deviceId life

theorem connects (bridge : ProxyBridge) (environment : ConnectEnvironment) (deviceId : String)
    (life : ProxyRun) : Connects bridge environment deviceId life := by
  have moved : (bridge.connectDevice environment deviceId life.core).devices = life.core.devices ∨
      deviceId ∉ life.core.devices ∧ ∃ runtime,
        (bridge.connectDevice environment deviceId life.core).devices =
          life.core.devices.assign deviceId runtime := by
    unfold connectDevice
    split
    · exact .inl rfl
    · rename_i absent
      split
      · exact .inr ⟨absent, _, rfl⟩
      · exact .inl rfl
  rcases moved with same | ⟨absent, runtime, assigned⟩
  · refine .stays same ?_
    simp only [connect, same]
    cases found : life.core.devices.lookup deviceId with
    | none => rfl
    | some runtime => simp only [if_pos (Table.mem_of_lookup found)]
  · refine .made runtime absent assigned ?_
    simp only [connect, assigned, Table.lookup_assign, if_true, if_neg absent]

@[simp] theorem connect_core (environment : ConnectEnvironment) (deviceId : String)
    (life : ProxyRun) :
    (connect bridge environment deviceId life).core =
      bridge.connectDevice environment deviceId life.core := by
  cases connects bridge environment deviceId life <;> simp [*]

@[simp] theorem connect_phase (environment : ConnectEnvironment) (deviceId : String)
    (life : ProxyRun) : (connect bridge environment deviceId life).phase = life.phase := by
  cases connects bridge environment deviceId life <;> simp [*]

@[simp] theorem connect_listener (environment : ConnectEnvironment) (deviceId : String)
    (life : ProxyRun) : (connect bridge environment deviceId life).listener = life.listener := by
  cases connects bridge environment deviceId life <;> simp [*]

@[simp] theorem connect_listening (environment : ConnectEnvironment) (deviceId : String)
    (life : ProxyRun) : (connect bridge environment deviceId life).listening = life.listening := by
  cases connects bridge environment deviceId life <;> simp [*]

@[simp] theorem disconnect_core (deviceId : String) (life : ProxyRun) :
    (disconnect bridge deviceId life).core = bridge.disconnectDevice deviceId life.core := by
  unfold disconnect
  split <;> rfl

@[simp] theorem disconnect_phase (deviceId : String) (life : ProxyRun) :
    (disconnect bridge deviceId life).phase = life.phase := by
  unfold disconnect
  split <;> rfl

@[simp] theorem disconnect_listener (deviceId : String) (life : ProxyRun) :
    (disconnect bridge deviceId life).listener = life.listener := by
  unfold disconnect
  split <;> rfl

@[simp] theorem disconnect_listening (deviceId : String) (life : ProxyRun) :
    (disconnect bridge deviceId life).listening = life.listening := by
  unfold disconnect
  split <;> rfl

def coreEvent (environment : ConnectEnvironment) : DeviceEvent → ProxyEvent
  | .attached deviceId _ => .attached deviceId environment
  | .detached deviceId _ => .detached deviceId

theorem coreEvent_change (environment : ConnectEnvironment) (event : DeviceEvent) :
    (coreEvent environment event).change = some event.change := by
  cases event <;> rfl

@[simp] theorem handleDevice_core (environment : ConnectEnvironment) (event : DeviceEvent)
    (life : ProxyRun) :
    (handleDevice bridge environment event life).core =
      bridge.step life.core (coreEvent environment event) := by
  cases event <;> simp [handleDevice, coreEvent, ProxyBridge.step]

@[simp] theorem handleDevice_phase (environment : ConnectEnvironment) (event : DeviceEvent)
    (life : ProxyRun) : (handleDevice bridge environment event life).phase = life.phase := by
  cases event <;> simp [handleDevice]

@[simp] theorem handleDevice_listener (environment : ConnectEnvironment) (event : DeviceEvent)
    (life : ProxyRun) : (handleDevice bridge environment event life).listener = life.listener := by
  cases event <;> simp [handleDevice]

@[simp] theorem handleDevice_listening (environment : ConnectEnvironment) (event : DeviceEvent)
    (life : ProxyRun) :
    (handleDevice bridge environment event life).listening = life.listening := by
  cases event <;> simp [handleDevice]

inductive Steps (plist : PlistCrate) (bridge : ProxyBridge) (life : ProxyRun) (taken : RunAction)
    (after : ProxyRun) : Prop
  | refused (reason) : life.phase = .starting → 0 < listPort bridge →
      after = { life with phase := .returned (.portBind reason) } → Steps plist bridge life taken after
  | enters (listServer environment) : life.phase = .starting →
      after = connect bridge environment "SIMULATOR"
        { life with phase := .looping, listServer, listening := true } →
      Steps plist bridge life taken after
  | listens (action listener) : taken = .listener action → life.listening = true → action.Own = true →
      life.listener.next plist action = some listener → after = { life with listener } →
      Steps plist bridge life taken after
  | takes (environment event channel) : life.phase = .looping →
      life.listener.channel.recv = some (event, channel) →
      after = handleDevice bridge environment event { life with
        listener := { life.listener with channel, taken := life.listener.taken ++ [event] } } →
      Steps plist bridge life taken after
  | handles (event) : life.phase = .looping → event.change = none →
      after = { life with core := bridge.step life.core event } → Steps plist bridge life taken after
  | cancels : taken = .cancel → after = life.cancel → Steps plist bridge life taken after
  | leaves : life.phase = .looping →
      life.Cancelled = true ∨
        life.listener.phase.Ended = true ∧ life.listener.channel.items = [] →
      after = { life with phase := .stopping life.core.devices.keys } →
      Steps plist bridge life taken after
  | stops (deviceId left) : life.phase = .stopping left → deviceId ∈ left →
      after = { disconnect bridge deviceId life with phase := .stopping (left.erase deviceId) } →
      Steps plist bridge life taken after
  | returns : life.phase = .stopping [] →
      after = { life with phase := .returned .ok, listener.receiverGone := true } →
      Steps plist bridge life taken after

theorem begin_steps {binding : Except String Unit} {environment : ConnectEnvironment}
    (stepped : begin bridge binding environment life = some after) :
    Steps plist bridge life taken after := by
  unfold begin at stepped
  split at stepped
  · rename_i phase
    split at stepped
    · rename_i listed
      cases binding with
      | error reason =>
          cases stepped
          exact .refused _ phase listed rfl
      | ok bound =>
          cases stepped
          exact .enters true environment phase rfl
    · cases stepped
      exact .enters false environment phase rfl
  · cases stepped

theorem takeDevice_steps {environment : ConnectEnvironment}
    (stepped : takeDevice bridge environment life = some after) : Steps plist bridge life taken after := by
  unfold takeDevice at stepped
  split at stepped
  · rename_i phase
    obtain ⟨⟨event, channel⟩, received, same⟩ := Option.map_eq_some_iff.mp stepped
    subst same
    exact .takes environment event channel phase received rfl
  · cases stepped

theorem handle_steps {event : ProxyEvent} (kept : event.change = none)
    (stepped : handle bridge event life = some after) : Steps plist bridge life taken after := by
  unfold handle at stepped
  split at stepped
  · rename_i phase
    cases stepped
    exact .handles event phase kept rfl
  · cases stepped

theorem leave_steps
    (stepped : life.channelClosed = some after ∨ life.seeCancelled = some after) :
    Steps plist bridge life taken after := by
  rcases stepped with stepped | stepped
  · unfold channelClosed at stepped
    split at stepped
    · rename_i phase
      obtain ⟨closed, same⟩ := Option.ite_none_right_eq_some.mp stepped
      cases same
      exact .leaves phase (.inr closed) rfl
    · cases stepped
  · unfold seeCancelled at stepped
    split at stepped
    · rename_i phase
      obtain ⟨cancelled, same⟩ := Option.ite_none_right_eq_some.mp stepped
      cases same
      exact .leaves phase (.inl cancelled) rfl
    · cases stepped

theorem next_steps (stepped : next plist bridge life taken = some after) :
    Steps plist bridge life taken after := by
  cases taken with
  | begin binding environment => exact begin_steps stepped
  | listener action =>
      obtain ⟨⟨listening, own⟩, stepped⟩ := Option.ite_none_right_eq_some.mp stepped
      obtain ⟨listener, moved, same⟩ := Option.map_eq_some_iff.mp stepped
      exact .listens action listener rfl listening own moved same.symm
  | takeDevice environment => exact takeDevice_steps stepped
  | channelClosed => exact leave_steps (.inl stepped)
  | takeWi deviceId event => exact handle_steps rfl stepped
  | takeWs deviceId message => exact handle_steps rfl stepped
  | takeRegistration deviceId registration => exact handle_steps rfl stepped
  | cancel =>
      cases stepped
      exact .cancels rfl rfl
  | seeCancelled => exact leave_steps (.inr stepped)
  | disconnectNext deviceId =>
      simp only [next, disconnectNext] at stepped
      split at stepped
      · rename_i left phase
        obtain ⟨waiting, same⟩ := Option.ite_none_right_eq_some.mp stepped
        cases same
        exact .stops deviceId left phase waiting rfl
      · cases stepped
  | finish =>
      simp only [next, finish] at stepped
      split at stepped
      · rename_i phase
        cases stepped
        exact .returns phase rfl
      · cases stepped

/-- An invariant of the proxy is one that every kind of step keeps in the states that
are reached. -/
theorem run_keeps_reached (Holds : ProxyRun → Prop) (initial : Holds start)
    (keeps : ∀ actions taken after, Holds (run plist bridge actions) →
      Steps plist bridge (run plist bridge actions) taken after → Holds after)
    (actions : List RunAction) : Holds (run plist bridge actions) := by
  induction actions using List.reverseRecOn with
  | nil => exact initial
  | append_singleton before action ih =>
      rw [run, run_concat, ← run, step]
      cases stepped : next plist bridge (run plist bridge before) action with
      | none => exact ih
      | some after => exact keeps before action after ih (next_steps stepped)

theorem run_keeps (Holds : ProxyRun → Prop) (initial : Holds start)
    (keeps : ∀ life taken after, Holds life → Steps plist bridge life taken after → Holds after)
    (actions : List RunAction) : Holds (run plist bridge actions) :=
  run_keeps_reached Holds initial (fun _ taken after => keeps _ taken after) actions

/-- The listener in the proxy runs as the task by itself, whose queue only the main
loop reads. Once `run` has returned, nobody does. -/
structure ListenerRuns (plist : PlistCrate) (life : ProxyRun) : Prop where
  reached : ∃ actions, life.listener = ListenerTask.run plist actions
  gone : life.listener.receiverGone = true → life.phase = .returned .ok

theorem ListenerRuns.extend {life : ProxyRun} (runs : life.ListenerRuns plist)
    {listener : ListenerTask} (action : ListenAction)
    (stepped : life.listener.step plist action = listener) :
    ∃ actions, listener = ListenerTask.run plist actions := by
  obtain ⟨actions, reached⟩ := runs.reached
  refine ⟨actions ++ [action], ?_⟩
  rw [ListenerTask.run, run_concat, ← ListenerTask.run, ← reached, stepped]

theorem next_own {task later : ListenerTask} {action : ListenAction}
    (own : action.Own = true) (stepped : task.next plist action = some later) :
    later.receiverGone = task.receiverGone ∧ later.taken = task.taken ∧
      later.cancelled = task.cancelled := by
  cases action with
  | send =>
      simp only [ListenerTask.next, ListenerTask.send] at stepped
      split at stepped
      · split at stepped
        · cases stepped
          exact ⟨rfl, rfl, rfl⟩
        · obtain ⟨channel, _, same⟩ := Option.map_eq_some_iff.mp stepped
          cases same
          exact ⟨rfl, rfl, rfl⟩
      · cases stepped
  | cancel | take | dropReceiver => cases own
  | _ =>
      grind [ListenerTask.next, ListenerTask.check, ListenerTask.connect, ListenerTask.write,
        ListenerTask.writeFails, ListenerTask.disconnect, ListenerTask.deliver, ListenerTask.read,
        ListenerTask.lose, ListenerTask.parse, ListenerTask.wake, ListenerTask.seeCancelled]

theorem run_listenerRuns (plist : PlistCrate) (bridge : ProxyBridge) (actions : List RunAction) :
    (run plist bridge actions).ListenerRuns plist := by
  refine run_keeps (ListenerRuns plist) ⟨⟨[], rfl⟩, nofun⟩ ?_ actions
  rintro life taken after runs steps
  cases steps with
  | refused reason starting _ same =>
      subst same
      refine ⟨runs.reached, fun gone => ?_⟩
      rw [runs.gone gone] at starting
      cases starting
  | enters listServer environment starting same =>
      subst same
      refine ⟨by simpa using runs.reached, fun gone => ?_⟩
      rw [connect_listener] at gone
      rw [runs.gone gone] at starting
      cases starting
  | listens action listener _ _ own moved same =>
      subst same
      refine ⟨runs.extend action ?_, fun gone => runs.gone ?_⟩
      · rw [ListenerTask.step, moved, Option.getD_some]
      · rw [← (next_own own moved).1]
        exact gone
  | takes environment event channel looping received same =>
      subst same
      have listened : life.listener.receiverGone = false := by
        by_contra gone
        rw [runs.gone (Bool.not_eq_false _ |>.mp gone)] at looping
        cases looping
      refine ⟨?_, fun gone => ?_⟩
      · rw [handleDevice_listener]
        refine runs.extend .take ?_
        simp only [ListenerTask.step, ListenerTask.next, ListenerTask.take, listened, received,
          Bool.false_eq_true, if_false, Option.map_some, Option.getD_some]
      · rw [handleDevice_listener] at gone
        exact absurd (listened.symm.trans gone) Bool.false_ne_true
  | handles event _ _ same =>
      subst same
      exact ⟨runs.reached, runs.gone⟩
  | cancels _ same =>
      subst same
      exact ⟨runs.extend .cancel rfl, runs.gone⟩
  | leaves looping _ same =>
      subst same
      refine ⟨runs.reached, fun gone => ?_⟩
      rw [runs.gone gone] at looping
      cases looping
  | stops deviceId left stopping _ same =>
      subst same
      refine ⟨by simpa using runs.reached, fun gone => ?_⟩
      rw [disconnect_listener] at gone
      rw [runs.gone gone] at stopping
      cases stopping
  | returns _ same =>
      subst same
      exact ⟨runs.extend .dropReceiver rfl, fun _ => rfl⟩

/-- The core after rounds of the main loop for the device events that were taken, and
after these disconnections of the cleaning up. -/
def Rounds (bridge : ProxyBridge) (life : ProxyRun) (stops : List String) : Prop :=
  ∃ environment events,
    life.core = bridge.run environment (events ++ stops.map .detached) ∧
      events.filterMap ProxyEvent.change = life.listener.taken.map DeviceEvent.change

def CoreRuns (bridge : ProxyBridge) (life : ProxyRun) : Prop :=
  match life.phase with
  | .starting | .returned (.portBind _) => life.core = .empty ∧ life.listener.taken = []
  | .looping => life.Rounds bridge []
  | .stopping _ | .returned .ok => ∃ stops, life.Rounds bridge stops

theorem CoreRuns.congr (runs : life.CoreRuns bridge) (phase : after.phase = life.phase)
    (core : after.core = life.core) (taken : after.listener.taken = life.listener.taken) :
    after.CoreRuns bridge := by
  simp only [CoreRuns, Rounds] at runs ⊢
  rw [phase, core, taken]
  exact runs

theorem Rounds.round (rounds : life.Rounds bridge []) {event : ProxyEvent}
    (told : List DeviceEvent) (core : after.core = bridge.step life.core event)
    (taken : after.listener.taken = life.listener.taken ++ told)
    (change : event.change.toList = told.map DeviceEvent.change) : after.Rounds bridge [] := by
  obtain ⟨environment, events, same, changes⟩ := rounds
  refine ⟨environment, events ++ [event], ?_, ?_⟩
  · simp only [List.map_nil, List.append_nil] at same ⊢
    rw [core, same, ProxyBridge.run, ProxyBridge.run, run_concat]
  · rw [List.filterMap_append, changes, taken, List.map_append, ← change]
    cases event.change.eq_none_or_eq_some with
    | inl none => simp [none]
    | inr some =>
        obtain ⟨found, some⟩ := some
        simp [some]

theorem run_coreRuns (plist : PlistCrate) (bridge : ProxyBridge) (actions : List RunAction) :
    (run plist bridge actions).CoreRuns bridge := by
  have initial : start.CoreRuns bridge := ⟨rfl, rfl⟩
  refine run_keeps (CoreRuns bridge) initial ?_ actions
  rintro life taken after runs steps
  cases steps with
  | refused reason starting _ same =>
      subst same
      simp only [CoreRuns, starting] at runs
      exact runs
  | enters listServer environment starting same =>
      subst same
      simp only [CoreRuns, starting] at runs
      simp only [CoreRuns, connect_phase]
      refine ⟨environment, [], ?_, ?_⟩
      · rw [connect_core, runs.1]
        rfl
      · simp [runs.2]
  | listens action listener _ _ own moved same =>
      subst same
      exact runs.congr rfl rfl (next_own own moved).2.1
  | takes environment event channel looping _ same =>
      subst same
      simp only [CoreRuns, looping] at runs
      simp only [CoreRuns, handleDevice_phase, looping]
      refine runs.round [event] (handleDevice_core environment event _) (by simp) ?_
      rw [coreEvent_change]
      rfl
  | handles event looping unchanged same =>
      subst same
      simp only [CoreRuns, looping] at runs ⊢
      refine runs.round [] rfl (List.append_nil _).symm ?_
      rw [unchanged]
      rfl
  | cancels _ same =>
      subst same
      exact runs.congr rfl rfl rfl
  | leaves looping _ same =>
      subst same
      simp only [CoreRuns, looping] at runs ⊢
      exact ⟨[], runs⟩
  | stops deviceId left stopping _ same =>
      subst same
      simp only [CoreRuns, stopping] at runs ⊢
      obtain ⟨stops, environment, events, core, changes⟩ := runs
      refine ⟨stops ++ [deviceId], environment, events, ?_, by simpa using changes⟩
      rw [disconnect_core, core, List.map_append, ← List.append_assoc, ProxyBridge.run,
        ProxyBridge.run, List.map_singleton, run_concat]
      rfl
  | returns stopping same =>
      subst same
      simp only [CoreRuns, stopping] at runs ⊢
      exact runs

/-- What the main loop was told of and what is queued for it is what the listener tells of
the messages it has parsed. -/
theorem run_told (plist : PlistCrate) (bridge : ProxyBridge) (actions : List RunAction) :
    ∃ read,
      read <+: sessionMessages plist (run plist bridge actions).listener.current.received ∧
      spawnDeviceListener ((run plist bridge actions).listener.pastMessages plist ++ [read]) =
        some ((run plist bridge actions).listener.taken ++
          (run plist bridge actions).listener.channel.items) := by
  obtain ⟨steps, reached⟩ := (run_listenerRuns plist bridge actions).reached
  rw [reached]
  exact (ListenerTask.run_accounts plist steps).tells

/-- From the bytes of usbmuxd to the state of the core: the listener sends what it
tells of the messages in them, and the core is where the main loop comes to for the
events that it took, and then by disconnecting devices. -/
theorem run_refinesCore (plist : PlistCrate) (bridge : ProxyBridge) (actions : List RunAction) :
    (∃ read,
      read <+: sessionMessages plist (run plist bridge actions).listener.current.received ∧
      spawnDeviceListener ((run plist bridge actions).listener.pastMessages plist ++ [read]) =
        some ((run plist bridge actions).listener.taken ++
          (run plist bridge actions).listener.channel.items)) ∧
      ((run plist bridge actions).core = .empty ∧
          (run plist bridge actions).listener.taken = [] ∨
        ∃ environment events stops,
          (run plist bridge actions).core =
            bridge.run environment (events ++ stops.map .detached) ∧
          events.filterMap ProxyEvent.change =
            (run plist bridge actions).listener.taken.map DeviceEvent.change ∧
          ((run plist bridge actions).phase = .looping → stops = [])) := by
  constructor
  · exact run_told plist bridge actions
  · have runs := run_coreRuns plist bridge actions
    unfold CoreRuns at runs
    split at runs
    · exact .inl runs
    · exact .inl runs
    · obtain ⟨environment, events, core, changes⟩ := runs
      exact .inr ⟨environment, events, [], core, changes, fun _ => rfl⟩
    · rename_i stopping
      obtain ⟨stops, environment, events, core, changes⟩ := runs
      refine .inr ⟨environment, events, stops, core, changes, fun looping => ?_⟩
      rw [stopping] at looping
      cases looping
    · rename_i returned
      obtain ⟨stops, environment, events, core, changes⟩ := runs
      refine .inr ⟨environment, events, stops, core, changes, fun looping => ?_⟩
      rw [returned] at looping
      cases looping

end ProxyRun

theorem ProxyBridge.step_keys {bridge : ProxyBridge} {state : ProxyState} {event : ProxyEvent}
    {deviceId : String} (present : deviceId ∈ (bridge.step state event).devices) :
    match event.change with
    | none => deviceId ∈ state.devices
    | some (other, true) => deviceId = other ∨ deviceId ∈ state.devices
    | some (other, false) => deviceId ≠ other ∧ deviceId ∈ state.devices := by
  cases event with
  | attached other environment =>
      simp only [ProxyEvent.change]
      rw [ProxyBridge.step, connectDevice] at present
      split at present
      · exact .inr present
      · split at present
        · exact Table.mem_assign.mp present
        · exact .inr present
  | detached other =>
      simp only [ProxyEvent.change]
      rw [ProxyBridge.step, disconnectDevice_devices] at present
      exact AList.mem_erase.mp present
  | wiEvent other event =>
      rcases handleWiEvent_devices other event state with same | ⟨message, handled⟩
      · rw [ProxyBridge.step, same] at present
        exact present
      · rw [ProxyBridge.step, handled] at present
        exact Table.mem_modify.mp present
  | wsMessage other message => exact Table.mem_modify.mp present
  | registration other registration => exact Table.mem_modify.mp present

/-- Beside the simulator, a device in the table is one that came and did not go. -/
theorem ProxyBridge.run_keys (bridge : ProxyBridge) (environment : ConnectEnvironment)
    {events : List ProxyEvent} {told : List DeviceEvent}
    (changes : events.filterMap ProxyEvent.change = told.map DeviceEvent.change) {deviceId : String}
    (present : deviceId ∈ (bridge.run environment events).devices) :
    deviceId = "SIMULATOR" ∨ deviceId ∈ attachedDevices told := by
  induction events using List.reverseRecOn generalizing told with
  | nil =>
      have started : deviceId ∈
          (bridge.step .empty (.attached "SIMULATOR" environment)).devices := present
      have moved := ProxyBridge.step_keys started
      simp only [ProxyEvent.change] at moved
      exact .inl (moved.resolve_right (AList.notMem_empty _))
  | append_singleton before event ih =>
      rw [ProxyBridge.run, run_concat, ← ProxyBridge.run] at present
      have moved := ProxyBridge.step_keys present
      rw [List.filterMap_append] at changes
      cases changed : event.change with
      | none =>
          simp only [changed] at moved
          simp only [List.filterMap_cons_none changed, List.filterMap_nil, List.append_nil] at changes
          exact ih changes moved
      | some change =>
          simp only [List.filterMap_cons_some changed, List.filterMap_nil] at changes
          obtain ⟨earlier, last, rfl, same, single⟩ := List.map_eq_append_iff.mp changes.symm
          obtain ⟨told, rfl, rfl⟩ := List.map_eq_singleton_iff.mp single
          simp only [changed] at moved
          rw [attachedDevices_append]
          cases told with
          | attached other num =>
              simp only [DeviceEvent.change] at moved
              rcases moved with rfl | older
              · exact .inr (Finset.mem_insert_self _ _)
              · exact (ih same.symm older).imp_right fun known => Finset.mem_insert_of_mem known
          | detached other num =>
              simp only [DeviceEvent.change] at moved
              exact (ih same.symm moved.2).imp_right fun known => Finset.mem_erase.mpr ⟨moved.1, known⟩

/-- Every device in the table, beside the simulator, was reported attached in the
messages that usbmuxd sent, and not reported detached by one that the main loop was told of
since. -/
theorem ProxyRun.run_devicesReported (plist : PlistCrate) (bridge : ProxyBridge)
    (actions : List RunAction) :
    ∃ read,
      read <+: sessionMessages plist (run plist bridge actions).listener.current.received ∧
      spawnDeviceListener ((run plist bridge actions).listener.pastMessages plist ++ [read]) =
        some ((run plist bridge actions).listener.taken ++
          (run plist bridge actions).listener.channel.items) ∧
      ∀ deviceId ∈ (run plist bridge actions).core.devices, deviceId = "SIMULATOR" ∨
        deviceId ∈ attachedDevices (run plist bridge actions).listener.taken := by
  obtain ⟨read, initial, told⟩ := run_told plist bridge actions
  refine ⟨read, initial, told, fun deviceId present => ?_⟩
  have rounds {stops : List String} (rounds : (run plist bridge actions).Rounds bridge stops) :
      deviceId = "SIMULATOR" ∨
        deviceId ∈ attachedDevices (run plist bridge actions).listener.taken := by
    obtain ⟨environment, events, core, changes⟩ := rounds
    refine ProxyBridge.run_keys bridge environment changes ?_
    rw [core] at present
    clear core
    induction stops using List.reverseRecOn with
    | nil => simpa using present
    | append_singleton earlier last ih =>
        rw [List.map_append, ← List.append_assoc, List.map_singleton, ProxyBridge.run, run_concat,
          ← ProxyBridge.run] at present
        have moved := ProxyBridge.step_keys present
        exact ih moved.2
  have runs := run_coreRuns plist bridge actions
  unfold CoreRuns at runs
  split at runs
  · rw [runs.1] at present
    exact absurd present (AList.notMem_empty _)
  · rw [runs.1] at present
    exact absurd present (AList.notMem_empty _)
  · exact rounds runs
  · obtain ⟨stops, runs⟩ := runs
    exact rounds runs
  · obtain ⟨stops, runs⟩ := runs
    exact rounds runs

end IosWebkitDebugProxy
