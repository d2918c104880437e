import IosWebkitDebugProxy.ProxyPorts
import IosWebkitDebugProxy.ProxyPublished
import IosWebkitDebugProxy.RunRefinement

/-! The tasks that the proxy spawns for its devices, over its whole life. Those that
still run are the ones of the devices in the table, one set for each, and none is left
when `run` returns. -/

namespace IosWebkitDebugProxy

open Transition ProxyBridge

namespace SpawnedTasks

def Live (tasks : SpawnedTasks) : Bool := !tasks.wiCancelled && !tasks.serverCancelled

def Stopped (tasks : SpawnedTasks) : Bool := tasks.wiCancelled && tasks.serverCancelled

end SpawnedTasks

namespace ProxyRun

variable {plist : PlistCrate} {bridge : ProxyBridge} {life after : ProxyRun}

/-- The runtime of a device holds the tokens of the tasks spawned for it, which are cancelled
with the whole proxy, and every other token is cancelled. -/
structure Matched (life : ProxyRun) : Prop where
  keys : ∀ deviceId, deviceId ∈ life.tokens ↔ deviceId ∈ life.core.devices
  held : ∀ deviceId index, life.tokens.lookup deviceId = some index →
    ∃ runtime, life.core.devices.lookup deviceId = some runtime ∧
      life.tasks[index]? = some ⟨deviceId, runtime.port, life.Cancelled, life.Cancelled⟩
  rest : ∀ (index : Nat) tasks, life.tasks[index]? = some tasks →
    life.tokens.lookup tasks.deviceId = some index ∨ tasks.Stopped

theorem Matched.congr (matched : life.Matched) (core : after.core = life.core)
    (tokens : after.tokens = life.tokens) (tasks : after.tasks = life.tasks)
    (cancelled : after.Cancelled = life.Cancelled) : after.Matched := by
  constructor
  · rw [core, tokens]
    exact matched.keys
  · rw [core, tokens, tasks, cancelled]
    exact matched.held
  · rw [tokens, tasks]
    exact matched.rest

theorem Matched.handled (matched : life.Matched) (deviceId : String) (event : RuntimeEvent)
    (core : after.core.devices = life.core.devices.modify deviceId fun runtime => runtime.handle event)
    (tokens : after.tokens = life.tokens) (tasks : after.tasks = life.tasks)
    (cancelled : after.Cancelled = life.Cancelled) : after.Matched := by
  refine ⟨fun other => ?_, fun other index holds => ?_, ?_⟩
  · rw [tokens, core, matched.keys, Table.mem_modify]
  · rw [tokens] at holds
    obtain ⟨runtime, found, spawned⟩ := matched.held other index holds
    rw [core, tasks, cancelled, Table.lookup_modify, found]
    by_cases same : other = deviceId
    · refine ⟨runtime.handle event, by simp [same], ?_⟩
      rw [DeviceRuntime.handle_port]
      exact spawned
    · exact ⟨runtime, by simp [same], spawned⟩
  · rw [tokens, tasks]
    exact matched.rest

theorem Matched.bound (matched : life.Matched) {deviceId : String} {index : Nat}
    (holds : life.tokens.lookup deviceId = some index) : index < life.tasks.length := by
  obtain ⟨runtime, _, spawned⟩ := matched.held deviceId index holds
  exact (List.getElem?_eq_some_iff.mp spawned).1

theorem matched_connect (matched : life.Matched) (environment : ConnectEnvironment)
    (deviceId : String) : (connect bridge environment deviceId life).Matched := by
  cases connects bridge environment deviceId life with
  | stays same whole =>
      rw [whole]
      refine ⟨?_, ?_, matched.rest⟩
      · rw [same]
        exact matched.keys
      · rw [same]
        exact matched.held
  | made runtime absent assigned whole =>
      rw [whole]
      have unheld : deviceId ∉ life.tokens := mt (matched.keys deviceId).mp absent
      refine ⟨fun other => ?_, fun other index holds => ?_, fun index tasks spawned => ?_⟩
      · rw [assigned, Table.mem_assign, Table.mem_assign, matched.keys]
      · rw [Table.lookup_assign] at holds
        rw [assigned, Table.lookup_assign]
        by_cases same : other = deviceId
        · simp only [same, if_true, Option.some.injEq] at holds ⊢
          refine ⟨runtime, rfl, ?_⟩
          rw [← holds, List.getElem?_concat_length]
          rfl
        · simp only [if_neg same] at holds ⊢
          obtain ⟨older, found, spawned⟩ := matched.held other index holds
          refine ⟨older, found, ?_⟩
          rw [List.getElem?_append_left (matched.bound holds)]
          exact spawned
      · rw [Table.lookup_assign]
        rcases Nat.lt_or_ge index life.tasks.length with before | last
        · rw [List.getElem?_append_left before] at spawned
          rcases matched.rest index tasks spawned with holds | stopped
          · have apart : tasks.deviceId ≠ deviceId := by
              intro same
              rw [same] at holds
              exact unheld (Table.mem_of_lookup holds)
            exact .inl (by rw [if_neg apart]; exact holds)
          · exact .inr stopped
        · rw [List.getElem?_append_right last] at spawned
          obtain ⟨short, rfl⟩ := List.getElem?_eq_some_iff.mp spawned
          simp only [List.length_singleton] at short
          have only : index = life.tasks.length := by omega
          subst only
          simp

theorem matched_disconnect (matched : life.Matched) (deviceId : String) :
    (disconnect bridge deviceId life).Matched := by
  have devices := @disconnectDevice_devices bridge deviceId life.core
  cases held : life.tokens.lookup deviceId with
  | none =>
      simp only [disconnect, held]
      have absent : deviceId ∉ life.core.devices :=
        mt (matched.keys deviceId).mpr (AList.lookup_eq_none.mp held)
      rw [Table.erase_eq_self absent] at devices
      refine ⟨?_, ?_, matched.rest⟩
      · rw [devices]
        exact matched.keys
      · rw [devices]
        exact matched.held
  | some index =>
      simp only [disconnect, held]
      obtain ⟨runtime, _, spawned⟩ := matched.held deviceId index held
      refine ⟨fun other => ?_, fun other place holds => ?_, fun place tasks found => ?_⟩
      · rw [devices, AList.mem_erase, AList.mem_erase, matched.keys]
      · have apart : other ≠ deviceId := by
          rintro rfl
          rw [AList.lookup_erase] at holds
          cases holds
        rw [AList.lookup_erase_ne apart] at holds
        obtain ⟨runtime', found, own⟩ := matched.held other place holds
        refine ⟨runtime', by rw [devices, AList.lookup_erase_ne apart]; exact found, ?_⟩
        have elsewhere : index ≠ place := by
          rintro rfl
          rw [own, Option.some.injEq] at spawned
          exact apart (congrArg SpawnedTasks.deviceId spawned)
        change (life.tasks.modify index SpawnedTasks.cancel)[place]? = _
        rw [List.getElem?_modify_ne _ _ elsewhere]
        exact own
      · by_cases here : index = place
        · subst here
          rw [List.getElem?_modify_eq, spawned] at found
          cases found
          exact .inr rfl
        · rw [List.getElem?_modify_ne _ _ here] at found
          rcases matched.rest place tasks found with holds | stopped
          · refine .inl ?_
            have apart : tasks.deviceId ≠ deviceId := by
              intro same
              rw [same, held] at holds
              exact here (Option.some.inj holds)
            rw [AList.lookup_erase_ne apart]
            exact holds
          · exact .inr stopped

theorem matched_step (matched : life.Matched) (event : ProxyEvent) (unchanged : event.change = none) :
    ({ life with core := bridge.step life.core event } : ProxyRun).Matched := by
  cases event with
  | attached | detached => cases unchanged
  | wiEvent deviceId event =>
      rcases @handleWiEvent_devices bridge deviceId event life.core with
        same | ⟨message, handled⟩
      · refine ⟨?_, ?_, matched.rest⟩
        · rw [ProxyBridge.step, same]
          exact matched.keys
        · rw [ProxyBridge.step, same]
          exact matched.held
      · exact matched.handled deviceId (.rpc message) handled rfl rfl rfl
  | wsMessage deviceId message => exact matched.handled deviceId (.wsMessage message) rfl rfl rfl rfl
  | registration deviceId registration =>
      exact matched.handled deviceId (.registration registration) rfl rfl rfl rfl

theorem matched_cancel (matched : life.Matched) : life.cancel.Matched := by
  refine ⟨matched.keys, fun deviceId index holds => ?_, fun index tasks spawned => ?_⟩
  · obtain ⟨runtime, found, spawned⟩ := matched.held deviceId index holds
    refine ⟨runtime, found, ?_⟩
    simp only [cancel, Cancelled, List.getElem?_map, spawned, Option.map_some]
    rfl
  · obtain ⟨before, _, rfl⟩ := List.mem_map.mp (List.mem_of_getElem? spawned)
    exact .inr rfl

theorem run_matched (plist : PlistCrate) (bridge : ProxyBridge) (actions : List RunAction) :
    (run plist bridge actions).Matched := by
  refine run_keeps Matched ⟨fun _ => Iff.rfl, nofun, nofun⟩ ?_ actions
  rintro life taken after matched steps
  cases steps with
  | refused _ _ _ same | leaves _ _ same | returns _ same =>
      subst same
      exact matched.congr rfl rfl rfl rfl
  | listens action listener _ _ own moved same =>
      subst same
      exact matched.congr rfl rfl rfl (next_own own moved).2.2
  | cancels _ same =>
      subst same
      exact matched_cancel matched
  | enters listServer environment _ same =>
      subst same
      refine matched_connect ?_ environment "SIMULATOR"
      exact matched.congr rfl rfl rfl rfl
  | takes environment event channel _ _ same =>
      subst same
      cases event with
      | attached deviceId num =>
          refine matched_connect ?_ environment deviceId
          exact matched.congr rfl rfl rfl rfl
      | detached deviceId num =>
          refine matched_disconnect ?_ deviceId
          exact matched.congr rfl rfl rfl rfl
  | handles event _ unchanged same =>
      subst same
      exact matched_step matched event unchanged
  | stops deviceId left _ _ same =>
      subst same
      exact (matched_disconnect matched deviceId).congr rfl rfl rfl rfl

def Winding (life : ProxyRun) : Prop :=
  match life.phase with
  | .starting | .returned _ => life.core.devices = ∅
  | .looping => True
  | .stopping left => ∀ deviceId ∈ life.core.devices, deviceId ∈ left

theorem run_winding (plist : PlistCrate) (bridge : ProxyBridge) (actions : List RunAction) :
    (run plist bridge actions).Winding := by
  have initial : start.Winding := rfl
  refine run_keeps Winding initial ?_ actions
  rintro life taken after winding steps
  cases steps with
  | refused _ starting _ same =>
      subst same
      simp only [Winding, starting] at winding
      exact winding
  | enters listServer environment _ same =>
      subst same
      simp [Winding]
  | listens _ _ _ _ _ _ same | cancels _ same =>
      subst same
      exact winding
  | takes environment event channel looping _ same =>
      subst same
      simp [Winding, looping]
  | handles event looping _ same =>
      subst same
      simp [Winding, looping]
  | leaves _ _ same =>
      subst same
      exact fun deviceId present => AList.mem_keys.mp present
  | stops deviceId left stopping _ same =>
      subst same
      simp only [Winding, stopping, disconnect_core, disconnectDevice_devices] at winding ⊢
      intro other present
      obtain ⟨apart, present⟩ := AList.mem_erase.mp present
      exact (List.mem_erase_of_ne apart).mpr (winding other present)
  | returns stopping same =>
      subst same
      simp only [Winding, stopping] at winding ⊢
      refine AList.ext (List.eq_nil_iff_forall_not_mem.mpr fun entry member => ?_)
      exact absurd (winding entry.1 (AList.mem_keys.mpr (List.mem_keys_of_mem member)))
        (List.not_mem_nil)

theorem Matched.tokens_eq (matched : life.Matched) {tasks : SpawnedTasks}
    (member : tasks ∈ life.tasks) :
    (tasks.wiCancelled = life.Cancelled ∧ tasks.serverCancelled = life.Cancelled) ∨
      tasks.Stopped := by
  obtain ⟨index, short, found⟩ := List.getElem_of_mem member
  have spawned : life.tasks[index]? = some tasks := List.getElem?_eq_some_iff.mpr ⟨short, found⟩
  rcases matched.rest index tasks spawned with holds | stopped
  · obtain ⟨runtime, _, own⟩ := matched.held tasks.deviceId index holds
    rw [spawned] at own
    rw [Option.some.inj own]
    exact .inl ⟨rfl, rfl⟩
  · exact .inr stopped

theorem Matched.stopped_of_cancelled (matched : life.Matched) (cancelled : life.Cancelled = true)
    {tasks : SpawnedTasks} (member : tasks ∈ life.tasks) : tasks.Stopped := by
  rcases matched.tokens_eq member with ⟨inspector, server⟩ | stopped
  · simp [SpawnedTasks.Stopped, inspector, server, cancelled]
  · exact stopped

theorem Matched.live_or_stopped (matched : life.Matched) {tasks : SpawnedTasks}
    (member : tasks ∈ life.tasks) : tasks.Live ∨ tasks.Stopped := by
  cases cancelled : life.Cancelled with
  | true => exact .inr (matched.stopped_of_cancelled cancelled member)
  | false =>
      refine (matched.tokens_eq member).imp_left ?_
      rintro ⟨inspector, server⟩
      simp [SpawnedTasks.Live, inspector, server, cancelled]

/-- Until the proxy is cancelled, the tasks that run are those of the devices, one set for
each, on its port. -/
theorem Matched.live_perm (matched : life.Matched) (running : life.Cancelled = false) :
    ((life.tasks.filter SpawnedTasks.Live).map fun tasks => (tasks.deviceId, tasks.port)).Perm
      (life.core.devices.entries.map fun entry => (entry.1, entry.2.port)) := by
  have held {index : Nat} {tasks : SpawnedTasks} (spawned : life.tasks[index]? = some tasks)
      (live : tasks.Live) : life.tokens.lookup tasks.deviceId = some index := by
    rcases matched.rest index tasks spawned with holds | stopped
    · exact holds
    · simp [SpawnedTasks.Live, SpawnedTasks.Stopped] at live stopped
      rw [stopped.1] at live
      cases live.1
  refine (List.perm_ext_iff_of_nodup ?_ ?_).mpr ?_
  · rw [List.Nodup, List.pairwise_map, List.pairwise_filter, List.pairwise_iff_getElem]
    intro first second short long before early late same
    have one := held (List.getElem?_eq_getElem short) early
    have other := held (List.getElem?_eq_getElem long) late
    have ids : life.tasks[first].deviceId = life.tasks[second].deviceId := congrArg Prod.fst same
    rw [ids, other] at one
    exact absurd (Option.some.inj one) (by omega)
  · have keys : (life.core.devices.entries.map Sigma.fst).Nodup := life.core.devices.nodupKeys
    refine List.Nodup.of_map Prod.fst ?_
    rw [List.map_map]
    exact keys
  · rintro ⟨deviceId, port⟩
    simp only [List.mem_map, List.mem_filter]
    constructor
    · rintro ⟨tasks, ⟨member, live⟩, same⟩
      obtain ⟨index, short, found⟩ := List.getElem_of_mem member
      have spawned : life.tasks[index]? = some tasks := List.getElem?_eq_some_iff.mpr ⟨short, found⟩
      obtain ⟨runtime, stored, own⟩ := matched.held _ _ (held spawned live)
      rw [spawned] at own
      refine ⟨⟨tasks.deviceId, runtime⟩, Table.mem_entries.mpr stored, ?_⟩
      rw [← same, Option.some.inj own]
    · rintro ⟨⟨key, runtime⟩, member, same⟩
      have stored := Table.mem_entries.mp member
      obtain ⟨index, holds⟩ := Table.exists_lookup ((matched.keys key).mpr (Table.mem_of_lookup stored))
      obtain ⟨other, found, own⟩ := matched.held key index holds
      rw [stored] at found
      cases found
      rw [running] at own
      exact ⟨_, ⟨List.mem_of_getElem? own, rfl⟩, same⟩

/-- Until the proxy is cancelled, the tasks that run are those of the devices in the table,
and from then on there are none. No set of them is half cancelled. When `run` has returned,
none is left, and the device list that is still served shows none. -/
theorem run_liveTasks (plist : PlistCrate) (bridge : ProxyBridge) (actions : List RunAction) :
    ((run plist bridge actions).Cancelled = false →
        (((run plist bridge actions).tasks.filter SpawnedTasks.Live).map
            fun tasks => (tasks.deviceId, tasks.port)).Perm
          ((run plist bridge actions).core.devices.entries.map
            fun entry => (entry.1, entry.2.port))) ∧
      ((run plist bridge actions).Cancelled = true →
        ∀ tasks ∈ (run plist bridge actions).tasks, tasks.Stopped) ∧
      (∀ tasks ∈ (run plist bridge actions).tasks, tasks.Live ∨ tasks.Stopped) ∧
      ∀ outcome, (run plist bridge actions).phase = .returned outcome →
        (∀ tasks ∈ (run plist bridge actions).tasks, tasks.Stopped) ∧
          (run plist bridge actions).core.devices = ∅ ∧
          (run plist bridge actions).core.deviceListState = [] := by
  have matched := run_matched plist bridge actions
  refine ⟨matched.live_perm, fun cancelled tasks member => ?_,
    fun tasks member => matched.live_or_stopped member, ?_⟩
  · exact matched.stopped_of_cancelled cancelled member
  intro outcome returned
  have winding := run_winding plist bridge actions
  simp only [Winding, returned] at winding
  refine ⟨fun tasks member => ?_, winding, ?_⟩
  · cases cancelled : (run plist bridge actions).Cancelled with
    | true => exact matched.stopped_of_cancelled cancelled member
    | false =>
        refine (matched.live_or_stopped member).resolve_left fun live => ?_
        have running : (tasks.deviceId, tasks.port) ∈
            ((run plist bridge actions).tasks.filter SpawnedTasks.Live).map
              fun tasks => (tasks.deviceId, tasks.port) :=
          List.mem_map.mpr ⟨tasks, List.mem_filter.mpr ⟨member, live⟩, rfl⟩
        rw [(matched.live_perm cancelled).mem_iff, winding] at running
        exact List.not_mem_nil running
  · have runs := run_coreRuns plist bridge actions
    simp only [CoreRuns, returned] at runs
    cases outcome with
    | portBind reason =>
        rw [runs.1]
        rfl
    | ok =>
        obtain ⟨stops, environment, events, core, _⟩ := runs
        have current := run_listCurrent bridge environment (events ++ stops.map .detached)
        rw [← core, ProxyState.ListCurrent, winding] at current
        exact current

end ProxyRun

end IosWebkitDebugProxy
