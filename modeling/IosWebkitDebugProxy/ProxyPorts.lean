import Mathlib.Data.Fintype.EquivFin
import IosWebkitDebugProxy.Library.History
import IosWebkitDebugProxy.ProxyPublished

/-! Which ports the devices are served on. A device keeps the port it was given
when it was attached, and every port of a configured range is given in some run. -/

namespace IosWebkitDebugProxy

open Transition

theorem DeviceRuntime.handle_port (runtime : DeviceRuntime) (event : RuntimeEvent) :
    (runtime.handle event).port = runtime.port := by
  cases runtime.handle_refreshes event with
  | quiet _ same => exact congrArg DeviceInfo.port same.deviceInfo
  | reportSetup same => exact congrArg DeviceInfo.port same.deviceInfo
  | reportConnected _ _ same => exact congrArg DeviceInfo.port same.deviceInfo
  | listed _ same _ => exact congrArg DeviceInfo.port same.deviceInfo

def usedPorts (devices : Table String DeviceRuntime) : List Nat :=
  devices.values.map DeviceRuntime.port

theorem mem_usedPorts {port : Nat} {devices : Table String DeviceRuntime} :
    port ∈ usedPorts devices ↔
      ∃ deviceId runtime, devices.lookup deviceId = some runtime ∧ runtime.port = port := by
  simp only [usedPorts, List.mem_map, Table.mem_values]
  constructor
  · rintro ⟨runtime, ⟨deviceId, found⟩, same⟩
    exact ⟨deviceId, runtime, found, same⟩
  · rintro ⟨deviceId, runtime, found, same⟩
    exact ⟨runtime, ⟨deviceId, found⟩, same⟩

theorem mem_usedPorts_assign {port : Nat} {devices : Table String DeviceRuntime}
    {deviceId : String} (absent : deviceId ∉ devices) (runtime : DeviceRuntime) :
    port ∈ usedPorts (devices.assign deviceId runtime) ↔
      port = runtime.port ∨ port ∈ usedPorts devices := by
  rw [mem_usedPorts, mem_usedPorts]
  constructor
  · rintro ⟨other, served, found, rfl⟩
    rw [Table.lookup_assign] at found
    split at found
    · cases found
      exact .inl rfl
    · exact .inr ⟨other, served, found, rfl⟩
  · rintro (rfl | ⟨other, served, found, rfl⟩)
    · exact ⟨deviceId, runtime, by rw [Table.lookup_assign, if_pos rfl], rfl⟩
    · have apart : other ≠ deviceId := by
        rintro rfl
        exact absent (Table.mem_of_lookup found)
      exact ⟨other, served, by rw [Table.lookup_assign, if_neg apart, found], rfl⟩

/-- The system gives ports of 16 bits. -/
def ConnectEnvironment.GivesWords (environment : ConnectEnvironment) : Prop :=
  ∀ port, environment.autoPort = some port → port < 2 ^ 16

def ProxyEvent.GivesWords : ProxyEvent → Prop
  | .attached _ environment => environment.GivesWords
  | _ => True

namespace ProxyBridge

variable {bridge : ProxyBridge} {state : ProxyState} {environment : ConnectEnvironment}
variable {deviceId : String} {runtime : DeviceRuntime} {first stop port : Nat}

theorem newRuntime_port (connection : DeviceConnection) (codec : WebInspectorCodec) :
    (bridge.newRuntime environment deviceId port connection codec).port = port :=
  congrArg DeviceInfo.port (DeviceRuntime.SameView.send _ _).deviceInfo

/-- The search of a range ends at the first port that no device uses. -/
theorem find_unused {devices : Table String DeviceRuntime} :
    ((List.range' first (stop - first)).find? fun port => !(usedPorts devices).contains port) =
        some port ↔
      (first ≤ port ∧ port < stop) ∧ port ∉ usedPorts devices ∧
        ∀ lower, first ≤ lower → lower < port → lower ∈ usedPorts devices := by
  rw [List.find?_range'_eq_some, List.mem_range'_1]
  simp only [List.contains_eq_mem, Bool.not_eq_true', Bool.not_not, decide_eq_false_iff_not,
    decide_eq_true_eq]
  constructor
  · rintro ⟨free, inside, lowest⟩
    exact ⟨by omega, free, lowest⟩
  · rintro ⟨inside, free, lowest⟩
    exact ⟨free, by omega, lowest⟩

theorem bindPort_eq_some (ranged : bridge.devicePorts = some (first, stop))
    {devices : Table String DeviceRuntime} :
    bridge.bindPort environment devices = some port ↔
      environment.bindable port = true ∧ (first ≤ port ∧ port < stop) ∧
        port ∉ usedPorts devices ∧
        ∀ lower, first ≤ lower → lower < port → lower ∈ usedPorts devices := by
  rw [← find_unused]
  simp only [bindPort, ranged]
  rw [← usedPorts]
  cases found : (List.range' first (stop - first)).find?
      fun port => !(usedPorts devices).contains port with
  | none => simp
  | some chosen =>
      simp only [Option.some.injEq]
      constructor
      · intro bound
        split at bound
        · rename_i bindable
          cases bound
          exact ⟨bindable, rfl⟩
        · cases bound
      · rintro ⟨bindable, rfl⟩
        rw [if_pos bindable]

theorem bindPort_auto (unranged : bridge.devicePorts = none)
    {devices : Table String DeviceRuntime} :
    bridge.bindPort environment devices = some port ↔
      environment.autoPort = some port ∧ port ≠ 0 := by
  simp only [bindPort, unranged, Option.bind_eq_some_iff]
  constructor
  · rintro ⟨given, auto, chosen⟩
    split at chosen
    · cases chosen
    · rename_i nonzero
      cases chosen
      exact ⟨auto, nonzero⟩
  · rintro ⟨auto, nonzero⟩
    exact ⟨port, auto, if_neg nonzero⟩

/-- The port of a device after a step is the one it had, or the one that was
bound when it was attached. -/
theorem step_port {event : ProxyEvent}
    (found : (bridge.step state event).devices.lookup deviceId = some runtime) :
    (∃ old, state.devices.lookup deviceId = some old ∧ runtime.port = old.port) ∨
      ∃ environment, event = .attached deviceId environment ∧
        bridge.bindPort environment state.devices = some runtime.port := by
  have kept (handled : String) (event : RuntimeEvent)
      (found : (state.devices.modify handled fun runtime => runtime.handle event).lookup deviceId =
        some runtime) :
      ∃ old, state.devices.lookup deviceId = some old ∧ runtime.port = old.port := by
    rcases Table.lookup_of_modify found with ⟨_, old, stored, rfl⟩ | ⟨_, found⟩
    · exact ⟨old, stored, old.handle_port event⟩
    · exact ⟨runtime, found, rfl⟩
  cases event with
  | attached handled environment =>
      simp only [step, connectDevice] at found
      split at found
      · exact .inl ⟨runtime, found, rfl⟩
      · split at found
        · rename_i port connection codec bound made
          rw [updateDeviceList_devices, Table.lookup_assign] at found
          split at found
          · rename_i here
            subst here
            cases found
            exact .inr ⟨environment, rfl, bound.trans (by rw [newRuntime_port])⟩
          · exact .inl ⟨runtime, found, rfl⟩
        · exact .inl ⟨runtime, found, rfl⟩
  | detached handled =>
      rw [step, disconnectDevice_devices] at found
      exact .inl ⟨runtime, Table.lookup_of_erase found, rfl⟩
  | wiEvent handled event =>
      rw [step] at found
      rcases handleWiEvent_devices handled event state with same | ⟨message, updated⟩
      · rw [same] at found
        exact .inl ⟨runtime, found, rfl⟩
      · rw [updated] at found
        exact .inl (kept handled (.rpc message) found)
  | wsMessage handled message => exact .inl (kept handled (.wsMessage message) found)
  | registration handled registration =>
      exact .inl (kept handled (.registration registration) found)

theorem run_port (Holds : Nat → Prop)
    (bound : ∀ environment devices port, environment.GivesWords →
      bridge.bindPort environment devices = some port → Holds port)
    (initial : environment.GivesWords) {events : List ProxyEvent}
    (given : ∀ event ∈ events, event.GivesWords) :
    ∀ deviceId runtime, (bridge.run environment events).devices.lookup deviceId = some runtime →
      Holds runtime.port := by
  have attached (state : ProxyState) (event : ProxyEvent) (words : event.GivesWords)
      (ports : ∀ deviceId runtime, state.devices.lookup deviceId = some runtime →
        Holds runtime.port) :
      ∀ deviceId runtime, (bridge.step state event).devices.lookup deviceId = some runtime →
        Holds runtime.port := by
    intro deviceId runtime found
    rcases step_port found with ⟨old, stored, same⟩ | ⟨environment, rfl, chosen⟩
    · rw [same]
      exact ports deviceId old stored
    · exact bound environment state.devices runtime.port words chosen
  have allowed : Throughout bridge.step (bridge.start environment) events
      fun _ event => event.GivesWords := by
    intro before event after split
    exact given event (by simp [split])
  refine run_invariant_throughout (fun state : ProxyState => ∀ deviceId runtime,
    state.devices.lookup deviceId = some runtime → Holds runtime.port) ?_ ?_ allowed
  · exact attached .empty (.attached "SIMULATOR" environment) initial (by simp [ProxyState.empty])
  · intro state event ports words
    exact attached state event words ports

def openEnvironment (port : Nat) : ConnectEnvironment :=
  ⟨fun _ => true, some port, some ⟨"iPhone", 0x120000, none⟩, "U"⟩

theorem openEnvironment_givesWords (word : port < 2 ^ 16) : (openEnvironment port).GivesWords := by
  intro given same
  cases same
  exact word

def closedEnvironment : ConnectEnvironment := ⟨fun _ => true, none, none, "U"⟩

theorem closedEnvironment_givesWords : closedEnvironment.GivesWords := by
  intro port given
  cases given

theorem start_closed : bridge.start closedEnvironment = .empty :=
  connectDevice_unconnected rfl

theorem attach_lookup {auto : Nat} (absent : deviceId ∉ state.devices)
    (bound : bridge.bindPort (openEnvironment auto) state.devices = some port) :
    ∃ runtime, runtime.port = port ∧
      (bridge.step state (.attached deviceId (openEnvironment auto))).devices =
        state.devices.assign deviceId runtime := by
  obtain ⟨connection, made⟩ : ∃ connection,
      connectWebInspector (openEnvironment auto) deviceId = some connection := by
    simp [connectWebInspector, openEnvironment]
  refine ⟨bridge.newRuntime (openEnvironment auto) deviceId port connection.1 connection.2,
    newRuntime_port _ _, ?_⟩
  simp only [step, connectDevice, absent, if_false, bound, made, updateDeviceList_devices]

/-- Where the ports below it are used, the next port of a range is bound. -/
theorem bindPort_next (ranged : bridge.devicePorts = some (first, stop)) {count : Nat} (auto : Nat)
    (inside : first + count < stop) {devices : Table String DeviceRuntime}
    (used : ∀ port, port ∈ usedPorts devices ↔ first ≤ port ∧ port < first + count) :
    bridge.bindPort (openEnvironment auto) devices = some (first + count) := by
  refine (bindPort_eq_some ranged).mpr ⟨rfl, ⟨Nat.le_add_right _ _, inside⟩, ?_, ?_⟩
  · rw [used]
    omega
  · intro lower above below
    exact (used lower).mpr ⟨above, below⟩

theorem exists_absent (taken : List String) : ∃ name, name ∉ taken := by
  have : Infinite String := Infinite.of_injective String.ofList fun _ _ same => by
    simpa using congrArg String.toList same
  obtain ⟨name, absent⟩ := Infinite.exists_notMem_finset taken.toFinset
  exact ⟨name, fun member => absent (List.mem_toFinset.mpr member)⟩

/-- As many ports of a range as one likes are in use in some run, from the first
on, by other devices than the one given. -/
theorem exists_run_usedPorts (ranged : bridge.devicePorts = some (first, stop)) (deviceId : String)
    {count : Nat} (fits : first + count ≤ stop) :
    ∃ events, (∀ event ∈ events, event.GivesWords) ∧
      deviceId ∉ (bridge.run closedEnvironment events).devices ∧
      ∀ port, port ∈ usedPorts (bridge.run closedEnvironment events).devices ↔
        first ≤ port ∧ port < first + count := by
  induction count with
  | zero =>
      refine ⟨[], by simp, ?_, ?_⟩
      · rw [run, start_closed]
        simp [Transition.run, ProxyState.empty]
      · intro port
        rw [run, start_closed, mem_usedPorts]
        simp [Transition.run, ProxyState.empty]
  | succ count ih =>
      obtain ⟨events, words, absent, used⟩ := ih (by omega)
      obtain ⟨other, fresh⟩ := exists_absent
        (deviceId :: (bridge.run closedEnvironment events).devices.keys)
      obtain ⟨apart, unknown⟩ := not_or.mp (List.mem_cons.not.mp fresh)
      obtain ⟨runtime, served, after⟩ :=
        attach_lookup unknown (bindPort_next ranged 0 (by omega) used)
      refine ⟨events ++ [.attached other (openEnvironment 0)], ?_, ?_, ?_⟩
      · intro event member
        rcases List.mem_append.mp member with earlier | last
        · exact words event earlier
        · rw [List.mem_singleton.mp last]
          exact openEnvironment_givesWords (by decide)
      · rw [run, run_concat, ← run, after]
        simp [absent, Ne.symm apart]
      · intro port
        rw [run, run_concat, ← run, after, mem_usedPorts_assign unknown, used, served]
        omega

theorem exists_run_port (ranged : bridge.devicePorts = some (first, stop)) (deviceId : String)
    (inside : first ≤ port ∧ port < stop) :
    ∃ events, (∀ event ∈ events, event.GivesWords) ∧ ∃ runtime,
      (bridge.run closedEnvironment events).devices.lookup deviceId = some runtime ∧
        runtime.port = port := by
  obtain ⟨count, rfl⟩ := Nat.exists_eq_add_of_le inside.1
  obtain ⟨events, words, absent, used⟩ :=
    exists_run_usedPorts ranged deviceId (Nat.le_of_lt inside.2)
  obtain ⟨runtime, served, after⟩ := attach_lookup absent (bindPort_next ranged 0 inside.2 used)
  refine ⟨events ++ [.attached deviceId (openEnvironment 0)], ?_, runtime, ?_, served⟩
  · intro event member
    rcases List.mem_append.mp member with earlier | last
    · exact words event earlier
    · rw [List.mem_singleton.mp last]
      exact openEnvironment_givesWords (by decide)
  · rw [run, run_concat, ← run, after, Table.lookup_assign, if_pos rfl]

theorem exists_run_autoPort (unranged : bridge.devicePorts = none) (deviceId : String)
    (positive : 0 < port) (word : port < 2 ^ 16) :
    ∃ events, (∀ event ∈ events, event.GivesWords) ∧ ∃ runtime,
      (bridge.run closedEnvironment events).devices.lookup deviceId = some runtime ∧
        runtime.port = port := by
  have absent : deviceId ∉ ProxyState.empty.devices := by simp [ProxyState.empty]
  have bound : bridge.bindPort (openEnvironment port) ProxyState.empty.devices = some port :=
    (bindPort_auto unranged).mpr ⟨rfl, by omega⟩
  obtain ⟨runtime, served, after⟩ := attach_lookup absent bound
  refine ⟨[.attached deviceId (openEnvironment port)], ?_, runtime, ?_, served⟩
  · intro event member
    rw [List.mem_singleton.mp member]
    exact openEnvironment_givesWords word
  · rw [run, start_closed, Transition.run, List.foldl_cons, List.foldl_nil, after,
      Table.lookup_assign, if_pos rfl]

end ProxyBridge

end IosWebkitDebugProxy
