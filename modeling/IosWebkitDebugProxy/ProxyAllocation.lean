import IosWebkitDebugProxy.ConfigServed

/-! Which devices get a port of the range. The search passes over the ports of
the other devices only, and binding fails for good where it ends at a port that
somebody else holds. -/

namespace IosWebkitDebugProxy

open Transition

/-- A port of the range that no device of the table uses and that can be bound. -/
def Usable (first stop : Nat) (environment : ConnectEnvironment)
    (devices : Table String DeviceRuntime) (port : Nat) : Prop :=
  (first ≤ port ∧ port < stop) ∧ port ∉ usedPorts devices ∧ environment.bindable port = true

/-- The devices of the table are on ports of the range, each on its own. -/
structure PortsApart (first stop : Nat) (devices : Table String DeviceRuntime) : Prop where
  inside : ∀ deviceId runtime, devices.lookup deviceId = some runtime →
    first ≤ runtime.port ∧ runtime.port < stop
  distinct : ∀ one other oneRuntime otherRuntime, devices.lookup one = some oneRuntime →
    devices.lookup other = some otherRuntime → oneRuntime.port = otherRuntime.port → one = other

/-- A port is bound just if there is a usable one, and it is one. -/
structure Allocates (bridge : ProxyBridge) (first stop : Nat) (environment : ConnectEnvironment)
    (devices : Table String DeviceRuntime) : Prop where
  complete : (∃ port, bridge.bindPort environment devices = some port) ↔
    ∃ port, Usable first stop environment devices port
  sound : ∀ port, bridge.bindPort environment devices = some port →
    Usable first stop environment devices port

/-- The lowest port of the range that no device uses, if there is one, can be bound. -/
def LowestBindable (first stop : Nat) (environment : ConnectEnvironment)
    (devices : Table String DeviceRuntime) : Prop :=
  ∀ port, first ≤ port → port < stop → port ∉ usedPorts devices →
    (∀ lower, first ≤ lower → lower < port → lower ∈ usedPorts devices) →
    environment.bindable port = true

namespace ProxyBridge

variable {bridge : ProxyBridge} {environment : ConnectEnvironment} {first stop : Nat}
variable {devices : Table String DeviceRuntime}

theorem bindPort_usable (ranged : bridge.devicePorts = some (first, stop)) {port : Nat}
    (bound : bridge.bindPort environment devices = some port) :
    Usable first stop environment devices port := by
  obtain ⟨bindable, inside, free, _⟩ := (bindPort_eq_some ranged).mp bound
  exact ⟨inside, free, bindable⟩

theorem exists_lowest {port : Nat} (inside : first ≤ port ∧ port < stop)
    (free : port ∉ usedPorts devices) :
    ∃ lowest, (first ≤ lowest ∧ lowest < stop) ∧ lowest ∉ usedPorts devices ∧
      ∀ lower, first ≤ lower → lower < lowest → lower ∈ usedPorts devices := by
  induction port using Nat.strongRecOn with
  | ind port ih =>
      by_cases used : ∀ lower, first ≤ lower → lower < port → lower ∈ usedPorts devices
      · exact ⟨port, inside, free, used⟩
      · simp only [not_forall] at used
        obtain ⟨lower, above, below, unused⟩ := used
        exact ih lower below ⟨above, Nat.lt_trans below inside.2⟩ unused

theorem allocates_iff (ranged : bridge.devicePorts = some (first, stop))
    (environment : ConnectEnvironment) (devices : Table String DeviceRuntime) :
    Allocates bridge first stop environment devices ↔
      LowestBindable first stop environment devices ∨
        ∀ port, ¬Usable first stop environment devices port := by
  constructor
  · rintro ⟨complete, _⟩
    by_cases usable : ∃ port, Usable first stop environment devices port
    · obtain ⟨port, bound⟩ := complete.mpr usable
      obtain ⟨bindable, inside, free, lowest⟩ := (bindPort_eq_some ranged).mp bound
      refine .inl fun other above below unused lower => ?_
      have here : other = port := by
        rcases Nat.lt_trichotomy other port with before | same | behind
        · exact absurd (lowest other above before) unused
        · exact same
        · exact absurd (lower port inside.1 behind) free
      rw [here]
      exact bindable
    · exact .inr (not_exists.mp usable)
  · intro lowest
    refine ⟨⟨?_, ?_⟩, fun port => bindPort_usable ranged⟩
    · rintro ⟨port, bound⟩
      exact ⟨port, bindPort_usable ranged bound⟩
    · rintro ⟨port, usable⟩
      rcases lowest with bindable | none
      · obtain ⟨least, inside, free, lower⟩ := exists_lowest usable.1 usable.2.1
        exact ⟨least, (bindPort_eq_some ranged).mpr
          ⟨bindable least inside.1 inside.2 free lower, inside, free, lower⟩⟩
      · exact absurd usable (none port)

theorem step_portsApart (ranged : bridge.devicePorts = some (first, stop)) (state : ProxyState)
    (event : ProxyEvent) (apart : PortsApart first stop state.devices) :
    PortsApart first stop (bridge.step state event).devices where
  inside := by
    intro deviceId runtime found
    rcases step_port found with ⟨old, stored, same⟩ | ⟨environment, _, bound⟩
    · rw [same]
      exact apart.inside deviceId old stored
    · exact (bindPort_usable ranged bound).1
  distinct := by
    intro one other oneRuntime otherRuntime oneFound otherFound same
    rcases step_port oneFound with ⟨old, stored, kept⟩ | ⟨environment, rfl, bound⟩ <;>
      rcases step_port otherFound with ⟨otherOld, otherStored, otherKept⟩ |
        ⟨otherEnvironment, attached, otherBound⟩
    · exact apart.distinct one other old otherOld stored otherStored
        (by rw [← kept, same, otherKept])
    · have free := (bindPort_usable ranged otherBound).2.1
      exact absurd (mem_usedPorts.mpr ⟨one, old, stored, by rw [← kept, same]⟩) free
    · have free := (bindPort_usable ranged bound).2.1
      exact absurd
        (mem_usedPorts.mpr ⟨other, otherOld, otherStored, by rw [← otherKept, same]⟩) free
    · cases attached
      rfl

theorem run_portsApart (ranged : bridge.devicePorts = some (first, stop))
    (environment : ConnectEnvironment) (events : List ProxyEvent) :
    PortsApart first stop (bridge.run environment events).devices := by
  refine run_invariant (fun state : ProxyState => PortsApart first stop state.devices) ?_
    (step_portsApart ranged) events
  have started := step_portsApart ranged .empty (.attached "SIMULATOR" environment)
    ⟨by simp [ProxyState.empty], by simp [ProxyState.empty]⟩
  exact started

end ProxyBridge

/-- Devices are on ports of the range, each on its own, in every state that is
reached. A device gets one whenever there is a usable one exactly if the lowest
port that no device uses can be bound, or none is usable. -/
theorem portAllocation_iff (first stop : Nat) (httpServiceConfig : Option HttpServiceConfig)
    (hasListener : Bool) :
    (∀ environment events, PortsApart first stop
      (ProxyBridge.run ⟨some (first, stop), httpServiceConfig, hasListener⟩ environment
        events).devices) ∧
    ∀ environment devices,
      Allocates ⟨some (first, stop), httpServiceConfig, hasListener⟩ first stop environment devices ↔
        LowestBindable first stop environment devices ∨
          ∀ port, ¬Usable first stop environment devices port :=
  ⟨ProxyBridge.run_portsApart rfl, ProxyBridge.allocates_iff rfl⟩

def sharedRangeArgs : Args := ⟨none, some ":9222-9322", none, true⟩

theorem main_sharedRangeArgs (files : FileSystem) :
    sharedRangeArgs.main files = .ok ⟨some (9222, 9323), some ⟨9222, none⟩, false⟩ := by
  have parsed : sharedRangeArgs.portConfig files = .ok ⟨[⟨some "*", 9222, 9322⟩]⟩ := by
    rw [Args.portConfig, sharedRangeArgs, Args.configText, Option.getD_some, Except.map,
      Args.readConfig_of_segment files ⟨[⟨some "*", 9222, 9322⟩]⟩ (by decide +kernel)
        (by decide +kernel) (by decide +kernel) (by decide +kernel)]
  rw [Args.main, parsed]
  rfl

def listServerEnvironment : ConnectEnvironment :=
  ⟨fun port => port != 9222, none, some phoneConnection, "U"⟩

/-- The device list is served on the first port of the range, and no device gets
any of the others. -/
theorem list_server_port_not_allocates :
    sharedRangeArgs.main (fun _ => .error "") =
        .ok ⟨some (9222, 9323), some ⟨9222, none⟩, false⟩ ∧
      ¬∀ environment devices, Allocates ⟨some (9222, 9323), some ⟨9222, none⟩, false⟩ 9222 9323
        environment devices := by
  refine ⟨main_sharedRangeArgs _, ?_⟩
  intro allocates
  have free (port : Nat) : port ∉ usedPorts ∅ := by
    simp [mem_usedPorts]
  obtain ⟨port, bound⟩ := (allocates listServerEnvironment ∅).complete.mpr
    ⟨9223, ⟨by decide, by decide⟩, free 9223, rfl⟩
  obtain ⟨bindable, inside, _, lowest⟩ := (ProxyBridge.bindPort_eq_some rfl).mp bound
  have here : port = 9222 := by
    by_contra other
    exact free 9222 (lowest 9222 (Nat.le_refl _) (by omega))
  rw [here] at bindable
  cases bindable

end IosWebkitDebugProxy
