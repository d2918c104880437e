import IosWebkitDebugProxy.ConfigServed
import IosWebkitDebugProxy.RunCore

/-! The ports of the rules as 16-bit numbers. The program takes the ports of a
rule modulo the width of a port, and adds one to the last in that width. -/

namespace IosWebkitDebugProxy

/-- The range of device ports has a port. -/
def ProxyBridge.Ranges (bridge : ProxyBridge) (port : Nat) : Prop :=
  ∃ first stop, bridge.devicePorts = some (first, stop) ∧ first ≤ port ∧ port < stop

/-- The range of a wildcard rule is computed without overflow and has the ports
of the rule that there are, and the device list is served on its own port or on none. -/
structure HandsOver (config : PortConfig) (bridge : ProxyBridge) : Prop where
  fits : ∀ wildcard, config.find (some "*") = some wildcard → 0 < wildcard.minPort →
    wildcard.minPort ≤ wildcard.maxPort → toU16 wildcard.maxPort + 1 < 2 ^ 16
  exact : ∀ wildcard, config.find (some "*") = some wildcard → 0 < wildcard.minPort →
    wildcard.minPort ≤ wildcard.maxPort → ∀ port,
      bridge.Ranges port ↔ wildcard.Admits port ∧ port ≤ 2 ^ 16 - 1
  listed : 0 < ProxyRun.listPort bridge → (ProxyRun.listPort bridge : Int) = config.listPort

theorem toU16_of_lt {value : Int} (positive : 0 ≤ value) (word : value < 2 ^ 16) :
    (toU16 value : Int) = value := by
  unfold toU16
  omega

/-- The device list is bound to the port of its rule, or to none, unless the width of a
port makes another port of it. -/
theorem toU16_eq_self_iff {value : Int} :
    (0 < toU16 value → (toU16 value : Int) = value) ↔
      0 ≤ value ∧ value ≤ 2 ^ 16 - 1 ∨ value % 2 ^ 16 = 0 := by
  have modulo : (toU16 value : Int) = value % 2 ^ 16 := by
    unfold toU16
    omega
  constructor
  · intro same
    by_cases bound : 0 < toU16 value
    · have port := same bound
      omega
    · omega
  · rintro (⟨positive, word⟩ | multiple) bound
    · exact toU16_of_lt positive (by omega)
    · omega

namespace PortConfig

theorem listPort_of_find {config : PortConfig} {rule : PortConfigEntry}
    (found : config.find none = some rule) :
    config.listPort = if 0 < rule.minPort then rule.minPort else -1 := by
  simp only [listPort, selectPort, found]
  have unset : ¬((-1 : Int) ≥ 0 ∧ ((-1 : Int) < rule.minPort ∨ (-1 : Int) > rule.maxPort)) := by
    omega
  rw [if_neg unset]
  simp

theorem listPort_of_not_find {config : PortConfig} (missing : config.find none = none) :
    config.listPort = -1 := by
  simp [listPort, selectPort, missing]

end PortConfig

/-- The whole range is below the last port of all, or it is beyond the ports and
its ends change their order as ports. -/
def PortConfigEntry.KeepsRange (rule : PortConfigEntry) : Prop :=
  rule.maxPort < 2 ^ 16 - 1 ∨
    2 ^ 16 - 1 < rule.minPort ∧ rule.maxPort % 2 ^ 16 < rule.minPort % 2 ^ 16

theorem ranges_wildcard {config : PortConfig} {wildcard : PortConfigEntry}
    (found : config.find (some "*") = some wildcard) (positive : 0 < wildcard.minPort)
    (ordered : wildcard.minPort ≤ wildcard.maxPort) (http : Option HttpServiceConfig)
    (hasListener : Bool) (port : Nat) :
    ProxyBridge.Ranges ⟨config.devicePorts, http, hasListener⟩ port ↔
      toU16 wildcard.minPort ≤ port ∧ port < (toU16 wildcard.maxPort + 1) % 2 ^ 16 := by
  simp [ProxyBridge.Ranges, PortConfig.devicePorts_of_find found, positive, ordered]

theorem listPort_main (config : PortConfig) (args : Args) :
    ProxyRun.listPort ⟨config.devicePorts, args.httpServiceConfig config, false⟩ =
      if 0 < config.listPort then toU16 config.listPort else 0 := by
  by_cases positive : 0 < config.listPort <;>
    simp [ProxyRun.listPort, Args.httpServiceConfig, positive]

theorem keepsRange_iff {rule : PortConfigEntry} (positive : 0 < rule.minPort)
    (ordered : rule.minPort ≤ rule.maxPort) :
    (toU16 rule.maxPort + 1 < 2 ^ 16 ∧ ∀ port,
      (toU16 rule.minPort ≤ port ∧ port < (toU16 rule.maxPort + 1) % 2 ^ 16 ↔
        rule.Admits port ∧ port ≤ 2 ^ 16 - 1)) ↔ rule.KeepsRange := by
  have lowWord := toU16_lt rule.minPort
  have highWord := toU16_lt rule.maxPort
  have lowMod : (toU16 rule.minPort : Int) = rule.minPort % 2 ^ 16 := by
    unfold toU16
    omega
  have highMod : (toU16 rule.maxPort : Int) = rule.maxPort % 2 ^ 16 := by
    unfold toU16
    omega
  unfold PortConfigEntry.KeepsRange PortConfigEntry.Admits
  constructor
  · rintro ⟨fits, same⟩
    rw [Nat.mod_eq_of_lt fits] at same
    by_cases beyond : 2 ^ 16 - 1 < rule.minPort
    · refine .inr ⟨beyond, ?_⟩
      have lowest := same (toU16 rule.minPort)
      omega
    · have last := same (2 ^ 16 - 1)
      omega
  · rintro (below | ⟨beyond, crossed⟩)
    · have low : (toU16 rule.minPort : Int) = rule.minPort := toU16_of_lt (by omega) (by omega)
      have high : (toU16 rule.maxPort : Int) = rule.maxPort := toU16_of_lt (by omega) (by omega)
      have fits : toU16 rule.maxPort + 1 < 2 ^ 16 := by omega
      refine ⟨fits, fun port => ?_⟩
      rw [Nat.mod_eq_of_lt fits]
      omega
    · have fits : toU16 rule.maxPort + 1 < 2 ^ 16 := by omega
      refine ⟨fits, fun port => ?_⟩
      rw [Nat.mod_eq_of_lt fits]
      omega

/-- What the program hands over keeps the rules just if the wildcard range and
the port of the device list fit what they are converted to. A port of the device list
that becomes zero is not bound at all. -/
theorem handsOver_iff (files : FileSystem) (args : Args) :
    (∀ config bridge, args.portConfig files = .ok config → args.main files = .ok bridge →
      HandsOver config bridge) ↔
    ∀ config, args.portConfig files = .ok config →
      (∀ wildcard, config.find (some "*") = some wildcard → 0 < wildcard.minPort →
        wildcard.minPort ≤ wildcard.maxPort → wildcard.KeepsRange) ∧
      ∀ rule, config.find none = some rule →
        rule.minPort ≤ 2 ^ 16 - 1 ∨ rule.minPort % 2 ^ 16 = 0 := by
  constructor
  · intro hands config parsed
    have started : args.main files = .ok _ := congrArg (Except.map _) parsed
    obtain ⟨fits, same, listed⟩ := hands config _ parsed started
    refine ⟨?_, ?_⟩
    · intro wildcard found positive ordered
      refine (keepsRange_iff positive ordered).mp ⟨fits wildcard found positive ordered, ?_⟩
      intro port
      rw [← ranges_wildcard found positive ordered (args.httpServiceConfig config) false]
      exact same wildcard found positive ordered port
    · intro rule found
      by_cases positive : 0 < rule.minPort
      · rw [listPort_main, PortConfig.listPort_of_find found, if_pos positive, if_pos positive]
          at listed
        exact (toU16_eq_self_iff.mp listed).imp_left And.right
      · omega
  · intro keeps config bridge parsed started
    rw [Args.main, parsed, Except.map, Except.ok.injEq] at started
    subst started
    obtain ⟨kept, word⟩ := keeps config parsed
    refine ⟨?_, ?_, ?_⟩
    · intro wildcard found positive ordered
      exact ((keepsRange_iff positive ordered).mpr (kept wildcard found positive ordered)).1
    · intro wildcard found positive ordered port
      rw [ranges_wildcard found positive ordered]
      exact ((keepsRange_iff positive ordered).mpr (kept wildcard found positive ordered)).2 port
    · rw [listPort_main]
      split
      · rename_i positive
        cases found : config.find none with
        | none =>
            rw [PortConfig.listPort_of_not_find found] at positive
            omega
        | some rule =>
            have port := PortConfig.listPort_of_find found
            refine toU16_eq_self_iff.mpr ((word rule found).imp (fun below => ?_) fun none => ?_)
            all_goals split at port <;> omega
      · intro bound
        exact absurd bound (Nat.lt_irrefl 0)

def lastPortArgs : Args := ⟨none, some ":9222-65535", none, true⟩

theorem portConfig_lastPortArgs (files : FileSystem) :
    lastPortArgs.portConfig files = .ok ⟨[⟨some "*", 9222, 65535⟩]⟩ := by
  rw [Args.portConfig, lastPortArgs, Args.configText, Option.getD_some, Except.map,
    Args.readConfig_of_segment files ⟨[⟨some "*", 9222, 65535⟩]⟩ (by decide +kernel)
      (by decide +kernel) (by decide +kernel) (by decide +kernel)]

/-- A range up to the last port of all overflows, and no device port is left. -/
theorem last_port_not_handed_over :
    ¬∀ files args config bridge, Args.portConfig files args = .ok config →
      args.main files = .ok bridge → HandsOver config bridge := by
  intro hands
  have parsed := portConfig_lastPortArgs (fun _ => .error "")
  have started : lastPortArgs.main (fun _ => .error "") = .ok _ := congrArg (Except.map _) parsed
  have fits := (hands _ _ _ _ parsed started).fits ⟨some "*", 9222, 65535⟩ (by decide) (by decide)
    (by decide)
  exact absurd fits (by decide)

end IosWebkitDebugProxy
