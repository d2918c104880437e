import Mathlib.Data.List.TakeWhile
import IosWebkitDebugProxy.ConfigCore
import IosWebkitDebugProxy.ProxyPorts

/-! The port rules compared with the ports that devices are served on. A device
has a rule of its own, but the proxy is started with the range of the first
wildcard rule alone. -/

namespace IosWebkitDebugProxy

theorem PortConfig.devicePorts_of_find {config : PortConfig} {wildcard : PortConfigEntry}
    (found : config.find (some "*") = some wildcard) :
    config.devicePorts =
      if 0 < wildcard.minPort ∧ wildcard.minPort ≤ wildcard.maxPort then
        some (toU16 wildcard.minPort, (toU16 wildcard.maxPort + 1) % 2 ^ 16)
      else none := by
  simp only [devicePorts, selectPort, found]

theorem PortConfig.devicePorts_of_not_find {config : PortConfig}
    (missing : config.find (some "*") = none) : config.devicePorts = none := by
  simp [devicePorts, selectPort, missing]

theorem PortConfig.addLineFrom_segment {curr : Nat} {line : List Char} {config : PortConfig}
    (filled : line ≠ []) (unblank : line.dropWhile isBlank = line)
    (whole : ∀ letter ∈ line, inSegment letter = true) :
    addLineFrom curr line config =
      match config.addSegment line with
      | none => (config, some (curr + (line.takeWhile isBlank).length))
      | some config => (config, none) := by
  have segment : line.takeWhile inSegment = line := List.takeWhile_eq_self_iff.mpr whole
  have rest : line.dropWhile inSegment = [] := List.dropWhile_eq_nil_iff.mpr whole
  rw [addLineFrom]
  simp only [filled, if_false, unblank, segment]
  cases config.addSegment line with
  | none => rfl
  | some config =>
      simp only
      split
      · rename_i later
        rw [unblank, rest] at later
        cases later
      · rfl

def PortConfigEntry.Ranged (rule : PortConfigEntry) : Prop :=
  0 < rule.minPort ∧ rule.minPort ≤ rule.maxPort ∧ rule.maxPort ≤ 2 ^ 16 - 1

def PortConfigEntry.Admits (rule : PortConfigEntry) (port : Nat) : Prop :=
  rule.minPort ≤ port ∧ port ≤ rule.maxPort

/-- In every state that the proxy can reach the device is on a port of the rule. -/
def ServedWithin (bridge : ProxyBridge) (deviceId : String) (rule : PortConfigEntry) : Prop :=
  ∀ environment events, environment.GivesWords → (∀ event ∈ events, event.GivesWords) →
    ∀ runtime, (bridge.run environment events).devices.lookup deviceId = some runtime →
      rule.Admits runtime.port

/-- The ports of the first wildcard rule, as far as they fit 16 bits, are ports
of the rule, or there are none. Without such ports every port is a port of the rule. -/
def CoversWildcard (rule : PortConfigEntry) : Option PortConfigEntry → Prop
  | some wildcard =>
      if 0 < wildcard.minPort ∧ wildcard.minPort ≤ wildcard.maxPort then
        toU16 wildcard.maxPort = 2 ^ 16 - 1 ∨ toU16 wildcard.maxPort < toU16 wildcard.minPort ∨
          rule.minPort ≤ toU16 wildcard.minPort ∧ toU16 wildcard.maxPort ≤ rule.maxPort
      else rule.minPort = 1 ∧ rule.maxPort = 2 ^ 16 - 1
  | none => rule.minPort = 1 ∧ rule.maxPort = 2 ^ 16 - 1

theorem servedWithin_auto {bridge : ProxyBridge} (unranged : bridge.devicePorts = none)
    (deviceId : String) {rule : PortConfigEntry} (ranged : rule.Ranged) :
    ServedWithin bridge deviceId rule ↔ rule.minPort = 1 ∧ rule.maxPort = 2 ^ 16 - 1 := by
  obtain ⟨positive, ordered, word⟩ := ranged
  constructor
  · intro served
    have admits (port : Nat) (above : 0 < port) (below : port < 2 ^ 16) : rule.Admits port := by
      obtain ⟨events, words, runtime, found, rfl⟩ :=
        ProxyBridge.exists_run_autoPort unranged deviceId above below
      exact served _ events ProxyBridge.closedEnvironment_givesWords words runtime found
    have lowest := admits 1 (by decide) (by decide)
    have highest := admits (2 ^ 16 - 1) (by decide) (by decide)
    unfold PortConfigEntry.Admits at lowest highest
    omega
  · rintro ⟨lowest, highest⟩ environment events initial words runtime found
    have chosen : 0 < runtime.port ∧ runtime.port < 2 ^ 16 := by
      refine ProxyBridge.run_port (fun port => 0 < port ∧ port < 2 ^ 16) ?_ initial words deviceId
        runtime found
      intro environment devices port given bound
      obtain ⟨auto, nonzero⟩ := (ProxyBridge.bindPort_auto unranged).mp bound
      exact ⟨Nat.pos_of_ne_zero nonzero, given port auto⟩
    unfold PortConfigEntry.Admits
    omega

theorem servedWithin_range {bridge : ProxyBridge} {first stop : Nat}
    (given : bridge.devicePorts = some (first, stop)) (deviceId : String)
    (rule : PortConfigEntry) :
    ServedWithin bridge deviceId rule ↔
      ∀ port, first ≤ port → port < stop → rule.Admits port := by
  constructor
  · intro served port above below
    obtain ⟨events, words, runtime, found, rfl⟩ :=
      ProxyBridge.exists_run_port given deviceId ⟨above, below⟩
    exact served _ events ProxyBridge.closedEnvironment_givesWords words runtime found
  · intro admits environment events initial words runtime found
    refine ProxyBridge.run_port _ ?_ initial words deviceId runtime found
    intro environment devices port _ bound
    obtain ⟨_, inside, _⟩ := (ProxyBridge.bindPort_eq_some given).mp bound
    exact admits port inside.1 inside.2

theorem toU16_lt (value : Int) : toU16 value < 2 ^ 16 := by
  have bound := Int.emod_lt_of_pos value (show (0 : Int) < 2 ^ 16 by decide)
  have positive := Int.emod_nonneg value (show (2 ^ 16 : Int) ≠ 0 by decide)
  unfold toU16
  omega

theorem admits_range_iff {rule : PortConfigEntry} {first last : Nat} (word : last < 2 ^ 16) :
    (∀ port, first ≤ port → port < (last + 1) % 2 ^ 16 → rule.Admits port) ↔
      last = 2 ^ 16 - 1 ∨ last < first ∨ rule.minPort ≤ first ∧ last ≤ rule.maxPort := by
  by_cases wraps : last = 2 ^ 16 - 1
  · simp [wraps]
  · have stop : (last + 1) % 2 ^ 16 = last + 1 := Nat.mod_eq_of_lt (by omega)
    rw [stop]
    constructor
    · intro admits
      by_cases empty : last < first
      · exact .inr (.inl empty)
      · have lowest := admits first (Nat.le_refl first) (by omega)
        have highest := admits last (by omega) (Nat.lt_succ_self last)
        exact .inr (.inr ⟨lowest.1, highest.2⟩)
    · rintro (wrapped | empty | ⟨lowest, highest⟩) port above below
      · exact absurd wrapped wraps
      · omega
      · unfold PortConfigEntry.Admits
        omega

/-- Whatever proxy the program runs, a device whose rule has a range of ports is
served on one of them. -/
def HonoursRules (files : FileSystem) (args : Args) (deviceId : String) : Prop :=
  ∀ config bridge rule, args.portConfig files = .ok config → args.main files = .ok bridge →
    config.find (some deviceId) = some rule → rule.Ranged → ServedWithin bridge deviceId rule

theorem servedWithin_main_iff {files : FileSystem} {args : Args} {config : PortConfig}
    {bridge : ProxyBridge} (parsed : args.portConfig files = .ok config)
    (started : args.main files = .ok bridge) (deviceId : String) {rule : PortConfigEntry}
    (ranged : rule.Ranged) :
    ServedWithin bridge deviceId rule ↔ CoversWildcard rule (config.find (some "*")) := by
  rw [Args.main, parsed, Except.map, Except.ok.injEq] at started
  subst started
  cases wild : config.find (some "*") with
  | none => exact servedWithin_auto (config.devicePorts_of_not_find wild) deviceId ranged
  | some wildcard =>
      have ports := config.devicePorts_of_find wild
      by_cases limited : 0 < wildcard.minPort ∧ wildcard.minPort ≤ wildcard.maxPort
      · rw [if_pos limited] at ports
        rw [servedWithin_range ports, CoversWildcard, if_pos limited]
        exact admits_range_iff (toU16_lt _)
      · rw [if_neg limited] at ports
        rw [CoversWildcard, if_neg limited]
        exact servedWithin_auto ports deviceId ranged

/-- The proxy honours the rule of a device just if the first wildcard rule gives
no other ports. -/
theorem honoursRules_iff (files : FileSystem) (args : Args) (deviceId : String) :
    HonoursRules files args deviceId ↔
      ∀ config rule, args.portConfig files = .ok config →
        config.find (some deviceId) = some rule → rule.Ranged →
          CoversWildcard rule (config.find (some "*")) := by
  constructor
  · intro honours config rule parsed found ranged
    have started : args.main files = .ok _ := congrArg (Except.map _) parsed
    exact (servedWithin_main_iff parsed started deviceId ranged).mp
      (honours config _ rule parsed started found ranged)
  · intro covers config bridge rule parsed started found ranged
    exact (servedWithin_main_iff parsed started deviceId ranged).mpr
      (covers config rule parsed found ranged)

theorem Args.readConfig_of_segment (files : FileSystem) (config : PortConfig) {text : String}
    (filled : text.toList ≠ []) (unblank : text.toList.dropWhile isBlank = text.toList)
    (whole : text.toList.all PortConfig.inSegment = true)
    (segment : PortConfig.new.addSegment text.toList = some config) :
    Args.readConfig files text = config := by
  have line : PortConfig.new.addLine text = (config, none) := by
    rw [PortConfig.addLine, PortConfig.addLineFrom_segment filled unblank
      (List.all_eq_true.mp whole), segment]
  rw [readConfig, line]
  rfl

def targetUdid : String := "00008030-001A2B3C4D5E802E"

def targetArgs : Args := ⟨some (targetUdid ++ ":9300-9310"), none, none, false⟩

theorem portConfig_targetArgs (files : FileSystem) :
    targetArgs.portConfig files = .ok ⟨[⟨some targetUdid, 9300, 9310⟩]⟩ := by
  have text : targetArgs.configText = .ok (targetUdid ++ ":9300-9310") := by decide +kernel
  rw [Args.portConfig, text, Except.map,
    Args.readConfig_of_segment files ⟨[⟨some targetUdid, 9300, 9310⟩]⟩ (by decide +kernel)
      (by decide +kernel) (by decide +kernel) (by decide +kernel)]

/-- The device that the program is started for is not served on its ports. -/
theorem target_not_honoured : ¬∀ files args deviceId, HonoursRules files args deviceId := by
  intro honours
  have covers := (honoursRules_iff (fun _ => .error "") targetArgs targetUdid).mp
    (honours _ targetArgs targetUdid) _ ⟨some targetUdid, 9300, 9310⟩ (portConfig_targetArgs _)
    (by decide) (by unfold PortConfigEntry.Ranged; decide)
  have missing : PortConfig.find (some "*") ⟨[⟨some targetUdid, 9300, 9310⟩]⟩ = none := by decide
  rw [missing] at covers
  exact absurd covers.1 (by decide)

end IosWebkitDebugProxy
