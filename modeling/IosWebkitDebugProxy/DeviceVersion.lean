import Mathlib.Data.List.Basic
import IosWebkitDebugProxy.HttpCore

/-! The version of a device, packed into one number when the proxy connects to the
device (`idevice_ext.rs`) and taken apart again for its clients (`lib.rs` and
`http_server.rs`). -/

namespace IosWebkitDebugProxy

/-- The version of a device that tells `versionStr`, as `connect_to_device_sync`
keeps it. Parts that are no numbers are passed over. -/
def resultOsVersion (versionStr : String) : Nat :=
  match (versionStr.toList.splitOn '.').filterMap parseU32 with
  | major :: minor :: rest =>
      let patch := match rest with
        | patch :: _ => patch &&& 0xFF
        | [] => 0
      ((major &&& 0xFF) <<< 16) ||| ((minor &&& 0xFF) <<< 8) ||| patch
  | _ => 0

def parseDeviceOsVersion (version : Nat) : Nat × Nat × Nat :=
  (version >>> 16, (version >>> 8) &&& 0xff, version &&& 0xff)

/-- A decimal component of a version, of one byte. -/
structure VersionComponent (text : List Char) (value : Nat) : Prop where
  nonempty : text ≠ []
  digits : ∀ letter ∈ text, letter.isDigit = true
  number : Nat.ofDigitChars 10 text 0 = value
  small : value ≤ 255

/-- The versions that a text of two or three components is. -/
inductive VersionText : String → Nat × Nat × Nat → Prop where
  | short {majorText minorText : List Char} {major minor : Nat} :
      VersionComponent majorText major → VersionComponent minorText minor →
        VersionText (String.ofList (majorText ++ '.' :: minorText)) (major, minor, 0)
  | long {majorText minorText patchText : List Char} {major minor patch : Nat} :
      VersionComponent majorText major → VersionComponent minorText minor →
        VersionComponent patchText patch →
          VersionText (String.ofList (majorText ++ '.' :: (minorText ++ '.' :: patchText)))
            (major, minor, patch)

/-- Earlier in the order of the components, the first of them first. -/
def VersionBefore : Nat × Nat × Nat → Nat × Nat × Nat → Prop :=
  Prod.Lex (· < ·) (Prod.Lex (· < ·) (· < ·))

/-- What a version text means for everything that is made of it. -/
structure VersionKept (text : String) (version : Nat × Nat × Nat) : Prop where
  unpacked : parseDeviceOsVersion (resultOsVersion text) = version
  listed : ∀ state : DeviceListState, ∀ device ∈ state.devices,
    device.deviceOsVersion = resultOsVersion text →
      ∃ records, Json.read (handleDeviceListJson .get state).body = some records ∧
        ∃ record ∈ records, record.lookup "deviceId" = some device.deviceId ∧
          record.lookup "deviceOSVersion" = some (toString version.1 ++ "." ++
            toString version.2.1 ++ "." ++ toString version.2.2)
  ordered : ∀ otherText other, VersionText otherText other →
    (resultOsVersion text < resultOsVersion otherText ↔ VersionBefore version other)
  partials : ∀ environment deviceId connection codec device, deviceId ≠ "SIMULATOR" →
    environment.connection = some device → device.deviceOsVersion = resultOsVersion text →
      ProxyBridge.connectWebInspector environment deviceId = some (connection, codec) →
        (codec.partialsSupported = true ↔ version.1 < 11)

theorem byte_mask {value : Nat} (small : value ≤ 255) : value &&& 0xFF = value := by
  have bound : value < 2 ^ 8 := Nat.lt_succ_of_le small
  exact Nat.and_two_pow_sub_one_of_lt_two_pow bound

namespace VersionComponent

variable {text : List Char} {value : Nat}

theorem parse (component : VersionComponent text value) : parseU32 text = some value := by
  have small := component.small
  rw [parseU32_eq component.nonempty component.digits (by rw [component.number]; omega),
    component.number]

theorem dot_notMem (component : VersionComponent text value) : '.' ∉ text := by
  intro member
  exact absurd (component.digits '.' member) (by decide)

theorem mask (component : VersionComponent text value) : value &&& 0xFF = value :=
  byte_mask component.small

end VersionComponent

theorem pack_eq {major minor patch : Nat} (minorSmall : minor ≤ 255) (patchSmall : patch ≤ 255) :
    (major <<< 16) ||| (minor <<< 8) ||| patch = (major * 256 + minor) * 256 + patch := by
  have low : patch < 2 ^ 8 := Nat.lt_succ_of_le patchSmall
  rw [Nat.or_assoc, ← Nat.shiftLeft_add_eq_or_of_lt low]
  have lower : minor <<< 8 + patch < 2 ^ 16 := by
    rw [Nat.shiftLeft_eq]
    omega
  rw [← Nat.shiftLeft_add_eq_or_of_lt lower]
  simp only [Nat.shiftLeft_eq]
  omega

def packed (version : Nat × Nat × Nat) : Nat :=
  (version.1 * 256 + version.2.1) * 256 + version.2.2

def SmallVersion (version : Nat × Nat × Nat) : Prop :=
  version.1 ≤ 255 ∧ version.2.1 ≤ 255 ∧ version.2.2 ≤ 255

theorem VersionText.packed {text : String} {version : Nat × Nat × Nat}
    (written : VersionText text version) :
    resultOsVersion text = packed version ∧ SmallVersion version := by
  cases written with
  | short major minor =>
      refine ⟨?_, major.small, minor.small, Nat.zero_le _⟩
      rw [resultOsVersion, String.toList_ofList,
        List.splitOn_append_cons_self_of_not_mem major.dot_notMem,
        List.splitOn_eq_singleton minor.dot_notMem, List.filterMap_cons_some major.parse,
        List.filterMap_cons_some minor.parse, List.filterMap_nil]
      simp only [major.mask, minor.mask]
      exact pack_eq minor.small (Nat.zero_le _)
  | long major minor patch =>
      refine ⟨?_, major.small, minor.small, patch.small⟩
      rw [resultOsVersion, String.toList_ofList,
        List.splitOn_append_cons_self_of_not_mem major.dot_notMem,
        List.splitOn_append_cons_self_of_not_mem minor.dot_notMem,
        List.splitOn_eq_singleton patch.dot_notMem, List.filterMap_cons_some major.parse,
        List.filterMap_cons_some minor.parse, List.filterMap_cons_some patch.parse,
        List.filterMap_nil]
      simp only [major.mask, minor.mask, patch.mask]
      exact pack_eq minor.small patch.small

theorem unpack (version : Nat × Nat × Nat) (small : SmallVersion version) :
    packed version >>> 16 = version.1 ∧ (packed version >>> 8) &&& 0xff = version.2.1 ∧
      packed version &&& 0xff = version.2.2 := by
  obtain ⟨major, minor, patch⟩ := version
  obtain ⟨majorSmall, minorSmall, patchSmall⟩ := small
  have mask (value : Nat) : value &&& 0xff = value % 256 := Nat.and_two_pow_sub_one_eq_mod value 8
  simp only [mask, Nat.shiftRight_eq_div_pow, packed] at *
  omega

theorem packed_lt_iff {first second : Nat × Nat × Nat} (firstSmall : SmallVersion first)
    (secondSmall : SmallVersion second) :
    packed first < packed second ↔ VersionBefore first second := by
  obtain ⟨major, minor, patch⟩ := first
  obtain ⟨major', minor', patch'⟩ := second
  obtain ⟨_, minorSmall, patchSmall⟩ := firstSmall
  obtain ⟨_, minorSmall', patchSmall'⟩ := secondSmall
  simp only [packed, VersionBefore, Prod.lex_def] at *
  omega

theorem packed_lt_eleven {version : Nat × Nat × Nat} (small : SmallVersion version) :
    packed version < 0xb0000 ↔ version.1 < 11 := by
  obtain ⟨major, minor, patch⟩ := version
  obtain ⟨_, minorSmall, patchSmall⟩ := small
  simp only [packed] at *
  omega

theorem resultOsVersion_kept (text : String) (version : Nat × Nat × Nat)
    (written : VersionText text version) : VersionKept text version := by
  obtain ⟨packing, small⟩ := written.packed
  obtain ⟨major, minor, patch⟩ := unpack version small
  refine ⟨?_, ?_, ?_, ?_⟩
  · rw [parseDeviceOsVersion, packing, major, minor, patch]
  · intro state device member same
    refine ⟨state.devices.map deviceRecord, Json.read_write _, deviceRecord device,
      List.mem_map_of_mem member, rfl, ?_⟩
    simp only [deviceRecord, same, packing, major, minor, patch, byte_mask small.1]
    rfl
  · intro otherText other otherWritten
    obtain ⟨otherPacking, otherSmall⟩ := otherWritten.packed
    rw [packing, otherPacking]
    exact packed_lt_iff small otherSmall
  · intro environment deviceId connection codec device real connected same given
    rw [ProxyBridge.connectWebInspector, connected, Option.map_some, if_neg real] at given
    cases given
    simp only [WebInspectorCodec.new, decide_eq_true_eq, same, packing]
    exact packed_lt_eleven small

theorem resultOsVersion_kept_ten : VersionKept "10.3.4" (10, 3, 4) := by
  have digits {text : List Char} (all : text.all Char.isDigit = true) :
      ∀ letter ∈ text, letter.isDigit = true := List.all_eq_true.mp all
  have written : VersionText (String.ofList (['1', '0'] ++ '.' :: (['3'] ++ '.' :: ['4'])))
      (10, 3, 4) :=
    .long ⟨by decide, digits (by decide), by decide, by decide⟩
      ⟨by decide, digits (by decide), by decide, by decide⟩
      ⟨by decide, digits (by decide), by decide, by decide⟩
  exact resultOsVersion_kept "10.3.4" (10, 3, 4) written

end IosWebkitDebugProxy
