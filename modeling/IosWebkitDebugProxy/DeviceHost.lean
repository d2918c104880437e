import IosWebkitDebugProxy.DeviceOwnership
import IosWebkitDebugProxy.Library.Transition

/-! The handles of the foreign libraries over a whole life of the proxy: connecting to
devices again and again, reading and writing the streams, and dropping them, in any
order. -/

namespace IosWebkitDebugProxy

open Ownership Transition

/-- One call of `connect_to_device`, with what the libraries answer in it. -/
structure ConnectAttempt where
  device : Libimobiledevice
  tls : TlsCrates
  plist : PlistCrate
  deviceId : Option String

def ConnectAttempt.program (attempt : ConnectAttempt) :
    Program Handle (Except ConnectError ConnectedDevice) :=
  connectToDevice attempt.device attempt.tls attempt.plist attempt.deviceId

/-- The handles are those of the attempt with this index. -/
abbrev DeviceHandle := Nat × Handle

structure DeviceHost where
  attempts : List ConnectAttempt
  calls : List (Call DeviceHandle)
  streams : Finset Nat

inductive HostAction where
  | connect (attempt : ConnectAttempt)
  | transfer (index : Nat)
  | drop (index : Nat)

def HostAction.attempt : HostAction → Option ConnectAttempt
  | .connect attempt => some attempt
  | _ => none

namespace DeviceHost

def start : DeviceHost := ⟨[], [], ∅⟩

def connect (attempt : ConnectAttempt) (host : DeviceHost) : DeviceHost where
  attempts := host.attempts ++ [attempt]
  calls := host.calls ++ attempt.program.calls.map (Call.map fun handle => (host.attempts.length, handle))
  streams := match attempt.program.result with
    | .ok _ => insert host.attempts.length host.streams
    | .error _ => host.streams

/-- A stream that is read or written, while it is there. -/
def transfer (index : Nat) (host : DeviceHost) : DeviceHost :=
  if index ∈ host.streams then { host with calls := host.calls ++ [.use (index, .socket)] } else host

/-- Both halves of a stream are gone, and its socket is closed. -/
def drop (index : Nat) (host : DeviceHost) : DeviceHost :=
  if index ∈ host.streams then { host with
    calls := host.calls ++ [.release (index, .socket)]
    streams := host.streams.erase index }
  else host

def step (host : DeviceHost) : HostAction → DeviceHost
  | .connect attempt => host.connect attempt
  | .transfer index => host.transfer index
  | .drop index => host.drop index

def run (actions : List HostAction) : DeviceHost := Transition.run step start actions

end DeviceHost

namespace ConnectAttempt

/-- The connection that was made is never freed, because its socket was not got. -/
def LeavesConnection (attempt : ConnectAttempt) : Prop :=
  Reached attempt.device attempt.deviceId ∧
    (∃ descriptor, Connected attempt.device descriptor) ∧ attempt.device.getFd.1 ≠ 0

def Opened (attempt : ConnectAttempt) : Prop := ∃ connected, attempt.program.result = .ok connected

/-- What is left of an attempt when its stream is dropped. -/
def Leaves (attempt : ConnectAttempt) : Handle → Prop
  | .service => Reached attempt.device attempt.deviceId ∧
      (attempt.device.startService serviceName).2.isSome
  | .connection => attempt.LeavesConnection
  | .socket => attempt.LeavesConnection
  | .record =>
      (∃ descriptor, Found attempt.device attempt.deviceId descriptor ∧ descriptor.sslEnabled = 1) ∧
        attempt.tls.setNonblocking = .ok () ∧ attempt.tls.fromStd = .ok () ∧
        RecordKept attempt.device attempt.plist (toldText attempt.device "UniqueDeviceID")
  | _ => False

theorem program_leaves (attempt : ConnectAttempt) :
    ∃ left, attempt.program.Runs ∅ left ∧
      ∀ handle, handle ∈ left ↔ attempt.Leaves handle ∨ handle = .socket ∧ attempt.Opened := by
  obtain ⟨left, runs, told⟩ :=
    connectToDevice_owns attempt.device attempt.tls attempt.plist attempt.deviceId
  refine ⟨left, runs, fun handle => ?_⟩
  cases handle with
  | service => simpa [Leaves] using told.service
  | connection => simpa [Leaves, LeavesConnection] using told.connection
  | socket =>
      rw [told.socket, told.connection]
      simp [Leaves, LeavesConnection, Opened, program]
  | record => simpa [Leaves] using told.record
  | phone | client | node | text =>
      simp only [Leaves, false_or, reduceCtorEq, false_and, iff_false]
      intro member
      simpa using told.others _ member

theorem opened_leavesConnection {attempt : ConnectAttempt} (opened : attempt.Opened) :
    ¬attempt.LeavesConnection := by
  rintro ⟨_, _, unsocketed⟩
  obtain ⟨connected, result⟩ := opened
  unfold program at result
  cases sync : (connectToDeviceSync attempt.device attempt.deviceId).result with
  | error failure =>
      obtain ⟨error, _, ended⟩ := connectToDevice_failed attempt.tls attempt.plist sync
      rw [ended] at result
      cases result
  | ok found =>
      obtain ⟨_, query⟩ := connectToDeviceSync_found.mp sync
      obtain ⟨_, _, got, _⟩ := (queryDevice_result found).mp query
      exact unsocketed got

end ConnectAttempt

namespace DeviceHost

/-- What is owned now: what each attempt leaves, and the sockets of the open streams. -/
structure Holds (host : DeviceHost) (left : Finset DeviceHandle) : Prop where
  owned : ownedAfter ∅ host.calls = some left
  handles : ∀ index handle, (index, handle) ∈ left ↔
    ∃ attempt, host.attempts[index]? = some attempt ∧
      (attempt.Leaves handle ∨ handle = .socket ∧ index ∈ host.streams)
  streams : ∀ index ∈ host.streams, ∃ attempt, host.attempts[index]? = some attempt ∧ attempt.Opened

variable {host : DeviceHost} {left : Finset DeviceHandle}

theorem Holds.bound (holds : host.Holds left) {index : Nat} (stream : index ∈ host.streams) :
    index < host.attempts.length := by
  obtain ⟨attempt, found, _⟩ := holds.streams index stream
  exact (List.getElem?_eq_some_iff.mp found).1

theorem Holds.socket (holds : host.Holds left) {index : Nat} (stream : index ∈ host.streams) :
    (index, .socket) ∈ left := by
  obtain ⟨attempt, found, _⟩ := holds.streams index stream
  exact (holds.handles index .socket).mpr ⟨attempt, found, .inr ⟨rfl, stream⟩⟩

theorem holds_transfer (holds : host.Holds left) (index : Nat) :
    ∃ left, (host.transfer index).Holds left := by
  unfold transfer
  by_cases stream : index ∈ host.streams
  · refine ⟨left, ?_, ?_, ?_⟩
    · rw [if_pos stream, ownedAfter_append holds.owned]
      exact if_pos (holds.socket stream)
    · rw [if_pos stream]
      exact holds.handles
    · rw [if_pos stream]
      exact holds.streams
  · rw [if_neg stream]
    exact ⟨left, holds⟩

theorem holds_drop (holds : host.Holds left) (index : Nat) :
    ∃ left, (host.drop index).Holds left := by
  unfold drop
  by_cases stream : index ∈ host.streams
  · obtain ⟨attempt, found, opened⟩ := holds.streams index stream
    refine ⟨left.erase (index, .socket), ?_, fun other handle => ?_, fun other => ?_⟩
    · rw [if_pos stream, ownedAfter_append holds.owned]
      exact if_pos (holds.socket stream)
    · rw [if_pos stream, Finset.mem_erase, holds.handles]
      constructor
      · rintro ⟨apart, other', made, leaves | ⟨rfl, streaming⟩⟩
        · exact ⟨other', made, .inl leaves⟩
        · have elsewhere : other ≠ index := fun same => apart (by rw [same])
          exact ⟨other', made, .inr ⟨rfl, Finset.mem_erase.mpr ⟨elsewhere, streaming⟩⟩⟩
      · rintro ⟨other', made, leaves | ⟨rfl, streaming⟩⟩
        · refine ⟨fun same => ?_, other', made, .inl leaves⟩
          obtain ⟨rfl, rfl⟩ := Prod.mk.inj same
          rw [found, Option.some.injEq] at made
          subst made
          exact ConnectAttempt.opened_leavesConnection opened leaves
        · obtain ⟨elsewhere, streaming⟩ := Finset.mem_erase.mp streaming
          exact ⟨fun same => elsewhere (Prod.mk.inj same).1, other', made, .inr ⟨rfl, streaming⟩⟩
    · rw [if_pos stream]
      intro member
      exact holds.streams other (Finset.mem_of_mem_erase member)
  · rw [if_neg stream]
    exact ⟨left, holds⟩

theorem mem_connect_streams {attempt : ConnectAttempt} {index : Nat} :
    index ∈ (host.connect attempt).streams ↔
      index ∈ host.streams ∨ index = host.attempts.length ∧ attempt.Opened := by
  unfold connect ConnectAttempt.Opened
  cases attempt.program.result with
  | error error => simp
  | ok connected => simp [or_comm]

theorem holds_connect (holds : host.Holds left) (attempt : ConnectAttempt) :
    ∃ left, (host.connect attempt).Holds left := by
  obtain ⟨own, runs, leaves⟩ := attempt.program_leaves
  let tag : Handle ↪ DeviceHandle :=
    ⟨fun handle => (host.attempts.length, handle), fun _ _ same => (Prod.mk.inj same).2⟩
  have fresh (handle : Handle) : (host.attempts.length, handle) ∉ left := by
    intro member
    obtain ⟨_, made, _⟩ := (holds.handles _ _).mp member
    simp at made
  have whole := ownedAfter_map tag fresh runs
  rw [Finset.map_empty, Finset.union_empty] at whole
  have tagged (index : Nat) (handle : Handle) :
      (index, handle) ∈ own.map tag ↔ index = host.attempts.length ∧ handle ∈ own := by
    rw [Finset.mem_map]
    constructor
    · rintro ⟨_, member, same⟩
      obtain ⟨rfl, rfl⟩ := Prod.mk.inj same
      exact ⟨rfl, member⟩
    · rintro ⟨rfl, member⟩
      exact ⟨handle, member, rfl⟩
  refine ⟨left ∪ own.map tag, (ownedAfter_append holds.owned).trans whole, fun index handle => ?_,
    fun index stream => ?_⟩
  · change _ ↔ ∃ made, (host.attempts ++ [attempt])[index]? = some made ∧ _
    rw [Finset.mem_union, tagged, mem_connect_streams]
    rcases Nat.lt_trichotomy index host.attempts.length with before | rfl | after
    · have elsewhere := Nat.ne_of_lt before
      rw [List.getElem?_append_left before, holds.handles]
      simp only [elsewhere, false_and, or_false]
    · have unopened : host.attempts.length ∉ host.streams := by
        intro stream
        exact absurd (holds.bound stream) (Nat.lt_irrefl _)
      simp [fresh, unopened, leaves]
    · have unmade : (host.attempts ++ [attempt])[index]? = none :=
        List.getElem?_eq_none (by rw [List.length_append]; exact after)
      have unowned : (index, handle) ∉ left := by
        intro member
        obtain ⟨_, made, _⟩ := (holds.handles _ _).mp member
        rw [List.getElem?_eq_none (Nat.le_of_lt after)] at made
        cases made
      simp [unmade, unowned, Nat.ne_of_gt after]
  · change ∃ made, (host.attempts ++ [attempt])[index]? = some made ∧ made.Opened
    rcases mem_connect_streams.mp stream with earlier | ⟨rfl, opened⟩
    · obtain ⟨made, found, opened⟩ := holds.streams index earlier
      exact ⟨made, by rw [List.getElem?_append_left (holds.bound earlier)]; exact found, opened⟩
    · exact ⟨attempt, by simp, opened⟩

theorem run_holds (actions : List HostAction) : ∃ left, (run actions).Holds left := by
  refine run_invariant (fun host => ∃ left, Holds host left) ⟨∅, rfl, ?_, ?_⟩ ?_ actions
  · simp [start]
  · simp [start]
  · rintro host action ⟨left, holds⟩
    cases action with
    | connect attempt => exact holds_connect holds attempt
    | transfer index => exact holds_transfer holds index
    | drop index => exact holds_drop holds index

theorem run_attempts (actions : List HostAction) :
    (run actions).attempts = actions.filterMap HostAction.attempt := by
  induction actions using List.reverseRecOn with
  | nil => rfl
  | append_singleton earlier action ih =>
      rw [run, run_concat, List.filterMap_append, ← ih]
      cases action with
      | connect attempt => rfl
      | transfer index =>
          simp only [step, transfer]
          split <;> simp [HostAction.attempt, run]
      | drop index =>
          simp only [step, drop]
          split <;> simp [HostAction.attempt, run]

/-- No handle is used or freed that is not held, and what is never given back is told by
the answers to each attempt alone. -/
theorem run_leaves (actions : List HostAction) :
    ∃ left, ownedAfter ∅ (run actions).calls = some left ∧
      ∀ index handle, (index, handle) ∈ left ↔
        ∃ attempt, (actions.filterMap HostAction.attempt)[index]? = some attempt ∧
          (attempt.Leaves handle ∨ handle = .socket ∧ index ∈ (run actions).streams) := by
  obtain ⟨left, holds⟩ := run_holds actions
  rw [← run_attempts]
  exact ⟨left, holds.owned, holds.handles⟩

end DeviceHost

end IosWebkitDebugProxy
