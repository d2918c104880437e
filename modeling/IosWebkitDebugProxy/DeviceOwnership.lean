import IosWebkitDebugProxy.DeviceConnect

/-! What connecting to a device does with the handles of the foreign libraries: on no
path is one used or freed that is not held, and which ones are never given back. -/

namespace IosWebkitDebugProxy

open Plist Ownership Program

variable {device : Libimobiledevice} {tls : TlsCrates} {plist : PlistCrate}
variable {Result Next : Type}

theorem getText_runs {owned : Finset Handle} {key : String} (client : .client ∈ owned)
    (node : .node key ∉ owned) (text : .text key ∉ owned) :
    (getText device key).Runs owned owned := by
  have noText : .text key ∉ insert (Handle.node key) owned := by simp [text]
  unfold getText
  refine runs_use client ?_
  split
  · rename_i value _
    refine runs_acquire node (runs_use (Finset.mem_insert_self _ _) ?_)
    cases value with
    | none =>
        refine runs_release (Finset.mem_insert_self _ _) ?_
        rw [Finset.erase_insert node]
        exact runs_done _ rfl
    | some bytes =>
        refine runs_acquire noText (runs_use (Finset.mem_insert_self _ _)
          (runs_release (Finset.mem_insert_self _ _) ?_))
        rw [Finset.erase_insert noText]
        refine runs_release (Finset.mem_insert_self _ _) ?_
        rw [Finset.erase_insert node]
        exact runs_done _ rfl
  · exact runs_done _ rfl

def leftOfService (device : Libimobiledevice) (descriptor : LockdownServiceDescriptor) :
    Finset Handle :=
  if device.connect descriptor.port ≠ 0 then {.service}
  else if device.getFd.1 ≠ 0 then {.service, .connection, .socket}
  else {.service, .socket}

theorem connectService_runs (descriptor : LockdownServiceDescriptor) (deviceId deviceName : String)
    (version : Nat) :
    (connectService device descriptor deviceId deviceName version).Runs {.service, .client, .phone}
      (leftOfService device descriptor) := by
  unfold connectService leftOfService
  refine runs_use (by decide) (runs_use (by decide) ?_)
  split
  · refine runs_release (by decide) (runs_release (by decide) ?_)
    exact runs_done _ (by decide)
  · refine runs_acquire (by decide) (runs_acquire (by decide) (runs_release (by decide)
      (runs_use (by decide) ?_)))
    split
    · exact runs_release (by decide) (runs_done _ (by decide))
    · exact runs_release (by decide) (runs_release (by decide) (runs_done _ (by decide)))

def leftOfStart (device : Libimobiledevice) : Finset Handle :=
  match device.startService serviceName with
  | (_, none) => ∅
  | (code, some descriptor) =>
      if code ≠ 0 ∨ descriptor.port = 0 then {.service} else leftOfService device descriptor

theorem startService_runs (deviceId deviceName : String) (version : Nat) :
    (startService device deviceId deviceName version).Runs {.client, .phone}
      (leftOfStart device) := by
  unfold startService leftOfStart
  refine runs_use (by decide) ?_
  rcases device.startService serviceName with ⟨code, _ | descriptor⟩
  · refine runs_release (by decide) (runs_release (by decide) ?_)
    exact runs_done _ rfl
  · refine runs_acquire (by decide) ?_
    by_cases failed : code = 0
    · simp only [failed, ne_eq, not_true, false_or, if_false]
      refine runs_use (by decide) ?_
      split
      · exact runs_release (by decide) (runs_release (by decide) (runs_done _ (by decide)))
      · exact connectService_runs descriptor deviceId deviceName version
    · simp only [failed, ne_eq, not_false_eq_true, true_or, if_true]
      exact runs_release (by decide) (runs_release (by decide) (runs_done _ (by decide)))

theorem queryDevice_runs : (queryDevice device).Runs {.client, .phone} (leftOfStart device) := by
  have text (key : String) : (getText device key).Runs {.client, .phone} {.client, .phone} :=
    getText_runs (by decide) (by simp) (by simp)
  exact runs_andThen (text _) (runs_andThen (text _) (runs_andThen (text _)
    (startService_runs _ _ _)))

/-- The device was found, and its lockdown service shook hands. -/
def Reached (device : Libimobiledevice) (deviceId : Option String) : Prop :=
  deviceId.any HasNul = false ∧ device.newWithOptions deviceId = 0 ∧
    device.handshake "ios_webkit_debug_proxy" = 0

theorem connectToDeviceSync_runs (device : Libimobiledevice) (deviceId : Option String) :
    ∃ left, (connectToDeviceSync device deviceId).Runs ∅ left ∧
      (Reached device deviceId ∧ left = leftOfStart device ∧
          (connectToDeviceSync device deviceId).result = (queryDevice device).result ∨
        ¬Reached device deviceId ∧ left = ∅ ∧
          ∀ found, (connectToDeviceSync device deviceId).result ≠ .ok found) := by
  unfold connectToDeviceSync Reached
  by_cases nul : deviceId.any HasNul
  · refine ⟨∅, ?_, .inr ⟨fun reached => ?_, rfl, fun found => ?_⟩⟩
    · rw [if_pos nul]
      exact runs_done _ rfl
    · rw [reached.1] at nul
      cases nul
    · rw [if_pos nul]
      exact nofun
  · rw [if_neg nul]
    by_cases missing : device.newWithOptions deviceId = 0
    · rw [if_neg (not_not.mpr missing)]
      by_cases shaken : device.handshake "ios_webkit_debug_proxy" = 0
      · refine ⟨leftOfStart device, ?_, .inl ⟨⟨Bool.eq_false_iff.mpr nul, missing, shaken⟩, rfl, ?_⟩⟩
        · refine runs_acquire (by decide) (runs_use (by decide) ?_)
          simp only [shaken, ne_eq, not_true, if_false]
          exact runs_acquire (by decide) queryDevice_runs
        · simp only [shaken, ne_eq, not_true, if_false]
          rfl
      · refine ⟨∅, ?_, .inr ⟨fun reached => shaken reached.2.2, rfl, fun found => ?_⟩⟩
        · refine runs_acquire (by decide) (runs_use (by decide) ?_)
          simp only [shaken, ne_eq, not_false_eq_true, if_true]
          exact runs_release (by decide) (runs_done _ (by decide))
        · simp only [shaken, ne_eq, not_false_eq_true, if_true]
          exact nofun
    · refine ⟨∅, ?_, .inr ⟨fun reached => missing reached.2.1, rfl, fun found => ?_⟩⟩
      · rw [if_pos missing]
        exact runs_done _ rfl
      · rw [if_pos missing]
        exact nofun

/-- The service was started, and the connection to it made. -/
def Connected (device : Libimobiledevice) (descriptor : LockdownServiceDescriptor) : Prop :=
  device.startService serviceName = (0, some descriptor) ∧ descriptor.port ≠ 0 ∧
    device.connect descriptor.port = 0

def toldText (device : Libimobiledevice) (key : String) : String :=
  (getText device key).result.getD ""

/-- What is left of the handles, told from the answers alone. -/
structure LeftOfDevice (device : Libimobiledevice) (left : Finset Handle) : Prop where
  service : .service ∈ left ↔ (device.startService serviceName).2.isSome
  connection : .connection ∈ left ↔
    (∃ descriptor, Connected device descriptor) ∧ device.getFd.1 ≠ 0
  socket : .socket ∈ left ↔ ∃ descriptor, Connected device descriptor
  others : ∀ handle ∈ left, handle = .service ∨ handle = .connection ∨ handle = .socket

theorem leftOfDevice (device : Libimobiledevice) : LeftOfDevice device (leftOfStart device) := by
  unfold leftOfStart
  cases answer : device.startService serviceName with
  | mk code found =>
      cases found with
      | none => constructor <;> simp [Connected, answer]
      | some descriptor =>
          have only (other : LockdownServiceDescriptor) : Connected device other ↔
              code = 0 ∧ other = descriptor ∧ descriptor.port ≠ 0 ∧
                device.connect descriptor.port = 0 := by
            simp only [Connected, answer, Prod.mk.injEq, Option.some.injEq]
            constructor
            · rintro ⟨⟨failed, rfl⟩, port, connects⟩
              exact ⟨failed, rfl, port, connects⟩
            · rintro ⟨failed, rfl, port, connects⟩
              exact ⟨⟨failed, rfl⟩, port, connects⟩
          by_cases failed : code ≠ 0 ∨ descriptor.port = 0
          · have unconnected (other : LockdownServiceDescriptor) : ¬Connected device other := by
              rw [only]
              rintro ⟨code, _, port, _⟩
              exact failed.elim (fun wrong => wrong code) port
            simp only [if_pos failed]
            constructor <;> simp [unconnected, answer]
          · obtain ⟨code, port⟩ := not_or.mp failed
            simp only [if_neg failed, leftOfService]
            have connected : (∃ other, Connected device other) ↔
                device.connect descriptor.port = 0 := by
              simp only [only, not_not.mp code, port, ne_eq, not_false_eq_true, true_and]
              exact ⟨fun ⟨_, _, connects⟩ => connects, fun connects => ⟨_, rfl, connects⟩⟩
            by_cases connects : device.connect descriptor.port = 0
            · by_cases fails : device.getFd.1 = 0 <;>
                constructor <;> simp [connected, connects, fails, answer]
            · constructor <;> simp [connected, connects, answer]

theorem LeftOfDevice.noRecord {left : Finset Handle} (told : LeftOfDevice device left) :
    .record ∉ left := by
  intro record
  rcases told.others _ record with wrong | wrong | wrong <;> cases wrong

theorem queryDevice_result (found : FfiConnectionResult) :
    (queryDevice device).result = .ok found ↔
      ∃ descriptor, Connected device descriptor ∧ device.getFd.1 = 0 ∧
        found = ⟨device.getFd.2, toldText device "UniqueDeviceID", toldText device "DeviceName",
          (((getText device "ProductVersion").result).map resultOsVersion).getD 0,
          descriptor.sslEnabled = 1⟩ := by
  change (startService device (toldText device "UniqueDeviceID") (toldText device "DeviceName")
    _).result = .ok found ↔ _
  unfold startService Connected
  cases answer : device.startService serviceName with
  | mk code started =>
      cases started with
      | none => simp [use, release, calling, fail, done]
      | some descriptor =>
          by_cases failed : code = 0 <;> by_cases port : descriptor.port = 0 <;>
            by_cases connects : device.connect descriptor.port = 0 <;>
            by_cases fails : device.getFd.1 = 0 <;>
            simp [use, release, acquire, calling, fail, done, connectService, failed, port,
              connects, fails]
          exact eq_comm

theorem queryDevice_error {failure : Failure} (result : (queryDevice device).result = .error failure) :
    ∃ message, failure = .error (.deviceConnection message) := by
  change (startService device (toldText device "UniqueDeviceID") (toldText device "DeviceName")
    _).result = _ at result
  unfold startService at result
  split at result
  · cases result
    exact ⟨_, rfl⟩
  · rename_i code descriptor _
    by_cases failed : code = 0 <;> by_cases port : descriptor.port = 0 <;>
      by_cases connects : device.connect descriptor.port = 0 <;>
      by_cases fails : device.getFd.1 = 0 <;>
      simp [use, release, acquire, calling, fail, done, connectService, failed, port,
        connects, fails, noService] at result <;>
      exact ⟨_, result.symm⟩

theorem fromUtf8Lossy_noNul {bytes : List UInt8} (noZero : 0 ∉ bytes) :
    '\x00' ∉ fromUtf8Lossy bytes := by
  induction bytes using fromUtf8Lossy.induct with
  | case1 => simp [fromUtf8Lossy]
  | case2 first rest letter decoded ih =>
      rw [fromUtf8Lossy, decoded]
      obtain ⟨later, whole⟩ := ByteArray.exists_of_utf8DecodeChar?_eq_some decoded
      intro member
      rcases List.mem_cons.mp member with nul | inside
      · subst nul
        have zero := congrArg (fun bytes => bytes.data.toList.head?) whole
        have nulBytes : String.utf8EncodeChar '\x00' = [0] := by decide
        simp [nulBytes] at zero
        exact noZero (by simp [zero])
      · exact ih (fun zero => noZero (List.mem_cons_of_mem _ (List.mem_of_mem_drop zero))) inside
  | case3 first rest undecoded ih =>
      rw [fromUtf8Lossy, undecoded]
      intro member
      rcases List.mem_cons.mp member with nul | inside
      · cases nul
      · exact ih (fun zero => noZero (List.mem_cons_of_mem _ (List.mem_of_mem_drop zero))) inside

/-- What is copied out of a C string has no zero character in it. -/
theorem toldText_noNul (device : Libimobiledevice) (key : String) :
    HasNul (toldText device key) = false := by
  have copied (bytes : List UInt8) : HasNul (fromCStr (bytes.takeWhile (· ≠ 0))) = false := by
    have noZero : (0 : UInt8) ∉ bytes.takeWhile (· ≠ 0) := by
      intro member
      simpa using List.mem_takeWhile_imp member
    have noNul := fromUtf8Lossy_noNul noZero
    simpa [HasNul, fromCStr] using noNul
  unfold toldText getText
  cases device.getValue key with
  | error code => rfl
  | ok value =>
      rcases value with _ | _ | bytes
      · rfl
      · rfl
      · exact copied bytes

/-- A pair record that was read and that is not freed: the call failed all the same, or
it gave no bytes, or bytes that are no property list. -/
def RecordKept (device : Libimobiledevice) (plist : PlistCrate) (deviceId : String) : Prop :=
  ∃ code bytes, device.readPairRecord deviceId = (code, some bytes) ∧
    (code < 0 ∨ bytes = [] ∨ ∀ record, plist.fromBytes bytes ≠ .ok record)

theorem buildTlsConfig_runs (device : Libimobiledevice) (tls : TlsCrates) (plist : PlistCrate)
    {owned : Finset Handle} {deviceId : String} (noNul : HasNul deviceId = false) (fresh : .record ∉ owned) :
    ∃ left, (buildTlsConfig device tls plist deviceId).Runs owned left ∧
      (RecordKept device plist deviceId ∧ left = insert .record owned ∨
        ¬RecordKept device plist deviceId ∧ left = owned) := by
  unfold buildTlsConfig RecordKept
  rw [noNul, if_neg Bool.false_ne_true]
  rcases device.readPairRecord deviceId with ⟨code, _ | bytes⟩
  · refine ⟨owned, ?_, .inr ⟨by simp, rfl⟩⟩
    by_cases failed : code < 0
    · simp only [if_pos failed]
      exact runs_done _ rfl
    · simp only [if_neg failed]
      exact runs_done _ rfl
  · by_cases failed : code < 0
    · refine ⟨insert .record owned, runs_acquire fresh ?_, .inl ⟨⟨_, _, rfl, .inl failed⟩, rfl⟩⟩
      rw [if_pos failed]
      exact runs_done _ rfl
    · by_cases empty : bytes = []
      · refine ⟨insert .record owned, runs_acquire fresh ?_,
          .inl ⟨⟨_, _, rfl, .inr (.inl empty)⟩, rfl⟩⟩
        rw [if_neg failed, if_pos empty]
        exact runs_done _ rfl
      · have held := Finset.mem_insert_self Handle.record owned
        cases parsed : plist.fromBytes bytes with
        | error reason =>
            refine ⟨insert .record owned, runs_acquire fresh ?_,
              .inl ⟨⟨_, _, rfl, .inr (.inr (by simp [parsed]))⟩, rfl⟩⟩
            rw [if_neg failed, if_neg empty, parsed]
            exact runs_use held (runs_done _ rfl)
        | ok record =>
            refine ⟨owned, runs_acquire fresh ?_, .inr ⟨?_, rfl⟩⟩
            · rw [if_neg failed, if_neg empty, parsed]
              exact runs_use held (runs_release held
                (runs_done _ (Finset.erase_insert fresh)))
            · simp [failed, empty, parsed]

/-- What is left of the handles of a stream: the socket when it was opened, and the pair
record when it was kept. -/
structure LeftOfStream (owned left : Finset Handle) (kept opened : Prop) : Prop where
  record : .record ∈ left ↔ kept
  socket : .socket ∈ left ↔ opened
  others : ∀ handle, handle ≠ .record → handle ≠ .socket → (handle ∈ left ↔ handle ∈ owned)

theorem LeftOfStream.refl {owned : Finset Handle} (fresh : .record ∉ owned)
    (socket : .socket ∈ owned) : LeftOfStream owned owned False True :=
  ⟨iff_false_intro fresh, iff_true_intro socket, fun _ _ _ => Iff.rfl⟩

theorem LeftOfStream.record_kept {owned : Finset Handle} (socket : .socket ∈ owned) :
    LeftOfStream owned (insert .record owned) True True :=
  ⟨by simp, by simp [socket], fun _ other _ => by simp [other]⟩

theorem LeftOfStream.erase {owned left : Finset Handle} {kept opened : Prop}
    (before : LeftOfStream owned left kept opened) :
    LeftOfStream owned (left.erase .socket) kept False :=
  ⟨by simp [before.record], by simp, fun handle other socket => by
    simp [socket, before.others handle other socket]⟩

theorem enableSsl_runs (device : Libimobiledevice) (tls : TlsCrates) (plist : PlistCrate)
    {owned : Finset Handle} {deviceId : String} (noNul : HasNul deviceId = false) (fresh : .record ∉ owned) (socket : .socket ∈ owned) :
    ∃ left, (enableSsl device tls plist deviceId).Runs owned left ∧
      LeftOfStream owned left (RecordKept device plist deviceId)
        ((enableSsl device tls plist deviceId).result = .ok ()) := by
  obtain ⟨middle, runs, left⟩ :=
    buildTlsConfig_runs device tls plist noNul fresh
  have built : LeftOfStream owned middle (RecordKept device plist deviceId) True := by
    rcases left with ⟨kept, rfl⟩ | ⟨freed, rfl⟩
    · simpa [kept] using LeftOfStream.record_kept socket
    · simpa [freed] using LeftOfStream.refl fresh socket
  have held : .socket ∈ middle := built.socket.mpr trivial
  unfold enableSsl
  cases result : joined tls "TLS config task failed: "
      (buildTlsConfig device tls plist deviceId).result with
  | error error =>
      refine ⟨middle.erase .socket, runs_andThen runs ?_, ?_⟩
      · rw [result]
        exact runs_release held (runs_done _ rfl)
      · simpa [andThen, result, release, calling, done] using built.erase
  | ok config =>
      cases handshake : tls.handshake with
      | error reason =>
          refine ⟨middle.erase .socket, runs_andThen runs ?_, ?_⟩
          · rw [result]
            exact runs_release held (runs_done _ rfl)
          · simpa [andThen, result, release, calling, done] using built.erase
      | ok done =>
          refine ⟨middle, runs_andThen runs ?_, ?_⟩
          · rw [result]
            exact runs_done _ rfl
          · simpa [andThen, result, Program.done] using built

def Secured (tls : TlsCrates) (found : FfiConnectionResult) : Prop :=
  tls.setNonblocking = .ok () ∧ tls.fromStd = .ok () ∧ found.sslEnabled

theorem openStream_runs (device : Libimobiledevice) (tls : TlsCrates) (plist : PlistCrate)
    {owned : Finset Handle} {found : FfiConnectionResult} (noNul : HasNul found.deviceId = false) (fresh : .record ∉ owned) (socket : .socket ∈ owned) :
    ∃ left, (openStream device tls plist found).Runs owned left ∧
      LeftOfStream owned left (Secured tls found ∧ RecordKept device plist found.deviceId)
        (∃ connected, (openStream device tls plist found).result = .ok connected) := by
  have before := LeftOfStream.refl fresh socket
  unfold openStream Secured
  cases tls.setNonblocking with
  | error reason =>
      refine ⟨owned.erase .socket, runs_use socket (runs_release socket (runs_done _ rfl)), ?_⟩
      simpa [use, release, calling, done] using before.erase
  | ok _ =>
      cases tls.fromStd with
      | error reason =>
          refine ⟨owned.erase .socket, runs_use socket (runs_release socket (runs_done _ rfl)), ?_⟩
          simpa [use, release, calling, done] using before.erase
      | ok _ =>
          cases ssl : found.sslEnabled with
          | false =>
              refine ⟨owned, runs_use socket (runs_done _ rfl), ?_⟩
              simpa [use, calling, done] using before
          | true =>
              obtain ⟨left, runs, secured⟩ :=
                enableSsl_runs device tls plist noNul fresh socket
              refine ⟨left, runs_use socket (runs_andThen runs (runs_done _ rfl)), ?_⟩
              cases result : (enableSsl device tls plist found.deviceId).result <;>
                simpa [use, calling, andThen, done, result, Except.map] using secured

/-- The service was started and connected to, and its socket was got. -/
def Found (device : Libimobiledevice) (deviceId : Option String)
    (descriptor : LockdownServiceDescriptor) : Prop :=
  Reached device deviceId ∧ Connected device descriptor ∧ device.getFd.1 = 0

/-- What is left of the handles after a whole connect, told from the answers alone. -/
structure LeftOfConnect (device : Libimobiledevice) (tls : TlsCrates) (plist : PlistCrate)
    (deviceId : Option String) (left : Finset Handle) : Prop where
  service : .service ∈ left ↔
    Reached device deviceId ∧ (device.startService serviceName).2.isSome
  connection : .connection ∈ left ↔
    Reached device deviceId ∧ (∃ descriptor, Connected device descriptor) ∧ device.getFd.1 ≠ 0
  socket : .socket ∈ left ↔ .connection ∈ left ∨
    ∃ connected, (connectToDevice device tls plist deviceId).result = .ok connected
  record : .record ∈ left ↔
    (∃ descriptor, Found device deviceId descriptor ∧ descriptor.sslEnabled = 1) ∧
      tls.setNonblocking = .ok () ∧ tls.fromStd = .ok () ∧
      RecordKept device plist (toldText device "UniqueDeviceID")
  others : ∀ handle ∈ left,
    handle = .service ∨ handle = .connection ∨ handle = .socket ∨ handle = .record

theorem connectToDeviceSync_found {deviceId : Option String} {found : FfiConnectionResult} :
    (connectToDeviceSync device deviceId).result = .ok found ↔
      Reached device deviceId ∧ (queryDevice device).result = .ok found := by
  obtain ⟨left, _, ⟨reached, _, same⟩ | ⟨unreached, _, failed⟩⟩ :=
    connectToDeviceSync_runs device deviceId
  · simp [same, reached]
  · simp [failed found, unreached]

theorem connectToDevice_found (tls : TlsCrates) (plist : PlistCrate)
    {deviceId : Option String} {found : FfiConnectionResult}
    (result : (connectToDeviceSync device deviceId).result = .ok found) :
    (connectToDevice device tls plist deviceId).result =
      (openStream device tls plist found).result := by
  unfold connectToDevice andThen
  rw [result]
  rfl

theorem connectToDevice_failed (tls : TlsCrates) (plist : PlistCrate)
    {deviceId : Option String} {failure : Failure}
    (result : (connectToDeviceSync device deviceId).result = .error failure) :
    ∃ error, joined tls "FFI task failed: " (connectToDeviceSync device deviceId).result =
        .error error ∧
      (connectToDevice device tls plist deviceId).result = .error error := by
  unfold connectToDevice andThen
  rw [result]
  cases failure with
  | error error => exact ⟨error, rfl, rfl⟩
  | panic => exact ⟨_, rfl, rfl⟩

theorem notFound_of_error {deviceId : Option String} {failure : Failure}
    (result : (connectToDeviceSync device deviceId).result = .error failure)
    (descriptor : LockdownServiceDescriptor) : ¬Found device deviceId descriptor := by
  rintro ⟨reached, connected, got⟩
  have found := connectToDeviceSync_found.mpr
    ⟨reached, (queryDevice_result _).mpr ⟨descriptor, connected, got, rfl⟩⟩
  rw [result] at found
  cases found

theorem connect_fails_leaves {deviceId : Option String} {failure : Failure} {left : Finset Handle}
    (result : (connectToDeviceSync device deviceId).result = .error failure)
    (outcome : Reached device deviceId ∧ left = leftOfStart device ∨
      ¬Reached device deviceId ∧ left = ∅) :
    LeftOfConnect device tls plist deviceId left := by
  have told := leftOfDevice device
  have unfound := notFound_of_error result
  obtain ⟨error, _, ended⟩ := connectToDevice_failed tls plist result
  rcases outcome with ⟨reached, rfl⟩ | ⟨unreached, rfl⟩
  · constructor
    · simp [told.service, reached]
    · simp [told.connection, reached]
    · rw [told.socket, told.connection, ended]
      constructor
      · rintro ⟨descriptor, connected⟩
        exact .inl ⟨⟨descriptor, connected⟩, fun got => unfound descriptor ⟨reached, connected, got⟩⟩
      · rintro (⟨connected, _⟩ | ⟨_, fine⟩)
        · exact connected
        · cases fine
    · constructor
      · intro record
        exact absurd record told.noRecord
      · rintro ⟨⟨descriptor, found, _⟩, _⟩
        exact absurd found (unfound descriptor)
    · intro handle member
      rcases told.others handle member with service | connection | socket
      · exact .inl service
      · exact .inr (.inl connection)
      · exact .inr (.inr (.inl socket))
  · constructor <;> simp [unreached, unfound, ended]

theorem connect_finds_leaves {deviceId : Option String} {found : FfiConnectionResult}
    {left : Finset Handle} (result : (connectToDeviceSync device deviceId).result = .ok found)
    (stream : LeftOfStream (leftOfStart device) left
      (Secured tls found ∧ RecordKept device plist found.deviceId)
      (∃ connected, (openStream device tls plist found).result = .ok connected)) :
    LeftOfConnect device tls plist deviceId left := by
  have told := leftOfDevice device
  obtain ⟨reached, query⟩ := connectToDeviceSync_found.mp result
  have opened := connectToDevice_found tls plist result
  obtain ⟨descriptor, connected, got, rfl⟩ := (queryDevice_result found).mp query
  have unconnected : .connection ∉ left := by
    rw [stream.others _ (by decide) (by decide), told.connection]
    exact fun both => both.2 got
  constructor
  · rw [stream.others _ (by decide) (by decide), told.service]
    simp [reached]
  · simp [unconnected, got]
  · rw [stream.socket, opened]
    simp [unconnected]
  · rw [stream.record]
    constructor
    · rintro ⟨⟨nonblocking, converted, ssl⟩, kept⟩
      exact ⟨⟨descriptor, ⟨reached, connected, got⟩, by simpa using ssl⟩, nonblocking,
        converted, kept⟩
    · rintro ⟨⟨other, ⟨_, again, _⟩, ssl⟩, nonblocking, converted, kept⟩
      have same : descriptor = other := by
        have starts := connected.1.symm.trans again.1
        simpa using starts
      exact ⟨⟨nonblocking, converted, by simp [same, ssl]⟩, kept⟩
  · intro handle member
    by_cases record : handle = .record
    · exact .inr (.inr (.inr record))
    · by_cases socket : handle = .socket
      · exact .inr (.inr (.inl socket))
      · rcases told.others handle ((stream.others handle record socket).mp member) with
          service | connection | wrong
        · exact .inl service
        · exact .inr (.inl connection)
        · exact absurd wrong socket

theorem found_noNul {deviceId : Option String} {found : FfiConnectionResult}
    (result : (connectToDeviceSync device deviceId).result = .ok found) :
    HasNul found.deviceId = false := by
  obtain ⟨_, query⟩ := connectToDeviceSync_found.mp result
  obtain ⟨_, _, _, rfl⟩ := (queryDevice_result found).mp query
  exact toldText_noNul device "UniqueDeviceID"

theorem connectToDevice_owns (device : Libimobiledevice) (tls : TlsCrates) (plist : PlistCrate)
    (deviceId : Option String) :
    ∃ left, (connectToDevice device tls plist deviceId).Runs ∅ left ∧
      LeftOfConnect device tls plist deviceId left := by
  obtain ⟨left, runs, outcome⟩ := connectToDeviceSync_runs device deviceId
  have told := leftOfDevice device
  cases result : (connectToDeviceSync device deviceId).result with
  | error failure =>
      obtain ⟨error, mapped, _⟩ := connectToDevice_failed tls plist result
      refine ⟨left, runs_andThen runs ?_, connect_fails_leaves result ?_⟩
      · rw [mapped]
        exact runs_done _ rfl
      · exact outcome.imp (fun reached => ⟨reached.1, reached.2.1⟩)
          (fun unreached => ⟨unreached.1, unreached.2.1⟩)
  | ok found =>
      rcases outcome with ⟨_, rfl, _⟩ | ⟨_, _, failed⟩
      · obtain ⟨reached, query⟩ := connectToDeviceSync_found.mp result
        obtain ⟨descriptor, connected, _, _⟩ := (queryDevice_result found).mp query
        obtain ⟨left, opened, stream⟩ := openStream_runs device tls plist
          (found_noNul result) told.noRecord (told.socket.mpr ⟨descriptor, connected⟩)
        refine ⟨left, runs_andThen runs ?_, connect_finds_leaves result stream⟩
        rw [result]
        exact opened
      · exact absurd result (failed found)

/-- The blocking task of the first part panics on a zero character in the given id. -/
theorem connectToDeviceSync_error {deviceId : Option String} {failure : Failure}
    (result : (connectToDeviceSync device deviceId).result = .error failure) :
    deviceId.any HasNul = true ∧ failure = .panic ∨
      deviceId.any HasNul = false ∧ ∃ message, failure = .error (.deviceConnection message) := by
  unfold connectToDeviceSync at result
  cases nul : deviceId.any HasNul with
  | true =>
      rw [nul, if_pos rfl] at result
      cases result
      exact .inl ⟨rfl, rfl⟩
  | false =>
      rw [nul, if_neg Bool.false_ne_true] at result
      refine .inr ⟨rfl, ?_⟩
      by_cases missing : device.newWithOptions deviceId = 0
      · by_cases shaken : device.handshake "ios_webkit_debug_proxy" = 0
        · simp only [missing, shaken, ne_eq, not_true, if_false] at result
          exact queryDevice_error result
        · simp [missing, shaken, acquire, use, release, calling, fail, done] at result
          exact ⟨_, result.symm⟩
      · simp [missing, fail, done] at result
        exact ⟨_, result.symm⟩

/-- Every error says what the pair record or the TLS libraries made of it. -/
def Blames (result : Except ConnectError Result) : Prop :=
  ∀ error, result = .error error → ∃ message, error = .plist message ∨ error = .tls message

theorem blames_bind {result : Except ConnectError Result} {next : Result → Except ConnectError Next}
    (first : Blames result) (second : ∀ value, Blames (next value)) : Blames (result >>= next) := by
  cases result with
  | error reason =>
      intro error failed
      cases failed
      exact first reason rfl
  | ok value => exact second value

theorem blames_okOrFail {error : ConnectError} {value : Option Result}
    (blamed : ∃ message, error = .plist message ∨ error = .tls message) :
    Blames (okOrFail error value) := by
  intro other failed
  cases value <;> cases failed
  exact blamed

theorem blames_mapError {result : Except String Result} (task : String) :
    Blames (result.mapError fun reason => .tls (task ++ reason)) := by
  intro error failed
  cases result <;> cases failed
  exact ⟨_, .inr rfl⟩

theorem configure_blames (record : Value) : Blames (configure tls record) := by
  refine blames_bind ?_ fun both => blames_mapError _
  refine blames_bind (blames_okOrFail ⟨_, .inl rfl⟩) fun dict =>
    blames_bind (blames_okOrFail ⟨_, .inr rfl⟩) fun certData =>
    blames_bind (blames_okOrFail ⟨_, .inr rfl⟩) fun keyData =>
    blames_bind (blames_mapError _) fun chain => ?_
  split
  · intro error failed
    cases failed
    exact ⟨_, .inr rfl⟩
  · refine blames_bind (blames_mapError _) fun found =>
      blames_bind (blames_okOrFail ⟨_, .inr rfl⟩) fun key => ?_
    intro error failed
    cases failed

theorem buildTlsConfig_error {deviceId : String} {failure : Failure}
    (noNul : HasNul deviceId = false)
    (result : (buildTlsConfig device tls plist deviceId).result = .error failure) :
    ∃ message, failure = .error (.plist message) ∨ failure = .error (.tls message) := by
  unfold buildTlsConfig at result
  rw [noNul, if_neg Bool.false_ne_true] at result
  generalize device.readPairRecord deviceId = answer at result
  obtain ⟨code, _ | bytes⟩ := answer
  · by_cases failed : code < 0 <;> simp [failed, fail, done] at result <;>
      exact ⟨_, .inr result.symm⟩
  · by_cases failed : code < 0
    · simp [failed, acquire, calling, fail, done] at result
      exact ⟨_, .inr result.symm⟩
    · by_cases empty : bytes = []
      · simp [failed, empty, acquire, calling, fail, done] at result
        exact ⟨_, .inr result.symm⟩
      · cases parsed : plist.fromBytes bytes with
        | error reason =>
            simp [failed, empty, parsed, acquire, use, calling, fail, done] at result
            exact ⟨_, .inl result.symm⟩
        | ok record =>
            simp [failed, empty, parsed, acquire, use, release, calling, done] at result
            cases configured : configure tls record with
            | ok config => simp [configured, Except.mapError] at result
            | error error =>
                simp only [configured, Except.mapError, Except.error.injEq] at result
                obtain ⟨message, blamed⟩ := configure_blames record error configured
                subst result
                exact ⟨message, blamed.imp (congrArg _) (congrArg _)⟩

theorem enableSsl_blames {deviceId : String} (noNul : HasNul deviceId = false) :
    Blames (enableSsl device tls plist deviceId).result := by
  unfold enableSsl andThen
  cases built : (buildTlsConfig device tls plist deviceId).result with
  | error failure =>
      obtain ⟨message, rfl | rfl⟩ := buildTlsConfig_error noNul built
      · intro error failed
        cases failed
        exact ⟨message, .inl rfl⟩
      · intro error failed
        cases failed
        exact ⟨message, .inr rfl⟩
  | ok config =>
      intro error failed
      cases handshake : tls.handshake with
      | ok _ => simp [joined, handshake, done] at failed
      | error reason =>
          simp [joined, handshake, release, calling, done] at failed
          exact ⟨_, .inr failed.symm⟩

/-- The stream that is made says what was found, and only TLS can still fail. -/
theorem openStream_result (device : Libimobiledevice) (tls : TlsCrates) (plist : PlistCrate)
    (found : FfiConnectionResult) :
    (∃ message, (openStream device tls plist found).result = .error (.deviceConnection message)) ∨
      (openStream device tls plist found).result =
        (if found.sslEnabled then (enableSsl device tls plist found.deviceId).result
          else .ok ()).map fun _ => ⟨if found.sslEnabled then .tls else .plain, found.deviceId,
            found.deviceName, found.deviceOsVersion⟩ := by
  unfold openStream
  cases tls.setNonblocking with
  | error reason => exact .inl ⟨_, rfl⟩
  | ok _ =>
      cases tls.fromStd with
      | error reason => exact .inl ⟨_, rfl⟩
      | ok _ => cases found.sslEnabled <;> exact .inr rfl

theorem openStream_noTaskJoin {found : FfiConnectionResult}
    (noNul : HasNul found.deviceId = false) (message : String) :
    (openStream device tls plist found).result ≠ .error (.taskJoin message) := by
  intro failed
  rcases openStream_result device tls plist found with ⟨other, result⟩ | result
  · rw [result] at failed
    cases failed
  · rw [result] at failed
    cases ssl : found.sslEnabled with
    | false => simp [ssl, Except.map] at failed
    | true =>
        cases enabled : (enableSsl device tls plist found.deviceId).result with
        | ok _ => simp [ssl, enabled, Except.map] at failed
        | error error =>
            obtain ⟨blamed, rfl | rfl⟩ := enableSsl_blames noNul error enabled <;>
              simp [ssl, enabled, Except.map] at failed

/-- The device says its own id for the pair record, so only the id that was given can
make a blocking task panic. -/
theorem connectToDevice_taskJoin_iff (device : Libimobiledevice) (tls : TlsCrates)
    (plist : PlistCrate) (deviceId : Option String) (message : String) :
    (connectToDevice device tls plist deviceId).result = .error (.taskJoin message) ↔
      (∃ id, deviceId = some id ∧ '\x00' ∈ id.toList) ∧
        message = "FFI task failed: " ++ tls.joinError := by
  have nul : (∃ id, deviceId = some id ∧ '\x00' ∈ id.toList) ↔ deviceId.any HasNul = true := by
    cases deviceId <;> simp [HasNul]
  rw [nul]
  cases result : (connectToDeviceSync device deviceId).result with
  | error failure =>
      have mapped : (connectToDevice device tls plist deviceId).result =
          (joined tls "FFI task failed: " (.error failure : Except Failure ConnectedDevice)) := by
        unfold connectToDevice andThen
        rw [result]
        cases failure <;> rfl
      rw [mapped]
      rcases connectToDeviceSync_error result with ⟨panics, rfl⟩ | ⟨clean, reason, rfl⟩
      · simp [joined, panics, eq_comm]
      · simp [joined, clean]
  | ok found =>
      obtain ⟨⟨clean, _⟩, _⟩ := connectToDeviceSync_found.mp result
      rw [connectToDevice_found tls plist result, clean]
      simpa using openStream_noTaskJoin (found_noNul result) message

end IosWebkitDebugProxy
