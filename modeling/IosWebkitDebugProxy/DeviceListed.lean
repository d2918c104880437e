import IosWebkitDebugProxy.DeviceHost
import IosWebkitDebugProxy.ProxyConnections

/-! The device list and what the devices told of themselves. A device is listed with the
name and the version that it gave when it was connected to, however long ago. -/

namespace IosWebkitDebugProxy

open Transition Ownership Program ProxyState

namespace ConnectAttempt

/-- The version that the device told in the attempt, or zero. -/
def toldVersion (attempt : ConnectAttempt) : Nat :=
  ((getText attempt.device "ProductVersion").result.map resultOsVersion).getD 0

def environment (attempt : ConnectAttempt) (around : ConnectEnvironment) (writeLimit : Option Nat) :
    ConnectEnvironment :=
  { around with
    connection := attempt.program.result.toOption.map fun connected =>
      ⟨connected.deviceName, connected.deviceOsVersion, writeLimit⟩ }

end ConnectAttempt

theorem openStream_told {device : Libimobiledevice} {tls : TlsCrates} {plist : PlistCrate}
    {found : FfiConnectionResult} {connected : ConnectedDevice}
    (opened : (openStream device tls plist found).result = .ok connected) :
    connected.deviceName = found.deviceName ∧ connected.deviceOsVersion = found.deviceOsVersion := by
  rcases openStream_result device tls plist found with ⟨other, result⟩ | result
  · rw [result] at opened
    cases opened
  · rw [result] at opened
    generalize (if found.sslEnabled then (enableSsl device tls plist found.deviceId).result
      else .ok ()) = secured at opened
    cases secured <;> cases opened
    exact ⟨rfl, rfl⟩

theorem ConnectAttempt.told {attempt : ConnectAttempt} {connected : ConnectedDevice}
    (result : attempt.program.result = .ok connected) :
    connected.deviceName = toldText attempt.device "DeviceName" ∧
      connected.deviceOsVersion = attempt.toldVersion := by
  unfold program at result
  cases sync : (connectToDeviceSync attempt.device attempt.deviceId).result with
  | error failure =>
      obtain ⟨error, _, ended⟩ := connectToDevice_failed attempt.tls attempt.plist sync
      rw [ended] at result
      cases result
  | ok found =>
      rw [connectToDevice_found attempt.tls attempt.plist sync] at result
      obtain ⟨_, query⟩ := connectToDeviceSync_found.mp sync
      obtain ⟨_, _, _, rfl⟩ := (queryDevice_result found).mp query
      exact openStream_told result

namespace ProxyBridge

variable {bridge : ProxyBridge} {environment told : ConnectEnvironment} {events : List ProxyEvent}
variable {deviceId : String} {runtime : DeviceRuntime}

/-- The device was connected to last by this event, and has not gone since. -/
def LastConnected (bridge : ProxyBridge) (environment : ConnectEnvironment)
    (events : List ProxyEvent) (deviceId : String) (told : ConnectEnvironment) : Prop :=
  ∃ before after, events = before ++ .attached deviceId told :: after ∧
    deviceId ∉ (bridge.run environment before).devices ∧ ProxyEvent.detached deviceId ∉ after

def Tells (deviceId : String) (told : ConnectEnvironment) (runtime : DeviceRuntime) : Prop :=
  ∃ connection port, told.connection = some connection ∧
    runtime.deviceInfo = ⟨deviceId, connection.deviceName, connection.deviceOsVersion, port⟩

theorem Tells.handle (tells : Tells deviceId told runtime) (event : RuntimeEvent) :
    Tells deviceId told (runtime.handle event) := by
  obtain ⟨connection, port, known, shown⟩ := tells
  exact ⟨connection, port, known, (runtime.handle_deviceInfo event).trans shown⟩

theorem newRuntime_tells {port : Nat} {connection : DeviceConnection} {codec : WebInspectorCodec}
    (real : deviceId ≠ "SIMULATOR")
    (connects : connectWebInspector told deviceId = some (connection, codec)) :
    Tells deviceId told (bridge.newRuntime told deviceId port connection codec) := by
  simp only [connectWebInspector, if_neg real, Option.map_eq_some_iff, Prod.mk.injEq] at connects
  obtain ⟨given, known, rfl, _⟩ := connects
  exact ⟨given, port, known, (DeviceRuntime.SameView.send _ _).deviceInfo⟩

theorem run_tells (real : deviceId ≠ "SIMULATOR")
    (found : (bridge.run environment events).devices.lookup deviceId = some runtime) :
    ∃ told, LastConnected bridge environment events deviceId told ∧ Tells deviceId told runtime := by
  rw [run_start] at found
  obtain ⟨start, own, ⟨before, after, told, split, absent, connected, stays, _⟩, rfl⟩ :=
    run_connected found
  obtain ⟨port, connection, codec, given, rfl⟩ := connects_new connected
  refine ⟨told, ?_, run_invariant (Tells deviceId told) (newRuntime_tells real given)
    (fun _ event tells => tells.handle event) own⟩
  cases before with
  | nil =>
      cases split
      exact absurd rfl real
  | cons first before =>
      rw [List.cons_append, List.cons.injEq] at split
      obtain ⟨rfl, rfl⟩ := split
      exact ⟨before, after, rfl, absent, stays⟩

/-- A device on the list page has the name and the version that it told in the attempt
by which it was connected to last, and that attempt opened a stream. -/
theorem run_listsTold (bridge : ProxyBridge) (environment : ConnectEnvironment)
    (events : List ProxyEvent) {info : DeviceInfo}
    (listed : info ∈ (bridge.run environment events).deviceListState)
    (real : info.deviceId ≠ "SIMULATOR") :
    ∃ told, LastConnected bridge environment events info.deviceId told ∧
      ∀ attempt around writeLimit, told = ConnectAttempt.environment attempt around writeLimit →
        attempt.Opened ∧ info.deviceName = toldText attempt.device "DeviceName" ∧
          info.deviceOsVersion = attempt.toldVersion := by
  rw [run_listCurrent bridge environment events, publishedDevices] at listed
  obtain ⟨runtime, shown, rfl⟩ := List.mem_map.mp listed
  obtain ⟨deviceId, found⟩ := Table.mem_values.mp (List.mem_filter.mp shown).1
  have named := (run_published bridge environment events deviceId runtime found).named
  have same : runtime.deviceInfo.deviceId = deviceId := by simp [DeviceRuntime.deviceInfo, named]
  rw [same] at real ⊢
  obtain ⟨told, last, connection, port, known, tells⟩ := run_tells real found
  refine ⟨told, last, fun attempt around writeLimit answered => ?_⟩
  rw [tells]
  subst answered
  cases result : attempt.program.result with
  | error error => simp [ConnectAttempt.environment, result, Except.toOption] at known
  | ok connected =>
      simp [ConnectAttempt.environment, result, Except.toOption] at known
      subst known
      exact ⟨⟨connected, result⟩, ConnectAttempt.told result⟩

/-! A phone that answers everything. -/

def phoneText : String → String
  | "UniqueDeviceID" => "UDID"
  | "DeviceName" => "iPhone"
  | _ => "18.0"

def phoneDevice : Libimobiledevice where
  newWithOptions _ := 0
  handshake _ := 0
  getValue key := .ok (some (some (phoneText key).toUTF8.data.toList))
  startService _ := (0, some ⟨49153, 0⟩)
  connect _ := 0
  getFd := (0, 7)
  readPairRecord _ := (-1, none)

def workingTls : TlsCrates where
  certs pem := .ok [pem]
  privateKey pem := .ok (some pem)
  clientAuthCert _ _ := .ok ()
  handshake := .ok ()
  setNonblocking := .ok ()
  fromStd := .ok ()
  joinError := "task 1 panicked"

def phoneAttempt : ConnectAttempt :=
  ⟨phoneDevice, workingTls, ⟨fun _ => .error "no property list", fun _ => []⟩, some "UDID"⟩

def phoneEvents : List ProxyEvent :=
  [.attached "UDID" (phoneAttempt.environment phoneEnvironment none),
    .wiEvent "UDID" (.recvPlist (.dictionary
      [("__selector", .string "_rpc_reportSetup:"), ("__argument", .dictionary [])]))]

theorem run_listsTold_phone :
    ∃ told, LastConnected plainBridge idleEnvironment phoneEvents "UDID" told ∧
      ∀ attempt around writeLimit, told = ConnectAttempt.environment attempt around writeLimit →
        attempt.Opened ∧ "iPhone" = toldText attempt.device "DeviceName" ∧
          0x120000 = attempt.toldVersion := by
  have listed : (⟨"UDID", "iPhone", 0x120000, 49152⟩ : DeviceInfo) ∈
      (plainBridge.run idleEnvironment phoneEvents).deviceListState := by
    decide +kernel
  exact run_listsTold plainBridge idleEnvironment phoneEvents listed (by decide)

end ProxyBridge

end IosWebkitDebugProxy
