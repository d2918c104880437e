import IosWebkitDebugProxy.Library.Ownership
import IosWebkitDebugProxy.DeviceVersion
import IosWebkitDebugProxy.ListenerPackets

/-! Connecting to a device (`idevice_ext.rs`): the calls into libimobiledevice with the
handles that they give out and take back, the TLS configuration from the pair record,
and the stream that comes of it. What the foreign libraries answer is a parameter. -/

namespace IosWebkitDebugProxy

open Plist Ownership Program

inductive ConnectError where
  | plist (message : String)
  | deviceConnection (message : String)
  | tls (message : String)
  | taskJoin (message : String)
  deriving DecidableEq, Repr

/-- A blocking task ends with an error, or it panics. -/
inductive Failure where
  | error (error : ConnectError)
  | panic
  deriving DecidableEq, Repr

/-- `node` and `text` are the answer for a key and the string copied out of it, and
`socket` is what the connection has open. -/
inductive Handle where
  | phone
  | client
  | node (key : String)
  | text (key : String)
  | service
  | connection
  | socket
  | record
  deriving DecidableEq, Repr

structure LockdownServiceDescriptor where
  port : Nat
  sslEnabled : Nat

/-- The answers of libimobiledevice and libusbmuxd. A code of zero is success. A value
that is got is no string, or one whose bytes end before the first zero byte. -/
structure Libimobiledevice where
  newWithOptions : Option String → Int
  handshake : String → Int
  getValue : String → Except Int (Option (Option (List UInt8)))
  startService : String → Int × Option LockdownServiceDescriptor
  connect : Nat → Int
  getFd : Int × Int
  readPairRecord : String → Int × Option (List UInt8)

/-- The TLS libraries: certificates and keys are read as bytes, and the configuration,
the handshake and the socket options can fail. -/
structure TlsCrates where
  certs : List UInt8 → Except String (List (List UInt8))
  privateKey : List UInt8 → Except String (Option (List UInt8))
  clientAuthCert : List (List UInt8) → List UInt8 → Except String Unit
  handshake : Except String Unit
  setNonblocking : Except String Unit
  fromStd : Except String Unit
  joinError : String

structure FfiConnectionResult where
  fd : Int
  deviceId : String
  deviceName : String
  deviceOsVersion : Nat
  sslEnabled : Bool
  deriving DecidableEq, Repr

inductive DeviceStream where
  | plain
  | tls
  deriving DecidableEq, Repr

structure ConnectedDevice where
  stream : DeviceStream
  deviceId : String
  deviceName : String
  deviceOsVersion : Nat
  deriving DecidableEq, Repr

def lockdowndErrorString (code : Int) : String :=
  if code = -17 then "Please enter the passcode on the device and try again"
  else if code = -18 then "Please accept the trust dialog on the device screen and try again"
  else if code = -19 then "User denied the trust dialog, please re-plug the device and try again"
  else if code = -6 ∨ code = -15 then
    "Device is not paired with this host, please re-plug the device and try again"
  else "Cannot connect to lockdownd, error code: " ++ toString code

/-- `CString::new` refuses a text with a zero character in it. -/
def HasNul (text : String) : Bool := text.toList.contains '\x00'

def fromCStr (bytes : List UInt8) : String := String.ofList (fromUtf8Lossy bytes)

variable {Result : Type} (device : Libimobiledevice) (tls : TlsCrates) (plist : PlistCrate)

/-- One value of the device. The copied string and the answer are freed again. -/
def getText (key : String) : Program Handle (Option String) :=
  use .client (match device.getValue key with
    | .ok (some value) =>
        acquire (.node key) (use (.node key) (match value with
          | some bytes =>
              acquire (.text key) (use (.text key) (release (.text key)
                (release (.node key) (done (some (fromCStr (bytes.takeWhile (· ≠ 0))))))))
          | none => release (.node key) (done none)))
    | _ => done none)

def fail (error : ConnectError) : Program Handle (Except Failure Result) :=
  done (.error (.error error))

/-- The descriptor is read, and the connection made and taken apart for its socket. -/
def connectService (descriptor : LockdownServiceDescriptor) (deviceId deviceName : String)
    (version : Nat) : Program Handle (Except Failure FfiConnectionResult) :=
  use .service (use .phone (
    if device.connect descriptor.port ≠ 0 then
      release .client (release .phone (fail (.deviceConnection "idevice_connect failed")))
    else
      acquire .connection (acquire .socket (release .client (use .connection (
        if device.getFd.1 ≠ 0 then
          release .phone (fail (.deviceConnection "Cannot get connection file descriptor"))
        else
          release .connection (release .phone (done (.ok
            ⟨device.getFd.2, deviceId, deviceName, version, descriptor.sslEnabled = 1⟩)))))))))

def serviceName : String := "com.apple.webinspector"

def noService (code : Int) : ConnectError :=
  .deviceConnection
    ("Cannot start com.apple.webinspector service, error code: " ++ toString code)

def startService (deviceId deviceName : String) (version : Nat) :
    Program Handle (Except Failure FfiConnectionResult) :=
  use .client (match device.startService serviceName with
    | (code, none) => release .client (release .phone (fail (noService code)))
    | (code, some descriptor) =>
        acquire .service (
          if code ≠ 0 then release .client (release .phone (fail (noService code)))
          else use .service (
            if descriptor.port = 0 then release .client (release .phone (fail (noService code)))
            else connectService device descriptor deviceId deviceName version)))

def queryDevice : Program Handle (Except Failure FfiConnectionResult) :=
  (getText device "UniqueDeviceID").andThen fun deviceId =>
    (getText device "DeviceName").andThen fun deviceName =>
      (getText device "ProductVersion").andThen fun version =>
        startService device (deviceId.getD "") (deviceName.getD "")
          ((version.map resultOsVersion).getD 0)

def connectToDeviceSync (deviceId : Option String) :
    Program Handle (Except Failure FfiConnectionResult) :=
  if deviceId.any HasNul then done (.error .panic)
  else if device.newWithOptions deviceId ≠ 0 then
    fail (.deviceConnection "Device not found, please make sure it is connected")
  else acquire .phone (use .phone (
    let ldRet := device.handshake "ios_webkit_debug_proxy"
    if ldRet ≠ 0 then release .phone (fail (.deviceConnection (lockdowndErrorString ldRet)))
    else acquire .client (queryDevice device)))

def okOrFail (error : ConnectError) : Option Result → Except ConnectError Result
  | some value => .ok value
  | none => .error error

/-- What the pair record gives: the chain of certificates and the key. -/
def readIdentity (record : Value) : Except ConnectError (List (List UInt8) × List UInt8) := do
  let dict ← okOrFail (.plist "Pair record is not a dictionary") record.asDictionary
  let certData ← okOrFail (.tls "Missing RootCertificate")
    ((dict.get "RootCertificate").bind Value.asData)
  let keyData ← okOrFail (.tls "Missing RootPrivateKey")
    ((dict.get "RootPrivateKey").bind Value.asData)
  let chain ← (tls.certs certData).mapError fun reason =>
    .tls ("Certificate parsing failed: " ++ reason)
  if chain = [] then .error (.tls "No valid certificate found")
  else do
    let found ← (tls.privateKey keyData).mapError fun reason =>
      .tls ("Private key parsing failed: " ++ reason)
    let key ← okOrFail (.tls "No valid private key found") found
    .ok (chain, key)

def configure (record : Value) : Except ConnectError Unit := do
  let (chain, key) ← readIdentity tls record
  (tls.clientAuthCert chain key).mapError fun reason =>
    .tls ("rustls configuration failed: " ++ reason)

/-- The pair record is freed only when it could be parsed. -/
def buildTlsConfig (deviceId : String) : Program Handle (Except Failure Unit) :=
  if HasNul deviceId then done (.error .panic)
  else match device.readPairRecord deviceId with
    | (code, none) =>
        if code < 0 then fail (.tls "Cannot read pair record")
        else fail (.tls "Pair record is empty")
    | (code, some bytes) =>
        acquire .record (
          if code < 0 then fail (.tls "Cannot read pair record")
          else if bytes = [] then fail (.tls "Pair record is empty")
          else use .record (match plist.fromBytes bytes with
            | .error reason => fail (.plist ("Pair record parsing failed: " ++ reason))
            | .ok record => release .record (done ((configure tls record).mapError .error))))

/-- A panic in a blocking task is an error of the task that waits for it. -/
def joined (task : String) (result : Except Failure Result) : Except ConnectError Result :=
  match result with
  | .ok value => .ok value
  | .error (.error error) => .error error
  | .error .panic => .error (.taskJoin (task ++ tls.joinError))

/-- With any error the stream is dropped, and its socket is closed. -/
def enableSsl (deviceId : String) : Program Handle (Except ConnectError Unit) :=
  (buildTlsConfig device tls plist deviceId).andThen fun result =>
    match joined tls "TLS config task failed: " result with
    | .error error => release .socket (done (.error error))
    | .ok () =>
        match tls.handshake with
        | .ok () => done (.ok ())
        | .error reason => release .socket (done (.error (.tls ("TLS handshake failed: " ++ reason))))

def openStream (found : FfiConnectionResult) : Program Handle (Except ConnectError ConnectedDevice) :=
  let connected (stream : DeviceStream) : ConnectedDevice :=
    ⟨stream, found.deviceId, found.deviceName, found.deviceOsVersion⟩
  use .socket (match tls.setNonblocking with
    | .error reason => release .socket
        (done (.error (.deviceConnection ("Failed to set non-blocking: " ++ reason))))
    | .ok () =>
        match tls.fromStd with
        | .error reason => release .socket
            (done (.error (.deviceConnection ("Failed to convert to tokio TcpStream: " ++ reason))))
        | .ok () =>
            if found.sslEnabled then
              (enableSsl device tls plist found.deviceId).andThen fun result =>
                done (result.map fun _ => connected .tls)
            else done (.ok (connected .plain)))

def connectToDevice (deviceId : Option String) :
    Program Handle (Except ConnectError ConnectedDevice) :=
  (connectToDeviceSync device deviceId).andThen fun result =>
    match joined tls "FFI task failed: " result with
    | .error error => done (.error error)
    | .ok found => openStream device tls plist found

end IosWebkitDebugProxy
