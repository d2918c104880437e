import Mathlib.Data.Finset.Basic
import IosWebkitDebugProxy.Library.Table
import IosWebkitDebugProxy.PlistCore

/-! The device listener (`device_listener.rs`): the parser of usbmuxd messages,
and the runs of the listener task over any number of connections. A parse has
no result where the source panics. -/

namespace IosWebkitDebugProxy

open Plist

inductive DeviceEvent where
  | attached (deviceId : String) (deviceNum : Int)
  | detached (deviceId : String) (deviceNum : Int)
  deriving DecidableEq, Repr

structure DeviceListenerParser where
  deviceNumToId : Table Nat String
  buffer : List UInt8
  hasLength : Bool
  bodyLength : Nat

def asI32 (value : Nat) : Int := (value : Int).bmod (2 ^ 32)

/-- A string is cut only between two characters, at a byte offset inside it. -/
def splitAtByte : Nat → List Char → Option (List Char × List Char)
  | 0, text => some ([], text)
  | _ + 1, [] => none
  | offset + 1, letter :: text =>
      if letter.utf8Size ≤ offset + 1 then
        (splitAtByte (offset + 1 - letter.utf8Size) text).map
          fun (front, rest) => (letter :: front, rest)
      else none

def standardSerial (serial : String) : Option String :=
  if serial.utf8ByteSize = 24 then
    (splitAtByte 8 serial.toList).map
      fun (front, rest) => String.ofList front ++ "-" ++ String.ofList rest
  else some serial

namespace DeviceListenerParser

def new : DeviceListenerParser := ⟨∅, [], false, 0⟩

def messageType (dict : Dictionary) : String :=
  ((dict.get "MessageType").bind Value.asString).getD ""

def attachedNum (props : Dictionary) : Nat :=
  ((props.get "DeviceID").bind Value.asUnsignedInteger).getD 0

def attachedId (props : Dictionary) : Option String :=
  standardSerial (((props.get "SerialNumber").bind Value.asString).getD "")

def parseResult (parser : DeviceListenerParser) (dict : Dictionary) :
    DeviceListenerParser × Except Error (Option DeviceEvent) :=
  match (dict.get "Number").bind Value.asUnsignedInteger with
  | some number =>
      if number ≠ 0 then
        (parser, .error (.usbmuxd ("Listen request failed, error code: " ++ toString number)))
      else (parser, .ok none)
  | none => (parser, .ok none)

def parseAttached (parser : DeviceListenerParser) (dict : Dictionary) :
    Option (DeviceListenerParser × Except Error (Option DeviceEvent)) :=
  match (dict.get "Properties").bind Value.asDictionary with
  | some props =>
      (attachedId props).map fun deviceId =>
        ({ parser with deviceNumToId := parser.deviceNumToId.assign (attachedNum props) deviceId },
          .ok (some (.attached deviceId (asI32 (attachedNum props)))))
  | none => some (parser, .error (.usbmuxd "Missing Properties"))

def parseDetached (parser : DeviceListenerParser) (dict : Dictionary) :
    DeviceListenerParser × Except Error (Option DeviceEvent) :=
  match (dict.get "DeviceID").bind Value.asUnsignedInteger with
  | some deviceNum =>
      match parser.deviceNumToId.lookup deviceNum with
      | some deviceId =>
          ({ parser with deviceNumToId := parser.deviceNumToId.erase deviceNum },
            .ok (some (.detached deviceId (asI32 deviceNum))))
      | none => (parser, .ok none)
  | none => (parser, .error (.usbmuxd "Missing DeviceID"))

def parseMessage (parser : DeviceListenerParser) (message : Value) :
    Option (DeviceListenerParser × Except Error (Option DeviceEvent)) :=
  match message.asDictionary with
  | none => some (parser, .error (.plist "Not a dictionary type"))
  | some dict =>
      match messageType dict with
      | "Result" => some (parser.parseResult dict)
      | "Attached" => parser.parseAttached dict
      | "Detached" => some (parser.parseDetached dict)
      | _ => some (parser, .ok none)

def parsePlistMessage (plist : PlistCrate) (parser : DeviceListenerParser) (xml : String) :
    Option (DeviceListenerParser × Except Error (Option DeviceEvent)) :=
  match plist.fromBytes xml.toUTF8.data.toList with
  | .error message => some (parser, .error (.plist ("plist parsing failed: " ++ message)))
  | .ok message => parser.parseMessage message

/-- The events sent for one message: an error is logged and sends none. -/
def sentEvents : Except Error (Option DeviceEvent) → List DeviceEvent
  | .ok (some event) => [event]
  | _ => []

def processAll (parser : DeviceListenerParser) :
    List Value → Option (DeviceListenerParser × List DeviceEvent)
  | [] => some (parser, [])
  | message :: later =>
      match parser.parseMessage message with
      | none => none
      | some (next, result) =>
          (next.processAll later).map fun (final, events) => (final, sentEvents result ++ events)

end DeviceListenerParser

/-- The events sent over connections that were lost one after another. Each
connection starts with a parser that knows no device. -/
def spawnDeviceListener : List (List Value) → Option (List DeviceEvent)
  | [] => some []
  | session :: later =>
      match DeviceListenerParser.new.processAll session, spawnDeviceListener later with
      | some (_, events), some laterEvents => some (events ++ laterEvents)
      | _, _ => none

def trackDevice (devices : Finset String) : DeviceEvent → Finset String
  | .attached deviceId _ => insert deviceId devices
  | .detached deviceId _ => devices.erase deviceId

def attachedDevices (events : List DeviceEvent) : Finset String := events.foldl trackDevice ∅

namespace DeviceListenerParser

def knownDevices (parser : DeviceListenerParser) : Finset String :=
  parser.deviceNumToId.values.toFinset

end DeviceListenerParser

end IosWebkitDebugProxy
