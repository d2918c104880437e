import Mathlib.Algebra.Group.Int.Defs
import Mathlib.Algebra.Group.Nat.Defs
import Mathlib.Data.List.Basic

/-! Errors, and the part of the property-list library that the proxy relies on.
Its reader and writer are parameters of the development. -/

namespace IosWebkitDebugProxy

inductive Error where
  | plist (message : String)
  | rpc (message : String)
  | webInspector (message : String)
  | usbmuxd (message : String)
  | channelClosed
  deriving DecidableEq, Repr

namespace Plist

inductive Value where
  | array (items : List Value)
  | dictionary (entries : List (String × Value))
  | boolean (value : Bool)
  | data (bytes : List UInt8)
  | date (nanoseconds : Int)
  | real (bits : UInt64)
  | integer (value : Int)
  | string (value : String)
  | uid (value : Nat)
  deriving Repr

abbrev Dictionary := List (String × Value)

namespace Dictionary

def new : Dictionary := []

def get (key : String) (dict : Dictionary) : Option Value := List.lookup key dict

/-- A key that is present keeps its place, a new one is added at the end. -/
def insert (key : String) (value : Value) : Dictionary → Dictionary
  | [] => [(key, value)]
  | (first, old) :: rest =>
      if first = key then (first, value) :: rest else (first, old) :: insert key value rest

end Dictionary

namespace Value

def asDictionary : Value → Option Dictionary
  | dictionary entries => some entries
  | _ => none

def asString : Value → Option String
  | string value => some value
  | _ => none

def asData : Value → Option (List UInt8)
  | data bytes => some bytes
  | _ => none

def asBoolean : Value → Option Bool
  | boolean value => some value
  | _ => none

/-- Integers are signed or unsigned 64-bit, and only the non-negative ones are given. -/
def asUnsignedInteger : Value → Option Nat
  | integer value => if 0 ≤ value ∧ value < 2 ^ 64 then some value.toNat else none
  | _ => none

end Value

end Plist

structure PlistCrate where
  fromBytes : List UInt8 → Except String Plist.Value
  toWriterBinary : Plist.Value → List UInt8

/-- Reading inverts writing on a value, which is never written as nothing. -/
structure PlistCrate.RoundTrips (plist : PlistCrate) (value : Plist.Value) : Prop where
  inverse : plist.fromBytes (plist.toWriterBinary value) = .ok value
  nonempty : plist.toWriterBinary value ≠ []

end IosWebkitDebugProxy
