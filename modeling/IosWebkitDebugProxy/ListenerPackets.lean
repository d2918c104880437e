import IosWebkitDebugProxy.Library.Iteration
import IosWebkitDebugProxy.ListenerCore

/-! How the listener cuts what it receives into packets and reads them
(`on_recv` and `parse_packet`). Taking more bytes than there are panics, which
again is no result. -/

namespace IosWebkitDebugProxy

open Plist Iteration

def typePlist : Nat := 8

def sliceTo (stop : Nat) (bytes : List UInt8) : Option (List UInt8) :=
  if stop ≤ bytes.length then some (bytes.take stop) else none

def sliceFrom (start : Nat) (bytes : List UInt8) : Option (List UInt8) :=
  if start ≤ bytes.length then some (bytes.drop start) else none

def drainTo (stop : Nat) (bytes : List UInt8) : Option (List UInt8 × List UInt8) :=
  if stop ≤ bytes.length then some (bytes.take stop, bytes.drop stop) else none

def readU32 : List UInt8 → Option (Nat × List UInt8)
  | first :: second :: third :: fourth :: rest =>
      some (first.toNat ||| second.toNat <<< 8 ||| third.toNat <<< 16 ||| fourth.toNat <<< 24, rest)
  | _ => none

def isContinuation (byte : UInt8) : Bool := byte &&& 0xC0 == 0x80

/-- Which second byte continues a first byte of three or of four. -/
def continuesWide (first second : UInt8) : Bool :=
  (first == 0xE0 && 0xA0 ≤ second && second ≤ 0xBF) ||
    (0xE1 ≤ first && first ≤ 0xEC && 0x80 ≤ second && second ≤ 0xBF) ||
    (first == 0xED && 0x80 ≤ second && second ≤ 0x9F) ||
    (0xEE ≤ first && first ≤ 0xEF && 0x80 ≤ second && second ≤ 0xBF)

def continuesWidest (first second : UInt8) : Bool :=
  (first == 0xF0 && 0x90 ≤ second && second ≤ 0xBF) ||
    (0xF1 ≤ first && first ≤ 0xF3 && 0x80 ≤ second && second ≤ 0xBF) ||
    (first == 0xF4 && 0x80 ≤ second && second ≤ 0x8F)

/-- How many bytes belong to a first byte that begins no character: those that
could have continued it. -/
def malformedTail (first : UInt8) : List UInt8 → Nat
  | second :: rest =>
      if continuesWide first second then 1
      else if continuesWidest first second then
        match rest with
        | third :: _ => if isContinuation third then 2 else 1
        | [] => 1
      else 0
  | [] => 0

/-- Decodes UTF-8, with a replacement character for each malformed piece. -/
def fromUtf8Lossy : List UInt8 → List Char
  | [] => []
  | first :: rest =>
      match (first :: rest).toByteArray.utf8DecodeChar? 0 with
      | some letter => letter :: fromUtf8Lossy (rest.drop (letter.utf8Size - 1))
      | none => '\uFFFD' :: fromUtf8Lossy (rest.drop (malformedTail first rest))
termination_by bytes => bytes.length
decreasing_by all_goals
  simp only [List.length_drop, List.length_cons]
  omega

namespace DeviceListenerParser

def parsePacket (plist : PlistCrate) (parser : DeviceListenerParser) (packet : List UInt8) :
    Option (DeviceListenerParser × Except Error (Option DeviceEvent)) :=
  if packet.length < 16 then some (parser, .error (.usbmuxd "Packet too short"))
  else do
    let (len, cursor) ← readU32 packet
    let (version, cursor) ← readU32 cursor
    let (ptype, cursor) ← readU32 cursor
    let (_tag, _) ← readU32 cursor
    if len ≠ packet.length then
      some (parser, .error (.usbmuxd
        ("Length mismatch: " ++ toString len ++ " != " ++ toString packet.length)))
    else if version ≠ 1 ∨ ptype ≠ typePlist then some (parser, .ok none)
    else do
      let xml ← sliceFrom 16 packet
      parser.parsePlistMessage plist (String.ofList (fromUtf8Lossy xml))

def readLength (parser : DeviceListenerParser) : Option DeviceListenerParser :=
  if !parser.hasLength && 4 ≤ parser.buffer.length then do
    let header ← sliceTo 4 parser.buffer
    let (length, _) ← readU32 header
    some { parser with bodyLength := length, hasLength := true }
  else some parser

/-- One turn of the loop of `on_recv`, over the parser and the events so far. -/
def recvTurn (plist : PlistCrate) :
    DeviceListenerParser × List DeviceEvent →
      (DeviceListenerParser × List DeviceEvent) ⊕ Option (DeviceListenerParser × List DeviceEvent)
  | (parser, events) =>
      match parser.readLength with
      | none => .inr none
      | some parser =>
          if parser.hasLength && parser.bodyLength ≤ parser.buffer.length then
            match drainTo parser.bodyLength parser.buffer with
            | none => .inr none
            | some (packet, rest) =>
                match parsePacket plist { parser with buffer := rest, hasLength := false } packet with
                | none => .inr none
                | some (next, result) => .inl (next, events ++ sentEvents result)
          else .inr (some (parser, events))

def extend (parser : DeviceListenerParser) (data : List UInt8) : DeviceListenerParser :=
  { parser with buffer := parser.buffer ++ data }

/-- The loop of `on_recv` over received data, for a number of turns. -/
def onRecv (plist : PlistCrate) (parser : DeviceListenerParser) (data : List UInt8)
    (turns : Nat) :
    (DeviceListenerParser × List DeviceEvent) ⊕ Option (DeviceListenerParser × List DeviceEvent) :=
  iterate (recvTurn plist) turns (parser.extend data, [])

/-- A call ends with this outcome: no result when it panics. -/
def Receives (plist : PlistCrate) (parser : DeviceListenerParser) (data : List UInt8) :
    Option (DeviceListenerParser × List DeviceEvent) → Prop :=
  Ends (recvTurn plist) (parser.extend data, [])

theorem receives_iff_onRecv {plist : PlistCrate} {parser : DeviceListenerParser}
    {data : List UInt8} {outcome : Option (DeviceListenerParser × List DeviceEvent)} :
    Receives plist parser data outcome ↔ ∃ turns, onRecv plist parser data turns = .inr outcome :=
  ends_iff_iterate

/-- The calls made for chunks that are read one after another. -/
inductive Feeds (plist : PlistCrate) : DeviceListenerParser → List (List UInt8) →
    Option (DeviceListenerParser × List DeviceEvent) → Prop
  | nil {parser} : Feeds plist parser [] (some (parser, []))
  | panics {parser chunk later} : Receives plist parser chunk none →
      Feeds plist parser (chunk :: later) none
  | cons {parser chunk middle events later outcome} :
      Receives plist parser chunk (some (middle, events)) → Feeds plist middle later outcome →
      Feeds plist parser (chunk :: later)
        (outcome.map fun (final, laterEvents) => (final, events ++ laterEvents))

def Reachable (plist : PlistCrate) (parser : DeviceListenerParser) : Prop :=
  ∃ chunks events, Feeds plist new chunks (some (parser, events))

end DeviceListenerParser

end IosWebkitDebugProxy
