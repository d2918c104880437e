import IosWebkitDebugProxy.PlistCore

/-! The packet codec of the inspector connection and its read loop
(`webinspector.rs`), over the bytes that the connection delivers until it ends. -/

namespace IosWebkitDebugProxy

open Plist

def maxRpcLen : Nat := 8096 - 500

def maxBodyLength : Nat := 2 ^ 26

inductive WiEvent where
  | recvPlist (value : Value)

structure WebInspectorCodec where
  isSim : Bool
  partialsSupported : Bool
  partialBuffer : List UInt8
  deriving DecidableEq, Repr

def plistToBin (plist : PlistCrate) (value : Value) : List UInt8 := plist.toWriterBinary value

namespace WebInspectorCodec

def new (isSim partialsSupported : Bool) : WebInspectorCodec := ⟨isSim, partialsSupported, []⟩

def buildPacket (data : List UInt8) : List UInt8 :=
  let dataLen := data.length
  UInt8.ofNat ((dataLen >>> 24) &&& 0xFF) :: UInt8.ofNat ((dataLen >>> 16) &&& 0xFF) ::
    UInt8.ofNat ((dataLen >>> 8) &&& 0xFF) :: UInt8.ofNat (dataLen &&& 0xFF) :: data

def wrapChunk (key : String) (chunk : List UInt8) : Value :=
  .dictionary (Dictionary.new.insert key (.data chunk))

def encodeFragments (plist : PlistCrate) (rpcBin : List UInt8) (offset : Nat) :
    List (List UInt8) :=
  if maxRpcLen < rpcBin.length - offset then
    let chunk := (rpcBin.drop offset).take maxRpcLen
    buildPacket (plist.toWriterBinary (wrapChunk "WIRPartialMessageKey" chunk)) ::
      encodeFragments plist rpcBin (offset + maxRpcLen)
  else
    [buildPacket (plist.toWriterBinary (wrapChunk "WIRFinalMessageKey" (rpcBin.drop offset)))]
termination_by rpcBin.length - offset
decreasing_by
  have positive : 0 < maxRpcLen := by decide
  omega

def encodePlist (plist : PlistCrate) (codec : WebInspectorCodec) (rpcBin : List UInt8) :
    List (List UInt8) :=
  if !codec.partialsSupported then
    -- A real device is sent an empty packet after each message.
    if !codec.isSim then [buildPacket rpcBin, buildPacket []] else [buildPacket rpcBin]
  else encodeFragments plist rpcBin 0

def parseLength (buf : List UInt8) : Except Error Nat :=
  match buf with
  | first :: second :: third :: fourth :: _ =>
      let length := (first.toNat <<< 24) ||| (second.toNat <<< 16) ||| (third.toNat <<< 8) |||
        fourth.toNat
      if 0 < maxBodyLength ∧ maxBodyLength < length then
        .error (.webInspector ("Invalid packet header: length " ++ toString length ++
          " exceeds maximum"))
      else .ok length
  | _ => .error (.webInspector "Insufficient data to parse length")

def readPlist (plist : PlistCrate) (context : String) (data : List UInt8) : Except Error Value :=
  match plist.fromBytes data with
  | .ok value => .ok value
  | .error message => .error (.plist (context ++ message))

def unwrapChunk (wiDict : Dictionary) : Except Error (List UInt8 × Bool) :=
  match wiDict.get "WIRFinalMessageKey" with
  | some rpc =>
      match rpc.asData with
      | some data => .ok (data, false)
      | none => .error (.webInspector "WIRFinalMessageKey is not data type")
  | none =>
      match wiDict.get "WIRPartialMessageKey" with
      | some rpc =>
          match rpc.asData with
          | some data => .ok (data, true)
          | none => .error (.webInspector "WIRPartialMessageKey is not data type")
      | none =>
          .error (.webInspector "Missing WIRFinalMessageKey or WIRPartialMessageKey")

/-- Appends a fragment to the buffer. The last one completes a message and
leaves the buffer empty, whether or not the message can be read. -/
def acceptChunk (plist : PlistCrate) (codec : WebInspectorCodec) (rpcData : List UInt8)
    (isPartial : Bool) : WebInspectorCodec × Except Error (Option Value) :=
  if isPartial then
    ({ codec with partialBuffer := codec.partialBuffer ++ rpcData }, .ok none)
  else
    let fullData := if codec.partialBuffer.isEmpty then rpcData else codec.partialBuffer ++ rpcData
    ({ codec with partialBuffer := [] },
      (readPlist plist "RPC plist parsing failed: " fullData).map some)

def parsePlist (plist : PlistCrate) (codec : WebInspectorCodec) (data : List UInt8) :
    WebInspectorCodec × Except Error (Option Value) :=
  match readPlist plist "plist parsing failed: " data with
  | .error error => (codec, .error error)
  | .ok value =>
      if !codec.partialsSupported then (codec, .ok (some value))
      else
        match value.asDictionary with
        | none => (codec, .error (.webInspector "Outer wrapper is not a dictionary"))
        | some wiDict =>
            match unwrapChunk wiDict with
            | .error error => (codec, .error error)
            | .ok (rpcData, isPartial) => codec.acceptChunk plist rpcData isPartial

def decodeBody (plist : PlistCrate) (codec : WebInspectorCodec) (body : List UInt8) :
    WebInspectorCodec × Except Error (Option WiEvent) :=
  match codec.parsePlist plist body with
  | (after, .ok (some rpcDict)) => (after, .ok (some (.recvPlist rpcDict)))
  | (after, .ok none) => (after, .ok none)
  | (after, .error error) => (after, .error error)

end WebInspectorCodec

open WebInspectorCodec

def readExact (count : Nat) (stream : List UInt8) : Option (List UInt8 × List UInt8) :=
  if count ≤ stream.length then some (stream.take count, stream.drop count) else none

theorem readExact_length {count : Nat} {stream front rest : List UInt8}
    (taken : readExact count stream = some (front, rest)) :
    stream.length = count + rest.length := by
  unfold readExact at taken
  split at taken
  · cases taken
    simp only [List.length_drop]
    omega
  · cases taken

/-- The events sent by the read loop, each with the codec as it is then, and
the error that ends the loop. A packet that cannot be decoded is passed over. -/
def wiReadLoop (plist : PlistCrate) (codec : WebInspectorCodec) (stream : List UInt8) :
    List (WiEvent × WebInspectorCodec) × Error :=
  match _header : readExact 4 stream with
  | none => ([], .webInspector "Failed to read length header: early eof")
  | some (lenBuf, afterHeader) =>
      match parseLength lenBuf with
      | .error error => ([], error)
      | .ok bodyLength =>
          if bodyLength = 0 then wiReadLoop plist codec afterHeader
          else
            match _content : readExact bodyLength afterHeader with
            | none => ([], .webInspector "Failed to read message body: early eof")
            | some (body, rest) =>
                let (after, decoded) := codec.decodeBody plist body
                let (events, error) := wiReadLoop plist after rest
                match decoded with
                | .ok (some event) => ((event, after) :: events, error)
                | _ => (events, error)
termination_by stream.length
decreasing_by
  · have consumed := readExact_length _header
    omega
  · have consumed := readExact_length _header
    have taken := readExact_length _content
    omega

end IosWebkitDebugProxy
