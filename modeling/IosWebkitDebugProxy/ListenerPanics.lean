import IosWebkitDebugProxy.Library.Bytes
import IosWebkitDebugProxy.ListenerAgreement
import IosWebkitDebugProxy.ListenerProgress

/-! When a call of `on_recv` panics. Of all that it slices, drains and reads,
only the serial number of an attached device can be cut out of place. -/

namespace IosWebkitDebugProxy

open Plist Iteration

namespace DeviceListenerParser

variable {plist : PlistCrate} {parser : DeviceListenerParser}

/-- A call panics exactly when a packet that it reads attaches a device whose
serial number has 24 bytes and a character across the eighth. -/
theorem onRecv_not_panics_iff (reachable : Reachable plist parser) (data : List UInt8) :
    ¬Receives plist parser data none ↔
      ∀ packet ∈ packetHeader.frames (parser.buffer ++ data), ¬Unsplittable plist packet := by
  rw [Receives, panics_iff (reachable.framed.extend data)]
  simp [extend]

end DeviceListenerParser

theorem fromUtf8Lossy_encode (text : List Char) :
    fromUtf8Lossy text.utf8Encode.data.toList = text := by
  induction text with
  | nil => simp [fromUtf8Lossy]
  | cons letter text ih =>
      have bytes : (letter :: text).utf8Encode.data.toList =
          String.utf8EncodeChar letter ++ text.utf8Encode.data.toList := by
        simp [List.utf8Encode]
      have long : (String.utf8EncodeChar letter).length = letter.utf8Size :=
        String.length_utf8EncodeChar letter
      have front : (String.utf8EncodeChar letter ++
          text.utf8Encode.data.toList).toByteArray.utf8DecodeChar? 0 = some letter := by
        rw [List.toByteArray_append]
        exact ByteArray.utf8DecodeChar?_utf8EncodeChar_append
      rw [bytes]
      cases encoded : String.utf8EncodeChar letter with
      | nil => simp at encoded
      | cons first more =>
          rw [encoded] at front long
          rw [List.cons_append] at front ⊢
          rw [fromUtf8Lossy, front]
          simp only [List.length_cons] at long
          have width : letter.utf8Size - 1 = more.length := by omega
          simp only [width, List.drop_left, ih]

def writeU32 (number : Nat) : List UInt8 :=
  [UInt8.ofNat (number &&& 0xFF), UInt8.ofNat ((number >>> 8) &&& 0xFF),
    UInt8.ofNat ((number >>> 16) &&& 0xFF), UInt8.ofNat ((number >>> 24) &&& 0xFF)]

theorem readU32_writeU32 {number : Nat} (bound : number < 2 ^ 32) (rest : List UInt8) :
    readU32 (writeU32 number ++ rest) = some (number, rest) := by
  have reverse (first second third fourth : Nat) :
      first ||| second ||| third ||| fourth = fourth ||| third ||| second ||| first := by ac_rfl
  unfold readU32 writeU32
  simp only [List.cons_append]
  rw [reverse, Bytes.fourBytes_value bound]
  rfl

def plistPacket (document : String) : List UInt8 :=
  writeU32 (16 + document.utf8ByteSize) ++ (writeU32 1 ++ (writeU32 typePlist ++ (writeU32 0 ++
    document.toUTF8.data.toList)))

theorem plistPacket_length (document : String) :
    (plistPacket document).length = 16 + document.utf8ByteSize := by
  simp [plistPacket, writeU32]
  omega

namespace DeviceListenerParser

theorem declaredLength_plistPacket {document : String}
    (bound : 16 + document.utf8ByteSize < 2 ^ 32) :
    declaredLength (plistPacket document) = some (plistPacket document).length := by
  rw [plistPacket_length, declaredLength, plistPacket, readU32_writeU32 bound]
  rfl

theorem packetMessage_plistPacket (plist : PlistCrate) {document : String}
    (bound : 16 + document.utf8ByteSize < 2 ^ 32) :
    packetMessage plist (plistPacket document) =
      (plist.fromBytes document.toUTF8.data.toList).toOption := by
  have long : ¬(plistPacket document).length < 16 := by
    rw [plistPacket_length]
    omega
  have body : (plistPacket document).drop 16 = document.toUTF8.data.toList := by
    simp [plistPacket, writeU32]
  have text : String.ofList (fromUtf8Lossy document.toUTF8.data.toList) = document := by
    have decoded := fromUtf8Lossy_encode document.toList
    rw [String.utf8Encode_toList] at decoded
    rw [String.toUTF8_eq_toByteArray, decoded, String.ofList_toList]
  unfold packetMessage
  rw [if_neg long, body, text, plistPacket_length]
  simp [plistPacket, readU32_writeU32 bound, readU32_writeU32, typePlist]

theorem split_plistPackets (documents : List String)
    (bound : ∀ document ∈ documents, 16 + document.utf8ByteSize < 2 ^ 32) (rest : List UInt8)
    (incomplete : packetHeader.nextFrame rest = none) :
    packetHeader.split ((documents.map plistPacket).flatten ++ rest) =
      (documents.map plistPacket, rest) := by
  refine Header.split_flatten ?_ incomplete
  intro packet member
  obtain ⟨document, inside, rfl⟩ := List.mem_map.mp member
  exact ⟨List.cons_ne_nil _ _, declaredLength_plistPacket (bound document inside)⟩

def attachedDocument (serial : String) : String :=
  "<plist version=\"1.0\"><dict><key>MessageType</key><string>Attached</string>" ++
    "<key>DeviceID</key><integer>3</integer><key>Properties</key><dict><key>DeviceID</key>" ++
    "<integer>3</integer><key>SerialNumber</key><string>" ++ serial ++
    "</string></dict></dict></plist>"

def knowsDevice (serial : String) : PlistCrate :=
  singleDocument (attachedDocument serial) (attachedMessage 3 serial)

theorem frames_attachedDocument {serial : String}
    (bound : 16 + (attachedDocument serial).utf8ByteSize < 2 ^ 32) :
    packetHeader.frames (plistPacket (attachedDocument serial)) =
      [plistPacket (attachedDocument serial)] := by
  have cut := split_plistPackets [attachedDocument serial]
    (by simpa using bound) [] rfl
  simp only [List.map_cons, List.map_nil, List.flatten_cons, List.flatten_nil,
    List.append_nil] at cut
  rw [Header.frames, cut]

theorem unsplittable_attachedDocument {serial : String}
    (bound : 16 + (attachedDocument serial).utf8ByteSize < 2 ^ 32) :
    Unsplittable (knowsDevice serial) (plistPacket (attachedDocument serial)) ↔
      CrossesDash serial := by
  have message : packetMessage (knowsDevice serial) (plistPacket (attachedDocument serial)) =
      some (attachedMessage 3 serial) := by
    rw [packetMessage_plistPacket _ bound]
    simp [knowsDevice, singleDocument, Except.toOption]
  have reported : attachedSerial (attachedMessage 3 serial) = some serial := rfl
  unfold Unsplittable
  rw [message]
  simp [reported]

def plainSerial : String := "00008030001A2B3C4D5E802E"

def crossingSerial : String := "0000803é001A2B3C4D5E802"

def plainPacket : List UInt8 := plistPacket (attachedDocument plainSerial)

def crossingPacket : List UInt8 := plistPacket (attachedDocument crossingSerial)

theorem new_buffer_append (data : List UInt8) : new.buffer ++ data = data := List.nil_append data

theorem sampleDocument_bounds :
    16 + (attachedDocument plainSerial).utf8ByteSize < 2 ^ 32 ∧
      16 + (attachedDocument crossingSerial).utf8ByteSize < 2 ^ 32 := by
  decide +kernel

theorem onRecv_not_panics_iff_plain :
    ¬Receives (knowsDevice plainSerial) new plainPacket none ↔
      ∀ packet ∈ packetHeader.frames (new.buffer ++ plainPacket),
        ¬Unsplittable (knowsDevice plainSerial) packet :=
  onRecv_not_panics_iff (new_reachable _) _

/-- A serial number of 24 bytes whose eighth byte is inside a character. -/
theorem onRecv_panics :
    ¬∀ plist parser data, Reachable plist parser → ¬Receives plist parser data none := by
  intro safe
  have crosses : CrossesDash crossingSerial := standardSerial_eq_none.mp (by decide)
  have runs := safe (knowsDevice crossingSerial) new crossingPacket (new_reachable _)
  refine (onRecv_not_panics_iff (new_reachable _) _).mp runs crossingPacket ?_
    ((unsplittable_attachedDocument sampleDocument_bounds.2).mpr crosses)
  rw [new_buffer_append, crossingPacket, frames_attachedDocument sampleDocument_bounds.2]
  exact List.mem_singleton_self _

end DeviceListenerParser

end IosWebkitDebugProxy
