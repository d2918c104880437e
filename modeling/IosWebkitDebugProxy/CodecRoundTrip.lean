import IosWebkitDebugProxy.CodecCore
import IosWebkitDebugProxy.Library.Bytes

/-! A stream of encoded messages decodes to the same messages in order, whatever
their lengths. One packet is read at a time, one fragment extends the buffer,
and one message leaves the codec as it was before it. -/

namespace IosWebkitDebugProxy

open Plist WebInspectorCodec

theorem readExact_append {front : List UInt8} {count : Nat} (width : front.length = count)
    (rest : List UInt8) :
    readExact count (front ++ rest) = some (front, rest) := by
  subst width
  simp [readExact]

theorem buildPacket_length (data : List UInt8) : (buildPacket data).length = data.length + 4 := rfl

theorem buildPacket_header (data : List UInt8) (bound : data.length ≤ maxBodyLength) :
    ∃ header, header.length = 4 ∧ buildPacket data = header ++ data ∧
      parseLength header = .ok data.length := by
  refine ⟨[_, _, _, _], rfl, rfl, ?_⟩
  have small : data.length < 2 ^ 32 := by
    unfold maxBodyLength at bound
    omega
  simp only [parseLength, Bytes.fourBytes_value small]
  rw [if_neg (by omega)]

theorem wiReadLoop_empty_packet (plist : PlistCrate) (codec : WebInspectorCodec)
    (rest : List UInt8) :
    wiReadLoop plist codec (buildPacket [] ++ rest) = wiReadLoop plist codec rest := by
  obtain ⟨header, width, shape, value⟩ := buildPacket_header [] (Nat.zero_le _)
  rw [shape, List.append_nil, wiReadLoop]
  have front := readExact_append width rest
  split
  · rename_i missing
    rw [front] at missing
    cases missing
  · rename_i lenBuf afterHeader taken
    rw [front] at taken
    cases taken
    simp [value]

theorem wiReadLoop_packet (plist : PlistCrate) (codec after : WebInspectorCodec)
    {body : List UInt8} (rest : List UInt8) {decoded : Option WiEvent}
    (nonempty : body ≠ []) (bound : body.length ≤ maxBodyLength)
    (decodes : codec.decodeBody plist body = (after, .ok decoded)) :
    wiReadLoop plist codec (buildPacket body ++ rest) =
      ((decoded.map fun event => (event, after)).toList ++ (wiReadLoop plist after rest).1,
        (wiReadLoop plist after rest).2) := by
  obtain ⟨header, width, shape, value⟩ := buildPacket_header body bound
  have positive : body.length ≠ 0 := by simpa using nonempty
  rw [shape, List.append_assoc, wiReadLoop]
  have front := readExact_append width (body ++ rest)
  have content := readExact_append (rfl : body.length = body.length) rest
  split
  · rename_i missing
    rw [front] at missing
    cases missing
  · rename_i lenBuf afterHeader taken
    rw [front] at taken
    cases taken
    simp only [value, positive, if_false]
    split
    · rename_i missing
      rw [content] at missing
      cases missing
    · rename_i found remaining taken
      rw [content] at taken
      cases taken
      cases decoded <;> simp [decodes]

def fragmentKeys : List String := ["WIRPartialMessageKey", "WIRFinalMessageKey"]

theorem partialKey : "WIRPartialMessageKey" ∈ fragmentKeys := List.mem_cons_self

theorem finalKey : "WIRFinalMessageKey" ∈ fragmentKeys := by simp [fragmentKeys]

theorem readPlist_written {plist : PlistCrate} {value : Value} (context : String)
    (lawful : plist.RoundTrips value) :
    readPlist plist context (plist.toWriterBinary value) = .ok value := by
  simp [readPlist, lawful.inverse]

theorem decodeBody_wrapper {plist : PlistCrate} {codec : WebInspectorCodec} {key : String}
    {chunk : List UInt8} {isPartial : Bool} (fragmented : codec.partialsSupported = true)
    (lawful : plist.RoundTrips (wrapChunk key chunk))
    (unwraps : unwrapChunk [(key, .data chunk)] = .ok (chunk, isPartial)) :
    codec.decodeBody plist (plist.toWriterBinary (wrapChunk key chunk)) =
      ((codec.acceptChunk plist chunk isPartial).1,
        (codec.acceptChunk plist chunk isPartial).2.map fun value => value.map .recvPlist) := by
  have parsed : codec.parsePlist plist (plist.toWriterBinary (wrapChunk key chunk)) =
      codec.acceptChunk plist chunk isPartial := by
    rw [parsePlist, readPlist_written _ lawful]
    simp [fragmented, wrapChunk, Value.asDictionary, Dictionary.insert, Dictionary.new, unwraps]
  rw [decodeBody, parsed]
  obtain ⟨after, result⟩ := codec.acceptChunk plist chunk isPartial
  rcases result with error | (_ | value) <;> rfl

theorem wiReadLoop_fragments (plist : PlistCrate) (isSim : Bool) {message : Value}
    (rest : List UInt8) (lawful : plist.RoundTrips message)
    (wrappers : ∀ key ∈ fragmentKeys, ∀ chunk, plist.RoundTrips (wrapChunk key chunk)) (offset : Nat)
    (inside : offset ≤ (plistToBin plist message).length)
    (bounds : ∀ packet ∈ encodeFragments plist (plistToBin plist message) offset,
      packet.length ≤ maxBodyLength + 4) :
    wiReadLoop plist ⟨isSim, true, (plistToBin plist message).take offset⟩
        ((encodeFragments plist (plistToBin plist message) offset).flatten ++ rest) =
      ((.recvPlist message, .new isSim true) :: (wiReadLoop plist (.new isSim true) rest).1,
        (wiReadLoop plist (.new isSim true) rest).2) := by
  induction remaining : (plistToBin plist message).length - offset
    using Nat.strongRecOn generalizing offset with
  | ind remaining ih =>
      let rpcBin := plistToBin plist message
      rw [encodeFragments] at bounds ⊢
      by_cases more : maxRpcLen < rpcBin.length - offset
      · simp only [rpcBin] at more
        simp only [more, if_true] at bounds ⊢
        let chunk := (rpcBin.drop offset).take maxRpcLen
        have positive : 0 < maxRpcLen := by decide
        have extended : rpcBin.take offset ++ chunk = rpcBin.take (offset + maxRpcLen) :=
          List.take_add.symm
        have decoded : decodeBody plist ⟨isSim, true, rpcBin.take offset⟩
            (plist.toWriterBinary (wrapChunk "WIRPartialMessageKey" chunk)) =
              (⟨isSim, true, rpcBin.take (offset + maxRpcLen)⟩, .ok none) := by
          rw [decodeBody_wrapper rfl (wrappers _ partialKey _) rfl]
          simp only [acceptChunk, if_true, extended]
          rfl
        rw [List.flatten_cons, List.append_assoc,
          wiReadLoop_packet plist _ _ _ (wrappers _ partialKey _).nonempty
            (by simpa [buildPacket_length] using bounds _ List.mem_cons_self) decoded]
        have next := ih _ (by omega) (offset + maxRpcLen) (by omega)
          (fun packet member => bounds packet (List.mem_cons_of_mem _ member)) rfl
        rw [next]
        rfl
      · simp only [rpcBin] at more
        simp only [more, if_false, List.mem_singleton, forall_eq] at bounds ⊢
        have whole : rpcBin.take offset ++ rpcBin.drop offset = rpcBin :=
          List.take_append_drop _ _
        have decoded : decodeBody plist ⟨isSim, true, rpcBin.take offset⟩
            (plist.toWriterBinary (wrapChunk "WIRFinalMessageKey" (rpcBin.drop offset))) =
              (.new isSim true, .ok (some (.recvPlist message))) := by
          rw [decodeBody_wrapper rfl (wrappers _ finalKey _) rfl]
          have full : (if (rpcBin.take offset).isEmpty then rpcBin.drop offset
              else rpcBin.take offset ++ rpcBin.drop offset) = rpcBin := by
            split
            · rename_i none
              rw [List.isEmpty_iff] at none
              rwa [none, List.nil_append] at whole
            · exact whole
          simp only [acceptChunk, Bool.false_eq_true, if_false, full]
          simp only [rpcBin, plistToBin, readPlist_written _ lawful]
          rfl
        rw [List.flatten_cons, List.flatten_nil, List.append_nil,
          wiReadLoop_packet plist _ _ _ (wrappers _ finalKey _).nonempty
            (by simpa [buildPacket_length] using bounds) decoded]
        rfl

theorem wiReadLoop_message (plist : PlistCrate) (isSim partialsSupported : Bool) {message : Value}
    (rest : List UInt8) (lawful : plist.RoundTrips message)
    (wrappers : ∀ key ∈ fragmentKeys, ∀ chunk, plist.RoundTrips (wrapChunk key chunk))
    (bounds : ∀ packet ∈ encodePlist plist (.new isSim partialsSupported)
      (plistToBin plist message), packet.length ≤ maxBodyLength + 4) :
    wiReadLoop plist (.new isSim partialsSupported)
        ((encodePlist plist (.new isSim partialsSupported) (plistToBin plist message)).flatten ++
          rest) =
      ((.recvPlist message, .new isSim partialsSupported) ::
          (wiReadLoop plist (.new isSim partialsSupported) rest).1,
        (wiReadLoop plist (.new isSim partialsSupported) rest).2) := by
  cases partialsSupported with
  | true =>
      exact wiReadLoop_fragments plist isSim rest lawful wrappers 0 (Nat.zero_le _) bounds
  | false =>
      have decoded : decodeBody plist (.new isSim false) (plistToBin plist message) =
          (.new isSim false, .ok (some (.recvPlist message))) := by
        simp [decodeBody, parsePlist, plistToBin, readPlist_written _ lawful, new]
      have bound : (plistToBin plist message).length ≤ maxBodyLength := by
        have first := bounds (buildPacket (plistToBin plist message))
          (by cases isSim <;> simp [encodePlist, new])
        simpa [buildPacket_length] using first
      have nonempty : plistToBin plist message ≠ [] := lawful.nonempty
      cases isSim with
      | true =>
          have packets : (encodePlist plist (.new true false) (plistToBin plist message)).flatten ++
              rest = buildPacket (plistToBin plist message) ++ rest := by
            simp [encodePlist, new]
          rw [packets, wiReadLoop_packet plist _ _ _ nonempty bound decoded]
          rfl
      | false =>
          have packets : (encodePlist plist (.new false false) (plistToBin plist message)).flatten ++
              rest = buildPacket (plistToBin plist message) ++ (buildPacket [] ++ rest) := by
            simp [encodePlist, new]
          rw [packets, wiReadLoop_packet plist _ _ _ nonempty bound decoded,
            wiReadLoop_empty_packet]
          rfl

/-- The packets of any messages, one message after another, are read back as
exactly these messages, and no fragment is left over after any of them. -/
theorem wiReadLoop_encodePlist (plist : PlistCrate) (isSim partialsSupported : Bool)
    (messages : List Value) (lawful : ∀ message ∈ messages, plist.RoundTrips message)
    (wrappers : ∀ key ∈ fragmentKeys, ∀ chunk, plist.RoundTrips (wrapChunk key chunk))
    (bounds : ∀ message ∈ messages,
      ∀ packet ∈ encodePlist plist (.new isSim partialsSupported) (plistToBin plist message),
        packet.length ≤ maxBodyLength + 4) :
    wiReadLoop plist (.new isSim partialsSupported)
        (messages.flatMap fun message =>
          (encodePlist plist (.new isSim partialsSupported) (plistToBin plist message)).flatten) =
      (messages.map fun message => (.recvPlist message, ⟨isSim, partialsSupported, []⟩),
        .webInspector "Failed to read length header: early eof") := by
  induction messages with
  | nil =>
      rw [List.flatMap_nil, wiReadLoop]
      split
      · rfl
      · rename_i impossible
        cases impossible
  | cons message later ih =>
      rw [List.flatMap_cons, wiReadLoop_message plist isSim partialsSupported _
        (lawful message List.mem_cons_self) wrappers (bounds message List.mem_cons_self),
        ih (fun next member => lawful next (List.mem_cons_of_mem _ member))
          (fun next member => bounds next (List.mem_cons_of_mem _ member))]
      rfl

def ascii (text : String) : List UInt8 := text.toList.map fun letter => UInt8.ofNat letter.toNat

def bplistTrailer (objects table : UInt8) : List UInt8 :=
  [0, 0, 0, 0, 0, 0, 1, 1] ++ [0, 0, 0, 0, 0, 0, 0, objects] ++ List.replicate 8 0 ++
    [0, 0, 0, 0, 0, 0, 0, table]

def reportSetupPlist : Value :=
  .dictionary [("__selector", .string "_rpc_reportSetup:"), ("__argument", .dictionary [])]

def reportSetupBin : List UInt8 :=
  ascii "bplist00" ++ [0xD2, 1, 2, 3, 4, 0x5A] ++ ascii "__selector" ++ [0x5A] ++
    ascii "__argument" ++ [0x5F, 0x10, 17] ++ ascii "_rpc_reportSetup:" ++ [0xD0] ++
    [8, 13, 24, 35, 55] ++ bplistTrailer 5 56

def wrappedReportSetupBin : List UInt8 :=
  ascii "bplist00" ++ [0xD1, 1, 2, 0x5F, 0x10, 18] ++ ascii "WIRFinalMessageKey" ++
    [0x4F, 0x10, 93] ++ reportSetupBin ++ [8, 11, 32] ++ bplistTrailer 3 128

/-- The binary format on one message and its wrapper, other fragments are tagged. -/
def reportSetupCrate : PlistCrate where
  fromBytes bytes :=
    if bytes = reportSetupBin then .ok reportSetupPlist
    else if bytes = wrappedReportSetupBin then .ok (wrapChunk "WIRFinalMessageKey" reportSetupBin)
    else match bytes with
      | 0 :: chunk => .ok (wrapChunk "WIRPartialMessageKey" chunk)
      | 1 :: chunk => .ok (wrapChunk "WIRFinalMessageKey" chunk)
      | _ => .error "Expected binary plist"
  toWriterBinary
    | .dictionary [("WIRPartialMessageKey", .data chunk)] => 0 :: chunk
    | .dictionary [("WIRFinalMessageKey", .data chunk)] =>
        if chunk = reportSetupBin then wrappedReportSetupBin else 1 :: chunk
    | .dictionary [("__selector", .string "_rpc_reportSetup:"), ("__argument", .dictionary [])] =>
        reportSetupBin
    | _ => ascii "bplist00"

theorem reportSetupCrate_wrappers :
    ∀ key ∈ fragmentKeys, ∀ chunk, reportSetupCrate.RoundTrips (wrapChunk key chunk) := by
  intro key member chunk
  have first : reportSetupBin.head? = some 98 := by decide
  have second : wrappedReportSetupBin.head? = some 98 := by decide
  have differ : wrappedReportSetupBin ≠ reportSetupBin := by decide
  have tagged (tag : UInt8) (other : tag ≠ 98) : tag :: chunk ≠ reportSetupBin ∧
      tag :: chunk ≠ wrappedReportSetupBin := by
    constructor <;> intro same
    · rw [← same] at first
      exact other (by simpa using first)
    · rw [← same] at second
      exact other (by simpa using second)
  simp only [fragmentKeys, List.mem_cons, List.not_mem_nil, or_false] at member
  rcases member with rfl | rfl
  · have written : reportSetupCrate.toWriterBinary (wrapChunk "WIRPartialMessageKey" chunk) =
        0 :: chunk := rfl
    have apart := tagged 0 (by decide)
    constructor <;> rw [written]
    · simp [reportSetupCrate, apart.1, apart.2]
    · simp
  · have written : reportSetupCrate.toWriterBinary (wrapChunk "WIRFinalMessageKey" chunk) =
        if chunk = reportSetupBin then wrappedReportSetupBin else 1 :: chunk := rfl
    have apart := tagged 1 (by decide)
    constructor <;> rw [written]
    · split
      · rename_i same
        simp [reportSetupCrate, differ, same]
      · simp [reportSetupCrate, apart.1, apart.2]
    · split
      · decide
      · simp

theorem reportSetupCrate_message : reportSetupCrate.RoundTrips reportSetupPlist :=
  ⟨rfl, by decide⟩

theorem wiReadLoop_encodePlist_twice :
    wiReadLoop reportSetupCrate (.new false true)
        ([reportSetupPlist, reportSetupPlist].flatMap fun message =>
          (encodePlist reportSetupCrate (.new false true)
            (plistToBin reportSetupCrate message)).flatten) =
      ([reportSetupPlist, reportSetupPlist].map fun message =>
          (.recvPlist message, ⟨false, true, []⟩),
        .webInspector "Failed to read length header: early eof") := by
  have packets : encodePlist reportSetupCrate (.new false true)
      (plistToBin reportSetupCrate reportSetupPlist) = [buildPacket wrappedReportSetupBin] := by
    have short : ¬maxRpcLen < reportSetupBin.length - 0 := by decide
    simp only [encodePlist, new, Bool.not_true, Bool.false_eq_true, if_false]
    rw [encodeFragments]
    change (if maxRpcLen < reportSetupBin.length - 0 then _ else _) = _
    rw [if_neg short]
    rfl
  refine wiReadLoop_encodePlist reportSetupCrate false true _ ?_ reportSetupCrate_wrappers ?_
  · simpa using reportSetupCrate_message
  · intro message member packet inside
    simp only [List.mem_cons, List.not_mem_nil, or_false, or_self] at member
    subst member
    rw [packets, List.mem_singleton] at inside
    subst inside
    have width : wrappedReportSetupBin.length = 163 := by decide +kernel
    rw [buildPacket_length, width]
    unfold maxBodyLength
    omega

end IosWebkitDebugProxy
