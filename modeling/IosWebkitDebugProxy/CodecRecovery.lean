import IosWebkitDebugProxy.CodecFrames
import IosWebkitDebugProxy.Library.History

/-! What the codec makes of the packets after one that it could not decode. Only
a last fragment empties the buffer, so the fragments of a message that was never
completed outlive the bad packet and are read in front of the next message. -/

namespace IosWebkitDebugProxy

open Plist WebInspectorCodec Transition

variable {plist : PlistCrate} {codec : WebInspectorCodec} {body : List UInt8}

/-- The fragment in a packet body, and whether more of its message are to come. -/
def fragmentOf (plist : PlistCrate) (body : List UInt8) : Option (List UInt8 × Bool) :=
  match plist.fromBytes body with
  | .ok value => value.asDictionary.bind fun wiDict => (unwrapChunk wiDict).toOption
  | .error _ => none

def Leaves (plist : PlistCrate) (body : List UInt8) : Prop :=
  ∃ chunk, chunk ≠ [] ∧ fragmentOf plist body = some (chunk, true)

def Completes (plist : PlistCrate) (body : List UInt8) : Prop :=
  ∃ chunk, fragmentOf plist body = some (chunk, false)

def received (plist : PlistCrate) (bytes : List UInt8) : Except Error (Option WiEvent) :=
  (readPlist plist "RPC plist parsing failed: " bytes).map fun value => some (.recvPlist value)

theorem decodeBody_unreadable (fragmented : codec.partialsSupported = true)
    (missing : fragmentOf plist body = none) :
    ∃ error, codec.decodeBody plist body = (codec, .error error) := by
  unfold fragmentOf at missing
  unfold decodeBody parsePlist readPlist
  cases outer : plist.fromBytes body with
  | error message => exact ⟨_, rfl⟩
  | ok value =>
      rw [outer] at missing
      simp only [fragmented, Bool.not_true, Bool.false_eq_true, if_false]
      cases dictionary : value.asDictionary with
      | none => exact ⟨_, rfl⟩
      | some wiDict =>
          simp only [dictionary, Option.bind_some] at missing
          cases unwrapped : unwrapChunk wiDict with
          | error error => exact ⟨error, by simp only [unwrapped]⟩
          | ok chunk =>
              rw [unwrapped] at missing
              cases missing

theorem decodeBody_fragment (fragmented : codec.partialsSupported = true) {chunk : List UInt8}
    {isPartial : Bool} (found : fragmentOf plist body = some (chunk, isPartial)) :
    codec.decodeBody plist body =
      ((codec.acceptChunk plist chunk isPartial).1,
        (codec.acceptChunk plist chunk isPartial).2.map fun value => value.map .recvPlist) := by
  unfold fragmentOf at found
  have parsed : codec.parsePlist plist body = codec.acceptChunk plist chunk isPartial := by
    unfold parsePlist readPlist
    cases outer : plist.fromBytes body with
    | error message =>
        rw [outer] at found
        cases found
    | ok value =>
        rw [outer] at found
        obtain ⟨wiDict, dictionary, unwrapped⟩ := Option.bind_eq_some_iff.mp found
        simp only [fragmented, Bool.not_true, Bool.false_eq_true, if_false, dictionary]
        cases result : unwrapChunk wiDict with
        | error error =>
            rw [result] at unwrapped
            cases unwrapped
        | ok pair =>
            rw [result] at unwrapped
            cases unwrapped
            rfl
  rw [decodeBody, parsed]
  obtain ⟨after, result⟩ := codec.acceptChunk plist chunk isPartial
  rcases result with error | (_ | value) <;> rfl

theorem decodeBody_ofPartial (fragmented : codec.partialsSupported = true) {chunk : List UInt8}
    (found : fragmentOf plist body = some (chunk, true)) :
    codec.decodeBody plist body =
      ({ codec with partialBuffer := codec.partialBuffer ++ chunk }, .ok none) := by
  rw [decodeBody_fragment fragmented found]
  rfl

theorem decodeBody_final (fragmented : codec.partialsSupported = true) {chunk : List UInt8}
    (found : fragmentOf plist body = some (chunk, false)) :
    codec.decodeBody plist body =
      ({ codec with partialBuffer := [] }, received plist (codec.partialBuffer ++ chunk)) := by
  have full : (if codec.partialBuffer.isEmpty then chunk else codec.partialBuffer ++ chunk) =
      codec.partialBuffer ++ chunk := by
    split
    · rename_i empty
      rw [List.isEmpty_iff.mp empty, List.nil_append]
    · rfl
  rw [decodeBody_fragment fragmented found]
  simp only [acceptChunk, Bool.false_eq_true, if_false, full, received]
  cases readPlist plist "RPC plist parsing failed: " (codec.partialBuffer ++ chunk) <;> rfl

def decodeNext (plist : PlistCrate) (codec : WebInspectorCodec) (body : List UInt8) :
    WebInspectorCodec :=
  (codec.decodeBody plist body).1

def decodeBodies (plist : PlistCrate) (codec : WebInspectorCodec)
    (bodies : List (List UInt8)) : List (Except Error (Option WiEvent)) :=
  collected (decodeNext plist) (fun codec body => [(codec.decodeBody plist body).2]) codec bodies

theorem decodeNext_shape (fragmented : codec.partialsSupported = true) (body : List UInt8) :
    decodeNext plist codec body = { codec with
      partialBuffer := match fragmentOf plist body with
        | none => codec.partialBuffer
        | some (chunk, true) => codec.partialBuffer ++ chunk
        | some (_, false) => [] } := by
  unfold decodeNext
  cases found : fragmentOf plist body with
  | none =>
      obtain ⟨error, decoded⟩ := decodeBody_unreadable fragmented found
      rw [decoded]
  | some fragment =>
      obtain ⟨chunk, _ | _⟩ := fragment
      · rw [decodeBody_final fragmented found]
      · rw [decodeBody_ofPartial fragmented found]

theorem run_fragmented (isSim : Bool) (bodies : List (List UInt8)) :
    (run (decodeNext plist) (.new isSim true) bodies).partialsSupported = true := by
  refine run_invariant (fun codec : WebInspectorCodec => codec.partialsSupported = true) rfl ?_
    bodies
  intro codec body fragmented
  rw [decodeNext_shape fragmented]
  exact fragmented

/-- The buffer is empty exactly if no fragment waits for the rest of its message. -/
theorem run_partialBuffer (isSim : Bool) (bodies : List (List UInt8)) :
    (run (decodeNext plist) (.new isSim true) bodies).partialBuffer = [] ↔
      Answered (Leaves plist) (Completes plist) bodies := by
  induction bodies using List.reverseRecOn with
  | nil => exact iff_of_true rfl answered_nil
  | append_singleton bodies body ih =>
      rw [run_concat, decodeNext_shape (run_fragmented isSim bodies), answered_append,
        answered_singleton, ← ih]
      simp only [List.mem_singleton, exists_eq_left, Leaves, Completes]
      cases found : fragmentOf plist body with
      | none => simp
      | some fragment =>
          obtain ⟨chunk, _ | _⟩ := fragment
          · simp
          · simp only [List.append_eq_nil_iff, Option.some.injEq, Prod.mk.injEq, and_true,
              Bool.true_eq_false, and_false, exists_false, or_false]
            constructor
            · rintro ⟨empty, rfl⟩
              exact ⟨by simp, empty⟩
            · rintro ⟨none, empty⟩
              exact ⟨empty, by simpa using none⟩

/-- The fragments of one message, one after the other, and what they carry. -/
inductive Fragments (plist : PlistCrate) : List (List UInt8) → List UInt8 → Prop
  | last {body chunk} : fragmentOf plist body = some (chunk, false) →
      Fragments plist [body] chunk
  | more {body chunk bodies own} : fragmentOf plist body = some (chunk, true) →
      Fragments plist bodies own → Fragments plist (body :: bodies) (chunk ++ own)

theorem decodeBodies_fragments {bodies : List (List UInt8)} {own : List UInt8}
    (fragmented : codec.partialsSupported = true) (message : Fragments plist bodies own) :
    decodeBodies plist codec bodies =
      List.replicate (bodies.length - 1) (.ok none) ++
        [received plist (codec.partialBuffer ++ own)] := by
  induction message generalizing codec with
  | last found =>
      simp only [decodeBodies, collected, decodeBody_final fragmented found, List.append_nil]
      rfl
  | @more body chunk bodies own found rest ih =>
      have nonempty : bodies.length = bodies.length - 1 + 1 := by
        cases rest <;> rfl
      have decoded := decodeBody_ofPartial fragmented found
      have next : decodeNext plist codec body =
          { codec with partialBuffer := codec.partialBuffer ++ chunk } := by
        rw [decodeNext, decoded]
      have fragmented' : (decodeNext plist codec body).partialsSupported = true := by
        rw [next]
        exact fragmented
      have later := ih fragmented'
      simp only [decodeBodies] at later ⊢
      rw [collected, later, decoded, next, List.append_assoc, List.length_cons,
        Nat.add_sub_cancel, nonempty, List.replicate_succ]
      rfl

/-- Every message whose fragments come next is decoded from these alone. -/
def DecodesOwn (plist : PlistCrate) (codec : WebInspectorCodec) : Prop :=
  ∀ bodies own, Fragments plist bodies own →
    decodeBodies plist codec bodies =
      List.replicate (bodies.length - 1) (.ok none) ++ [received plist own]

/-- Whatever stands in front of a message, some message is read differently
with it. -/
def PlistCrate.MindsFront (plist : PlistCrate) : Prop :=
  ∀ front, front ≠ [] → ∃ body own, fragmentOf plist body = some (own, false) ∧
    plist.fromBytes (front ++ own) ≠ plist.fromBytes own

theorem received_injective {first second : List UInt8}
    (same : received plist first = received plist second) :
    plist.fromBytes first = plist.fromBytes second := by
  unfold received readPlist at same
  cases one : plist.fromBytes first with
  | ok value =>
      cases other : plist.fromBytes second with
      | ok _ =>
          simp only [one, other] at same
          cases same
          rfl
      | error _ =>
          simp only [one, other] at same
          cases same
  | error message =>
      cases other : plist.fromBytes second with
      | ok _ =>
          simp only [one, other] at same
          cases same
      | error _ =>
          simp only [one, other, Except.map, Except.error.injEq, Error.plist.injEq,
            String.append_right_inj] at same
          rw [same]

theorem decodesOwn_iff (minds : plist.MindsFront) (fragmented : codec.partialsSupported = true) :
    DecodesOwn plist codec ↔ codec.partialBuffer = [] := by
  constructor
  · intro decodes
    by_contra held
    obtain ⟨body, own, found, differs⟩ := minds codec.partialBuffer held
    have message := Fragments.last found
    have expected := decodes [body] own message
    rw [decodeBodies_fragments fragmented message] at expected
    exact differs (received_injective (List.singleton_inj.mp (List.append_cancel_left expected)))
  · intro empty bodies own message
    rw [decodeBodies_fragments fragmented message, empty, List.nil_append]

/-- After a body that cannot be decoded, and whatever else `later` brings, the
next message is decoded from its own fragments exactly if those since then are
all completed, and those from before are too or something was completed since. -/
theorem decodesOwn_after_error_iff (plist : PlistCrate) (minds : plist.MindsFront) (isSim : Bool)
    (before : List (List UInt8)) (bad : List UInt8) (later : List (List UInt8))
    (fails : ∃ error,
      ((run (decodeNext plist) (.new isSim true) before).decodeBody plist bad).2 = .error error) :
    DecodesOwn plist (run (decodeNext plist) (.new isSim true) (before ++ bad :: later)) ↔
      Answered (Leaves plist) (Completes plist) later ∧
        (Answered (Leaves plist) (Completes plist) before ∨ Completes plist bad ∨
          ∃ closing ∈ later, Completes plist closing) := by
  have quiet : ¬Leaves plist bad := by
    rintro ⟨chunk, _, found⟩
    obtain ⟨error, failed⟩ := fails
    rw [decodeBody_ofPartial (run_fragmented isSim before) found] at failed
    cases failed
  rw [decodesOwn_iff minds (run_fragmented isSim _), run_partialBuffer, List.append_cons,
    answered_append, answered_append, answered_singleton]
  simp only [List.mem_singleton, exists_eq_left, quiet, not_false_iff, true_and, or_assoc]

def eventOf : Except Error (Option WiEvent) → Option WiEvent
  | .ok event => event
  | .error _ => none

theorem packetTurn_decoded (plist : PlistCrate) (codec : WebInspectorCodec) (filled : body ≠ []) :
    (packetTurn plist codec body).1.map Prod.fst =
        (eventOf (codec.decodeBody plist body).2).toList ∧
      (packetTurn plist codec body).2 = decodeNext plist codec body := by
  simp only [packetTurn, filled, if_false, decodeNext]
  cases (codec.decodeBody plist body).2 with
  | ok event => cases event <;> exact ⟨rfl, rfl⟩
  | error error => exact ⟨rfl, rfl⟩

theorem bodyLength_buildPacket (bound : body.length ≤ maxBodyLength) :
    bodyLength (buildPacket body) = some body.length := by
  have small : body.length < 2 ^ 32 := by
    unfold maxBodyLength at bound
    omega
  simp only [buildPacket, bodyLength, Bytes.fourBytes_value small]

/-- The read loop sends what the bodies of its packets decode to, one after the
other, and passes over those that cannot be decoded. -/
theorem wiReadLoop_bodies (plist : PlistCrate) (codec : WebInspectorCodec)
    (bodies : List (List UInt8)) (rest : List UInt8)
    (sizes : ∀ body ∈ bodies, body ≠ [] ∧ body.length ≤ maxBodyLength) :
    (wiReadLoop plist codec (bodies.flatMap buildPacket ++ rest)).1.map Prod.fst =
      (decodeBodies plist codec bodies).filterMap eventOf ++
        (wiReadLoop plist (run (decodeNext plist) codec bodies) rest).1.map Prod.fst := by
  induction bodies generalizing codec with
  | nil => rfl
  | cons body bodies ih =>
      obtain ⟨filled, bound⟩ := sizes body List.mem_cons_self
      obtain ⟨events, next⟩ := packetTurn_decoded plist codec filled
      have whole : (buildPacket body).length = 4 + body.length := by
        rw [buildPacket_length, Nat.add_comm]
      have content : (buildPacket body).drop 4 = body := rfl
      rw [List.flatMap_cons, List.append_assoc,
        wiReadLoop_frame (bodyLength_buildPacket bound) bound whole, content, List.map_append, events,
        next, ih _ fun later member => sizes later (List.mem_cons_of_mem _ member)]
      simp only [decodeBodies, collected, List.singleton_append, List.filterMap_cons]
      cases eventOf (codec.decodeBody plist body).2 <;> rfl

/-! A message that breaks off after its first bytes, as the device sends it. -/

def brokenOffBin : List UInt8 :=
  ascii "bplist00" ++ [0xD1, 1, 2, 0x5F, 0x10, 20] ++ ascii "WIRPartialMessageKey" ++ [0x48] ++
    ascii "bplist00" ++ [8, 11, 34] ++ bplistTrailer 3 43

/-- The binary format on one message, its wrapper, and the broken-off fragment. -/
def brokenOffCrate : PlistCrate where
  fromBytes bytes :=
    if bytes = reportSetupBin then .ok reportSetupPlist
    else if bytes = wrappedReportSetupBin then .ok (wrapChunk "WIRFinalMessageKey" reportSetupBin)
    else if bytes = brokenOffBin then .ok (wrapChunk "WIRPartialMessageKey" (ascii "bplist00"))
    else .error "invalid property list"
  toWriterBinary := reportSetupCrate.toWriterBinary

theorem brokenOffCrate_reads :
    fragmentOf brokenOffCrate brokenOffBin = some (ascii "bplist00", true) ∧
      fragmentOf brokenOffCrate [0] = none ∧
      fragmentOf brokenOffCrate wrappedReportSetupBin = some (reportSetupBin, false) ∧
      brokenOffCrate.fromBytes (ascii "bplist00" ++ reportSetupBin) =
        .error "invalid property list" := by
  have wrapped : wrappedReportSetupBin ≠ reportSetupBin := by decide
  have broken : brokenOffBin ≠ reportSetupBin ∧ brokenOffBin ≠ wrappedReportSetupBin := by decide
  have bad : [0] ≠ reportSetupBin ∧ [0] ≠ wrappedReportSetupBin ∧ [0] ≠ brokenOffBin := by decide
  have mixed : ascii "bplist00" ++ reportSetupBin ≠ reportSetupBin ∧
      ascii "bplist00" ++ reportSetupBin ≠ wrappedReportSetupBin ∧
      ascii "bplist00" ++ reportSetupBin ≠ brokenOffBin := by decide
  refine ⟨?_, ?_, ?_, ?_⟩
  · simp only [fragmentOf, brokenOffCrate, broken, if_false, if_true]
    rfl
  · simp only [fragmentOf, brokenOffCrate, bad, if_false]
  · simp only [fragmentOf, brokenOffCrate, wrapped, if_false, if_true]
    rfl
  · simp only [brokenOffCrate, mixed, if_false]

theorem brokenOffCrate_mindsFront : brokenOffCrate.MindsFront := by
  intro front nonempty
  refine ⟨wrappedReportSetupBin, reportSetupBin, brokenOffCrate_reads.2.2.1, ?_⟩
  have longer : front ++ reportSetupBin ≠ reportSetupBin := by simpa using nonempty
  simp only [brokenOffCrate, longer, if_false, if_true]
  split
  · simp [wrapChunk, reportSetupPlist, Dictionary.insert, Dictionary.new]
  · split <;> simp [wrapChunk, reportSetupPlist, Dictionary.insert, Dictionary.new]

theorem brokenOffCrate_fails :
    ∃ error, ((run (decodeNext brokenOffCrate) (.new false true) [brokenOffBin]).decodeBody
      brokenOffCrate [0]).2 = .error error := by
  obtain ⟨error, failed⟩ :=
    decodeBody_unreadable (run_fragmented false [brokenOffBin]) brokenOffCrate_reads.2.1
  exact ⟨error, by rw [failed]⟩

/-- A message breaks off, an unreadable packet follows, and the next message is
read with the left-over bytes in front of it. -/
theorem broken_off_fragment_is_mixed_in :
    (∃ error, ((run (decodeNext brokenOffCrate) (.new false true) [brokenOffBin]).decodeBody
      brokenOffCrate [0]).2 = .error error) ∧
    Fragments brokenOffCrate [wrappedReportSetupBin] reportSetupBin ∧
    received brokenOffCrate reportSetupBin = .ok (some (.recvPlist reportSetupPlist)) ∧
    decodeBodies brokenOffCrate
        (run (decodeNext brokenOffCrate) (.new false true) [brokenOffBin, [0]])
        [wrappedReportSetupBin] =
      [.error (.plist "RPC plist parsing failed: invalid property list")] := by
  obtain ⟨broken, bad, wrapped, mixed⟩ := brokenOffCrate_reads
  have message : Fragments brokenOffCrate [wrappedReportSetupBin] reportSetupBin := .last wrapped
  refine ⟨brokenOffCrate_fails, message, ?_, ?_⟩
  · simp only [received, readPlist, brokenOffCrate, if_true]
    rfl
  · have held : run (decodeNext brokenOffCrate) (.new false true) [brokenOffBin, [0]] =
        ⟨false, true, ascii "bplist00"⟩ := by
      have first : decodeNext brokenOffCrate (.new false true) brokenOffBin =
          ⟨false, true, ascii "bplist00"⟩ := by
        rw [decodeNext_shape rfl, broken]
        rfl
      rw [run, List.foldl_cons, first, List.foldl_cons, decodeNext_shape rfl, bad]
      rfl
    rw [held, decodeBodies_fragments rfl message]
    simp only [received, readPlist, mixed]
    rfl

theorem decodesOwn_after_error_iff_broken_off :
    DecodesOwn brokenOffCrate
        (run (decodeNext brokenOffCrate) (.new false true) ([brokenOffBin] ++ [0] :: [])) ↔
      Answered (Leaves brokenOffCrate) (Completes brokenOffCrate) [] ∧
        (Answered (Leaves brokenOffCrate) (Completes brokenOffCrate) [brokenOffBin] ∨
          Completes brokenOffCrate [0] ∨
          ∃ closing ∈ ([] : List (List UInt8)), Completes brokenOffCrate closing) :=
  decodesOwn_after_error_iff brokenOffCrate brokenOffCrate_mindsFront false [brokenOffBin] [0] []
    brokenOffCrate_fails

end IosWebkitDebugProxy
