import IosWebkitDebugProxy.Library.Framing
import IosWebkitDebugProxy.CodecRoundTrip

/-! The stream of the inspector connection cut into packets. The read loop
waits for more bytes unless the stream comes to a packet that declares more
than it takes, and what it has sent stays sent whatever comes later. -/

namespace IosWebkitDebugProxy

open WebInspectorCodec

def bodyLength : List UInt8 → Option Nat
  | first :: second :: third :: fourth :: _ =>
      some ((first.toNat <<< 24) ||| (second.toNat <<< 16) ||| (third.toNat <<< 8) |||
        fourth.toNat)
  | _ => none

theorem bodyLength_append {stream : List UInt8} {length : Nat} (later : List UInt8)
    (declared : bodyLength stream = some length) : bodyLength (stream ++ later) = some length := by
  unfold bodyLength at declared
  split at declared
  · cases declared
    rfl
  · cases declared

theorem bodyLength_eq_none {stream : List UInt8} : bodyLength stream = none ↔ stream.length < 4 := by
  match stream with
  | _ :: _ :: _ :: _ :: _ => simp [bodyLength]
  | [] | [_] | [_, _] | [_, _, _] => simp [bodyLength]

def inspectorHeader : Header UInt8 where
  declared stream := (bodyLength stream).map (4 + ·)
  stable := by
    intro front later length declared
    obtain ⟨body, read, same⟩ := Option.map_eq_some_iff.mp declared
    rw [bodyLength_append later read, Option.map_some, same]

theorem parseLength_eq {stream : List UInt8} {length : Nat}
    (declared : bodyLength stream = some length) :
    parseLength (stream.take 4) =
      if maxBodyLength < length then
        .error (.webInspector ("Invalid packet header: length " ++ toString length ++
          " exceeds maximum"))
      else .ok length := by
  unfold bodyLength at declared
  split at declared
  · cases declared
    have positive : 0 < maxBodyLength := by decide
    simp only [List.take_succ_cons, List.take_zero, parseLength, positive, true_and]
  · cases declared

def headerEof : Error := .webInspector "Failed to read length header: early eof"

def bodyEof : Error := .webInspector "Failed to read message body: early eof"

def packetTurn (plist : PlistCrate) (codec : WebInspectorCodec) (body : List UInt8) :
    List (WiEvent × WebInspectorCodec) × WebInspectorCodec :=
  if body = [] then ([], codec)
  else
    let (after, decoded) := codec.decodeBody plist body
    match decoded with
    | .ok (some event) => ([(event, after)], after)
    | _ => ([], after)

variable {plist : PlistCrate} {codec : WebInspectorCodec} {stream : List UInt8} {length : Nat}

theorem wiReadLoop_short (short : bodyLength stream = none) :
    wiReadLoop plist codec stream = ([], headerEof) := by
  have missing : readExact 4 stream = none := by
    have below := bodyLength_eq_none.mp short
    simp only [readExact, Nat.not_le.mpr below, if_false]
  rw [wiReadLoop]
  split
  · rfl
  · rename_i taken
    rw [missing] at taken
    cases taken

theorem readExact_header (declared : bodyLength stream = some length) :
    readExact 4 stream = some (stream.take 4, stream.drop 4) := by
  have enough : 4 ≤ stream.length := by
    by_contra short
    rw [bodyLength_eq_none.mpr (Nat.not_le.mp short)] at declared
    cases declared
  simp only [readExact, enough, if_true]

def oversized (length : Nat) : Error :=
  .webInspector ("Invalid packet header: length " ++ toString length ++ " exceeds maximum")

theorem wiReadLoop_header (declared : bodyLength stream = some length) :
    wiReadLoop plist codec stream =
      if maxBodyLength < length then ([], oversized length)
      else if length = 0 then wiReadLoop plist codec (stream.drop 4)
      else match readExact length (stream.drop 4) with
        | none => ([], bodyEof)
        | some (body, rest) =>
            ((packetTurn plist codec body).1 ++
                (wiReadLoop plist (packetTurn plist codec body).2 rest).1,
              (wiReadLoop plist (packetTurn plist codec body).2 rest).2) := by
  have header := readExact_header declared
  have parsed := parseLength_eq declared
  rw [wiReadLoop]
  split
  · rename_i missing
    rw [header] at missing
    cases missing
  · rename_i lenBuf afterHeader taken
    rw [header] at taken
    cases taken
    rw [parsed]
    by_cases exceeds : maxBodyLength < length
    · simp only [exceeds, if_true]
      rfl
    · simp only [exceeds, if_false]
      by_cases empty : length = 0
      · simp only [empty, if_true]
      · simp only [empty, if_false]
        split
        · rename_i missing
          rw [missing]
          rfl
        · rename_i body rest content
          have filled : body ≠ [] := by
            rintro rfl
            have consumed := readExact_length content
            unfold readExact at content
            split at content
            · simp only [Option.some.injEq, Prod.mk.injEq, List.take_eq_nil_iff] at content
              rcases content.1 with none | short
              · exact empty none
              · rw [short, List.length_nil] at consumed
                omega
            · cases content
          rw [content]
          simp only [packetTurn, filled, if_false]
          cases (codec.decodeBody plist body).2 with
          | ok event => cases event <;> simp
          | error error => simp

theorem wiReadLoop_incomplete (declared : bodyLength stream = some length)
    (allowed : length ≤ maxBodyLength) (incomplete : stream.length < 4 + length) :
    wiReadLoop plist codec stream = ([], bodyEof) := by
  have long : ¬stream.length < 4 := by
    rw [← bodyLength_eq_none, declared]
    simp
  have missing : readExact length (stream.drop 4) = none := by
    rw [readExact, if_neg]
    rw [List.length_drop]
    omega
  rw [wiReadLoop_header declared, if_neg (by omega), if_neg (by omega), missing]

theorem wiReadLoop_frame {frame rest : List UInt8} (declared : bodyLength frame = some length)
    (allowed : length ≤ maxBodyLength) (whole : frame.length = 4 + length) :
    wiReadLoop plist codec (frame ++ rest) =
      ((packetTurn plist codec (frame.drop 4)).1 ++
          (wiReadLoop plist (packetTurn plist codec (frame.drop 4)).2 rest).1,
        (wiReadLoop plist (packetTurn plist codec (frame.drop 4)).2 rest).2) := by
  have body : (frame.drop 4).length = length := by
    rw [List.length_drop]
    omega
  have after : (frame ++ rest).drop 4 = frame.drop 4 ++ rest :=
    List.drop_append_of_le_length (by omega)
  rw [wiReadLoop_header (bodyLength_append rest declared), if_neg (by omega), after,
    readExact_append body]
  by_cases empty : length = 0
  · have none : frame.drop 4 = [] := List.length_eq_zero_iff.mp (body.trans empty)
    simp [empty, none, packetTurn]
  · rw [if_neg empty]

def Oversized (stream : List UInt8) : Prop :=
  ∃ front ∈ inspectorHeader.frames stream ++ [inspectorHeader.tail stream], ∃ length,
    bodyLength front = some length ∧ maxBodyLength < length

/-- The read loop has come to the end of what it was given, and would go on. -/
def WaitsForMore (plist : PlistCrate) (codec : WebInspectorCodec) (stream : List UInt8) : Prop :=
  (wiReadLoop plist codec stream).2 = headerEof ∨ (wiReadLoop plist codec stream).2 = bodyEof

theorem oversized_ne (length : Nat) :
    oversized length ≠ headerEof ∧ oversized length ≠ bodyEof := by
  constructor <;>
  · intro same
    have texts := congrArg (fun text => text.toList.head?) (Error.webInspector.inj same)
    simp [String.toList_append] at texts

theorem nextFrame_bodyLength {frame rest : List UInt8}
    (cut : inspectorHeader.nextFrame stream = some (frame, rest)) :
    ∃ length, bodyLength frame = some length ∧ frame.length = 4 + length ∧
      stream = frame ++ rest := by
  obtain ⟨declared, _, rfl⟩ := Header.nextFrame_eq_some.mp cut
  obtain ⟨length, read, total⟩ := Option.map_eq_some_iff.mp declared
  refine ⟨length, ?_, total.symm, rfl⟩
  cases front : bodyLength frame with
  | none =>
      have short := bodyLength_eq_none.mp front
      omega
  | some found =>
      rw [bodyLength_append rest front] at read
      exact read

theorem not_nextFrame (cut : inspectorHeader.nextFrame stream = none)
    (declared : bodyLength stream = some length) : stream.length < 4 + length := by
  by_contra whole
  simp only [Header.nextFrame, inspectorHeader, declared, Option.map_some, Option.bind_some] at cut
  rw [if_pos (by omega)] at cut
  cases cut

theorem oversized_none (cut : inspectorHeader.nextFrame stream = none) :
    Oversized stream ↔ ∃ length, bodyLength stream = some length ∧ maxBodyLength < length := by
  simp [Oversized, Header.frames, Header.tail, Header.split_none cut]

theorem oversized_cons {frame rest : List UInt8}
    (cut : inspectorHeader.nextFrame stream = some (frame, rest)) :
    Oversized stream ↔
      (∃ length, bodyLength frame = some length ∧ maxBodyLength < length) ∨ Oversized rest := by
  have frames : inspectorHeader.frames stream = frame :: inspectorHeader.frames rest := by
    rw [Header.frames, Header.split_some cut]
  have tail : inspectorHeader.tail stream = inspectorHeader.tail rest := by
    rw [Header.tail, Header.split_some cut]
  rw [Oversized, frames, tail, List.cons_append, List.exists_mem_cons_iff]
  rfl

theorem not_waitsForMore (declared : bodyLength stream = some length)
    (exceeds : maxBodyLength < length) : ¬WaitsForMore plist codec stream := by
  rw [WaitsForMore, wiReadLoop_header declared, if_pos exceeds]
  have other := oversized_ne length
  exact not_or.mpr other

theorem waitsForMore_iff : WaitsForMore plist codec stream ↔ ¬Oversized stream := by
  induction stream using Header.split.induct inspectorHeader generalizing codec with
  | case1 stream cut =>
      rw [oversized_none cut]
      cases declared : bodyLength stream with
      | none => simp [WaitsForMore, wiReadLoop_short declared]
      | some length =>
          by_cases exceeds : maxBodyLength < length
          · simp [not_waitsForMore declared exceeds, exceeds]
          · have incomplete := not_nextFrame cut declared
            simp [WaitsForMore, wiReadLoop_incomplete declared (Nat.not_lt.mp exceeds) incomplete,
              exceeds]
  | case2 stream frame rest cut ih =>
      obtain ⟨length, declared, whole, rfl⟩ := nextFrame_bodyLength cut
      rw [oversized_cons cut]
      by_cases exceeds : maxBodyLength < length
      · simp [not_waitsForMore (bodyLength_append rest declared) exceeds, declared, exceeds]
      · rw [WaitsForMore, wiReadLoop_frame declared (Nat.not_lt.mp exceeds) whole, ← WaitsForMore, ih]
        simp [declared, exceeds]

/-- What the loop has sent stays sent, whatever the connection delivers later. -/
theorem wiReadLoop_append (later : List UInt8) :
    (wiReadLoop plist codec stream).1 <+: (wiReadLoop plist codec (stream ++ later)).1 := by
  induction stream using Header.split.induct inspectorHeader generalizing codec with
  | case1 stream cut =>
      have nothing : (wiReadLoop plist codec stream).1 = [] := by
        cases declared : bodyLength stream with
        | none => rw [wiReadLoop_short declared]
        | some length =>
            by_cases exceeds : maxBodyLength < length
            · rw [wiReadLoop_header declared, if_pos exceeds]
            · rw [wiReadLoop_incomplete declared (Nat.not_lt.mp exceeds) (not_nextFrame cut declared)]
      rw [nothing]
      exact List.nil_prefix
  | case2 stream frame rest cut ih =>
      obtain ⟨length, declared, whole, rfl⟩ := nextFrame_bodyLength cut
      by_cases exceeds : maxBodyLength < length
      · rw [wiReadLoop_header (bodyLength_append rest declared), if_pos exceeds]
        exact List.nil_prefix
      · rw [wiReadLoop_frame declared (Nat.not_lt.mp exceeds) whole, List.append_assoc,
          wiReadLoop_frame declared (Nat.not_lt.mp exceeds) whole]
        exact (List.prefix_append_right_inj _).mpr ih

end IosWebkitDebugProxy
