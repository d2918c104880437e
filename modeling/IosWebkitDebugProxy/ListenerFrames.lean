import Mathlib.Algebra.Ring.Nat
import IosWebkitDebugProxy.Library.Framing
import IosWebkitDebugProxy.ListenerPackets

/-! What one turn of the receiving loop does to a parser whose length, where it
has read one, is the one at the front of its buffer. -/

namespace IosWebkitDebugProxy

open Plist Iteration

def declaredLength (stream : List UInt8) : Option Nat := (readU32 stream).map Prod.fst

theorem readU32_append {stream rest : List UInt8} {number : Nat} (later : List UInt8)
    (read : readU32 stream = some (number, rest)) :
    readU32 (stream ++ later) = some (number, rest ++ later) := by
  unfold readU32 at read
  split at read
  · cases read
    rfl
  · cases read

def packetHeader : Header UInt8 where
  declared := declaredLength
  stable := by
    intro front later length declared
    obtain ⟨⟨number, rest⟩, read, same⟩ := Option.map_eq_some_iff.mp declared
    simp only [declaredLength, readU32_append later read, Option.map_some]
    exact congrArg some same

theorem readU32_isSome (stream : List UInt8) (long : 4 ≤ stream.length) :
    ∃ number, readU32 stream = some (number, stream.drop 4) := by
  match stream with
  | _ :: _ :: _ :: _ :: _ => exact ⟨_, rfl⟩
  | [] | [_] | [_, _] | [_, _, _] => simp at long

theorem readU32_take (stream : List UInt8) :
    (readU32 (stream.take 4)).map Prod.fst = declaredLength stream := by
  unfold declaredLength
  match stream with
  | _ :: _ :: _ :: _ :: _ => rfl
  | [] | [_] | [_, _] | [_, _, _] => rfl

theorem declaredLength_eq_none {stream : List UInt8} :
    declaredLength stream = none ↔ stream.length < 4 := by
  match stream with
  | _ :: _ :: _ :: _ :: _ => simp [declaredLength, readU32]
  | [] | [_] | [_, _] | [_, _, _] => simp [declaredLength, readU32]

namespace DeviceListenerParser

def Framed (parser : DeviceListenerParser) : Prop :=
  parser.hasLength = true → declaredLength parser.buffer = some parser.bodyLength

theorem framed_of_unread {parser : DeviceListenerParser} (unread : parser.hasLength = false) :
    parser.Framed := by
  intro read
  rw [unread] at read
  cases read

theorem Framed.extend {parser : DeviceListenerParser} (framed : parser.Framed)
    (data : List UInt8) : (parser.extend data).Framed :=
  fun read => packetHeader.stable (framed read)

theorem readLength_framed {parser : DeviceListenerParser} (framed : parser.Framed) :
    parser.readLength = some (match declaredLength parser.buffer with
      | none => parser
      | some length => { parser with hasLength := true, bodyLength := length }) := by
  unfold readLength
  cases known : parser.hasLength with
  | true =>
      simp only [Bool.not_true, Bool.false_and, Bool.false_eq_true, if_false, framed known]
      rw [← known]
  | false =>
      by_cases long : 4 ≤ parser.buffer.length
      · obtain ⟨length, read⟩ := readU32_isSome _ long
        have front : readU32 (parser.buffer.take 4) =
            some (length, (parser.buffer.take 4).drop 4) := by
          obtain ⟨number, taken⟩ := readU32_isSome (parser.buffer.take 4) (by simp [long])
          have same := readU32_take parser.buffer
          rw [taken, declaredLength, read] at same
          cases same
          exact taken
        simp [long, sliceTo, front, declaredLength, read]
      · have short : declaredLength parser.buffer = none := declaredLength_eq_none.mpr (by omega)
        simp [long, short]

theorem recvTurn_framed (plist : PlistCrate) {parser : DeviceListenerParser}
    (framed : parser.Framed) (events : List DeviceEvent) :
    recvTurn plist (parser, events) =
      match declaredLength parser.buffer with
      | none => .inr (some (parser, events))
      | some length =>
          if length ≤ parser.buffer.length then
            match parsePacket plist { parser with
                buffer := parser.buffer.drop length, hasLength := false, bodyLength := length }
                (parser.buffer.take length) with
            | none => .inr none
            | some (next, result) => .inl (next, events ++ sentEvents result)
          else .inr (some ({ parser with hasLength := true, bodyLength := length }, events)) := by
  unfold recvTurn
  simp only [readLength_framed framed]
  cases declared : declaredLength parser.buffer with
  | none =>
      have unread : parser.hasLength = false := by
        cases known : parser.hasLength with
        | true => rw [framed known] at declared; cases declared
        | false => rfl
      simp [unread]
  | some length =>
      by_cases fits : length ≤ parser.buffer.length
      · cases parsed : parsePacket plist
            ⟨parser.deviceNumToId, parser.buffer.drop length, false, length⟩
            (parser.buffer.take length) <;>
          simp [fits, drainTo, parsed]
      · simp [fits]

theorem parseMessage_congr {parser other : DeviceListenerParser}
    (same : parser.deviceNumToId = other.deviceNumToId) (message : Value) :
    other.parseMessage message = (parser.parseMessage message).map fun (next, result) =>
      ({ other with deviceNumToId := next.deviceNumToId }, result) := by
  unfold parseMessage
  cases message.asDictionary with
  | none => simp [same]
  | some dict =>
      simp only
      split
      · unfold parseResult
        split
        · split <;> simp [same]
        · simp [same]
      · unfold parseAttached
        split
        · cases attachedId _ <;> simp [same]
        · simp [same]
      · unfold parseDetached
        split
        · rw [same]
          split <;> simp [same]
        · simp [same]
      · simp [same]

/-- The property list in a packet, where the packet is one that is read. -/
def packetMessage (plist : PlistCrate) (packet : List UInt8) : Option Value :=
  if packet.length < 16 then none
  else do
    let (len, cursor) ← readU32 packet
    let (version, cursor) ← readU32 cursor
    let (ptype, _) ← readU32 cursor
    if len = packet.length ∧ version = 1 ∧ ptype = typePlist then
      (plist.fromBytes
        (String.ofList (fromUtf8Lossy (packet.drop 16))).toUTF8.data.toList).toOption
    else none

theorem parsePacket_cases (plist : PlistCrate) (packet : List UInt8) :
    (packetMessage plist packet = none ∧ ∃ refused : Except Error (Option DeviceEvent),
      sentEvents refused = [] ∧
        ∀ parser, parsePacket plist parser packet = some (parser, refused)) ∨
      ∃ message, packetMessage plist packet = some message ∧
        ∀ parser, parsePacket plist parser packet = parser.parseMessage message := by
  unfold parsePacket packetMessage
  by_cases short : packet.length < 16
  · simp only [short, if_true]
    exact .inl ⟨trivial, _, rfl, fun parser => rfl⟩
  · have long : 16 ≤ packet.length := by omega
    obtain ⟨len, readLen⟩ := readU32_isSome packet (by omega)
    obtain ⟨version, readVersion⟩ := readU32_isSome (packet.drop 4)
      (by rw [List.length_drop]; omega)
    obtain ⟨ptype, readType⟩ := readU32_isSome ((packet.drop 4).drop 4)
      (by simp only [List.length_drop]; omega)
    obtain ⟨tag, readTag⟩ := readU32_isSome (((packet.drop 4).drop 4).drop 4)
      (by simp only [List.length_drop]; omega)
    simp only [short, if_false, Option.bind_eq_bind, readLen, readVersion, readType, readTag,
      Option.bind_some]
    by_cases mismatch : len = packet.length
    · by_cases foreign : version = 1 ∧ ptype = typePlist
      · simp only [mismatch, foreign, ne_eq, not_true, if_false, or_self, and_self, if_true,
          sliceFrom, long, Option.bind_some]
        unfold parsePlistMessage
        cases plist.fromBytes (String.ofList (fromUtf8Lossy (packet.drop 16))).toUTF8.data.toList with
        | error reason => exact .inl ⟨rfl, _, rfl, fun parser => rfl⟩
        | ok message => exact .inr ⟨message, rfl, fun parser => rfl⟩
      · refine .inl ⟨by rw [if_neg fun all => foreign all.2], .ok none, rfl, fun parser => ?_⟩
        rw [if_neg (by simp [mismatch]), if_pos (Decidable.not_and_iff_or_not.mp foreign)]
    · exact .inl ⟨by rw [if_neg fun all => mismatch all.1], _, rfl, fun parser => if_pos mismatch⟩

theorem parsePacket_message {plist : PlistCrate} {packet : List UInt8} {message : Value}
    (carried : packetMessage plist packet = some message) (parser : DeviceListenerParser) :
    parsePacket plist parser packet = parser.parseMessage message := by
  rcases parsePacket_cases plist packet with ⟨unread, _⟩ | ⟨read, same, reads⟩
  · rw [carried] at unread
    cases unread
  · rw [carried] at same
    cases same
    exact reads parser

theorem parsePacket_congr (plist : PlistCrate) (parser other : DeviceListenerParser)
    (same : parser.deviceNumToId = other.deviceNumToId) (packet : List UInt8) :
    parsePacket plist other packet = (parsePacket plist parser packet).map fun (next, result) =>
      ({ other with deviceNumToId := next.deviceNumToId }, result) := by
  rcases parsePacket_cases plist packet with ⟨_, refused, _, passed⟩ | ⟨message, _, reads⟩
  · simp [passed, same]
  · simp only [reads]
    exact parseMessage_congr same message

/-! Which packets panic: those of an attached device whose serial number cannot
be cut after eight bytes. -/

def CharBoundary (text : List Char) (offset : Nat) : Prop :=
  ∃ front rest, text = front ++ rest ∧ (front.map Char.utf8Size).sum = offset

theorem charBoundary_cons {letter : Char} {text : List Char} {offset : Nat} :
    CharBoundary (letter :: text) (offset + 1) ↔
      letter.utf8Size ≤ offset + 1 ∧ CharBoundary text (offset + 1 - letter.utf8Size) := by
  constructor
  · rintro ⟨front, rest, shape, size⟩
    cases front with
    | nil => simp at size
    | cons first front =>
        cases shape
        simp only [List.map_cons, List.sum_cons] at size
        exact ⟨by omega, front, rest, rfl, by omega⟩
  · rintro ⟨fits, front, rest, rfl, size⟩
    refine ⟨letter :: front, rest, rfl, ?_⟩
    simp only [List.map_cons, List.sum_cons]
    omega

theorem splitAtByte_isSome (offset : Nat) (text : List Char) :
    (splitAtByte offset text).isSome ↔ CharBoundary text offset := by
  induction text generalizing offset with
  | nil =>
      cases offset with
      | zero => simp [splitAtByte, CharBoundary]
      | succ offset => simp [splitAtByte, CharBoundary]
  | cons letter text ih =>
      cases offset with
      | zero =>
          simp only [splitAtByte, Option.isSome_some, true_iff]
          exact ⟨[], letter :: text, rfl, rfl⟩
      | succ offset =>
          rw [charBoundary_cons, splitAtByte, ← ih]
          split
          · rename_i fits
            simp [fits]
          · rename_i crosses
            simp [crosses]

/-- The serial number of a message that reports an attached device. -/
def attachedSerial (message : Value) : Option String := do
  let dict ← message.asDictionary
  let props ← if messageType dict = "Attached" then
    (dict.get "Properties").bind Value.asDictionary else none
  some (((props.get "SerialNumber").bind Value.asString).getD "")

/-- A serial number of 24 bytes with a character across the eighth. -/
def CrossesDash (serial : String) : Prop :=
  serial.utf8ByteSize = 24 ∧ ¬CharBoundary serial.toList 8

theorem standardSerial_eq_none {serial : String} :
    standardSerial serial = none ↔ CrossesDash serial := by
  unfold standardSerial CrossesDash
  rw [← splitAtByte_isSome]
  split
  · rename_i long
    simp [long]
  · rename_i other
    simp [other]

def Unsplittable (plist : PlistCrate) (packet : List UInt8) : Prop :=
  ∃ message serial, packetMessage plist packet = some message ∧
    attachedSerial message = some serial ∧ CrossesDash serial

theorem parseMessage_eq_none {parser : DeviceListenerParser} {message : Value} :
    parser.parseMessage message = none ↔
      ∃ serial, attachedSerial message = some serial ∧ CrossesDash serial := by
  unfold parseMessage attachedSerial
  cases message.asDictionary with
  | none => simp
  | some dict =>
      simp only [Option.bind_eq_bind, Option.bind_some]
      split
      · rename_i isResult
        simp [isResult]
      · rename_i isAttached
        simp only [isAttached, if_true, parseAttached]
        cases (dict.get "Properties").bind Value.asDictionary with
        | none => simp
        | some props => simp [attachedId, standardSerial_eq_none]
      · rename_i isDetached
        simp [isDetached]
      · rename_i notAttached _
        have other : messageType dict ≠ "Attached" := notAttached
        simp [other]

theorem parsePacket_eq_none (plist : PlistCrate) (parser : DeviceListenerParser)
    (packet : List UInt8) :
    parsePacket plist parser packet = none ↔ Unsplittable plist packet := by
  unfold Unsplittable
  rcases parsePacket_cases plist packet with ⟨unread, refused, _, passed⟩ | ⟨message, read, reads⟩
  · simp [passed, unread]
  · rw [reads, parseMessage_eq_none, read]
    simp

/-! The three kinds of turn: at the end of what is buffered, over a packet, and
at a header that declares nothing. -/

variable {plist : PlistCrate} {parser : DeviceListenerParser}

theorem recvTurn_incomplete (framed : parser.Framed)
    (incomplete : packetHeader.nextFrame parser.buffer = none)
    (declares : declaredLength parser.buffer ≠ some 0) :
    ∃ settled, settled.Framed ∧ settled.buffer = parser.buffer ∧
      settled.deviceNumToId = parser.deviceNumToId ∧
      ∀ events, recvTurn plist (parser, events) = .inr (some (settled, events)) := by
  simp only [recvTurn_framed plist framed]
  cases declared : declaredLength parser.buffer with
  | none => exact ⟨parser, framed, rfl, rfl, fun _ => rfl⟩
  | some length =>
      have positive : 0 < length := by
        rw [declared] at declares
        exact Nat.pos_of_ne_zero fun zero => declares (congrArg some zero)
      have short : ¬length ≤ parser.buffer.length := by
        intro fits
        have cut : packetHeader.nextFrame parser.buffer =
            some (parser.buffer.take length, parser.buffer.drop length) := by
          simp [Header.nextFrame, packetHeader, declared, positive, fits]
        rw [incomplete] at cut
        cases cut
      exact ⟨{ parser with hasLength := true, bodyLength := length }, fun _ => declared, rfl, rfl,
        fun _ => if_neg short⟩

theorem recvTurn_packet (plist : PlistCrate) (framed : parser.Framed) {packet rest : List UInt8}
    (cut : packetHeader.nextFrame parser.buffer = some (packet, rest))
    (events : List DeviceEvent) :
    recvTurn plist (parser, events) =
      match parsePacket plist parser packet with
      | none => .inr none
      | some (next, result) =>
          .inl (⟨next.deviceNumToId, rest, false, packet.length⟩, events ++ sentEvents result) := by
  obtain ⟨declared, _, shape⟩ := Header.nextFrame_eq_some.mp cut
  have length : declaredLength parser.buffer = some packet.length := declared
  have fits : packet.length ≤ parser.buffer.length := by simp [shape]
  have moved : parsePacket plist ⟨parser.deviceNumToId, rest, false, packet.length⟩ packet =
      (parsePacket plist parser packet).map fun (next, result) =>
        (⟨next.deviceNumToId, rest, false, packet.length⟩, result) :=
    parsePacket_congr plist parser ⟨parser.deviceNumToId, rest, false, packet.length⟩ rfl packet
  simp only [recvTurn_framed plist framed, length, fits, if_true]
  simp only [shape, List.take_left, List.drop_left, moved]
  cases parsePacket plist parser packet <;> rfl

theorem recvTurn_zero (framed : parser.Framed) (zero : declaredLength parser.buffer = some 0)
    (events : List DeviceEvent) :
    recvTurn plist (parser, events) =
      .inl ({ parser with hasLength := false, bodyLength := 0 }, events) := by
  simp [recvTurn_framed plist framed, zero, parsePacket, sentEvents]

/-! The same turn over a longer buffer. -/

/-- A parser as a call leaves it: its loop would end at once. -/
def Settled (plist : PlistCrate) (parser : DeviceListenerParser) : Prop :=
  ∀ events, recvTurn plist (parser, events) = .inr (some (parser, events))

theorem recvTurn_extend (plist : PlistCrate) (framed : parser.Framed) (events : List DeviceEvent)
    (data : List UInt8) :
    match recvTurn plist (parser, events) with
    | .inl (next, sent) => next.Framed ∧
        recvTurn plist (parser.extend data, events) = .inl (next.extend data, sent)
    | .inr none => recvTurn plist (parser.extend data, events) = .inr none
    | .inr (some (final, sent)) => final.Framed ∧ Settled plist final ∧ sent = events ∧
        ∀ later, recvTurn plist (parser.extend data, later) =
          recvTurn plist (final.extend data, later) := by
  rw [recvTurn_framed plist framed]
  cases declared : declaredLength parser.buffer with
  | none =>
      refine ⟨framed, fun sent => ?_, rfl, fun later => rfl⟩
      simp [recvTurn_framed plist framed, declared]
  | some length =>
      have longer : declaredLength (parser.extend data).buffer = some length :=
        packetHeader.stable declared
      by_cases fits : length ≤ parser.buffer.length
      · have more : length ≤ (parser.extend data).buffer.length := by
          simp only [extend, List.length_append]
          omega
        have taken : (parser.extend data).buffer.take length = parser.buffer.take length :=
          List.take_append_of_le_length fits
        have dropped : (parser.extend data).buffer.drop length =
            parser.buffer.drop length ++ data := List.drop_append_of_le_length fits
        have moved := parsePacket_congr plist
          ⟨parser.deviceNumToId, parser.buffer.drop length, false, length⟩
          ⟨parser.deviceNumToId, parser.buffer.drop length ++ data, false, length⟩ rfl
          (parser.buffer.take length)
        simp only [fits, if_true, recvTurn_framed plist (framed.extend data), longer, more, taken,
          dropped]
        cases parsed : parsePacket plist
            ⟨parser.deviceNumToId, parser.buffer.drop length, false, length⟩
            (parser.buffer.take length) with
        | none =>
            rw [parsed] at moved
            simp only [extend, moved]
            rfl
        | some reached =>
            obtain ⟨next, result⟩ := reached
            have kept := parsePacket_congr plist
              ⟨parser.deviceNumToId, parser.buffer.drop length, false, length⟩
              ⟨parser.deviceNumToId, parser.buffer.drop length, false, length⟩ rfl
              (parser.buffer.take length)
            rw [parsed] at moved kept
            simp only [Option.map_some, Option.some.injEq, Prod.mk.injEq, and_true] at kept
            simp only [extend, moved]
            rw [kept]
            exact ⟨framed_of_unread rfl, rfl⟩
      · have reads : Framed ⟨parser.deviceNumToId, parser.buffer, true, length⟩ := fun _ => declared
        have also : declaredLength
            (extend ⟨parser.deviceNumToId, parser.buffer, true, length⟩ data).buffer =
              some length := longer
        simp only [fits, if_false]
        refine ⟨reads, fun sent => ?_, trivial, fun later => ?_⟩
        · simp [recvTurn_framed plist reads, declared, fits]
        · rw [recvTurn_framed plist (framed.extend data), recvTurn_framed plist (reads.extend data),
            longer, also]
          rfl

theorem ends_extend {events sent : List DeviceEvent} {middle : DeviceListenerParser}
    (framed : parser.Framed)
    (ends : Ends (recvTurn plist) (parser, events) (some (middle, sent))) :
    middle.Framed ∧ Settled plist middle ∧ ∀ data outcome,
      Ends (recvTurn plist) (parser.extend data, events) outcome ↔
        Ends (recvTurn plist) (middle.extend data, sent) outcome := by
  generalize start : (parser, events) = state at ends
  generalize finish : some (middle, sent) = reached at ends
  induction ends generalizing parser events with
  | done stops =>
      subst start finish
      have turn := recvTurn_extend plist framed events
      simp only [stops] at turn
      obtain ⟨holds, settled, rfl, _⟩ := turn []
      refine ⟨holds, settled, fun data outcome => ?_⟩
      obtain ⟨_, _, _, same⟩ := turn data
      constructor
      · intro ends
        cases ends with
        | done stops => exact .done ((same _).symm.trans stops)
        | again goes ends => exact .again ((same _).symm.trans goes) ends
      · intro ends
        cases ends with
        | done stops => exact .done ((same _).trans stops)
        | again goes ends => exact .again ((same _).trans goes) ends
  | again goes _ ih =>
      subst start
      rename_i next _ _
      obtain ⟨next, so⟩ := next
      have turn := recvTurn_extend plist framed events
      simp only [goes] at turn
      obtain ⟨holds, settled, same⟩ := ih (turn []).1 rfl finish
      exact ⟨holds, settled, fun data outcome => (ends_again (turn data).2).trans (same data outcome)⟩

theorem panics_extend {events : List DeviceEvent} (framed : parser.Framed)
    (panics : Ends (recvTurn plist) (parser, events) none) (data : List UInt8) :
    Ends (recvTurn plist) (parser.extend data, events) none := by
  generalize start : (parser, events) = state at panics
  generalize finish : none = reached at panics
  induction panics generalizing parser events with
  | done stops =>
      subst start finish
      have turn := recvTurn_extend plist framed events data
      rw [stops] at turn
      exact .done turn
  | again goes _ ih =>
      subst start
      rename_i next _ _
      obtain ⟨next, so⟩ := next
      have turn := recvTurn_extend plist framed events data
      rw [goes] at turn
      exact .again turn.2 (ih turn.1 rfl finish)

end DeviceListenerParser

end IosWebkitDebugProxy
