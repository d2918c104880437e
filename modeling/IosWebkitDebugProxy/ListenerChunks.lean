import IosWebkitDebugProxy.ListenerPanics

/-! Reading a stream in chunks comes to what reading it at once comes to, as long
as no packet in it panics. -/

namespace IosWebkitDebugProxy

open Plist Iteration

namespace DeviceListenerParser

variable {plist : PlistCrate} {parser : DeviceListenerParser}

/-- An outcome with the events of earlier calls before its own. -/
def following (earlier : List DeviceEvent) (outcome : Option (DeviceListenerParser × List DeviceEvent)) :
    Option (DeviceListenerParser × List DeviceEvent) :=
  outcome.map fun (final, events) => (final, earlier ++ events)

theorem recvTurn_following (earlier events : List DeviceEvent) :
    recvTurn plist (parser, earlier ++ events) =
      (recvTurn plist (parser, events)).map
        (fun (next, sent) => (next, earlier ++ sent)) (following earlier) := by
  unfold recvTurn following
  simp only
  split
  · rfl
  · split
    · split
      · rfl
      · split <;> simp
    · rfl

theorem ends_following {state : DeviceListenerParser × List DeviceEvent}
    {outcome : Option (DeviceListenerParser × List DeviceEvent)} (earlier : List DeviceEvent)
    (ends : Ends (recvTurn plist) state outcome) :
    Ends (recvTurn plist) (state.1, earlier ++ state.2) (following earlier outcome) := by
  induction ends with
  | done stops =>
      refine .done ?_
      rw [recvTurn_following, stops]
      rfl
  | again goes _ ih =>
      refine .again ?_ ih
      rw [recvTurn_following, goes]
      rfl

theorem ends_packets {events : List DeviceEvent} {final : DeviceListenerParser}
    (framed : parser.Framed)
    (ends : Ends (recvTurn plist) (parser, []) (some (final, events))) :
    final.buffer = packetHeader.tail parser.buffer ∧
      ∃ last, parsePackets plist parser (packetHeader.frames parser.buffer) = some (last, events) ∧
        final.deviceNumToId = last.deviceNumToId := by
  have loop := recvLoop_packets plist framed []
  cases parsed : parsePackets plist parser (packetHeader.frames parser.buffer) with
  | none =>
      rw [parsed] at loop
      cases ends.unique loop
  | some reached =>
      rw [parsed] at loop
      by_cases stalled : packetHeader.Stalled parser.buffer
      · exact absurd ⟨_, ends⟩ (loop.1 stalled)
      · obtain ⟨settled, known, buffered, finished⟩ := loop.2 stalled
        cases ends.unique finished
        exact ⟨buffered, _, rfl, known⟩

theorem feeds_iff_receives (framed : parser.Framed) (settled : Settled plist parser)
    {chunks : List (List UInt8)}
    (declares : ¬packetHeader.Stalled (parser.buffer ++ chunks.flatten))
    (outcome : Option (DeviceListenerParser × List DeviceEvent)) :
    Feeds plist parser chunks outcome ↔ Receives plist parser chunks.flatten outcome := by
  induction chunks generalizing parser outcome with
  | nil =>
      have same : parser.extend [] = parser := by simp [extend]
      rw [Receives, List.flatten_nil, same, ends_done (settled [])]
      constructor
      · rintro ⟨⟩
        rfl
      · rintro rfl
        exact .nil
  | cons chunk later ih =>
      have extended : (parser.extend chunk).extend later.flatten =
          parser.extend (chunk ++ later.flatten) := by simp [extend]
      rw [List.flatten_cons] at declares ⊢
      obtain ⟨first, receives⟩ : Terminates (recvTurn plist) (parser.extend chunk, []) := by
        rw [terminates_iff (framed.extend chunk)]
        refine .inl fun stalled => declares ?_
        rw [← List.append_assoc]
        exact Header.stalled_append stalled _
      cases first with
      | none =>
          have panics := panics_extend (framed.extend chunk) receives later.flatten
          rw [extended] at panics
          constructor
          · intro feeds
            cases feeds with
            | panics => exact panics
            | cons other _ => cases receives.unique other
          · intro ends
            cases panics.unique ends
            exact .panics receives
      | some reached =>
          obtain ⟨middle, events⟩ := reached
          obtain ⟨holds, stays, same⟩ := ends_extend (framed.extend chunk) receives
          have moves : ¬packetHeader.Stalled (middle.buffer ++ later.flatten) := by
            rw [Header.Stalled, (ends_packets (framed.extend chunk) receives).1, ← Header.tail_append,
              extend, List.append_assoc]
            exact declares
          have whole := same later.flatten outcome
          rw [extended] at whole
          rw [Receives, whole]
          constructor
          · intro feeds
            cases feeds with
            | panics other => cases receives.unique other
            | cons other feeds =>
                cases receives.unique other
                have ends := (ih holds stays moves _).mp feeds
                have more := ends_following events ends
                rw [List.append_nil] at more
                exact more
          · intro ends
            obtain ⟨rest, finished⟩ : Terminates (recvTurn plist) (middle.extend later.flatten, []) :=
              (terminates_iff (holds.extend _) []).mpr (.inl moves)
            have more := ends_following events finished
            rw [List.append_nil] at more
            rw [more.unique ends]
            exact .cons receives ((ih holds stays moves _).mpr finished)

def Incomplete (stream : List UInt8) : Prop :=
  ∀ length, declaredLength stream = some length → stream.length < length

/-- However a stream is cut into chunks, the calls for the chunks give together
the events of one call for all of it and leave the parser in the same state. Of
a stream of whole packets and an incomplete one, these are the events of the
packets, and the incomplete one stays in the buffer. -/
def BoundaryFree (plist : PlistCrate) (parser : DeviceListenerParser) (stream : List UInt8) :
    Prop :=
  ∃ final events,
    Receives plist parser stream (some (final, events)) ∧
    (∀ chunks, chunks.flatten = stream →
      ∀ outcome, Feeds plist parser chunks outcome ↔ outcome = some (final, events)) ∧
    ∀ packets rest,
      (∀ packet ∈ packets, 4 ≤ packet.length ∧ declaredLength packet = some packet.length) →
      Incomplete rest → parser.buffer ++ stream = packets.flatten ++ rest →
      final.buffer = rest ∧ ∃ last, parsePackets plist parser packets = some (last, events) ∧
        final.deviceNumToId = last.deviceNumToId

theorem incomplete_nextFrame {rest : List UInt8} (incomplete : Incomplete rest) :
    packetHeader.nextFrame rest = none := by
  cases cut : packetHeader.nextFrame rest with
  | none => rfl
  | some pair =>
      obtain ⟨declared, _, shape⟩ := Header.nextFrame_eq_some.mp cut
      have short := incomplete _ declared
      rw [shape, List.length_append] at short
      omega

/-- A stream that declares no empty packet is read alike however it is cut,
exactly when none of its packets panics. -/
theorem onRecv_boundaryFree_iff (reachable : Reachable plist parser) {stream : List UInt8}
    (declares : ¬packetHeader.Stalled (parser.buffer ++ stream)) :
    BoundaryFree plist parser stream ↔
      ∀ packet ∈ packetHeader.frames (parser.buffer ++ stream), ¬Unsplittable plist packet := by
  have framed := reachable.framed.extend stream
  constructor
  · rintro ⟨final, events, receives, _⟩ packet member crosses
    have panics : Receives plist parser stream none :=
      (panics_iff framed []).mpr ⟨packet, member, crosses⟩
    cases receives.unique panics
  · intro splits
    obtain ⟨outcome, receives⟩ : Terminates (recvTurn plist) (parser.extend stream, []) :=
      (terminates_iff framed []).mpr (.inl declares)
    cases outcome with
    | none =>
        obtain ⟨packet, member, crosses⟩ := (panics_iff framed []).mp receives
        exact absurd crosses (splits packet member)
    | some reached =>
        obtain ⟨final, events⟩ := reached
        refine ⟨final, events, receives, ?_, ?_⟩
        · rintro chunks rfl outcome
          rw [feeds_iff_receives reachable.framed reachable.settled declares]
          exact ⟨fun ends => receives.unique ends, fun same => same ▸ receives⟩
        · intro packets rest whole incomplete shape
          obtain ⟨buffered, last, parsed, known⟩ := ends_packets framed receives
          have cut : packetHeader.split (parser.buffer ++ stream) = (packets, rest) := by
            rw [shape]
            refine Header.split_flatten ?_ (incomplete_nextFrame incomplete)
            intro packet member
            obtain ⟨long, declared⟩ := whole packet member
            exact ⟨by rintro rfl; simp at long, declared⟩
          have packetsCut : packetHeader.frames (parser.extend stream).buffer = packets :=
            congrArg Prod.fst cut
          have restCut : packetHeader.tail (parser.extend stream).buffer = rest :=
            congrArg Prod.snd cut
          rw [restCut] at buffered
          rw [packetsCut, parsePackets_congr parser (parser.extend stream) rfl] at parsed
          obtain ⟨⟨own, sent⟩, read, same⟩ := Option.map_eq_some_iff.mp parsed
          cases same
          exact ⟨buffered, own, read, known⟩

/-- A reader of property lists that knows the documents of two devices. -/
def knowsDevices : PlistCrate where
  fromBytes bytes :=
    if bytes = (attachedDocument plainSerial).toUTF8.data.toList then
      .ok (attachedMessage 3 plainSerial)
    else (knowsDevice crossingSerial).fromBytes bytes
  toWriterBinary _ := []

theorem split_samplePackets :
    packetHeader.split (plainPacket ++ crossingPacket) = ([plainPacket, crossingPacket], []) ∧
      packetHeader.split plainPacket = ([plainPacket], []) := by
  obtain ⟨plainBound, crossingBound⟩ := sampleDocument_bounds
  have both := split_plistPackets [attachedDocument plainSerial, attachedDocument crossingSerial]
    (by simpa using ⟨plainBound, crossingBound⟩) [] rfl
  have one := split_plistPackets [attachedDocument plainSerial] (by simpa using plainBound) [] rfl
  simp only [List.map_cons, List.map_nil, List.flatten_cons, List.flatten_nil,
    List.append_nil] at both one
  exact ⟨both, one⟩

theorem packetMessage_plainPacket :
    packetMessage knowsDevices plainPacket = some (attachedMessage 3 plainSerial) := by
  rw [plainPacket, packetMessage_plistPacket _ sampleDocument_bounds.1]
  simp [knowsDevices, Except.toOption]

theorem packetMessage_crossingPacket :
    packetMessage knowsDevices crossingPacket = some (attachedMessage 3 crossingSerial) := by
  have apart : (attachedDocument crossingSerial).toUTF8.data.toList ≠
      (attachedDocument plainSerial).toUTF8.data.toList := by decide +kernel
  rw [crossingPacket, packetMessage_plistPacket _ sampleDocument_bounds.2]
  simp only [knowsDevices, knowsDevice, singleDocument, if_neg apart, if_true, Except.toOption]

theorem unsplittable_crossingPacket : Unsplittable knowsDevices crossingPacket :=
  ⟨_, crossingSerial, packetMessage_crossingPacket, rfl, standardSerial_eq_none.mp (by decide)⟩

theorem not_stalled_samplePackets :
    ¬packetHeader.Stalled (plainPacket ++ crossingPacket) ∧
      ¬packetHeader.Stalled plainPacket := by
  obtain ⟨both, one⟩ := split_samplePackets
  simp only [Header.Stalled, Header.tail, both, one]
  constructor <;>
  · intro stalled
    cases stalled

theorem onRecv_boundaryFree_iff_plain :
    BoundaryFree knowsDevices new plainPacket ↔
      ∀ packet ∈ packetHeader.frames (new.buffer ++ plainPacket),
        ¬Unsplittable knowsDevices packet := by
  refine onRecv_boundaryFree_iff (new_reachable _) ?_
  rw [new_buffer_append]
  exact not_stalled_samplePackets.2

theorem parseMessage_attached {dict props : Dictionary}
    (kind : messageType dict = "Attached")
    (inner : (dict.get "Properties").bind Value.asDictionary = some props) :
    parser.parseMessage (.dictionary dict) = (attachedId props).map fun deviceId =>
      ({ parser with deviceNumToId := parser.deviceNumToId.assign (attachedNum props) deviceId },
        .ok (some (.attached deviceId (asI32 (attachedNum props))))) := by
  simp only [parseMessage, Value.asDictionary, kind, parseAttached, inner]

theorem parseMessage_plain (parser : DeviceListenerParser) :
    parser.parseMessage (attachedMessage 3 plainSerial) =
      some ({ parser with
          deviceNumToId := parser.deviceNumToId.assign 3 "00008030-001A2B3C4D5E802E" },
        .ok (some (.attached "00008030-001A2B3C4D5E802E" 3))) := by
  have dashed : standardSerial plainSerial = some "00008030-001A2B3C4D5E802E" := by decide
  have signed : asI32 3 = 3 := by decide
  refine (parseMessage_attached rfl rfl).trans ?_
  change (standardSerial plainSerial).map _ = _
  rw [dashed, ← signed]
  rfl

theorem receives_of_packets (framed : parser.Framed) {data rest : List UInt8}
    {packets : List (List UInt8)} {last : DeviceListenerParser} {events : List DeviceEvent}
    (cut : packetHeader.split (parser.buffer ++ data) = (packets, rest))
    (moving : declaredLength rest ≠ some 0)
    (parsed : parsePackets plist (parser.extend data) packets = some (last, events)) :
    ∃ final, Receives plist parser data (some (final, events)) := by
  have loop := recvLoop_packets plist (framed.extend data) []
  have packetsCut : packetHeader.frames (parser.extend data).buffer = packets :=
    congrArg Prod.fst cut
  rw [packetsCut, parsed] at loop
  have moves : ¬packetHeader.Stalled (parser.extend data).buffer := by
    rw [Header.Stalled, Header.tail, extend, cut]
    exact moving
  obtain ⟨settled, _, _, ends⟩ := loop.2 moves
  exact ⟨settled, ends⟩

theorem parsePackets_singleton {packet : List UInt8} {next : DeviceListenerParser}
    {result : Except Error (Option DeviceEvent)}
    (parsed : parsePacket plist parser packet = some (next, result)) :
    parsePackets plist parser [packet] = some (next, sentEvents result) := by
  simp [parsePackets, parsed]

theorem receives_plainPacket :
    ∃ middle, Receives knowsDevices new plainPacket
      (some (middle, [.attached "00008030-001A2B3C4D5E802E" 3])) := by
  have cut : packetHeader.split (new.buffer ++ plainPacket) = ([plainPacket], []) := by
    rw [new_buffer_append]
    exact split_samplePackets.2
  have parsed := (parsePacket_message packetMessage_plainPacket (new.extend plainPacket)).trans
    (parseMessage_plain _)
  exact receives_of_packets (framed_of_unread rfl) cut nofun (parsePackets_singleton parsed)

/-- The event of a packet is given when the packet comes alone, and lost when it
comes together with one that panics. -/
theorem onRecv_loses_event :
    ¬packetHeader.Stalled (plainPacket ++ crossingPacket) ∧
      (∃ middle, Receives knowsDevices new plainPacket
        (some (middle, [.attached "00008030-001A2B3C4D5E802E" 3]))) ∧
      Receives knowsDevices new (plainPacket ++ crossingPacket) none ∧
      ¬BoundaryFree knowsDevices new (plainPacket ++ crossingPacket) := by
  have panics : Receives knowsDevices new (plainPacket ++ crossingPacket) none := by
    refine (panics_iff ((framed_of_unread rfl : Framed new).extend _) []).mpr
      ⟨crossingPacket, ?_, unsplittable_crossingPacket⟩
    rw [extend, new_buffer_append, Header.frames, split_samplePackets.1]
    simp
  refine ⟨not_stalled_samplePackets.1, receives_plainPacket, panics, ?_⟩
  rintro ⟨final, events, receives, _⟩
  cases receives.unique panics

end DeviceListenerParser

end IosWebkitDebugProxy
