import IosWebkitDebugProxy.ListenerFrames

/-! When a call of `on_recv` ends. Every turn over a packet takes bytes off the
buffer, and a header that declares no bytes at all is read for ever. -/

namespace IosWebkitDebugProxy

open Plist Iteration

namespace DeviceListenerParser

variable {plist : PlistCrate} {parser : DeviceListenerParser}

theorem Feeds.keeps {chunks : List (List UInt8)} {final : DeviceListenerParser}
    {events : List DeviceEvent} (framed : parser.Framed) (settled : Settled plist parser)
    (feeds : Feeds plist parser chunks (some (final, events))) :
    final.Framed ∧ Settled plist final := by
  generalize finish : some (final, events) = outcome at feeds
  induction feeds generalizing events with
  | nil =>
      cases finish
      exact ⟨framed, settled⟩
  | panics => cases finish
  | cons receives _ ih =>
      rename_i outcome _
      obtain ⟨holds, stays, _⟩ := ends_extend (framed.extend _) receives
      cases outcome with
      | none => cases finish
      | some reached =>
          cases finish
          exact ih holds stays rfl

theorem Reachable.framed (reachable : Reachable plist parser) : parser.Framed := by
  obtain ⟨chunks, events, feeds⟩ := reachable
  exact (feeds.keeps (framed_of_unread rfl) fun _ => rfl).1

theorem Reachable.settled (reachable : Reachable plist parser) : Settled plist parser := by
  obtain ⟨chunks, events, feeds⟩ := reachable
  exact (feeds.keeps (framed_of_unread rfl) fun _ => rfl).2

def parsePackets (plist : PlistCrate) (parser : DeviceListenerParser) :
    List (List UInt8) → Option (DeviceListenerParser × List DeviceEvent)
  | [] => some (parser, [])
  | packet :: later =>
      match parser.parsePacket plist packet with
      | none => none
      | some (next, result) =>
          (parsePackets plist next later).map fun (final, events) =>
            (final, sentEvents result ++ events)

theorem parsePackets_congr (parser other : DeviceListenerParser)
    (same : parser.deviceNumToId = other.deviceNumToId) (packets : List (List UInt8)) :
    parsePackets plist other packets =
      (parsePackets plist parser packets).map fun (final, events) =>
        ({ other with deviceNumToId := final.deviceNumToId }, events) := by
  induction packets generalizing parser other with
  | nil => simp [parsePackets, same]
  | cons packet later ih =>
      simp only [parsePackets, parsePacket_congr plist parser other same]
      cases parsePacket plist parser packet with
      | none => rfl
      | some reached =>
          obtain ⟨next, result⟩ := reached
          simp only [Option.map_some]
          rw [ih next { other with deviceNumToId := next.deviceNumToId } rfl]
          cases parsePackets plist next later <;> rfl

theorem parsePackets_eq_none (plist : PlistCrate) (parser : DeviceListenerParser)
    (packets : List (List UInt8)) :
    parsePackets plist parser packets = none ↔
      ∃ packet ∈ packets, Unsplittable plist packet := by
  induction packets generalizing parser with
  | nil => simp [parsePackets]
  | cons packet later ih =>
      simp only [parsePackets, List.mem_cons, exists_eq_or_imp,
        ← parsePacket_eq_none plist parser packet]
      cases parsePacket plist parser packet with
      | none => simp
      | some reached => simp [ih]

theorem recvLoop_packets (plist : PlistCrate) (framed : parser.Framed) (events : List DeviceEvent) :
    match parsePackets plist parser (packetHeader.frames parser.buffer) with
    | none => Ends (recvTurn plist) (parser, events) none
    | some (final, sent) =>
        (packetHeader.Stalled parser.buffer → ¬Terminates (recvTurn plist) (parser, events)) ∧
          (¬packetHeader.Stalled parser.buffer →
            ∃ settled, settled.deviceNumToId = final.deviceNumToId ∧
              settled.buffer = packetHeader.tail parser.buffer ∧
              Ends (recvTurn plist) (parser, events) (some (settled, events ++ sent))) := by
  generalize stream : parser.buffer = buffer
  unfold Header.Stalled Header.tail Header.frames
  induction buffer using Header.split.induct packetHeader generalizing parser events with
  | case1 buffer cut =>
      subst stream
      simp only [Header.split_none cut, parsePackets, List.append_nil]
      constructor
      · intro zero
        refine not_terminates_of_fixed
          (fun state => state.1.Framed ∧ declaredLength state.1.buffer = some 0) ?_ ⟨framed, zero⟩
        rintro ⟨stuck, sent⟩ ⟨holds, none⟩
        exact ⟨_, recvTurn_zero holds none sent, framed_of_unread rfl, none⟩
      · intro declares
        obtain ⟨settled, _, buffered, known, stops⟩ := recvTurn_incomplete framed cut declares
        exact ⟨settled, known, buffered, .done (stops events)⟩
  | case2 buffer packet rest cut ih =>
      subst stream
      have turn := recvTurn_packet plist framed cut events
      simp only [Header.split_some cut, parsePackets]
      cases parsed : parsePacket plist parser packet with
      | none =>
          rw [parsed] at turn
          exact .done turn
      | some reached =>
          obtain ⟨next, result⟩ := reached
          rw [parsed] at turn
          have later := ih (framed_of_unread rfl) (events ++ sentEvents result)
            (rfl : (⟨next.deviceNumToId, rest, false, packet.length⟩ :
              DeviceListenerParser).buffer = rest)
          rw [parsePackets_congr next ⟨next.deviceNumToId, rest, false, packet.length⟩ rfl] at later
          simp only [Header.frames, Header.tail]
          cases finished : parsePackets plist next (packetHeader.split rest).1 with
          | none =>
              rw [finished] at later
              exact .again turn later
          | some sequel =>
              obtain ⟨final, sent⟩ := sequel
              simp only [finished, Option.map_some, List.append_assoc] at later
              rw [terminates_again turn]
              refine ⟨later.1, fun moving => ?_⟩
              obtain ⟨settled, known, buffered, ends⟩ := later.2 moving
              exact ⟨settled, known, buffered, .again turn ends⟩

theorem terminates_iff (framed : parser.Framed) (events : List DeviceEvent) :
    Terminates (recvTurn plist) (parser, events) ↔
      ¬packetHeader.Stalled parser.buffer ∨
        ∃ packet ∈ packetHeader.frames parser.buffer, Unsplittable plist packet := by
  have loop := recvLoop_packets plist framed events
  rw [← parsePackets_eq_none plist parser]
  cases parsed : parsePackets plist parser (packetHeader.frames parser.buffer) with
  | none =>
      rw [parsed] at loop
      exact iff_of_true ⟨none, loop⟩ (.inr rfl)
  | some reached =>
      rw [parsed] at loop
      obtain ⟨stuck, settles⟩ := loop
      simp only [reduceCtorEq, or_false]
      constructor
      · exact fun ends stalled => stuck stalled ends
      · intro moving
        obtain ⟨_, _, _, ends⟩ := settles moving
        exact ⟨_, ends⟩

theorem panics_iff (framed : parser.Framed) (events : List DeviceEvent) :
    Ends (recvTurn plist) (parser, events) none ↔
      ∃ packet ∈ packetHeader.frames parser.buffer, Unsplittable plist packet := by
  have loop := recvLoop_packets plist framed events
  rw [← parsePackets_eq_none plist parser]
  cases parsed : parsePackets plist parser (packetHeader.frames parser.buffer) with
  | none =>
      rw [parsed] at loop
      exact iff_of_true loop rfl
  | some reached =>
      rw [parsed] at loop
      refine iff_of_false (fun panics => ?_) (by simp)
      by_cases stalled : packetHeader.Stalled parser.buffer
      · exact loop.1 stalled ⟨none, panics⟩
      · obtain ⟨_, _, _, ends⟩ := loop.2 stalled
        cases ends.unique panics

theorem turns_shorten (framed : parser.Framed) (events : List DeviceEvent)
    (ends : Terminates (recvTurn plist) (parser, events))
    {state next : DeviceListenerParser × List DeviceEvent}
    (visits : Visits (recvTurn plist) (parser, events) state)
    (goes : recvTurn plist state = .inl next) :
    next.1.buffer.length < state.1.buffer.length := by
  generalize stream : parser.buffer = buffer
  induction buffer using Header.split.induct packetHeader generalizing parser events with
  | case1 buffer cut =>
      subst stream
      have declares : declaredLength parser.buffer ≠ some 0 := by
        rcases (terminates_iff framed events).mp ends with moving | ⟨packet, member, _⟩
        · rw [Header.Stalled, Header.tail, Header.split_none cut] at moving
          exact moving
        · simp [Header.frames, Header.split_none cut] at member
      obtain ⟨settled, _, _, _, stops⟩ := recvTurn_incomplete framed cut declares
      rw [(visits_done (stops events)).mp visits, stops] at goes
      cases goes
  | case2 buffer packet rest cut ih =>
      subst stream
      have turn := recvTurn_packet plist framed cut events
      cases parsed : parsePacket plist parser packet with
      | none =>
          rw [parsed] at turn
          rw [(visits_done turn).mp visits, turn] at goes
          cases goes
      | some reached =>
          rw [parsed] at turn
          rcases (visits_again turn).mp visits with rfl | later
          · rw [turn] at goes
            cases goes
            exact Header.nextFrame_shorter cut
          · exact ih (framed_of_unread rfl) _ ((terminates_again turn).mp ends) later rfl

/-- A call ends, and each turn that does not end it takes bytes off the buffer. -/
def Progresses (plist : PlistCrate) (parser : DeviceListenerParser) (data : List UInt8) : Prop :=
  Terminates (recvTurn plist) (parser.extend data, []) ∧
    ∀ state next, Visits (recvTurn plist) (parser.extend data, []) state →
      recvTurn plist state = .inl next → next.1.buffer.length < state.1.buffer.length

/-- A call ends exactly when no header among the buffered and the received bytes
declares no bytes, or the call panics over a packet before that header. -/
theorem onRecv_progresses_iff (reachable : Reachable plist parser) (data : List UInt8) :
    Progresses plist parser data ↔
      ¬packetHeader.Stalled (parser.buffer ++ data) ∨
        ∃ packet ∈ packetHeader.frames (parser.buffer ++ data), Unsplittable plist packet := by
  have framed := reachable.framed.extend data
  constructor
  · rintro ⟨ends, _⟩
    exact (terminates_iff framed []).mp ends
  · intro bounded
    have ends := (terminates_iff framed []).mpr bounded
    exact ⟨ends, fun _ _ => turns_shorten framed [] ends⟩

theorem new_reachable (plist : PlistCrate) : Reachable plist new := ⟨[], [], .nil⟩

def singleDocument (document : String) (value : Value) : PlistCrate where
  fromBytes bytes :=
    if bytes = document.toUTF8.data.toList then .ok value else .error "InvalidPlist"
  toWriterBinary _ := []

theorem onRecv_progresses_iff_short :
    Progresses (singleDocument "" (.boolean true)) new [7, 0, 0, 0, 1, 2, 3, 9, 0] ↔
      ¬packetHeader.Stalled [7, 0, 0, 0, 1, 2, 3, 9, 0] ∨
        ∃ packet ∈ packetHeader.frames [7, 0, 0, 0, 1, 2, 3, 9, 0],
          Unsplittable (singleDocument "" (.boolean true)) packet :=
  onRecv_progresses_iff (new_reachable _) _

/-- A header of four zero bytes is never finished with. -/
theorem onRecv_not_progresses :
    ¬∀ plist parser data, Reachable plist parser → Progresses plist parser data := by
  intro progresses
  have ends := progresses (singleDocument "" (.boolean true)) new [0, 0, 0, 0] (new_reachable _)
  have zero : packetHeader.nextFrame [0, 0, 0, 0] = none := rfl
  rcases (onRecv_progresses_iff (new_reachable _) _).mp ends with moving | ⟨packet, member, _⟩
  · refine moving ?_
    change packetHeader.declared (packetHeader.split [0, 0, 0, 0]).2 = some 0
    rw [Header.split_none zero]
    rfl
  · change packet ∈ (packetHeader.split [0, 0, 0, 0]).1 at member
    rw [Header.split_none zero] at member
    cases member

end DeviceListenerParser

end IosWebkitDebugProxy
