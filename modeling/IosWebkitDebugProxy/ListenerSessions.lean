import IosWebkitDebugProxy.ListenerTask

/-! What the main loop learns from the listener task, over any run: what the listener
tells of the messages of the earlier connections, and of a front of the messages of
the current one. -/

namespace IosWebkitDebugProxy

open Plist

namespace DeviceListenerParser

variable {plist : PlistCrate} {parser : DeviceListenerParser}

/-- Waiting for bytes, the parser holds the beginning of one packet at most. -/
def Waits (parser : DeviceListenerParser) : Prop :=
  packetHeader.nextFrame parser.buffer = none ∧ declaredLength parser.buffer ≠ some 0

theorem Waits.frames_eq (waits : parser.Waits) : packetHeader.frames parser.buffer = [] := by
  rw [Header.frames, Header.split_none waits.1]

theorem Waits.tail_eq (waits : parser.Waits) : packetHeader.tail parser.buffer = parser.buffer := by
  rw [Header.tail, Header.split_none waits.1]

/-- What a turn of the loop does: it reads a packet, panics over it, passes over an
empty one, or stops. -/
inductive Turns (plist : PlistCrate) (parser : DeviceListenerParser) (events : List DeviceEvent) :
    Prop
  | packet {packet rest next result} :
      packetHeader.nextFrame parser.buffer = some (packet, rest) →
      parsePacket plist parser packet = some (next, result) →
      recvTurn plist (parser, events) =
        .inl (⟨next.deviceNumToId, rest, false, packet.length⟩, events ++ sentEvents result) →
      Turns plist parser events
  | panics {packet rest} :
      packetHeader.nextFrame parser.buffer = some (packet, rest) → Unsplittable plist packet →
      recvTurn plist (parser, events) = .inr none → Turns plist parser events
  | empty :
      packetHeader.nextFrame parser.buffer = none → declaredLength parser.buffer = some 0 →
      recvTurn plist (parser, events) =
        .inl ({ parser with hasLength := false, bodyLength := 0 }, events) →
      Turns plist parser events
  | stops {settled} :
      parser.Waits → settled.Framed → settled.buffer = parser.buffer →
      settled.deviceNumToId = parser.deviceNumToId →
      recvTurn plist (parser, events) = .inr (some (settled, events)) →
      Turns plist parser events

theorem turns (plist : PlistCrate) (framed : parser.Framed) (events : List DeviceEvent) :
    Turns plist parser events := by
  cases cut : packetHeader.nextFrame parser.buffer with
  | some found =>
      obtain ⟨packet, rest⟩ := found
      have turn := recvTurn_packet plist framed cut events
      cases parsed : parsePacket plist parser packet with
      | none =>
          rw [parsed] at turn
          exact .panics cut ((parsePacket_eq_none plist parser packet).mp parsed) turn
      | some reached =>
          rw [parsed] at turn
          exact .packet cut parsed turn
  | none =>
      by_cases zero : declaredLength parser.buffer = some 0
      · exact .empty cut zero (recvTurn_zero framed zero events)
      · obtain ⟨settled, holds, buffered, known, stops⟩ := recvTurn_incomplete framed cut zero
        exact .stops ⟨cut, zero⟩ holds buffered known (stops events)

theorem parsePackets_snoc {reached next : DeviceListenerParser} {packets : List (List UInt8)}
    {packet : List UInt8} {events : List DeviceEvent}
    {result : Except Error (Option DeviceEvent)}
    (before : parsePackets plist parser packets = some (reached, events))
    (parsed : parsePacket plist reached packet = some (next, result)) :
    parsePackets plist parser (packets ++ [packet]) = some (next, events ++ sentEvents result) := by
  induction packets generalizing parser events with
  | nil =>
      cases before
      simp [parsePackets, parsed]
  | cons first later ih =>
      rw [parsePackets] at before
      rw [List.cons_append, parsePackets]
      cases read : parsePacket plist parser first with
      | none => simp [read] at before
      | some found =>
          obtain ⟨middle, told⟩ := found
          simp only [read, Option.map_eq_some_iff] at before
          obtain ⟨⟨final, sent⟩, rest, same⟩ := before
          cases same
          simp only [ih rest, Option.map_some, List.append_assoc]

/-- A session read packet by packet is the session of the messages in the packets. -/
theorem processAll_packets {packets : List (List UInt8)} {final : DeviceListenerParser}
    {events : List DeviceEvent}
    (parsed : parsePackets plist parser packets = some (final, events)) :
    parser.processAll (packets.filterMap (packetMessage plist)) = some (final, events) := by
  induction packets generalizing parser events with
  | nil => exact parsed
  | cons packet later ih =>
      rw [parsePackets] at parsed
      rcases parsePacket_cases plist packet with ⟨unread, refused, silent, passed⟩ | ⟨message, read, reads⟩
      · simp only [passed, silent, Option.map_eq_some_iff] at parsed
        obtain ⟨⟨reached, sent⟩, rest, same⟩ := parsed
        cases same
        rw [List.filterMap_cons_none unread]
        exact ih rest
      · rw [reads] at parsed
        rw [List.filterMap_cons_some read, processAll]
        cases told : parser.parseMessage message with
        | none => simp [told] at parsed
        | some found =>
            obtain ⟨next, result⟩ := found
            simp only [told, Option.map_eq_some_iff] at parsed
            obtain ⟨⟨reached, sent⟩, rest, same⟩ := parsed
            cases same
            simp only [ih rest, Option.map_some]

theorem sentEvents_length (result : Except Error (Option DeviceEvent)) :
    (sentEvents result).length ≤ 1 := by
  unfold sentEvents
  split <;> simp

/-- Each message gives one event at most, so what was told at any moment is what some
front of the messages tells. -/
theorem processAll_front {messages : List Value} {final : DeviceListenerParser}
    {first second : List DeviceEvent}
    (processed : parser.processAll messages = some (final, first ++ second)) :
    ∃ read, read <+: messages ∧ ∃ middle, parser.processAll read = some (middle, first) := by
  induction messages generalizing parser first with
  | nil =>
      simp only [processAll, Option.some.injEq, Prod.mk.injEq] at processed
      obtain ⟨-, none⟩ := processed
      obtain ⟨rfl, -⟩ := List.append_eq_nil_iff.mp none.symm
      exact ⟨[], List.nil_prefix, parser, rfl⟩
  | cons message later ih =>
      cases first with
      | nil => exact ⟨[], List.nil_prefix, parser, rfl⟩
      | cons event more =>
          rw [processAll] at processed
          cases told : parser.parseMessage message with
          | none => simp [told] at processed
          | some found =>
              obtain ⟨next, result⟩ := found
              simp only [told, Option.map_eq_some_iff, Prod.mk.injEq] at processed
              obtain ⟨⟨reached, sent⟩, rest, rfl, same⟩ := processed
              have short := sentEvents_length result
              obtain ⟨front, initial, middle, ran⟩ :
                  ∃ front, front <+: later ∧ ∃ middle sent, next.processAll front = some (middle, sent) ∧
                    sentEvents result ++ sent = event :: more := by
                generalize sentEvents result = told at short same ⊢
                rcases told with _ | ⟨only, _ | ⟨other, others⟩⟩
                · rw [List.nil_append] at same
                  subst same
                  obtain ⟨front, initial, middle, ran⟩ := @ih next (event :: more) rest
                  exact ⟨front, initial, middle, _, ran, rfl⟩
                · simp only [List.cons_append, List.cons.injEq] at same
                  obtain ⟨rfl, rfl⟩ := same
                  obtain ⟨front, initial, middle, ran⟩ := ih rest
                  exact ⟨front, initial, middle, _, ran, rfl⟩
                · simp at short
              obtain ⟨sent, ran, joined⟩ := ran
              refine ⟨message :: front, List.cons_prefix_cons.mpr ⟨rfl, initial⟩, middle, ?_⟩
              simp only [processAll, told, ran, Option.map_some, joined]

/-- Where the parser is in what a connection delivered: these are the events of the
packets behind it. -/
structure Behind (plist : PlistCrate) (parser : DeviceListenerParser) (received : List UInt8)
    (events : List DeviceEvent) : Prop where
  framed : parser.Framed
  packets : ∃ packets reached,
    packetHeader.frames received = packets ++ packetHeader.frames parser.buffer ∧
      parsePackets plist new packets = some (reached, events) ∧
      reached.deviceNumToId = parser.deviceNumToId
  tail : packetHeader.tail received = packetHeader.tail parser.buffer

theorem behind_start (plist : PlistCrate) : Behind plist new [] [] :=
  ⟨framed_of_unread rfl, ⟨[], new, rfl, rfl, rfl⟩, rfl⟩

theorem waits_new : new.Waits := ⟨rfl, by simp [new, declaredLength, readU32]⟩

variable {received : List UInt8} {events : List DeviceEvent}

theorem Behind.read (behind : Behind plist parser received events) (waits : parser.Waits)
    (bytes : List UInt8) : Behind plist (parser.extend bytes) (received ++ bytes) events := by
  obtain ⟨packets, reached, cut, parsed, known⟩ := behind.packets
  refine ⟨behind.framed.extend bytes, ⟨packets, reached, ?_, parsed, known⟩, ?_⟩
  · rw [Header.frames_append, cut, behind.tail, waits.tail_eq, waits.frames_eq, List.append_nil]
    rfl
  · rw [Header.tail_append, behind.tail, waits.tail_eq]
    rfl

theorem Behind.packet (behind : Behind plist parser received events) {packet rest : List UInt8}
    {next : DeviceListenerParser} {result : Except Error (Option DeviceEvent)}
    (cut : packetHeader.nextFrame parser.buffer = some (packet, rest))
    (read : parsePacket plist parser packet = some (next, result)) :
    Behind plist ⟨next.deviceNumToId, rest, false, packet.length⟩ received
      (events ++ sentEvents result) := by
  obtain ⟨packets, reached, frames, parsed, known⟩ := behind.packets
  have again := parsePacket_congr plist parser reached known.symm packet
  rw [read, Option.map_some] at again
  refine ⟨framed_of_unread rfl, ⟨packets ++ [packet], _, ?_, parsePackets_snoc parsed again, rfl⟩, ?_⟩
  · rw [frames, Header.frames, Header.split_some cut, List.append_assoc]
    rfl
  · rw [behind.tail, Header.tail, Header.split_some cut]

theorem Behind.congr (behind : Behind plist parser received events) {other : DeviceListenerParser}
    (framed : other.Framed) (buffered : other.buffer = parser.buffer)
    (known : other.deviceNumToId = parser.deviceNumToId) :
    Behind plist other received events := by
  obtain ⟨packets, reached, frames, parsed, same⟩ := behind.packets
  refine ⟨framed, ⟨packets, reached, ?_, parsed, same.trans known.symm⟩, ?_⟩
  · rw [frames, buffered]
  · rw [behind.tail, buffered]

theorem Behind.whole (behind : Behind plist parser received events) (waits : parser.Waits) :
    ∃ final, parsePackets plist new (packetHeader.frames received) = some (final, events) := by
  obtain ⟨packets, reached, frames, parsed, _⟩ := behind.packets
  rw [frames, waits.frames_eq, List.append_nil]
  exact ⟨reached, parsed⟩

theorem Behind.splittable (behind : Behind plist parser received events) (waits : parser.Waits) :
    ∀ packet ∈ packetHeader.frames received, ¬Unsplittable plist packet := by
  intro packet member unsplittable
  obtain ⟨final, parsed⟩ := behind.whole waits
  have panics := (parsePackets_eq_none plist new _).mpr ⟨packet, member, unsplittable⟩
  rw [panics] at parsed
  cases parsed

theorem Behind.moving (behind : Behind plist parser received events) (waits : parser.Waits) :
    ¬packetHeader.Stalled received := by
  rw [Header.Stalled, behind.tail, waits.tail_eq]
  exact waits.2

end DeviceListenerParser

open DeviceListenerParser

def sessionMessages (plist : PlistCrate) (received : List UInt8) : List Value :=
  (packetHeader.frames received).filterMap (packetMessage plist)

theorem sessionMessages_nil (plist : PlistCrate) : sessionMessages plist [] = [] := by
  have none : packetHeader.frames [] = [] := waits_new.frames_eq
  rw [sessionMessages, none]
  rfl

theorem spawnDeviceListener_snoc {past : List (List Value)} {session : List Value}
    {final : DeviceListenerParser} {earlier sent : List DeviceEvent}
    (before : spawnDeviceListener past = some earlier)
    (processed : DeviceListenerParser.new.processAll session = some (final, sent)) :
    spawnDeviceListener (past ++ [session]) = some (earlier ++ sent) := by
  simp [spawnDeviceListener_append, before, spawnDeviceListener, processed]

namespace ListenSession

/-- The request comes first, and nothing is read before the whole of it is written. -/
def Asked (session : ListenSession) : Prop :=
  session.request <+: createListenPacket ∧
    (session.received ≠ [] → session.request = createListenPacket)

/-- No packet of the connection panics, and no header in it declares no bytes. -/
def Clean (plist : PlistCrate) (session : ListenSession) : Prop :=
  ¬packetHeader.Stalled session.received ∧
    ∀ packet ∈ packetHeader.frames session.received, ¬Unsplittable plist packet

theorem clean_empty (plist : PlistCrate) : Clean plist ⟨[], []⟩ :=
  ⟨(behind_start plist).moving waits_new, (behind_start plist).splittable waits_new⟩

theorem asked_whole {session : ListenSession} (whole : session.request = createListenPacket) :
    session.Asked := by
  refine ⟨?_, fun _ => whole⟩
  rw [whole]

theorem asked_empty : Asked ⟨[], []⟩ := ⟨List.nil_prefix, nofun⟩

end ListenSession

def ListenPhase.AtRest : ListenPhase → Bool
  | .checking => true
  | .connecting => true
  | .asking _ => true
  | .reading _ => true
  | .waiting => true
  | _ => false

namespace ListenerTask

variable {plist : PlistCrate} {task after : ListenerTask}

def told (task : ListenerTask) : List DeviceEvent := task.taken ++ task.channel.items

def pastMessages (plist : PlistCrate) (task : ListenerTask) : List (List Value) :=
  task.past.map fun session => sessionMessages plist session.received

/-- What was told comes from the earlier connections and from the packets behind the
parser, whose last events are still to be sent. -/
def Owes (plist : PlistCrate) (task : ListenerTask) (parser : DeviceListenerParser)
    (pending : List DeviceEvent) : Prop :=
  ∃ earlier sent, spawnDeviceListener (task.pastMessages plist) = some earlier ∧
    task.told = earlier ++ sent ∧ Behind plist parser task.current.received (sent ++ pending)

def Tells (plist : PlistCrate) (task : ListenerTask) : Prop :=
  ∃ read, read <+: sessionMessages plist task.current.received ∧
    spawnDeviceListener (task.pastMessages plist ++ [read]) = some task.told

def Accounts (plist : PlistCrate) (task : ListenerTask) : Prop :=
  match task.phase with
  | .checking | .connecting | .waiting =>
      task.current = ⟨[], []⟩ ∧ spawnDeviceListener (task.pastMessages plist) = some task.told
  | .asking rest =>
      rest ≠ [] ∧ task.current.request ++ rest = createListenPacket ∧ task.current.received = [] ∧
        spawnDeviceListener (task.pastMessages plist) = some task.told
  | .reading parser =>
      task.current.request = createListenPacket ∧ parser.Waits ∧ task.Owes plist parser []
  | .receiving parser events =>
      task.current.request = createListenPacket ∧ task.Owes plist parser events
  | .sending parser events =>
      task.current.request = createListenPacket ∧ parser.Waits ∧ events ≠ [] ∧
        task.Owes plist parser events
  | .returned =>
      task.current.Asked ∧ task.current.Clean plist ∧ task.Tells plist ∧
        (task.cancelled ∨ task.receiverGone)
  | .panicked =>
      task.current.Asked ∧ task.Tells plist ∧
        ∃ packet ∈ packetHeader.frames task.current.received, Unsplittable plist packet

theorem Owes.tells {parser : DeviceListenerParser} {pending : List DeviceEvent}
    (owes : task.Owes plist parser pending) : task.Tells plist := by
  obtain ⟨earlier, sent, past, same, behind⟩ := owes
  obtain ⟨packets, reached, cut, parsed, _⟩ := behind.packets
  obtain ⟨read, initial, middle, processed⟩ := processAll_front (processAll_packets parsed)
  refine ⟨read, initial.trans ?_, ?_⟩
  · rw [sessionMessages, cut, List.filterMap_append]
    exact List.prefix_append _ _
  · rw [same]
    exact spawnDeviceListener_snoc past processed

theorem tells_unread (past : spawnDeviceListener (task.pastMessages plist) = some task.told)
    (unread : task.current.received = []) :
    spawnDeviceListener (task.pastMessages plist ++
      [sessionMessages plist task.current.received]) = some task.told := by
  have whole := @spawnDeviceListener_snoc _ [] .new _ [] past rfl
  rw [List.append_nil] at whole
  rw [unread, sessionMessages_nil]
  exact whole

theorem tells_past (past : spawnDeviceListener (task.pastMessages plist) = some task.told)
    (unread : task.current.received = []) : task.Tells plist :=
  ⟨_, List.prefix_rfl, tells_unread past unread⟩

theorem Owes.whole {parser : DeviceListenerParser} (owes : task.Owes plist parser [])
    (waits : parser.Waits) :
    spawnDeviceListener (task.pastMessages plist ++ [sessionMessages plist task.current.received]) =
      some task.told := by
  obtain ⟨earlier, sent, past, same, behind⟩ := owes
  rw [List.append_nil] at behind
  obtain ⟨final, parsed⟩ := behind.whole waits
  rw [same]
  exact spawnDeviceListener_snoc past (processAll_packets parsed)

theorem Accounts.same (accounts : task.Accounts plist) (phase : after.phase = task.phase)
    (past : after.past = task.past) (current : after.current = task.current)
    (told : after.told = task.told) (cancelled : task.cancelled → after.cancelled)
    (gone : task.receiverGone → after.receiverGone) : after.Accounts plist := by
  simp only [Accounts, Owes, Tells, pastMessages] at accounts ⊢
  rw [phase, past, current, told]
  cases stage : task.phase <;> simp only [stage] at accounts ⊢
  case returned =>
    obtain ⟨asked, clean, tells, noticed⟩ := accounts
    exact ⟨asked, clean, tells, noticed.imp cancelled gone⟩
  all_goals exact accounts

theorem accounts_check (accounts : task.Accounts plist) (stepped : task.check = some after) :
    after.Accounts plist := by
  unfold check at stepped
  cases phase : task.phase <;> simp only [phase, reduceCtorEq, Option.some.injEq] at stepped
  subst stepped
  simp only [Accounts, phase] at accounts
  obtain ⟨unconnected, past⟩ := accounts
  by_cases cancelled : task.cancelled
  · simp only [cancelled, if_true, Accounts, unconnected]
    exact ⟨ListenSession.asked_empty, ListenSession.clean_empty plist, tells_past past rfl,
      .inl trivial⟩
  · simp only [cancelled, Accounts]
    exact ⟨unconnected, past⟩

theorem createListenPacket_ne_nil : createListenPacket ≠ [] := nofun

theorem accounts_connect {succeeds : Bool} (accounts : task.Accounts plist)
    (stepped : task.connect succeeds = some after) : after.Accounts plist := by
  unfold connect at stepped
  cases phase : task.phase <;> simp only [phase, reduceCtorEq] at stepped
  simp only [Accounts, phase] at accounts
  obtain ⟨unconnected, past⟩ := accounts
  cases succeeds with
  | true =>
      cases stepped
      refine ⟨createListenPacket_ne_nil, ?_, ?_, past⟩
      · simp only [unconnected, List.nil_append]
      · simp only [unconnected]
  | false =>
      cases stepped
      exact ⟨unconnected, past⟩

theorem accounts_disconnect
    (past : spawnDeviceListener (task.pastMessages plist ++
      [sessionMessages plist task.current.received]) = some task.told) :
    task.disconnect.Accounts plist := by
  refine ⟨rfl, ?_⟩
  rw [pastMessages, disconnect, List.map_append]
  exact past

theorem accounts_write {count : Nat} (accounts : task.Accounts plist)
    (stepped : task.write count = some after) : after.Accounts plist := by
  unfold write at stepped
  cases phase : task.phase <;> simp only [phase, reduceCtorEq] at stepped
  rename_i rest
  simp only [Accounts, phase] at accounts
  obtain ⟨_, asked, unread, past⟩ := accounts
  obtain ⟨_, same⟩ := Option.ite_none_right_eq_some.mp stepped
  cases same
  by_cases finished : rest.drop count = []
  · simp only [finished, if_true, Accounts]
    refine ⟨?_, waits_new, task.told, [], past, (List.append_nil _).symm, ?_⟩
    · rw [← asked]
      rw [← List.take_append_drop count rest, finished, List.append_nil]
      simp
    · rw [unread]
      exact behind_start plist
  · simp only [finished, if_false, Accounts]
    refine ⟨finished, ?_, unread, past⟩
    rw [List.append_assoc, List.take_append_drop]
    exact asked

theorem accounts_writeFails (accounts : task.Accounts plist)
    (stepped : task.writeFails = some after) : after.Accounts plist := by
  unfold writeFails at stepped
  cases phase : task.phase <;> simp only [phase, reduceCtorEq, Option.some.injEq] at stepped
  subst stepped
  simp only [Accounts, phase] at accounts
  obtain ⟨_, _, unread, past⟩ := accounts
  exact accounts_disconnect (tells_unread past unread)

theorem accounts_lose (accounts : task.Accounts plist) (stepped : task.lose = some after) :
    after.Accounts plist := by
  unfold lose at stepped
  cases phase : task.phase <;> simp only [phase, reduceCtorEq, Option.some.injEq] at stepped
  subst stepped
  simp only [Accounts, phase] at accounts
  obtain ⟨_, waits, owes⟩ := accounts
  exact accounts_disconnect (owes.whole waits)

theorem accounts_read {count : Nat} (accounts : task.Accounts plist)
    (stepped : task.read count = some after) : after.Accounts plist := by
  unfold read at stepped
  cases phase : task.phase <;> simp only [phase, reduceCtorEq] at stepped
  simp only [Accounts, phase] at accounts
  obtain ⟨asked, waits, earlier, sent, past, told, behind⟩ := accounts
  obtain ⟨_, same⟩ := Option.ite_none_right_eq_some.mp stepped
  cases same
  exact ⟨asked, earlier, sent, past, told, behind.read waits _⟩

theorem accounts_parse (accounts : task.Accounts plist) (stepped : task.parse plist = some after) :
    after.Accounts plist := by
  unfold parse at stepped
  cases phase : task.phase <;> simp only [phase, reduceCtorEq] at stepped
  rename_i parser events
  simp only [Accounts, phase] at accounts
  obtain ⟨asked, earlier, sent, past, told, behind⟩ := accounts
  cases turns plist behind.framed events with
  | packet cut read turn =>
      simp only [turn, Option.some.injEq] at stepped
      subst stepped
      have further := behind.packet cut read
      rw [List.append_assoc] at further
      exact ⟨asked, earlier, sent, past, told, further⟩
  | panics cut unsplittable turn =>
      simp only [turn, Option.some.injEq] at stepped
      subst stepped
      obtain ⟨packets, reached, frames, _⟩ := behind.packets
      refine ⟨ListenSession.asked_whole asked, Owes.tells ⟨earlier, sent, past, told, behind⟩, _, ?_,
        unsplittable⟩
      rw [frames, Header.frames, Header.split_some cut]
      simp
  | empty _ zero turn =>
      simp only [turn, Option.some.injEq] at stepped
      subst stepped
      exact ⟨asked, earlier, sent, past, told, behind.congr (framed_of_unread rfl) rfl rfl⟩
  | stops waits framed buffered known turn =>
      simp only [turn, Option.some.injEq] at stepped
      subst stepped
      rename_i settled
      have waits : settled.Waits := by
        rw [Waits, buffered]
        exact waits
      have settles := behind.congr framed buffered known
      cases events with
      | nil => exact ⟨asked, waits, earlier, sent, past, told, settles⟩
      | cons event later =>
          exact ⟨asked, waits, List.cons_ne_nil _ _, earlier, sent, past, told, settles⟩

theorem accounts_send (accounts : task.Accounts plist) (stepped : task.send = some after) :
    after.Accounts plist := by
  unfold send at stepped
  cases phase : task.phase <;> simp only [phase, reduceCtorEq] at stepped
  rename_i parser events
  simp only [Accounts, phase] at accounts
  obtain ⟨asked, waits, _, owes⟩ := accounts
  have tells := owes.tells
  obtain ⟨earlier, sent, past, told, behind⟩ := owes
  cases events with
  | nil => cases stepped
  | cons event later =>
      simp only at stepped
      by_cases gone : task.receiverGone
      · simp only [gone, if_true, Option.some.injEq] at stepped
        subst stepped
        exact ⟨ListenSession.asked_whole asked, ⟨behind.moving waits, behind.splittable waits⟩, tells, .inr rfl⟩
      · simp only [gone, Bool.false_eq_true, if_false, Option.map_eq_some_iff] at stepped
        obtain ⟨channel, stored, same⟩ := stepped
        subst same
        have more : task.taken ++ channel.items = earlier ++ (sent ++ [event]) := by
          rw [(Channel.send_items stored).1, ← List.append_assoc, ← List.append_assoc, ← told]
          rfl
        rw [← List.singleton_append, ← List.append_assoc] at behind
        cases later with
        | nil => exact ⟨asked, waits, earlier, _, past, more, behind⟩
        | cons next others =>
            exact ⟨asked, waits, List.cons_ne_nil _ _, earlier, _, past, more, behind⟩

theorem accounts_wake (accounts : task.Accounts plist) (stepped : task.wake = some after) :
    after.Accounts plist := by
  unfold wake at stepped
  cases phase : task.phase <;> simp only [phase, reduceCtorEq, Option.some.injEq] at stepped
  subst stepped
  simp only [Accounts, phase] at accounts
  exact accounts

theorem accounts_seeCancelled (accounts : task.Accounts plist)
    (stepped : task.seeCancelled = some after) : after.Accounts plist := by
  unfold seeCancelled at stepped
  obtain ⟨cancelled, stepped⟩ := Option.ite_none_right_eq_some.mp stepped
  cases phase : task.phase <;> simp only [phase, reduceCtorEq, Option.some.injEq] at stepped <;>
    subst stepped <;> simp only [Accounts, phase] at accounts
  case reading =>
    obtain ⟨asked, waits, owes⟩ := accounts
    have tells := owes.tells
    obtain ⟨_, _, _, _, behind⟩ := owes
    exact ⟨ListenSession.asked_whole asked, ⟨behind.moving waits, behind.splittable waits⟩, tells,
      .inl cancelled⟩
  case waiting =>
    obtain ⟨unconnected, past⟩ := accounts
    simp only [Accounts, unconnected]
    exact ⟨ListenSession.asked_empty, ListenSession.clean_empty plist, tells_past past rfl,
      .inl cancelled⟩

theorem accounts_take (accounts : task.Accounts plist) (stepped : task.take = some after) :
    after.Accounts plist := by
  unfold take at stepped
  split at stepped
  · cases stepped
  · obtain ⟨⟨event, channel⟩, received, same⟩ := Option.map_eq_some_iff.mp stepped
    subst same
    refine accounts.same rfl rfl rfl ?_ id id
    rw [told, told, Channel.recv_items received, List.append_assoc, List.singleton_append]

theorem accounts_step (accounts : task.Accounts plist) (action : ListenAction) :
    (task.step plist action).Accounts plist := by
  unfold step
  cases stepped : task.next plist action with
  | none => exact accounts
  | some after =>
      rw [Option.getD_some]
      cases action with
      | check => exact accounts_check accounts stepped
      | connect => exact accounts_connect accounts stepped
      | write => exact accounts_write accounts stepped
      | writeFails => exact accounts_writeFails accounts stepped
      | deliver =>
          obtain ⟨_, same⟩ := Option.ite_none_right_eq_some.mp stepped
          cases same
          exact accounts.same rfl rfl rfl rfl id id
      | read => exact accounts_read accounts stepped
      | lose => exact accounts_lose accounts stepped
      | parse => exact accounts_parse accounts stepped
      | send => exact accounts_send accounts stepped
      | wake => exact accounts_wake accounts stepped
      | cancel =>
          cases stepped
          exact accounts.same rfl rfl rfl rfl (fun _ => rfl) id
      | seeCancelled => exact accounts_seeCancelled accounts stepped
      | take => exact accounts_take accounts stepped
      | dropReceiver =>
          cases stepped
          exact accounts.same rfl rfl rfl rfl id (fun _ => rfl)

theorem run_accounts (plist : PlistCrate) (actions : List ListenAction) :
    (run plist actions).Accounts plist := by
  have initial : start.Accounts plist := ⟨rfl, rfl⟩
  exact Transition.run_invariant (Accounts plist) initial
    (fun _ action accounts => accounts_step accounts action) actions

theorem Accounts.tells (accounts : task.Accounts plist) : task.Tells plist := by
  cases phase : task.phase <;> simp only [Accounts, phase] at accounts
  case checking | connecting | waiting => exact tells_past accounts.2 (by rw [accounts.1])
  case asking => exact tells_past accounts.2.2.2 accounts.2.2.1
  case reading => exact accounts.2.2.tells
  case receiving => exact accounts.2.tells
  case sending => exact accounts.2.2.2.tells
  case returned => exact accounts.2.2.1
  case panicked => exact accounts.2.1

theorem Accounts.asked (accounts : task.Accounts plist) : task.current.Asked := by
  cases phase : task.phase <;> simp only [Accounts, phase] at accounts
  case checking | connecting | waiting =>
    rw [accounts.1]
    exact ListenSession.asked_empty
  case asking rest =>
    obtain ⟨_, asked, unread, _⟩ := accounts
    refine ⟨?_, fun read => absurd unread read⟩
    rw [← asked]
    exact List.prefix_append _ _
  case reading | receiving | sending => exact ListenSession.asked_whole accounts.1
  case returned | panicked => exact accounts.1

theorem past_send (stepped : task.send = some after) : after.past = task.past := by
  unfold send at stepped
  split at stepped
  · split at stepped
    · cases stepped
      rfl
    · obtain ⟨channel, _, same⟩ := Option.map_eq_some_iff.mp stepped
      cases same
      rfl
  · cases stepped

theorem past_take (stepped : task.take = some after) : after.past = task.past := by
  obtain ⟨_, taken⟩ := Option.ite_none_left_eq_some.mp stepped
  obtain ⟨⟨event, channel⟩, _, same⟩ := Option.map_eq_some_iff.mp taken
  cases same
  rfl

theorem past_step (plist : PlistCrate) (task : ListenerTask) (action : ListenAction) :
    (task.step plist action).past = task.past ∨
      (task.step plist action).past = task.past ++ [task.current] := by
  unfold step
  cases stepped : task.next plist action with
  | none => exact .inl rfl
  | some after =>
      rw [Option.getD_some]
      cases action with
      | send => exact .inl (past_send stepped)
      | take => exact .inl (past_take stepped)
      | _ =>
          grind [next, check, connect, write, writeFails, disconnect, deliver, read, lose, parse,
            wake, seeCancelled]

theorem run_pastAsked (plist : PlistCrate) (actions : List ListenAction) :
    ∀ session ∈ (run plist actions).past, session.Asked := by
  induction actions using List.reverseRecOn with
  | nil => simp [run, Transition.run, start]
  | append_singleton before action ih =>
      rw [run, Transition.run_concat]
      rcases past_step plist (run plist before) action with kept | longer
      · rw [run] at kept
        rw [kept]
        exact ih
      · rw [run] at longer
        rw [longer]
        intro session member
        rcases List.mem_append.mp member with earlier | last
        · exact ih session earlier
        · rw [List.mem_singleton.mp last]
          exact (run_accounts plist before).asked

/-- At any moment the main loop was told what the listener tells of the messages of
the earlier connections and of a front of those of the current one, and of all of them
where the task waits for bytes or is between two connections. On no connection was
anything read before the whole request was written. -/
theorem run_tellsSessions (plist : PlistCrate) (actions : List ListenAction) :
    (∃ read, read <+: sessionMessages plist (run plist actions).current.received ∧
      spawnDeviceListener ((run plist actions).pastMessages plist ++ [read]) =
        some ((run plist actions).taken ++ (run plist actions).channel.items)) ∧
      ((run plist actions).phase.AtRest →
        spawnDeviceListener ((run plist actions).pastMessages plist ++
            [sessionMessages plist (run plist actions).current.received]) =
          some ((run plist actions).taken ++ (run plist actions).channel.items)) ∧
      ∀ session ∈ (run plist actions).past ++ [(run plist actions).current], session.Asked := by
  have accounts := run_accounts plist actions
  refine ⟨accounts.tells, ?_, ?_⟩
  · intro rest
    cases phase : (run plist actions).phase <;>
      simp only [phase, ListenPhase.AtRest, Bool.false_eq_true] at rest <;>
      simp only [Accounts, phase] at accounts
    case checking | connecting | waiting => exact tells_unread accounts.2 (by rw [accounts.1])
    case asking => exact tells_unread accounts.2.2.2 accounts.2.2.1
    case reading => exact accounts.2.2.whole accounts.2.1
  · intro session member
    rcases List.mem_append.mp member with earlier | last
    · exact run_pastAsked plist actions session earlier
    · rw [List.mem_singleton.mp last]
      exact accounts.asked

end ListenerTask

end IosWebkitDebugProxy
