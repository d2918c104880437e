import IosWebkitDebugProxy.ListenerSessions

/-! How the listener task ends. Without a cancellation its channel closes just when it
panics over a packet. Behind a header that declares no bytes it never ends. -/

namespace IosWebkitDebugProxy

open Plist Iteration DeviceListenerParser

namespace ListenerTask

variable {plist : PlistCrate} {task : ListenerTask}
variable {parser : DeviceListenerParser} {events : List DeviceEvent}

def phaseAfter : Option (DeviceListenerParser × List DeviceEvent) → ListenPhase
  | none => .panicked
  | some (final, sent) => .afterEvents final sent

/-- Enough turns bring the loop of `on_recv` to its end, where it has one. -/
theorem parses_ends {outcome : Option (DeviceListenerParser × List DeviceEvent)}
    (ends : Ends (recvTurn plist) (parser, events) outcome)
    (receiving : task.phase = .receiving parser events) :
    ∃ turns, Transition.run (step plist) task (List.replicate turns .parse) =
      { task with phase := phaseAfter outcome } := by
  generalize start : (parser, events) = state at ends
  induction ends generalizing task parser events with
  | @done state result stops =>
      subst start
      refine ⟨1, ?_⟩
      change step plist task .parse = _
      cases result with
      | none => simp only [step, next, parse, receiving, stops, Option.getD_some, phaseAfter]
      | some reached => simp only [step, next, parse, receiving, stops, Option.getD_some, phaseAfter]
  | @again state later result goes _ ih =>
      subst start
      obtain ⟨middle, sent⟩ := later
      obtain ⟨turns, reached⟩ := @ih { task with phase := .receiving middle sent } middle sent rfl rfl
      refine ⟨turns + 1, ?_⟩
      have turn : step plist task .parse = { task with phase := .receiving middle sent } := by
        simp only [step, next, parse, receiving, goes, Option.getD_some]
      rw [List.replicate_succ, Transition.run_cons, turn, reached]

theorem parse_keeps (plist : PlistCrate) (task : ListenerTask) :
    ∃ phase, step plist task .parse = { task with phase } := by
  simp only [step, next, parse]
  split
  · split <;> exact ⟨_, rfl⟩
  · exact ⟨task.phase, rfl⟩

theorem parses_keep (plist : PlistCrate) (task : ListenerTask) (turns : Nat) :
    ∃ phase, Transition.run (step plist) task (List.replicate turns .parse) =
      { task with phase } := by
  induction turns generalizing task with
  | zero => exact ⟨task.phase, rfl⟩
  | succ turns ih =>
      obtain ⟨phase, turn⟩ := parse_keeps plist task
      obtain ⟨last, reached⟩ := ih (step plist task .parse)
      refine ⟨last, ?_⟩
      rw [turn] at reached
      rw [List.replicate_succ, Transition.run_cons, turn, reached]

/-- The packet that panics lies before the parser, which went through those behind it. -/
theorem unsplittable_ahead {received : List UInt8} (behind : Behind plist parser received events)
    {packet : List UInt8} (member : packet ∈ packetHeader.frames received)
    (unsplittable : Unsplittable plist packet) : packet ∈ packetHeader.frames parser.buffer := by
  obtain ⟨packets, reached, cut, parsed, _⟩ := behind.packets
  rw [cut] at member
  rcases List.mem_append.mp member with passed | ahead
  · have panics := (parsePackets_eq_none plist new packets).mpr ⟨packet, passed, unsplittable⟩
    rw [panics] at parsed
    cases parsed
  · exact ahead

/-- Where a packet that panics was received, the task has panicked or is on its way to. -/
theorem Accounts.unsplittable (accounts : task.Accounts plist) {packet : List UInt8}
    (member : packet ∈ packetHeader.frames task.current.received)
    (unsplittable : Unsplittable plist packet) :
    task.phase = .panicked ∨ ∃ parser events, task.phase = .receiving parser events ∧
      Ends (recvTurn plist) (parser, events) none := by
  cases phase : task.phase <;> simp only [Accounts, phase] at accounts
  case checking | connecting | waiting =>
    rw [accounts.1] at member
    exact absurd unsplittable ((ListenSession.clean_empty plist).2 packet member)
  case asking =>
    rw [accounts.2.2.1] at member
    exact absurd unsplittable ((ListenSession.clean_empty plist).2 packet member)
  case reading =>
    obtain ⟨_, waits, _, _, _, _, behind⟩ := accounts
    exact absurd unsplittable (behind.splittable waits packet member)
  case receiving parser events =>
    obtain ⟨_, _, _, _, _, behind⟩ := accounts
    refine .inr ⟨parser, events, rfl, (panics_iff behind.framed events).mpr ?_⟩
    exact ⟨packet, unsplittable_ahead behind member unsplittable, unsplittable⟩
  case sending =>
    obtain ⟨_, waits, _, _, _, _, _, behind⟩ := accounts
    exact absurd unsplittable (behind.splittable waits packet member)
  case returned => exact absurd unsplittable (accounts.2.1.2 packet member)
  case panicked => exact .inl rfl

/-- While nobody cancels and the main loop listens, the channel to it closes just when
a packet of the current connection panics. -/
theorem run_closes_iff (plist : PlistCrate) (actions : List ListenAction)
    (goesOn : (run plist actions).cancelled = false)
    (listened : (run plist actions).receiverGone = false) :
    (∃ turns, (run plist (actions ++ List.replicate turns .parse)).phase.Ended) ↔
      ∃ packet ∈ packetHeader.frames (run plist actions).current.received,
        Unsplittable plist packet := by
  constructor
  · rintro ⟨turns, ended⟩
    have accounts := run_accounts plist (actions ++ List.replicate turns .parse)
    obtain ⟨phase, kept⟩ := parses_keep plist (run plist actions) turns
    rw [run, Transition.run_append, ← run, kept] at ended accounts
    cases phase <;> simp only [ListenPhase.Ended, Bool.false_eq_true] at ended
    case returned =>
      obtain ⟨_, _, _, cancelled | gone⟩ := accounts
      · exact absurd (goesOn.symm.trans cancelled) Bool.false_ne_true
      · exact absurd (listened.symm.trans gone) Bool.false_ne_true
    case panicked => exact accounts.2.2
  · rintro ⟨packet, member, unsplittable⟩
    rcases (run_accounts plist actions).unsplittable member unsplittable with
      panicked | ⟨parser, events, receiving, panics⟩
    · exact ⟨0, by simp [panicked, ListenPhase.Ended]⟩
    · obtain ⟨turns, reached⟩ := parses_ends panics receiving
      refine ⟨turns, ?_⟩
      rw [run, Transition.run_append, ← run, reached]
      rfl

/-- A connection that delivers these bytes at once. -/
def listensTo (bytes : List UInt8) : List ListenAction :=
  [.check, .connect true, .write createListenPacket.length, .deliver bytes, .read bytes.length]

theorem run_listensTo (plist : PlistCrate) {bytes : List UInt8} (some : bytes ≠ [])
    (short : bytes.length ≤ bufferSize) :
    run plist (listensTo bytes) =
      ⟨.receiving (DeviceListenerParser.new.extend bytes) [], [], .empty, false, false, [],
        ⟨createListenPacket, bytes⟩, []⟩ := by
  have asked := List.length_pos_iff.mpr createListenPacket_ne_nil
  have read := List.length_pos_iff.mpr some
  simp [run, Transition.run, listensTo, step, next, start, check, connect, write, deliver,
    ListenerTask.read, ListenPhase.Connected, asked, read, short]

theorem run_closes_iff_crossing :
    ∃ turns, (run (knowsDevice crossingSerial)
      (listensTo crossingPacket ++ List.replicate turns .parse)).phase.Ended := by
  have some : crossingPacket ≠ [] := nofun
  have short : crossingPacket.length ≤ bufferSize := by
    rw [crossingPacket, plistPacket_length]
    decide +kernel
  have reached := run_listensTo (knowsDevice crossingSerial) some short
  have bound := sampleDocument_bounds.2
  refine (run_closes_iff _ _ (by rw [reached]) (by rw [reached])).mpr ⟨crossingPacket, ?_, ?_⟩
  · rw [reached, crossingPacket, frames_attachedDocument bound]
    exact List.mem_singleton_self _
  · exact (unsplittable_attachedDocument bound).mpr (standardSerial_eq_none.mp (by decide))

/-- The loop of `on_recv` is at a header that declares no bytes, or on its way there. -/
def Hangs (plist : PlistCrate) (task : ListenerTask) : Prop :=
  ∃ parser events, task.phase = .receiving parser events ∧ parser.Framed ∧
    packetHeader.Stalled parser.buffer ∧
    ∀ packet ∈ packetHeader.frames parser.buffer, ¬Unsplittable plist packet

theorem hangs_parse (hangs : task.Hangs plist) :
    ∃ parser events, step plist task .parse = { task with phase := .receiving parser events } ∧
      ({ task with phase := .receiving parser events } : ListenerTask).Hangs plist := by
  obtain ⟨parser, events, receiving, framed, stalled, splittable⟩ := hangs
  cases turns plist framed events with
  | @packet packet rest next result cut read turn =>
      have frames : packetHeader.frames parser.buffer = packet :: packetHeader.frames rest := by
        rw [Header.frames, Header.split_some cut]
      have tail : packetHeader.tail parser.buffer = packetHeader.tail rest := by
        rw [Header.tail, Header.split_some cut]
      rw [Header.Stalled, tail] at stalled
      rw [frames] at splittable
      refine ⟨⟨next.deviceNumToId, rest, false, packet.length⟩, events ++ sentEvents result, ?_,
        _, _, rfl, framed_of_unread rfl, stalled, fun other member => ?_⟩
      · simp only [step, ListenerTask.next, parse, receiving, turn, Option.getD_some]
      · exact splittable other (List.mem_cons_of_mem _ member)
  | @panics packet rest cut unsplittable _ =>
      refine absurd unsplittable (splittable packet ?_)
      rw [Header.frames, Header.split_some cut]
      exact List.mem_cons_self
  | empty cut zero turn =>
      refine ⟨{ parser with hasLength := false, bodyLength := 0 }, events, ?_, _, _, rfl,
        framed_of_unread rfl, stalled, splittable⟩
      simp only [step, next, parse, receiving, turn, Option.getD_some]
  | stops waits =>
      rw [Header.Stalled, waits.tail_eq] at stalled
      exact absurd stalled waits.2

theorem hangs_step (hangs : task.Hangs plist) (action : ListenAction) :
    (task.step plist action).Hangs plist ∧ (task.step plist action).told = task.told := by
  obtain ⟨parser, events, receiving, held⟩ := id hangs
  cases action with
  | parse =>
      obtain ⟨parser, events, turn, still⟩ := hangs_parse hangs
      rw [turn]
      exact ⟨still, rfl⟩
  | take =>
      unfold step
      cases taken : task.next plist .take with
      | none => exact ⟨hangs, rfl⟩
      | some after =>
          obtain ⟨_, taken⟩ := Option.ite_none_left_eq_some.mp taken
          obtain ⟨⟨event, channel⟩, received, same⟩ := Option.map_eq_some_iff.mp taken
          subst same
          refine ⟨⟨parser, events, receiving, held⟩, ?_⟩
          simp only [Option.getD_some, told, Channel.recv_items received, List.append_assoc,
            List.singleton_append]
  | deliver bytes =>
      simp only [step, next, deliver, receiving, ListenPhase.Connected, if_true, Option.getD_some]
      exact ⟨⟨parser, events, rfl, held⟩, rfl⟩
  | cancel | dropReceiver => exact ⟨⟨parser, events, receiving, held⟩, rfl⟩
  | check | connect | write | writeFails | read | lose | send | wake | seeCancelled =>
      simp [step, next, check, connect, write, writeFails, read, lose, send, wake, seeCancelled,
        receiving, hangs]

theorem hangs_run (hangs : task.Hangs plist) (later : List ListenAction) :
    (Transition.run (step plist) task later).Hangs plist ∧
      (Transition.run (step plist) task later).told = task.told := by
  refine Transition.run_invariant (fun other : ListenerTask => other.Hangs plist ∧ other.told = task.told)
    ⟨hangs, rfl⟩ ?_ later
  rintro other action ⟨still, same⟩
  obtain ⟨next, kept⟩ := hangs_step still action
  exact ⟨next, kept.trans same⟩

theorem Hangs.not_ended (hangs : task.Hangs plist) : task.phase.Ended = false := by
  obtain ⟨parser, events, receiving, _⟩ := hangs
  rw [receiving]
  rfl

theorem Accounts.hangs (accounts : task.Accounts plist)
    (stalled : packetHeader.Stalled task.current.received)
    (splittable : ∀ packet ∈ packetHeader.frames task.current.received, ¬Unsplittable plist packet) :
    task.Hangs plist := by
  cases phase : task.phase <;> simp only [Accounts, phase] at accounts
  case checking | connecting | waiting =>
    rw [accounts.1] at stalled
    exact absurd stalled (ListenSession.clean_empty plist).1
  case asking =>
    rw [accounts.2.2.1] at stalled
    exact absurd stalled (ListenSession.clean_empty plist).1
  case reading =>
    obtain ⟨_, waits, _, _, _, _, behind⟩ := accounts
    exact absurd stalled (behind.moving waits)
  case receiving parser events =>
    obtain ⟨_, _, _, _, _, behind⟩ := accounts
    rw [Header.Stalled, behind.tail] at stalled
    refine ⟨parser, events, phase, behind.framed, stalled, fun packet member => splittable packet ?_⟩
    obtain ⟨packets, _, cut, _⟩ := behind.packets
    rw [cut]
    exact List.mem_append_right _ member
  case sending =>
    obtain ⟨_, waits, _, _, _, _, _, behind⟩ := accounts
    exact absurd stalled (behind.moving waits)
  case returned => exact absurd stalled accounts.2.1.1
  case panicked =>
    obtain ⟨_, _, packet, member, unsplittable⟩ := accounts
    exact absurd unsplittable (splittable packet member)

/-- A task that waits for bytes, or that has events to send, can be ended. -/
theorem ends_outside (accounts : task.Accounts plist)
    (outside : ∀ parser events, task.phase ≠ .receiving parser events) :
    ∃ later, (Transition.run (step plist) task later).phase.Ended := by
  cases phase : task.phase
  case checking =>
    refine ⟨[.cancel, .check], ?_⟩
    simp [Transition.run, step, next, check, phase, ListenPhase.Ended]
  case connecting =>
    refine ⟨[.connect false, .cancel, .seeCancelled], ?_⟩
    simp [Transition.run, step, next, connect, seeCancelled, phase, ListenPhase.Ended]
  case asking =>
    refine ⟨[.writeFails, .cancel, .seeCancelled], ?_⟩
    simp [Transition.run, step, next, writeFails, disconnect, seeCancelled, phase,
      ListenPhase.Ended]
  case reading | waiting =>
    refine ⟨[.cancel, .seeCancelled], ?_⟩
    simp [Transition.run, step, next, seeCancelled, phase, ListenPhase.Ended]
  case receiving parser events => exact absurd phase (outside parser events)
  case sending parser events =>
    simp only [Accounts, phase] at accounts
    obtain ⟨event, later, rfl⟩ := List.exists_cons_of_ne_nil accounts.2.2.1
    refine ⟨[.dropReceiver, .send], ?_⟩
    simp [Transition.run, step, next, send, phase, ListenPhase.Ended]
  case returned | panicked => exact ⟨[], by simp [Transition.run, phase, ListenPhase.Ended]⟩

theorem afterEvents_ne_receiving (final : DeviceListenerParser) (sent : List DeviceEvent)
    (parser : DeviceListenerParser) (events : List DeviceEvent) :
    ListenPhase.afterEvents final sent ≠ .receiving parser events := by
  cases sent <;> simp [ListenPhase.afterEvents]

/-- A task that does not hang can be ended. -/
theorem ends_somehow (accounts : task.Accounts plist) (free : ¬task.Hangs plist) :
    ∃ later, (Transition.run (step plist) task later).phase.Ended := by
  cases phase : task.phase with
  | receiving parser events =>
      obtain ⟨_, _, _, _, _, behind⟩ : task.current.request = createListenPacket ∧
          task.Owes plist parser events := by
        simpa only [Accounts, phase] using accounts
      have terminates : Terminates (recvTurn plist) (parser, events) := by
        rw [terminates_iff behind.framed]
        by_contra neither
        obtain ⟨stalled, splittable⟩ := not_or.mp neither
        refine free ⟨parser, events, phase, behind.framed, not_not.mp stalled, ?_⟩
        intro packet member unsplittable
        exact splittable ⟨packet, member, unsplittable⟩
      obtain ⟨outcome, ends⟩ := terminates
      obtain ⟨turns, reached⟩ := parses_ends ends phase
      have kept : (Transition.run (step plist) task (List.replicate turns .parse)).Accounts plist :=
        Transition.run_invariant (Accounts plist) accounts
          (fun _ action accounts => accounts_step accounts action) _
      obtain ⟨later, ended⟩ := ends_outside kept (by
        intro parser events
        rw [reached]
        cases outcome with
        | none => simp [phaseAfter]
        | some found => exact afterEvents_ne_receiving _ _ parser events)
      refine ⟨List.replicate turns .parse ++ later, ?_⟩
      rw [Transition.run_append]
      exact ended
  | _ => exact ends_outside accounts (by simp [phase])

/-- The task can never end again, whoever cancels it or drops the channel, just when
the connection delivered a header that declares no bytes and no packet before it
panics. Nothing more is told then. -/
theorem run_neverEnds_iff (plist : PlistCrate) (actions : List ListenAction) :
    ((∀ later, (run plist (actions ++ later)).phase.Ended = false) ↔
      packetHeader.Stalled (run plist actions).current.received ∧
        ∀ packet ∈ packetHeader.frames (run plist actions).current.received,
          ¬Unsplittable plist packet) ∧
      ((∀ later, (run plist (actions ++ later)).phase.Ended = false) → ∀ later,
        (run plist (actions ++ later)).told = (run plist actions).told) := by
  have accounts := run_accounts plist actions
  have resume (later : List ListenAction) :
      run plist (actions ++ later) = Transition.run (step plist) (run plist actions) later :=
    Transition.run_append actions later
  simp only [resume]
  have hangs (never : ∀ later,
      (Transition.run (step plist) (run plist actions) later).phase.Ended = false) :
      (run plist actions).Hangs plist := by
    by_contra free
    obtain ⟨later, ended⟩ := ends_somehow accounts free
    rw [never later] at ended
    cases ended
  refine ⟨⟨fun never => ?_, ?_⟩, fun never later => (hangs_run (hangs never) later).2⟩
  · obtain ⟨parser, events, phase, framed, stalled, splittable⟩ := hangs never
    obtain ⟨_, _, _, _, _, behind⟩ : (run plist actions).current.request = createListenPacket ∧
        (run plist actions).Owes plist parser events := by
      simpa only [Accounts, phase] using accounts
    constructor
    · rw [Header.Stalled, behind.tail]
      exact stalled
    · intro packet member unsplittable
      exact splittable packet (unsplittable_ahead behind member unsplittable) unsplittable
  · rintro ⟨stalled, splittable⟩ later
    exact (hangs_run (accounts.hangs stalled splittable) later).1.not_ended

end ListenerTask

end IosWebkitDebugProxy
