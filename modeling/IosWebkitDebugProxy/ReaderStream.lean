import IosWebkitDebugProxy.CodecRecovery
import IosWebkitDebugProxy.Library.History
import IosWebkitDebugProxy.ReaderCore

/-! What the main loop is told of a connection, against what the connection delivered.
However the bytes come in, and however the tasks take turns, the events of a connection
reach the main loop as the read loop finds them in the whole stream. -/

namespace IosWebkitDebugProxy

open Transition WebInspectorCodec

variable {plist : PlistCrate} {codec : WebInspectorCodec}

def wiEvents (plist : PlistCrate) (codec : WebInspectorCodec) (stream : List UInt8) :
    List WiEvent :=
  (wiReadLoop plist codec stream).1.map Prod.fst

theorem wiEvents_append (plist : PlistCrate) (codec : WebInspectorCodec)
    (stream later : List UInt8) :
    wiEvents plist codec stream <+: wiEvents plist codec (stream ++ later) :=
  (wiReadLoop_append later).map _

theorem wiEvents_header {got : List UInt8} (short : got.length < 4) :
    wiEvents plist codec got = [] := by
  rw [wiEvents, wiReadLoop_short (bodyLength_eq_none.mpr short)]
  rfl

theorem wiEvents_body {lenBuf got : List UInt8} {length : Nat}
    (declared : bodyLength lenBuf = some length) (whole : lenBuf.length = 4)
    (allowed : length ≤ maxBodyLength) (short : got.length < length) :
    wiEvents plist codec (lenBuf ++ got) = [] := by
  have incomplete : (lenBuf ++ got).length < 4 + length := by
    rw [List.length_append]
    omega
  rw [wiEvents, wiReadLoop_incomplete (bodyLength_append got declared) allowed incomplete]
  rfl

theorem wiEvents_oversized {lenBuf : List UInt8} {length : Nat}
    (declared : bodyLength lenBuf = some length) (exceeds : maxBodyLength < length)
    (later : List UInt8) : wiEvents plist codec (lenBuf ++ later) = [] := by
  rw [wiEvents, wiReadLoop_header (bodyLength_append later declared), if_pos exceeds]
  rfl

theorem wiEvents_frame {lenBuf body : List UInt8} {length : Nat}
    (declared : bodyLength lenBuf = some length) (whole : lenBuf.length = 4)
    (allowed : length ≤ maxBodyLength) (complete : body.length = length) (later : List UInt8) :
    wiEvents plist codec (lenBuf ++ body ++ later) =
      (packetTurn plist codec body).1.map Prod.fst ++
        wiEvents plist (packetTurn plist codec body).2 later := by
  have content : (lenBuf ++ body).drop 4 = body := by
    rw [← whole, List.drop_left]
  rw [wiEvents, wiReadLoop_frame (bodyLength_append body declared) allowed
    (by rw [List.length_append]; omega), content, List.map_append]
  rfl

theorem decodeNext_mode (codec : WebInspectorCodec) (body : List UInt8) :
    (decodeNext plist codec body).isSim = codec.isSim ∧
      (decodeNext plist codec body).partialsSupported = codec.partialsSupported := by
  by_cases fragmented : codec.partialsSupported = true
  · rw [decodeNext_shape fragmented]
    exact ⟨rfl, rfl⟩
  · have same : decodeNext plist codec body = codec := by
      unfold decodeNext decodeBody parsePlist
      cases readPlist plist "plist parsing failed: " body with
      | error error => rfl
      | ok value =>
          simp only [Bool.eq_false_iff.mpr fragmented, Bool.not_false, if_true]
    rw [same]
    exact ⟨rfl, rfl⟩

namespace ReadTask

def fresh (task : ReadTask) : WebInspectorCodec :=
  .new task.codec.isSim task.codec.partialsSupported

/-- The loop has handed on these events, holds these bytes, and goes on from there
as it would with the whole stream. -/
def ReadUpTo (plist : PlistCrate) (task : ReadTask) (held : List UInt8) (passed : List WiEvent) :
    Prop :=
  ∃ consumed, task.delivered = consumed ++ held ++ task.arrived ∧
    ∀ later, wiEvents plist task.fresh (consumed ++ later) =
      passed ++ wiEvents plist task.codec later

/-- What the task has handed on so far are the first events of its stream, and all of
them once it waits at the end of the stream or has met its end. -/
def Passes (plist : PlistCrate) (task : ReadTask) (passed : List WiEvent) : Prop :=
  match task.phase with
  | .header got => got.length < 4 ∧ task.ReadUpTo plist got passed
  | .body lenBuf length got =>
      (bodyLength lenBuf = some length ∧ lenBuf.length = 4 ∧ length ≤ maxBodyLength ∧
        got.length < length) ∧ task.ReadUpTo plist (lenBuf ++ got) passed
  | .sending event => task.ReadUpTo plist [] (passed ++ [event])
  | .cancelled => passed <+: wiEvents plist task.fresh task.delivered
  | .failed => ∀ later, (task.closed → later = []) →
      passed = wiEvents plist task.fresh (task.delivered ++ later)

variable {task after : ReadTask} {passed : List WiEvent} {held : List UInt8}

theorem ReadUpTo.begins (read : task.ReadUpTo plist held passed) :
    passed <+: wiEvents plist task.fresh task.delivered := by
  obtain ⟨consumed, split, whole⟩ := read
  rw [split, List.append_assoc, whole]
  exact List.prefix_append _ _

theorem Passes.begins (passes : task.Passes plist passed) :
    passed <+: wiEvents plist task.fresh task.delivered := by
  unfold Passes at passes
  split at passes
  · exact passes.2.begins
  · exact passes.2.begins
  · exact (List.prefix_append _ _).trans passes.begins
  · exact passes
  · have all := passes [] fun _ => rfl
    rw [List.append_nil] at all
    exact all ▸ List.prefix_refl _

theorem Passes.deliver (passes : task.Passes plist passed) (bytes : List UInt8) :
    (task.deliver bytes).Passes plist passed := by
  unfold ReadTask.deliver
  by_cases closed : task.closed = true
  · rwa [if_pos closed]
  · rw [if_neg closed]
    have longer (held : List UInt8) (passed : List WiEvent)
        (read : task.ReadUpTo plist held passed) :
        ReadUpTo plist { task with
          arrived := task.arrived ++ bytes, delivered := task.delivered ++ bytes } held passed := by
      obtain ⟨consumed, split, whole⟩ := read
      exact ⟨consumed, by simp only [split, List.append_assoc], whole⟩
    unfold Passes at passes ⊢
    cases phase : task.phase with
    | header got =>
        rw [phase] at passes
        exact ⟨passes.1, longer _ _ passes.2⟩
    | body lenBuf length got =>
        rw [phase] at passes
        exact ⟨passes.1, longer _ _ passes.2⟩
    | sending event =>
        rw [phase] at passes
        exact longer _ _ passes
    | cancelled =>
        rw [phase] at passes
        exact passes.trans (wiEvents_append plist _ _ _)
    | failed =>
        rw [phase] at passes
        intro later _
        simp only [List.append_assoc]
        exact passes (bytes ++ later) fun same => absurd same closed

theorem Passes.close (passes : task.Passes plist passed) :
    Passes plist { task with closed := true } passed := by
  unfold Passes at passes ⊢
  cases phase : task.phase with
  | failed =>
      rw [phase] at passes
      intro later ended
      rw [ended rfl]
      exact passes [] fun _ => rfl
  | _ =>
      rw [phase] at passes
      exact passes

theorem Passes.cancel (passes : task.Passes plist passed) :
    Passes plist { task with cancelled := true } passed := passes

theorem ReadUpTo.read {held front rest : List UInt8} {phase : ReadPhase}
    (read : task.ReadUpTo plist held passed) (split : task.arrived = front ++ rest) :
    ReadUpTo plist { task with arrived := rest, phase } (held ++ front) passed := by
  obtain ⟨consumed, delivered, whole⟩ := read
  exact ⟨consumed, by simp only [delivered, split, List.append_assoc], whole⟩

theorem ReadUpTo.packet {lenBuf body : List UInt8} {length : Nat} {phase : ReadPhase}
    (declared : bodyLength lenBuf = some length) (four : lenBuf.length = 4)
    (allowed : length ≤ maxBodyLength) (complete : body.length = length)
    (read : task.ReadUpTo plist (lenBuf ++ body) passed) :
    ReadUpTo plist { task with codec := (packetTurn plist task.codec body).2, phase } []
      (passed ++ (packetTurn plist task.codec body).1.map Prod.fst) := by
  obtain ⟨consumed, delivered, whole⟩ := read
  have mode : WebInspectorCodec.new (packetTurn plist task.codec body).2.isSim
      (packetTurn plist task.codec body).2.partialsSupported = task.fresh := by
    by_cases empty : body = []
    · rw [packetTurn, if_pos empty]
      rfl
    · rw [(packetTurn_decoded plist task.codec empty).2]
      obtain ⟨isSim, partialsSupported⟩ := @decodeNext_mode plist task.codec body
      rw [isSim, partialsSupported]
      rfl
  refine ⟨consumed ++ (lenBuf ++ body), by simpa using delivered, ?_⟩
  intro later
  have framed := @wiEvents_frame plist task.codec _ _ _ declared four allowed complete later
  rw [fresh, mode, List.append_assoc, whole, framed, List.append_assoc]

theorem Passes.parseHeader {lenBuf : List UInt8} (four : lenBuf.length = 4)
    (read : task.ReadUpTo plist lenBuf passed) : (task.parseHeader lenBuf).Passes plist passed := by
  cases declared : bodyLength lenBuf with
  | none =>
      have short := bodyLength_eq_none.mp declared
      omega
  | some length =>
      have parsed := parseLength_eq declared
      rw [List.take_of_length_le (Nat.le_of_eq four)] at parsed
      unfold ReadTask.parseHeader
      rw [parsed]
      by_cases exceeds : maxBodyLength < length
      · rw [if_pos exceeds]
        obtain ⟨consumed, delivered, whole⟩ := read
        intro later _
        have nothing := @wiEvents_oversized plist task.codec _ _ declared exceeds
          (task.arrived ++ later)
        simp only [delivered, List.append_assoc]
        change passed = wiEvents plist task.fresh _
        rw [whole, nothing, List.append_nil]
      · rw [if_neg exceeds]
        by_cases empty : length = 0
        · subst empty
          simp only [if_true]
          rw [← List.append_nil lenBuf] at read
          have skipped := @ReadUpTo.packet plist task passed lenBuf [] 0 (.header []) declared four
            (Nat.zero_le _) rfl read
          exact ⟨by simp, by simpa [packetTurn] using skipped⟩
        · simp only [if_neg empty]
          refine ⟨⟨declared, four, Nat.not_lt.mp exceeds, Nat.pos_of_ne_zero empty⟩, ?_⟩
          rw [List.append_nil]
          exact read

theorem Passes.parseBody {lenBuf body : List UInt8} {length : Nat}
    (declared : bodyLength lenBuf = some length) (four : lenBuf.length = 4)
    (allowed : length ≤ maxBodyLength) (complete : body.length = length) (filled : body ≠ [])
    (read : task.ReadUpTo plist (lenBuf ++ body) passed) :
    (task.parseBody plist body).Passes plist passed := by
  have packet (phase : ReadPhase) :=
    @ReadUpTo.packet plist task passed lenBuf body length phase declared four allowed complete read
  obtain ⟨events, codec⟩ := packetTurn_decoded plist task.codec filled
  rw [events, codec] at packet
  unfold decodeNext at packet
  unfold ReadTask.parseBody
  cases decoded : task.codec.decodeBody plist body with
  | mk after result =>
      rw [decoded] at packet
      have skipped (nothing : eventOf result = none) :
          ReadUpTo plist { task with codec := after, phase := .header [] } [] passed := by
        simpa [nothing] using packet (.header [])
      rcases result with error | (_ | event)
      · exact ⟨Nat.zero_lt_succ 3, skipped rfl⟩
      · exact ⟨Nat.zero_lt_succ 3, skipped rfl⟩
      · exact packet (.sending event)

theorem Passes.read {count : Nat} (passes : task.Passes plist passed)
    (moved : task.read plist count = some after) : after.Passes plist passed := by
  unfold ReadTask.read at moved
  unfold Passes at passes
  have split : task.arrived = task.arrived.take count ++ task.arrived.drop count :=
    (List.take_append_drop _ _).symm
  cases phase : task.phase with
  | header got =>
      rw [phase] at moved passes
      obtain ⟨short, read⟩ := passes
      simp only [Option.ite_none_right_eq_some] at moved
      obtain ⟨⟨positive, ready, wanted⟩, moved⟩ := moved
      have length : (got ++ task.arrived.take count).length = got.length + count := by
        rw [List.length_append, List.length_take, Nat.min_eq_left ready]
      by_cases complete : got.length + count = 4
      · rw [if_pos complete] at moved
        cases moved
        exact .parseHeader (length.trans complete) (read.read split)
      · rw [if_neg complete] at moved
        cases moved
        exact ⟨by rw [length]; omega, read.read split⟩
  | body lenBuf total got =>
      rw [phase] at moved passes
      obtain ⟨⟨declared, four, allowed, short⟩, read⟩ := passes
      simp only [Option.ite_none_right_eq_some] at moved
      obtain ⟨⟨positive, ready, wanted⟩, moved⟩ := moved
      have length : (got ++ task.arrived.take count).length = got.length + count := by
        rw [List.length_append, List.length_take, Nat.min_eq_left ready]
      have grown := @ReadUpTo.read plist task passed _ _ _ task.phase read split
      rw [List.append_assoc] at grown
      by_cases complete : got.length + count = total
      · rw [if_pos complete] at moved
        cases moved
        have filled : got ++ task.arrived.take count ≠ [] := by
          rw [← List.length_pos_iff, length]
          omega
        exact .parseBody declared four allowed (length.trans complete) filled grown
      · rw [if_neg complete] at moved
        cases moved
        exact ⟨⟨declared, four, allowed, by rw [length]; omega⟩, grown⟩
  | _ =>
      rw [phase] at moved
      cases moved

theorem Passes.reading_waits (passes : task.Passes plist passed) (reading : task.Reading)
    (nothing : task.arrived = []) : passed = wiEvents plist task.fresh task.delivered := by
  unfold Passes at passes
  unfold Reading at reading
  cases phase : task.phase with
  | header got =>
      rw [phase] at passes
      obtain ⟨short, consumed, delivered, whole⟩ := passes
      rw [delivered, nothing, List.append_nil, whole, wiEvents_header short, List.append_nil]
  | body lenBuf length got =>
      rw [phase] at passes
      obtain ⟨⟨declared, four, allowed, short⟩, consumed, delivered, whole⟩ := passes
      rw [delivered, nothing, List.append_nil, whole, wiEvents_body declared four allowed short,
        List.append_nil]
  | _ =>
      rw [phase] at reading
      cases reading

theorem Passes.seeEnd (passes : task.Passes plist passed) (moved : task.seeEnd = some after) :
    after.Passes plist passed := by
  simp only [ReadTask.seeEnd, Option.ite_none_right_eq_some, Option.some.injEq] at moved
  obtain ⟨⟨reading, closed, nothing⟩, rfl⟩ := moved
  intro later ended
  rw [ended closed, List.append_nil]
  exact passes.reading_waits reading nothing

theorem Passes.seeCancelled (passes : task.Passes plist passed)
    (moved : task.seeCancelled = some after) : after.Passes plist passed := by
  simp only [ReadTask.seeCancelled, Option.ite_none_right_eq_some, Option.some.injEq] at moved
  obtain ⟨_, rfl⟩ := moved
  exact passes.begins

theorem Passes.sent {event : WiEvent} (passes : task.Passes plist passed)
    (sending : task.phase = .sending event) :
    Passes plist { task with phase := .header [] } (passed ++ [event]) := by
  unfold Passes at passes
  rw [sending] at passes
  exact ⟨Nat.zero_lt_succ 3, passes⟩

theorem new_passes (isSim partialsSupported : Bool) :
    (new isSim partialsSupported).Passes plist [] :=
  ⟨Nat.zero_lt_succ 3, [], rfl, fun _ => rfl⟩

end ReadTask

namespace ReadSide

variable {side after : ReadSide}

def passed (connection : Nat) (side : ReadSide) : List WiEvent :=
  FanIn.own connection side.taken ++ side.events.contents connection

/-- Nothing is handed on under the name of a connection but by its task. -/
def Faithful (plist : PlistCrate) (side : ReadSide) : Prop :=
  ∀ connection, match side.tasks.lookup connection with
    | some task => task.Passes plist (side.passed connection)
    | none => side.passed connection = []

theorem setTask_lookup (connection other : Nat) (task : ReadTask) (side : ReadSide) :
    (side.setTask connection task).tasks.lookup other =
      if other = connection then some task else side.tasks.lookup other :=
  Table.lookup_assign ..

theorem Faithful.update {connection : Nat} {old new : ReadTask} (faithful : side.Faithful plist)
    (found : side.tasks.lookup connection = some old)
    (keeps : ∀ passed, old.Passes plist passed → new.Passes plist passed) :
    (side.setTask connection new).Faithful plist := by
  intro other
  have before := faithful other
  rw [setTask_lookup]
  by_cases same : other = connection
  · subst same
    rw [found] at before
    rw [if_pos rfl]
    exact keeps _ before
  · rw [if_neg same]
    exact before

theorem Faithful.events {events : FanIn Nat WiEvent 64 256} {taken : List (Nat × WiEvent)}
    (faithful : side.Faithful plist)
    (same : ∀ connection, passed connection { side with events, taken } = side.passed connection) :
    Faithful plist { side with events, taken } := by
  intro connection
  rw [same]
  exact faithful connection

theorem onTask_faithful {connection : Nat} {update : ReadTask → Option ReadTask}
    (faithful : side.Faithful plist) (moved : side.onTask connection update = some after)
    (keeps : ∀ task next passed, update task = some next → task.Passes plist passed →
      next.Passes plist passed) : after.Faithful plist := by
  simp only [onTask, Option.bind_eq_bind, Option.bind_eq_some_iff, Option.some.injEq] at moved
  obtain ⟨task, found, next, updated, rfl⟩ := moved
  exact faithful.update found fun passed => keeps task next passed updated

theorem send_faithful {connection : Nat} (faithful : side.Faithful plist)
    (moved : side.send connection = some after) : after.Faithful plist := by
  simp only [send, Option.bind_eq_bind, Option.bind_eq_some_iff] at moved
  obtain ⟨task, found, moved⟩ := moved
  cases phase : task.phase with
  | sending event =>
      rw [phase] at moved
      simp only [Option.bind_eq_some_iff, Option.some.injEq] at moved
      obtain ⟨events, sent, rfl⟩ := moved
      intro other
      have before := faithful other
      have longer : passed other { side.setTask connection { task with phase := .header [] } with
          events } = side.passed other ++ if connection = other then [event] else [] := by
        rw [passed, passed, FanIn.send_contents sent, List.append_assoc]
        rfl
      have entry := setTask_lookup connection other { task with phase := .header [] } side
      by_cases same : other = connection
      · subst same
        rw [found] at before
        rw [if_pos rfl] at entry longer
        simp only [entry, longer]
        exact before.sent phase
      · rw [if_neg same] at entry
        rw [if_neg (Ne.symm same), List.append_nil] at longer
        simp only [entry, longer]
        exact before
  | _ =>
      rw [phase] at moved
      cases moved

theorem next_faithful {action : ReaderAction} (faithful : side.Faithful plist)
    (moved : side.next plist action = some after) : after.Faithful plist := by
  cases action with
  | spawn connection isSim partialsSupported =>
      simp only [next, Option.ite_none_left_eq_some, Option.some.injEq] at moved
      obtain ⟨absent, rfl⟩ := moved
      intro other
      have before := faithful other
      rw [setTask_lookup]
      by_cases same : other = connection
      · subst same
        rw [AList.lookup_eq_none.mpr absent] at before
        rw [if_pos rfl]
        have nothing : passed other
            (side.setTask other (.new isSim partialsSupported)) = [] := before
        rw [nothing]
        exact ReadTask.new_passes isSim partialsSupported
      · rw [if_neg same]
        exact before
  | deliver connection bytes =>
      refine onTask_faithful faithful moved ?_
      intro task next passed same passes
      cases same
      exact passes.deliver bytes
  | close connection =>
      refine onTask_faithful faithful moved ?_
      intro task next passed same passes
      cases same
      exact passes.close
  | read connection count =>
      exact onTask_faithful faithful moved fun task next passed moved passes => passes.read moved
  | seeEnd connection =>
      exact onTask_faithful faithful moved fun task next passed moved passes => passes.seeEnd moved
  | send connection => exact send_faithful faithful moved
  | cancel connection =>
      refine onTask_faithful faithful moved ?_
      intro task next passed same passes
      cases same
      exact passes.cancel
  | seeCancelled connection =>
      exact onTask_faithful faithful moved
        fun task next passed moved passes => passes.seeCancelled moved
  | forward connection =>
      obtain ⟨events, forwarded, rfl⟩ := Option.map_eq_some_iff.mp moved
      refine faithful.events fun other => ?_
      rw [passed, passed, FanIn.forward_contents forwarded]
  | take =>
      obtain ⟨⟨⟨name, event⟩, events⟩, received, rfl⟩ := Option.map_eq_some_iff.mp moved
      refine faithful.events fun other => ?_
      rw [passed, passed, FanIn.recv_contents received, FanIn.own_append, FanIn.own_cons,
        FanIn.own_nil, List.append_nil, List.append_assoc]

theorem run_faithful (actions : List ReaderAction) : (run plist actions).Faithful plist := by
  refine run_invariant (Faithful plist) (fun connection => rfl) ?_ actions
  intro side action faithful
  unfold step
  cases moved : side.next plist action with
  | none => exact faithful
  | some after => exact next_faithful faithful moved

/-- However the bytes come in, whatever is cancelled and however the tasks take turns,
what the main loop takes from a connection are the first events of the stream of that
connection. It has taken all of them once nothing is on its way and the read loop was
not cancelled. -/
theorem run_tellsStream (plist : PlistCrate) (actions : List ReaderAction) (connection : Nat)
    (task : ReadTask) (found : (run plist actions).tasks.lookup connection = some task) :
    FanIn.own connection (run plist actions).taken <+: wiEvents plist task.fresh task.delivered ∧
      ((run plist actions).events.contents connection = [] →
        task.phase = .failed ∨ task.Reading ∧ task.arrived = [] →
        FanIn.own connection (run plist actions).taken =
          wiEvents plist task.fresh task.delivered) := by
  have passes := @run_faithful plist actions connection
  rw [found] at passes
  refine ⟨(List.prefix_append _ _).trans passes.begins, ?_⟩
  intro nothing settled
  have same : (run plist actions).passed connection =
      FanIn.own connection (run plist actions).taken := by
    rw [passed, nothing, List.append_nil]
  rw [same] at passes
  rcases settled with failed | ⟨reading, read⟩
  · simp only [ReadTask.Passes, failed] at passes
    have all := passes [] fun _ => rfl
    rwa [List.append_nil] at all
  · exact passes.reading_waits reading read

/-- A packet that comes in three reads, beside another connection. -/
def setupInParts : List ReaderAction :=
  [.spawn 0 true false, .spawn 1 false true, .deliver 0 (buildPacket reportSetupBin),
    .deliver 1 [0, 0, 0, 9], .read 0 3, .read 1 4, .read 0 1, .read 0 reportSetupBin.length,
    .send 0, .forward 0, .forward 0, .take]

set_option maxRecDepth 8000 in
/-- The main loop takes the one event, which is all that the connection delivered. -/
theorem run_tellsStream_setup :
    FanIn.own 0 (run reportSetupCrate setupInParts).taken = [.recvPlist reportSetupPlist] ∧
      wiEvents reportSetupCrate (.new true false) (buildPacket reportSetupBin) =
        [.recvPlist reportSetupPlist] := by
  have taken : FanIn.own 0 (run reportSetupCrate setupInParts).taken =
    [.recvPlist reportSetupPlist] := by rfl
  obtain ⟨_, whole⟩ := run_tellsStream reportSetupCrate setupInParts 0
    ⟨.new true false, .header [], [], false, false, buildPacket reportSetupBin⟩ (by rfl)
  exact ⟨taken, (whole (by rfl) (.inr ⟨rfl, rfl⟩)).symm.trans taken⟩

end ReadSide

end IosWebkitDebugProxy
