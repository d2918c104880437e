import IosWebkitDebugProxy.ReaderStream

/-! That nothing read is stranded between the stream and the main loop: the read task,
the forwarding task and a main loop that takes what it is given bring every event of
a connection to the main loop. -/

namespace IosWebkitDebugProxy

open Transition WebInspectorCodec

namespace ReadSide

variable {plist : PlistCrate} {side : ReadSide}

/-- Steps of the tasks of one connection, and of the main loop. -/
def Serves (connection : Nat) : ReaderAction → Prop
  | .read name _ | .send name | .forward name => name = connection
  | .take => True
  | _ => False

def phaseWork : ReadPhase → Nat
  | .sending _ => 4
  | _ => 0

def taskWork (task : ReadTask) : Nat := 5 * task.arrived.length + phaseWork task.phase

/-- What is still to be done for a connection, with the queue that it shares. -/
def work (connection : Nat) (side : ReadSide) : Nat :=
  side.events.exit.items.length + 2 * (side.events.sources connection).hand.toList.length +
    3 * (side.events.sources connection).entry.items.length +
    ((side.tasks.lookup connection).map taskWork).getD 0

/-- The read loop was not cancelled, and its stream is still this one. -/
structure Serving (plist : PlistCrate) (connection : Nat) (fresh : WebInspectorCodec)
    (delivered : List UInt8) (side : ReadSide) : Prop where
  faithful : side.Faithful plist
  task : ∃ task, side.tasks.lookup connection = some task ∧ task.phase ≠ .cancelled ∧
    task.fresh = fresh ∧ task.delivered = delivered

end ReadSide

namespace ReadTask

variable {plist : PlistCrate} {task : ReadTask}

/-- A step of the read loop that goes on with less to do. -/
structure Advances (task after : ReadTask) : Prop where
  goesOn : after.phase ≠ .cancelled
  fresh : after.fresh = task.fresh
  delivered : after.delivered = task.delivered
  less : ReadSide.taskWork after < ReadSide.taskWork task

theorem parseHeader_phase (lenBuf : List UInt8) (task : ReadTask) :
    ∃ phase, task.parseHeader lenBuf = { task with phase } ∧ phase ≠ .cancelled ∧
      ReadSide.phaseWork phase = 0 := by
  unfold parseHeader
  cases parseLength lenBuf with
  | error error => exact ⟨.failed, rfl, nofun, rfl⟩
  | ok length =>
      simp only
      split
      · exact ⟨.header [], rfl, nofun, rfl⟩
      · exact ⟨.body lenBuf length [], rfl, nofun, rfl⟩

theorem parseBody_phase (body : List UInt8) (task : ReadTask) :
    ∃ phase, task.parseBody plist body =
        { task with codec := decodeNext plist task.codec body, phase } ∧
      phase ≠ .cancelled ∧ ReadSide.phaseWork phase ≤ 4 := by
  unfold parseBody decodeNext
  rcases task.codec.decodeBody plist body with ⟨codec, error | (_ | event)⟩
  · exact ⟨.header [], rfl, nofun, Nat.zero_le _⟩
  · exact ⟨.header [], rfl, nofun, Nat.zero_le _⟩
  · exact ⟨.sending event, rfl, nofun, Nat.le_refl _⟩

theorem reading_work (reading : task.Reading) : ReadSide.phaseWork task.phase = 0 := by
  unfold Reading at reading
  cases phase : task.phase with
  | header got => rfl
  | body lenBuf length got => rfl
  | _ =>
      rw [phase] at reading
      cases reading

theorem advances_of_read {codec : WebInspectorCodec} {phase : ReadPhase} (reading : task.Reading)
    (ready : task.arrived ≠ []) (goesOn : phase ≠ .cancelled) (small : ReadSide.phaseWork phase ≤ 4)
    (mode : codec.isSim = task.codec.isSim ∧
      codec.partialsSupported = task.codec.partialsSupported) :
    Advances task { task with codec, arrived := task.arrived.drop 1, phase } := by
  refine ⟨goesOn, ?_, rfl, ?_⟩
  · rw [fresh, fresh, mode.1, mode.2]
  · have positive := List.length_pos_iff.mpr ready
    simp only [ReadSide.taskWork, reading_work reading, List.length_drop]
    omega

theorem read_one {passed : List WiEvent} (passes : task.Passes plist passed)
    (reading : task.Reading) (ready : task.arrived ≠ []) :
    ∃ after, task.read plist 1 = some after ∧ task.Advances after := by
  have positive := List.length_pos_iff.mpr ready
  unfold Passes at passes
  unfold ReadTask.read
  cases phase : task.phase with
  | header got =>
      rw [phase] at passes
      have fits : 0 < 1 ∧ 1 ≤ task.arrived.length ∧ got.length + 1 ≤ 4 := by
        have short := passes.1
        omega
      simp only [if_pos fits]
      by_cases complete : got.length + 1 = 4
      · obtain ⟨next, parsed, goesOn, work⟩ := parseHeader_phase (got ++ task.arrived.take 1)
          { task with arrived := task.arrived.drop 1, phase := .header got }
        rw [if_pos complete, parsed]
        exact ⟨_, rfl, advances_of_read reading ready goesOn (by omega) ⟨rfl, rfl⟩⟩
      · rw [if_neg complete]
        exact ⟨_, rfl, advances_of_read reading ready nofun (Nat.zero_le _) ⟨rfl, rfl⟩⟩
  | body lenBuf length got =>
      rw [phase] at passes
      have fits : 0 < 1 ∧ 1 ≤ task.arrived.length ∧ got.length + 1 ≤ length := by
        have short := passes.1.2.2.2
        omega
      simp only [if_pos fits]
      by_cases complete : got.length + 1 = length
      · obtain ⟨next, parsed, goesOn, work⟩ := @parseBody_phase plist (got ++ task.arrived.take 1)
          { task with arrived := task.arrived.drop 1, phase := .body lenBuf length got }
        rw [if_pos complete, parsed]
        exact ⟨_, rfl, advances_of_read reading ready goesOn work (decodeNext_mode _ _)⟩
      · rw [if_neg complete]
        exact ⟨_, rfl, advances_of_read reading ready nofun (Nat.zero_le _) ⟨rfl, rfl⟩⟩
  | _ =>
      unfold Reading at reading
      rw [phase] at reading
      cases reading

end ReadTask

namespace ReadSide

variable {plist : PlistCrate} {side : ReadSide} {connection : Nat} {fresh : WebInspectorCodec}
  {delivered : List UInt8}

theorem step_faithful (faithful : side.Faithful plist) (action : ReaderAction) :
    (side.step plist action).Faithful plist := by
  unfold step
  cases moved : side.next plist action with
  | none => exact faithful
  | some after => exact next_faithful faithful moved

theorem take_progress (serving : side.Serving plist connection fresh delivered)
    (waiting : side.events.exit.items ≠ []) :
    (side.step plist .take).Serving plist connection fresh delivered ∧
      (side.step plist .take).work connection < side.work connection := by
  obtain ⟨tagged, rest, items⟩ := List.exists_cons_of_ne_nil waiting
  obtain ⟨exit, received, left⟩ := Channel.exists_recv items
  have taken : side.step plist .take = { side with
      events := { side.events with exit }, taken := side.taken ++ [tagged] } := by
    simp only [step, next, take, FanIn.recv, received, Option.map_some, Option.getD_some]
  obtain ⟨faithful, task⟩ := serving
  refine ⟨⟨step_faithful faithful .take, by rw [taken]; exact task⟩, ?_⟩
  rw [taken]
  simp only [work, items, left, List.length_cons]
  omega

theorem forward_progress (serving : side.Serving plist connection fresh delivered)
    (room : side.events.exit.items = [])
    (waiting : (side.events.sources connection).hand ≠ none ∨
      (side.events.sources connection).entry.items ≠ []) :
    (side.step plist (.forward connection)).Serving plist connection fresh delivered ∧
      (side.step plist (.forward connection)).work connection < side.work connection := by
  have moves : ∃ events, side.events.forward connection = some events ∧
      events.exit.items.length + 2 * (events.sources connection).hand.toList.length +
          3 * (events.sources connection).entry.items.length <
        side.events.exit.items.length +
          2 * (side.events.sources connection).hand.toList.length +
          3 * (side.events.sources connection).entry.items.length := by
    unfold FanIn.forward
    cases held : (side.events.sources connection).hand with
    | some event =>
        have below : ¬side.events.exit.Full := by
          rw [Channel.not_full_iff, room]
          decide
        obtain ⟨exit, stored, items⟩ := Channel.exists_send below (connection, event)
        refine ⟨{ side.events.setSource connection
          { side.events.sources connection with hand := none } with exit },
          by simp only [stored, Option.map_some], ?_⟩
        simp only [FanIn.setSource_self, items, room, List.nil_append, List.length_singleton,
          List.length_nil, Option.toList_none, Option.toList_some]
        omega
    | none =>
        obtain ⟨event, rest, queued⟩ := List.exists_cons_of_ne_nil
          (waiting.resolve_left fun some => some held)
        obtain ⟨entry, received, left⟩ := Channel.exists_recv queued
        refine ⟨side.events.setSource connection ⟨entry, some event⟩,
          by simp only [received, Option.map_some], ?_⟩
        have exit : (side.events.setSource connection ⟨entry, some event⟩).exit = side.events.exit :=
          rfl
        simp only [FanIn.setSource_self, exit, queued, left, List.length_cons, Option.toList_none,
          Option.toList_some, List.length_nil]
        omega
  obtain ⟨events, forwarded, less⟩ := moves
  have stepped : side.step plist (.forward connection) = { side with events } := by
    simp only [step, next, forwarded, Option.map_some, Option.getD_some]
  obtain ⟨faithful, task⟩ := serving
  refine ⟨⟨step_faithful faithful _, by rw [stepped]; exact task⟩, ?_⟩
  rw [stepped]
  simp only [work]
  omega

theorem send_progress {task : ReadTask} {event : WiEvent}
    (serving : side.Serving plist connection fresh delivered)
    (found : side.tasks.lookup connection = some task) (sending : task.phase = .sending event)
    (room : (side.events.sources connection).entry.items = []) :
    (side.step plist (.send connection)).Serving plist connection fresh delivered ∧
      (side.step plist (.send connection)).work connection < side.work connection := by
  have below : ¬(side.events.sources connection).entry.Full := by
    rw [Channel.not_full_iff, room]
    decide
  obtain ⟨entry, stored, items⟩ := Channel.exists_send below event
  let events := side.events.setSource connection
    ⟨entry, (side.events.sources connection).hand⟩
  let after := { side.setTask connection { task with phase := .header [] } with events }
  have moved : side.step plist (.send connection) = after := by
    simp only [step, next, send, found, sending, FanIn.send, stored, Option.map_some,
      Option.bind_eq_bind, Option.bind_some, Option.getD_some]
    rfl
  have lookup : after.tasks.lookup connection = some { task with phase := .header [] } :=
    (setTask_lookup connection connection _ side).trans (if_pos rfl)
  obtain ⟨faithful, old, known, goesOn, same, bytes⟩ := serving
  rw [found] at known
  cases known
  refine ⟨⟨step_faithful faithful _, ?_⟩, ?_⟩
  · rw [moved]
    refine ⟨_, lookup, ?_, same, bytes⟩
    simp
  · have source : after.events.sources connection =
        ⟨entry, (side.events.sources connection).hand⟩ := FanIn.setSource_self ..
    have exit : after.events.exit = side.events.exit := rfl
    rw [moved, work, work, lookup, source, exit, found, items, room]
    simp only [Option.map_some, Option.getD_some, taskWork, sending, phaseWork, List.nil_append,
      List.length_singleton, List.length_nil]
    omega

theorem read_progress {task : ReadTask}
    (serving : side.Serving plist connection fresh delivered)
    (found : side.tasks.lookup connection = some task) (reading : task.Reading)
    (ready : task.arrived ≠ []) :
    (side.step plist (.read connection 1)).Serving plist connection fresh delivered ∧
      (side.step plist (.read connection 1)).work connection < side.work connection := by
  obtain ⟨faithful, old, known, goesOn, same, bytes⟩ := serving
  rw [found] at known
  cases known
  have passes := faithful connection
  rw [found] at passes
  obtain ⟨after, read, advances⟩ := ReadTask.read_one passes reading ready
  have moved : side.step plist (.read connection 1) = side.setTask connection after := by
    simp only [step, next, onTask, found, read, Option.bind_eq_bind, Option.bind_some,
      Option.getD_some]
  have lookup : (side.setTask connection after).tasks.lookup connection = some after :=
    (setTask_lookup connection connection after side).trans (if_pos rfl)
  refine ⟨⟨step_faithful faithful _, ?_⟩, ?_⟩
  · rw [moved]
    exact ⟨after, lookup, advances.goesOn, advances.fresh.trans same,
      advances.delivered.trans bytes⟩
  · have events : (side.setTask connection after).events = side.events := rfl
    rw [moved, work, work, lookup, found, events]
    have less := advances.less
    simp only [Option.map_some, Option.getD_some]
    omega

theorem serving_progress (serving : side.Serving plist connection fresh delivered)
    (missing : FanIn.own connection side.taken ≠ wiEvents plist fresh delivered) :
    ∃ action, Serves connection action ∧
      (side.step plist action).Serving plist connection fresh delivered ∧
      (side.step plist action).work connection < side.work connection := by
  by_cases room : side.events.exit.items = []
  · by_cases waiting : (side.events.sources connection).hand ≠ none ∨
        (side.events.sources connection).entry.items ≠ []
    · exact ⟨.forward connection, rfl, forward_progress serving room waiting⟩
    · obtain ⟨free, nothing⟩ := not_or.mp waiting
      rw [not_not] at free nothing
      obtain ⟨faithful, task, found, goesOn, rfl, rfl⟩ := serving
      have serving : side.Serving plist connection task.fresh task.delivered :=
        ⟨faithful, task, found, goesOn, rfl, rfl⟩
      have passes := faithful connection
      have same : side.passed connection = FanIn.own connection side.taken := by
        simp [passed, FanIn.contents, room, free, nothing]
      rw [found, same] at passes
      by_cases reading : task.Reading
      · by_cases ready : task.arrived = []
        · exact absurd (passes.reading_waits reading ready) missing
        · exact ⟨.read connection 1, rfl, read_progress serving found reading ready⟩
      · cases phase : task.phase with
        | sending event =>
            exact ⟨.send connection, rfl, send_progress serving found phase nothing⟩
        | failed =>
            simp only [ReadTask.Passes, phase] at passes
            have all := passes [] fun _ => rfl
            rw [List.append_nil] at all
            exact absurd all missing
        | cancelled => exact absurd phase goesOn
        | _ => simp [ReadTask.Reading, phase] at reading
  · exact ⟨.take, trivial, take_progress serving room⟩

/-- While the read loop of a connection is not cancelled, its tasks and a main loop that
takes what it is given bring all that the connection has delivered to the main loop. -/
theorem run_reachesMainLoop (plist : PlistCrate) (actions : List ReaderAction) (connection : Nat)
    (task : ReadTask) (found : (run plist actions).tasks.lookup connection = some task)
    (goesOn : task.phase ≠ .cancelled) :
    ∃ later, (∀ action ∈ later, Serves connection action) ∧
      FanIn.own connection (run plist (actions ++ later)).taken =
        wiEvents plist task.fresh task.delivered := by
  have serving : (run plist actions).Serving plist connection task.fresh task.delivered :=
    ⟨run_faithful actions, task, found, goesOn, rfl, rfl⟩
  obtain ⟨later, serves, reached⟩ := exists_run_of_decreasing (work connection)
    (Serving plist connection task.fresh task.delivered)
    (fun _ serving missing => serving_progress serving missing) serving
  refine ⟨later, serves, ?_⟩
  rw [run, run_append]
  exact reached

theorem run_reachesMainLoop_packet :
    ∃ later, (∀ action ∈ later, Serves 0 action) ∧
      FanIn.own 0 (run reportSetupCrate ([.spawn 0 true false,
          .deliver 0 (buildPacket reportSetupBin)] ++ later)).taken =
        wiEvents reportSetupCrate (.new true false) (buildPacket reportSetupBin) :=
  run_reachesMainLoop reportSetupCrate
    [.spawn 0 true false, .deliver 0 (buildPacket reportSetupBin)] 0
    ⟨.new true false, .header [], buildPacket reportSetupBin, false, false,
      buildPacket reportSetupBin⟩ rfl nofun

end ReadSide

end IosWebkitDebugProxy
