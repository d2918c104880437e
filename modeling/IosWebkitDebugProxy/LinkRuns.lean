import IosWebkitDebugProxy.LinkSends

/-! The parts of a device link run by themselves. Each step of the link is a step of one
of them, or of the read side and the main loop together, and what the write side is called
with are the commands of the handlers, one after the other. -/

namespace IosWebkitDebugProxy

open Transition

namespace DeviceLink

variable {plist : PlistCrate} {new : NewConnection} {deviceOf : Nat → String}
variable {link after : DeviceLink}

inductive LinkStep (plist : PlistCrate) (new : NewConnection) (deviceOf : Nat → String)
    (link : DeviceLink) : LinkAction → DeviceLink → Prop
  | task {action tasks} : (∀ message, action ≠ .takeRpc message) →
      link.tasks.next action = some tasks →
      LinkStep plist new deviceOf link (.task action) (link.moveTasks tasks)
  | call {command later write} : link.unsent = command :: later →
      link.write.sendPlist plist (plistToBin plist (new.sender.build command)) = some write →
      LinkStep plist new deviceOf link .call { link with write, unsent := later }
  | write {action write} : (∀ rpcBin, action ≠ .sendPlist rpcBin) →
      link.write.next plist action = some write →
      LinkStep plist new deviceOf link (.write action) { link with write }
  | read {action read} : action ≠ .take → link.read.next plist action = some read →
      LinkStep plist new deviceOf link (.read action) { link with read }
  | skip {tagged read} : link.tasks.main = .select → link.read.next plist .take = some read →
      read.taken = link.read.taken ++ [tagged] → told new deviceOf tagged = none →
      LinkStep plist new deviceOf link .takeEvent { link with read }
  | hear {tagged read message} : link.tasks.main = .select →
      link.read.next plist .take = some read →
      read.taken = link.read.taken ++ [tagged] → told new deviceOf tagged = some message →
      LinkStep plist new deviceOf link .takeEvent
        ({ link with read }.moveTasks (link.tasks.takeRpc message))

theorem onTask_eq {action : TaskAction} (other : ∀ message, action ≠ .takeRpc message)
    (link : DeviceLink) :
    link.onTask action = if action.OfMain → link.Free then
      (link.tasks.next action).map fun tasks => link.moveTasks tasks else none := by
  cases action with
  | takeRpc message => exact absurd rfl (other message)
  | _ => rfl

theorem onTask_linkStep {action : TaskAction} (moved : link.onTask action = some after) :
    LinkStep plist new deviceOf link (.task action) after := by
  by_cases taken : ∃ message, action = .takeRpc message
  · obtain ⟨message, rfl⟩ := taken
    cases moved
  · have other : ∀ message, action ≠ .takeRpc message := fun message same => taken ⟨message, same⟩
    rw [onTask_eq other, Option.ite_none_right_eq_some] at moved
    obtain ⟨tasks, stepped, rfl⟩ := Option.map_eq_some_iff.mp moved.2
    exact .task other stepped

theorem onWrite_linkStep {action : WriteAction} (moved : onWrite plist action link = some after) :
    LinkStep plist new deviceOf link (.write action) after := by
  have keeps {after : DeviceLink} (other : ∀ rpcBin, action ≠ .sendPlist rpcBin)
      (moved : (link.write.next plist action).map (fun write => { link with write }) =
        some after) : LinkStep plist new deviceOf link (.write action) after := by
    obtain ⟨write, stepped, rfl⟩ := Option.map_eq_some_iff.mp moved
    exact .write other stepped
  cases action with
  | sendPlist rpcBin => cases moved
  | dropHandle =>
      simp only [onWrite, Option.ite_none_right_eq_some] at moved
      exact keeps (by simp) moved.2
  | _ => exact keeps (by simp) moved

theorem onRead_linkStep {action : ReaderAction} (moved : onRead plist action link = some after) :
    LinkStep plist new deviceOf link (.read action) after := by
  have keeps {after : DeviceLink} (other : action ≠ .take)
      (moved : (link.read.next plist action).map (fun read => { link with read }) =
        some after) : LinkStep plist new deviceOf link (.read action) after := by
    obtain ⟨read, stepped, rfl⟩ := Option.map_eq_some_iff.mp moved
    exact .read other stepped
  cases action with
  | take => cases moved
  | _ => exact keeps (by simp) moved

theorem takeEvent_linkStep (moved : takeEvent new deviceOf link = some after) :
    LinkStep plist new deviceOf link .takeEvent after := by
  simp only [takeEvent, Option.ite_none_right_eq_some] at moved
  obtain ⟨⟨_, idle⟩, moved⟩ := moved
  obtain ⟨⟨tagged, events⟩, received, rfl⟩ := Option.map_eq_some_iff.mp moved
  have taken : link.read.next plist .take =
      some { link.read with events, taken := link.read.taken ++ [tagged] } := by
    rw [ReadSide.next, ReadSide.take, received]
    rfl
  cases tells : told new deviceOf tagged with
  | none => exact .skip idle taken rfl tells
  | some message => exact .hear idle taken rfl tells

theorem next_linkStep {action : LinkAction} (moved : next plist new deviceOf link action = some after) :
    LinkStep plist new deviceOf link action after := by
  cases action with
  | task action => exact onTask_linkStep moved
  | call =>
      simp only [next, DeviceLink.call] at moved
      split at moved
      · rename_i command later unsent
        obtain ⟨write, called, rfl⟩ := Option.map_eq_some_iff.mp moved
        exact .call unsent called
      · cases moved
  | write action => exact onWrite_linkStep moved
  | read action => exact onRead_linkStep moved
  | takeEvent => exact takeEvent_linkStep moved

theorem step_stuck {action : LinkAction} (stuck : next plist new deviceOf link action = none) :
    step plist new deviceOf link action = link := by
  rw [step, stuck]
  rfl

theorem step_moved {action : LinkAction} (moved : next plist new deviceOf link action = some after) :
    step plist new deviceOf link action = after := by
  rw [step, moved]
  rfl

theorem run_keeps (Holds : DeviceLink → Prop) (initial : Holds (start plist new))
    (keeps : ∀ link action after, Holds link → LinkStep plist new deviceOf link action after →
      Holds after) (actions : List LinkAction) : Holds (run plist new deviceOf actions) := by
  refine run_invariant Holds initial ?_ actions
  intro link action holds
  cases moved : next plist new deviceOf link action with
  | none => rwa [step_stuck moved]
  | some after =>
      rw [step_moved moved]
      exact keeps link action after holds (next_linkStep moved)

theorem run_write (actions : List LinkAction) : ∃ writes,
    (run plist new deviceOf actions).write = WriteSide.run plist new.codec writes := by
  refine run_keeps (fun link => ∃ writes, link.write = WriteSide.run plist new.codec writes)
    ⟨[], rfl⟩ ?_ actions
  rintro link action after ⟨writes, same⟩ moved
  have extend {write : WriteSide} {last : WriteAction}
      (stepped : link.write.next plist last = some write) :
      ∃ writes, write = WriteSide.run plist new.codec writes := by
    refine ⟨writes ++ [last], ?_⟩
    rw [WriteSide.run, run_concat, ← WriteSide.run, ← same, WriteSide.step, stepped]
    rfl
  cases moved with
  | @call command _ _ _ called =>
      exact @extend _ (.sendPlist (plistToBin plist (new.sender.build command))) called
  | write _ stepped => exact extend stepped
  | _ => exact ⟨writes, same⟩

theorem run_read (actions : List LinkAction) : ∃ reads,
    (run plist new deviceOf actions).read = ReadSide.run plist reads := by
  refine run_keeps (fun link => ∃ reads, link.read = ReadSide.run plist reads) ?_ ?_ actions
  · refine ⟨new.earlier ++ [.spawn new.connection new.isSim new.partialsSupported], ?_⟩
    rw [ReadSide.run, run_concat]
    rfl
  · rintro link action after ⟨reads, same⟩ moved
    have extend {read : ReadSide} {last : ReaderAction}
        (stepped : link.read.next plist last = some read) :
        ∃ reads, read = ReadSide.run plist reads := by
      refine ⟨reads ++ [last], ?_⟩
      rw [ReadSide.run, run_concat, ← ReadSide.run, ← same, ReadSide.step, stepped]
      rfl
    cases moved with
    | read _ stepped => exact extend stepped
    | skip _ stepped _ _ => exact extend stepped
    | hear _ stepped _ _ => exact extend stepped
    | _ => exact ⟨reads, same⟩

variable (plist new deviceOf)

def takenEvents (link : DeviceLink) : LinkAction → List (Nat × WiEvent)
  | .takeEvent =>
      (step plist new deviceOf link .takeEvent).read.taken.drop link.read.taken.length
  | _ => []

/-- What a step of the link is for the tasks of the device. -/
def taskActions (link : DeviceLink) : LinkAction → List TaskAction
  | .task action => if (link.onTask action).isSome then [action] else []
  | .takeEvent =>
      ((takenEvents plist new deviceOf link .takeEvent).filterMap (told new deviceOf)).map .takeRpc
  | _ => []

/-- The run of the tasks that a run of the link is. -/
def taskRun (actions : List LinkAction) : List TaskAction :=
  collected (step plist new deviceOf) (taskActions plist new deviceOf) (start plist new) actions

variable {plist new deviceOf}

theorem next_taken {side read : ReadSide} {action : ReaderAction} (other : action ≠ .take)
    (moved : side.next plist action = some read) : read.taken = side.taken := by
  have onTask {connection : Nat} {update : ReadTask → Option ReadTask}
      (moved : side.onTask connection update = some read) : read.taken = side.taken := by
    simp only [ReadSide.onTask, Option.bind_eq_bind, Option.bind_eq_some_iff,
      Option.some.injEq] at moved
    obtain ⟨_, _, _, _, rfl⟩ := moved
    rfl
  cases action with
  | take => exact absurd rfl other
  | spawn connection isSim partialsSupported =>
      simp only [ReadSide.next, Option.ite_none_left_eq_some, Option.some.injEq] at moved
      obtain ⟨_, rfl⟩ := moved
      rfl
  | send connection =>
      simp only [ReadSide.next, ReadSide.send, Option.bind_eq_bind, Option.bind_eq_some_iff] at moved
      obtain ⟨task, _, moved⟩ := moved
      split at moved
      · simp only [Option.bind_eq_some_iff, Option.some.injEq] at moved
        obtain ⟨_, _, rfl⟩ := moved
        rfl
      · cases moved
  | forward connection =>
      obtain ⟨_, _, rfl⟩ := Option.map_eq_some_iff.mp moved
      rfl
  | _ => exact onTask moved

theorem step_taken (link : DeviceLink) (action : LinkAction) :
    (step plist new deviceOf link action).read.taken =
      link.read.taken ++ takenEvents plist new deviceOf link action := by
  cases moved : next plist new deviceOf link action with
  | none =>
      rw [step_stuck moved]
      cases action with
      | takeEvent => simp [takenEvents, step_stuck moved]
      | _ => exact (List.append_nil _).symm
  | some after =>
      rw [step_moved moved]
      cases next_linkStep moved with
      | read other stepped => exact (next_taken other stepped).trans (List.append_nil _).symm
      | skip _ _ taken _ => rw [takenEvents, step_moved moved, taken, List.drop_left]
      | @hear _ read _ _ _ taken _ =>
          rw [takenEvents, step_moved moved]
          change read.taken = link.read.taken ++ read.taken.drop link.read.taken.length
          rw [taken, List.drop_left]
      | _ => exact (List.append_nil _).symm

theorem run_taken (actions : List LinkAction) :
    (run plist new deviceOf actions).read.taken = (start plist new).read.taken ++
      collected (step plist new deviceOf) (takenEvents plist new deviceOf) (start plist new)
        actions := by
  induction actions using List.reverseRecOn with
  | nil => exact (List.append_nil _).symm
  | append_singleton actions action ih =>
      rw [run, run_concat, step_taken, ← run, ih, collected_concat, List.append_assoc, run]

theorem step_tasks (link : DeviceLink) (action : LinkAction) :
    (step plist new deviceOf link action).tasks =
      Transition.run DeviceTasks.step link.tasks (taskActions plist new deviceOf link action) := by
  cases moved : next plist new deviceOf link action with
  | none =>
      rw [step_stuck moved]
      cases action with
      | task action =>
          have stuck : link.onTask action = none := moved
          simp [taskActions, stuck, Transition.run]
      | takeEvent => simp [taskActions, takenEvents, step_stuck moved, Transition.run]
      | _ => rfl
  | some after =>
      rw [step_moved moved]
      cases next_linkStep moved with
      | @task action tasks other stepped =>
          have possible : link.onTask action = some (link.moveTasks tasks) := moved
          simp only [taskActions, possible, Option.isSome_some, if_true]
          exact (DeviceTasks.step_moved stepped).symm
      | skip _ _ taken tells =>
          rw [taskActions, takenEvents, step_moved moved, taken, List.drop_left]
          simp [tells, Transition.run]
      | @hear _ read message idle _ taken tells =>
          rw [taskActions, takenEvents, step_moved moved]
          change _ = Transition.run _ _ (((read.taken.drop _).filterMap _).map _)
          rw [taken, List.drop_left, List.filterMap_cons_some tells]
          refine (DeviceTasks.step_moved ?_).symm
          simp only [DeviceTasks.next, idle, if_true]
          rfl
      | _ => rfl

theorem run_tasks (actions : List LinkAction) :
    (run plist new deviceOf actions).tasks =
      Transition.run DeviceTasks.step (.start new.runtime) (taskRun plist new deviceOf actions) :=
  run_projects step_tasks actions

theorem told_pageIdsFit {tagged : Nat × WiEvent} {message : RpcMessage}
    (tells : told new deviceOf tagged = some message) : message.PageIdsFit := by
  obtain ⟨name, ⟨rpcDict⟩⟩ := tagged
  simp only [told, Option.ite_none_right_eq_some, WiEvent.rpc, Except.toOption] at tells
  cases parsed : parseRpcMessage rpcDict with
  | error reason => simp [parsed] at tells
  | ok told =>
      rw [parsed] at tells
      cases tells.2
      exact parseRpcMessage_pageIdsFit parsed

theorem taskRun_pageIdsFit (actions : List LinkAction) :
    ∀ action ∈ taskRun plist new deviceOf actions, action.PageIdsFit := by
  intro action member
  obtain ⟨before, event, after, _, given⟩ := mem_collected member
  cases event with
  | task own =>
      simp only [taskActions] at given
      split at given
      · rename_i possible
        rw [List.mem_singleton.mp given]
        cases own with
        | takeRpc message => simp [onTask] at possible
        | _ => trivial
      · cases given
  | takeEvent =>
      obtain ⟨message, heard, rfl⟩ := List.mem_map.mp given
      obtain ⟨tagged, _, tells⟩ := List.mem_filterMap.mp heard
      exact told_pageIdsFit tells
  | _ => cases given

theorem runtime_addressed (new : NewConnection) : (DeviceTasks.start new.runtime).Addressed :=
  DeviceTasks.start_addressed new.bridge new.environment new.deviceId new.port _ new.codec

theorem runtime_fits (new : NewConnection) : (DeviceTasks.start new.runtime).Fits :=
  DeviceTasks.start_fits new.bridge new.environment new.deviceId new.port new.deviceName
    new.deviceOsVersion new.codec

theorem run_tasks_fits (actions : List LinkAction) :
    (run plist new deviceOf actions).tasks.Addressed ∧ (run plist new deviceOf actions).tasks.Fits := by
  rw [run_tasks]
  exact DeviceTasks.run_fits (runtime_addressed new) (runtime_fits new) (taskRun_pageIdsFit actions)

/-- The calls of `send_plist` and the drop of the handle are the steps of the main loop. -/
theorem next_keeps {side after : WriteSide} {action : WriteAction}
    (other : ∀ rpcBin, action ≠ .sendPlist rpcBin) (moved : side.next plist action = some after) :
    after.called = side.called ∧ (action ≠ .dropHandle → after.dropped = side.dropped) := by
  have guarded {allowed : Prop} [Decidable allowed] {later : WriteSide}
      (moved : (if allowed then some later else none) = some after)
      (same : later.called = side.called ∧ (action ≠ .dropHandle → later.dropped = side.dropped)) :
      after.called = side.called ∧ (action ≠ .dropHandle → after.dropped = side.dropped) := by
    rw [Option.ite_none_right_eq_some, Option.some.injEq] at moved
    rw [← moved.2]
    exact same
  cases action with
  | sendPlist rpcBin => exact absurd rfl (other rpcBin)
  | put =>
      simp only [WriteSide.next, WriteSide.put] at moved
      split at moved
      · cases moved
      · split at moved
        · cases moved
          exact ⟨rfl, fun _ => rfl⟩
        · obtain ⟨_, _, rfl⟩ := Option.map_eq_some_iff.mp moved
          exact ⟨rfl, fun _ => rfl⟩
  | take =>
      simp only [WriteSide.next, WriteSide.take] at moved
      split at moved
      · obtain ⟨_, _, rfl⟩ := Option.map_eq_some_iff.mp moved
        exact ⟨rfl, fun _ => rfl⟩
      · cases moved
  | write count =>
      simp only [WriteSide.next, WriteSide.write] at moved
      split at moved
      · exact guarded moved ⟨rfl, fun _ => rfl⟩
      · cases moved
  | flush =>
      simp only [WriteSide.next, WriteSide.flush] at moved
      split at moved
      · cases moved
        exact ⟨rfl, fun _ => rfl⟩
      · cases moved
  | fail =>
      simp only [WriteSide.next, WriteSide.fail] at moved
      split at moved
      · cases moved
        exact ⟨rfl, fun _ => rfl⟩
      · cases moved
  | cancel =>
      cases moved
      exact ⟨rfl, fun _ => rfl⟩
  | dropHandle => exact guarded moved ⟨rfl, fun same => absurd rfl same⟩
  | seeCancelled => exact guarded moved ⟨rfl, fun _ => rfl⟩
  | seeDropped => exact guarded moved ⟨rfl, fun _ => rfl⟩

/-- The calls of the handlers are their commands, but for those still to be sent. -/
def Calls (plist : PlistCrate) (new : NewConnection) (link : DeviceLink) : Prop :=
  ∃ sent, link.write.called = commandBins plist new.sender sent ∧
    link.tasks.runtime.written = sent ++ link.unsent

theorem Calls.moveTasks (calls : link.Calls plist new) {tasks : DeviceTasks}
    {added : List RpcCommand}
    (grown : tasks.runtime.written = link.tasks.runtime.written ++ added) :
    (link.moveTasks tasks).Calls plist new := by
  obtain ⟨sent, called, written⟩ := calls
  refine ⟨sent, called, ?_⟩
  change tasks.runtime.written = sent ++ (link.unsent ++
    tasks.runtime.written.drop link.tasks.runtime.written.length)
  rw [grown, List.drop_left, written, List.append_assoc]

theorem run_calls (actions : List LinkAction) : (run plist new deviceOf actions).Calls plist new := by
  induction actions using List.reverseRecOn with
  | nil => exact ⟨[], rfl, rfl⟩
  | append_singleton actions action ih =>
      obtain ⟨addressed, fits⟩ := @run_tasks_fits plist new deviceOf actions
      have adds {own : TaskAction} {tasks : DeviceTasks}
          (stepped : (run plist new deviceOf actions).tasks.next own = some tasks) :
          ∃ added, tasks.runtime.written =
            (run plist new deviceOf actions).tasks.runtime.written ++ added := by
        obtain ⟨added, grown, _⟩ := DeviceTasks.step_adds addressed fits own
        rw [DeviceTasks.step_moved stepped] at grown
        exact ⟨added, grown⟩
      rw [run, run_concat, ← run]
      generalize run plist new deviceOf actions = link at ih addressed fits adds
      cases moved : next plist new deviceOf link action with
      | none => rwa [step_stuck moved]
      | some after =>
          rw [step_moved moved]
          cases next_linkStep moved with
          | task other stepped => exact ih.moveTasks (adds stepped).choose_spec
          | @call command later write unsent called =>
              obtain ⟨sent, before, written⟩ := ih
              refine ⟨sent ++ [command], ?_, ?_⟩
              · simp only [WriteSide.sendPlist, Option.ite_none_right_eq_some,
                  Option.some.injEq] at called
                obtain ⟨_, rfl⟩ := called
                simp [before, commandBins]
              · simp [written, unsent]
          | write other stepped =>
              obtain ⟨sent, before, written⟩ := ih
              exact ⟨sent, (next_keeps other stepped).1.trans before, written⟩
          | read _ _ => exact ih
          | skip _ _ _ _ => exact ih
          | @hear _ read message idle _ _ _ =>
              have stepped : link.tasks.next (.takeRpc message) =
                  some (link.tasks.takeRpc message) := by
                simp only [DeviceTasks.next, idle, if_true]
              have kept : Calls plist new { link with read } := ih
              exact kept.moveTasks (adds stepped).choose_spec

end DeviceLink

end IosWebkitDebugProxy
