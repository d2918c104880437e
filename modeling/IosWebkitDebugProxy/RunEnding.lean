import IosWebkitDebugProxy.ListenerEnding
import IosWebkitDebugProxy.RunRefinement

/-! When the proxy stops although nobody cancels it: its listener panicked over a packet
of usbmuxd, and the main loop took that for the end. -/

namespace IosWebkitDebugProxy

open Transition DeviceListenerParser

/-- Nobody cancels, and nothing more is read from usbmuxd. -/
def RunAction.Local : RunAction → Bool
  | .cancel => false
  | .listener (.read _) => false
  | _ => true

namespace ProxyRun

variable {plist : PlistCrate} {bridge : ProxyBridge} {life after : ProxyRun}

def Leaving (life : ProxyRun) : Prop :=
  (∃ left, life.phase = .stopping left) ∨ life.phase = .returned .ok

theorem next_panicked {task : ListenerTask} {action : ListenAction}
    (panicked : task.phase = .panicked) (own : action.Own = true) :
    task.next plist action = none := by
  cases action <;> simp_all [ListenAction.Own, ListenerTask.next, ListenerTask.check,
    ListenerTask.connect, ListenerTask.write, ListenerTask.writeFails, ListenerTask.deliver,
    ListenPhase.Connected, ListenerTask.read, ListenerTask.lose, ListenerTask.parse,
    ListenerTask.send, ListenerTask.wake, ListenerTask.seeCancelled]

theorem leaving_of_phase (phase : after.phase = life.phase) (leaving : after.Leaving) :
    life.Leaving := by
  unfold Leaving at leaving ⊢
  rw [phase] at leaving
  exact leaving

theorem not_leaving_looping (looping : life.phase = .looping) : ¬life.Leaving := by
  rintro (⟨left, stopping⟩ | returned)
  · rw [looping] at stopping
    cases stopping
  · rw [looping] at returned
    cases returned

/-- While nobody has cancelled, the main loop is left just for a listener that panicked. -/
theorem run_leaving (plist : PlistCrate) (bridge : ProxyBridge) (actions : List RunAction) :
    (run plist bridge actions).Cancelled = false → (run plist bridge actions).Leaving →
      (run plist bridge actions).listener.phase = .panicked := by
  refine run_keeps_reached (fun life =>
    life.Cancelled = false → life.Leaving → life.listener.phase = .panicked) ?_ ?_ actions
  · rintro _ (⟨left, stopping⟩ | returned)
    · cases stopping
    · cases returned
  · intro before taken after kept steps goesOn leaving
    cases steps with
    | refused reason _ _ same =>
        subst same
        rcases leaving with ⟨left, stopping⟩ | returned
        · cases stopping
        · cases returned
    | enters listServer environment _ same =>
        subst same
        exact absurd leaving (not_leaving_looping (by rw [connect_phase]))
    | listens action listener _ _ own moved same =>
        subst same
        have panicked := kept ((next_own own moved).2.2.symm.trans goesOn)
          (leaving_of_phase rfl leaving)
        rw [next_panicked panicked own] at moved
        cases moved
    | takes environment event channel looping _ same =>
        subst same
        exact absurd leaving (not_leaving_looping (by rw [handleDevice_phase]; exact looping))
    | handles event looping _ same =>
        subst same
        exact absurd leaving (not_leaving_looping looping)
    | cancels _ same =>
        subst same
        cases goesOn
    | leaves looping noticed same =>
        subst same
        obtain ⟨ended, _⟩ := noticed.resolve_left fun cancelled =>
          Bool.false_ne_true (goesOn.symm.trans cancelled)
        have runs := run_listenerRuns plist bridge before
        obtain ⟨steps, reached⟩ := runs.reached
        have accounts := ListenerTask.run_accounts plist steps
        rw [← reached] at accounts
        cases phase : (run plist bridge before).listener.phase <;>
          simp only [phase, ListenPhase.Ended, Bool.false_eq_true] at ended
        case returned =>
          simp only [ListenerTask.Accounts, phase] at accounts
          rcases accounts.2.2.2 with cancelled | gone
          · exact absurd (goesOn.symm.trans cancelled) Bool.false_ne_true
          · rw [runs.gone gone] at looping
            cases looping
        case panicked => rfl
    | stops deviceId left stopping _ same =>
        subst same
        rw [Cancelled, disconnect_listener] at goesOn
        rw [disconnect_listener]
        exact kept goesOn (.inl ⟨left, stopping⟩)
    | returns stopping same =>
        subst same
        exact kept goesOn (.inl ⟨[], stopping⟩)

/-- Without a read, the connection of the listener stays as it is or is given up. -/
theorem next_received {task later : ListenerTask} {action : ListenAction}
    (unread : ∀ count, action ≠ .read count) (stepped : task.next plist action = some later) :
    later.current.received = task.current.received ∨ later.current.received = [] := by
  cases action with
  | send =>
      simp only [ListenerTask.next, ListenerTask.send] at stepped
      split at stepped
      · split at stepped
        · cases stepped
          exact .inl rfl
        · obtain ⟨channel, _, same⟩ := Option.map_eq_some_iff.mp stepped
          cases same
          exact .inl rfl
      · cases stepped
  | take =>
      obtain ⟨_, taken⟩ := Option.ite_none_left_eq_some.mp stepped
      obtain ⟨⟨event, channel⟩, _, same⟩ := Option.map_eq_some_iff.mp taken
      cases same
      exact .inl rfl
  | read count => exact absurd rfl (unread count)
  | _ =>
      grind [ListenerTask.next, ListenerTask.check, ListenerTask.connect, ListenerTask.write,
        ListenerTask.writeFails, ListenerTask.disconnect, ListenerTask.deliver,
        ListenerTask.lose, ListenerTask.parse, ListenerTask.wake, ListenerTask.seeCancelled]

theorem step_local {action : RunAction} (stays : action.Local = true) (life : ProxyRun) :
    (step plist bridge life action).Cancelled = life.Cancelled ∧
      ((step plist bridge life action).listener.current.received = life.listener.current.received ∨
        (step plist bridge life action).listener.current.received = []) := by
  unfold step
  cases stepped : next plist bridge life action with
  | none => exact ⟨rfl, .inl rfl⟩
  | some after =>
      rw [Option.getD_some]
      cases next_steps stepped with
      | listens action listener taken _ own moved same =>
          subst same taken
          refine ⟨(next_own own moved).2.2, next_received ?_ moved⟩
          rintro count rfl
          cases stays
      | cancels taken same =>
          subst taken
          cases stays
      | enters listServer environment _ same =>
          subst same
          rw [Cancelled, connect_listener]
          exact ⟨rfl, .inl rfl⟩
      | takes environment event channel _ _ same =>
          subst same
          rw [Cancelled, handleDevice_listener]
          exact ⟨rfl, .inl rfl⟩
      | stops deviceId left _ _ same =>
          subst same
          rw [Cancelled, disconnect_listener]
          exact ⟨rfl, .inl rfl⟩
      | refused _ _ _ same | handles _ _ _ same | leaves _ _ same | returns _ same =>
          subst same
          exact ⟨rfl, .inl rfl⟩

theorem run_local (life : ProxyRun) {later : List RunAction}
    (stays : ∀ action ∈ later, action.Local = true) :
    (Transition.run (step plist bridge) life later).Cancelled = life.Cancelled ∧
      ((Transition.run (step plist bridge) life later).listener.current.received =
          life.listener.current.received ∨
        (Transition.run (step plist bridge) life later).listener.current.received = []) := by
  induction later using List.reverseRecOn with
  | nil => exact ⟨rfl, .inl rfl⟩
  | append_singleton before action ih =>
      rw [run_concat]
      obtain ⟨cancelled, received⟩ := ih fun action member => stays action (by simp [member])
      obtain ⟨same, moved⟩ := @step_local plist bridge action (stays action (by simp))
        (Transition.run (step plist bridge) life before)
      refine ⟨same.trans cancelled, ?_⟩
      rcases moved with kept | dropped
      · rw [kept]
        exact received
      · exact .inr dropped

/-! Once its listener has panicked, the proxy comes to its end by itself. -/

theorem step_listener (listening : life.listening = true) {action : ListenAction}
    (own : action.Own = true) :
    step plist bridge life (.listener action) =
      { life with listener := life.listener.step plist action } := by
  have moves : onListener plist action life =
      (life.listener.next plist action).map fun listener => { life with listener } :=
    if_pos ⟨listening, own⟩
  simp only [step, next, moves, ListenerTask.step]
  cases life.listener.next plist action <;> rfl

theorem run_listener (listening : life.listening = true) {actions : List ListenAction}
    (own : ∀ action ∈ actions, action.Own = true) :
    Transition.run (step plist bridge) life (actions.map .listener) =
      { life with listener := Transition.run (ListenerTask.step plist) life.listener actions } := by
  induction actions generalizing life with
  | nil => rfl
  | cons action later ih =>
      rw [List.map_cons, run_cons, step_listener listening (own action List.mem_cons_self), ih]
      · rfl
      · exact listening
      · exact fun action member => own action (List.mem_cons_of_mem _ member)

theorem drains (looping : life.phase = .looping) :
    ∃ later, (∀ action ∈ later, action.Local = true) ∧
      (Transition.run (step plist bridge) life later).phase = .looping ∧
      (Transition.run (step plist bridge) life later).listener.phase = life.listener.phase ∧
      (Transition.run (step plist bridge) life later).listener.channel.items = [] := by
  generalize size : life.listener.channel.items = items
  induction items generalizing life with
  | nil => exact ⟨[], nofun, looping, rfl, size⟩
  | cons event waiting ih =>
      obtain ⟨channel, received, left⟩ := Channel.exists_recv size
      let taken := step plist bridge life (.takeDevice idleEnvironment)
      have took : taken = handleDevice bridge idleEnvironment event { life with
          listener := { life.listener with channel, taken := life.listener.taken ++ [event] } } := by
        simp only [taken, step, next, takeDevice, looping, received, Option.map_some, Option.getD_some]
      obtain ⟨later, stays, loops, same, empty⟩ := @ih taken (by rw [took]; simpa using looping)
        (by rw [took]; simpa using left)
      refine ⟨.takeDevice idleEnvironment :: later, ?_, loops, ?_, empty⟩
      · simpa [RunAction.Local] using stays
      · refine same.trans ?_
        rw [took, handleDevice_listener]

theorem winds {left : List String} (stopping : life.phase = .stopping left) :
    ∃ later, (∀ action ∈ later, action.Local = true) ∧
      (Transition.run (step plist bridge) life later).phase = .returned .ok := by
  induction left generalizing life with
  | nil =>
      refine ⟨[.finish], by simp [RunAction.Local], ?_⟩
      simp [Transition.run, step, next, finish, stopping]
  | cons deviceId left ih =>
      let stopped := step plist bridge life (.disconnectNext deviceId)
      have phase : stopped.phase = .stopping left := by
        simp [stopped, step, next, disconnectNext, stopping]
      obtain ⟨later, stays, returned⟩ := ih phase
      refine ⟨.disconnectNext deviceId :: later, ?_, returned⟩
      simpa [RunAction.Local] using stays

theorem stops_panicked (looping : life.phase = .looping) (panicked : life.listener.phase = .panicked) :
    ∃ later, (∀ action ∈ later, action.Local = true) ∧
      (Transition.run (step plist bridge) life later).phase = .returned .ok := by
  obtain ⟨takes, stays, loops, same, empty⟩ := @drains plist bridge life looping
  let drained := Transition.run (step plist bridge) life takes
  have phase : (step plist bridge drained .channelClosed).phase =
      .stopping drained.core.devices.keys := by
    have ended : drained.listener.phase.Ended = true := by
      rw [same, panicked]
      rfl
    have looping : drained.phase = .looping := loops
    simp [step, next, channelClosed, looping, ended, drained, empty]
  obtain ⟨later, quiet, returned⟩ := @winds plist bridge _ _ phase
  refine ⟨takes ++ .channelClosed :: later, ?_, ?_⟩
  · intro action member
    rcases List.mem_append.mp member with first | second
    · exact stays action first
    · rcases List.mem_cons.mp second with rfl | last
      · rfl
      · exact quiet action last
  · rw [run_append]
    exact returned

theorem run_listening (plist : PlistCrate) (bridge : ProxyBridge) (actions : List RunAction) :
    (run plist bridge actions).phase = .looping → (run plist bridge actions).listening = true := by
  refine run_keeps (fun life => life.phase = .looping → life.listening = true) nofun ?_ actions
  intro life taken after kept steps looping
  cases steps with
  | refused _ _ _ same | leaves _ _ same | stops _ _ _ _ same | returns _ same =>
      subst same
      cases looping
  | enters listServer environment _ same =>
      subst same
      rw [connect_listening]
  | takes environment event channel before _ same =>
      subst same
      rw [handleDevice_listening]
      exact kept before
  | listens _ _ _ _ _ _ same | handles _ _ _ same | cancels _ same =>
      subst same
      exact kept looping

/-- With nobody cancelling and nothing more read from usbmuxd, the proxy can stop just
when a packet that was received on the current connection panics. -/
theorem run_stopsAlone_iff (plist : PlistCrate) (bridge : ProxyBridge) (actions : List RunAction)
    (looping : (run plist bridge actions).phase = .looping)
    (goesOn : (run plist bridge actions).Cancelled = false) :
    (∃ later, (∀ action ∈ later, action.Local = true) ∧
        (run plist bridge (actions ++ later)).phase = .returned .ok) ↔
      ∃ packet ∈ packetHeader.frames (run plist bridge actions).listener.current.received,
        Unsplittable plist packet := by
  have resume (later : List RunAction) : run plist bridge (actions ++ later) =
      Transition.run (step plist bridge) (run plist bridge actions) later :=
    run_append actions later
  constructor
  · rintro ⟨later, stays, returned⟩
    obtain ⟨cancelled, received⟩ := @run_local plist bridge (run plist bridge actions) later stays
    rw [← resume] at cancelled received
    have panicked := run_leaving plist bridge (actions ++ later) (cancelled.trans goesOn)
      (.inr returned)
    obtain ⟨steps, reached⟩ := (run_listenerRuns plist bridge (actions ++ later)).reached
    have accounts := ListenerTask.run_accounts plist steps
    rw [← reached] at accounts
    simp only [ListenerTask.Accounts, panicked] at accounts
    obtain ⟨_, _, packet, member, unsplittable⟩ := accounts
    rcases received with same | none
    · rw [same] at member
      exact ⟨packet, member, unsplittable⟩
    · rw [none] at member
      exact absurd unsplittable ((ListenSession.clean_empty plist).2 packet member)
  · rintro ⟨packet, member, unsplittable⟩
    obtain ⟨steps, reached⟩ := (run_listenerRuns plist bridge actions).reached
    have accounts := ListenerTask.run_accounts plist steps
    rw [← reached] at accounts
    have listening := run_listening plist bridge actions looping
    obtain ⟨turns, panicked⟩ : ∃ turns, (Transition.run (ListenerTask.step plist)
        (run plist bridge actions).listener (List.replicate turns .parse)).phase = .panicked := by
      rcases accounts.unsplittable member unsplittable with panicked | ⟨parser, events, receiving, ends⟩
      · exact ⟨0, panicked⟩
      · obtain ⟨turns, reached⟩ := ListenerTask.parses_ends ends receiving
        refine ⟨turns, ?_⟩
        rw [reached]
        rfl
    have own : ∀ action ∈ List.replicate turns ListenAction.parse, action.Own = true := by
      intro action member
      rw [List.eq_of_mem_replicate member]
      rfl
    have parsed := @run_listener plist bridge _ listening _ own
    let heard := Transition.run (step plist bridge) (run plist bridge actions)
      ((List.replicate turns ListenAction.parse).map .listener)
    have loops : heard.phase = .looping := by
      rw [show heard = _ from parsed]
      exact looping
    have fallen : heard.listener.phase = .panicked := by
      rw [show heard = _ from parsed]
      exact panicked
    obtain ⟨later, stays, returned⟩ := @stops_panicked plist bridge heard loops fallen
    refine ⟨(List.replicate turns .parse).map .listener ++ later, ?_, ?_⟩
    · intro action member
      rcases List.mem_append.mp member with first | second
      · obtain ⟨turn, parsing, rfl⟩ := List.mem_map.mp first
        rw [List.eq_of_mem_replicate parsing]
        rfl
      · exact stays action second
    · rw [resume, run_append]
      exact returned

/-- A proxy whose listener has just read these bytes. -/
def hears (bytes : List UInt8) : List RunAction :=
  .begin (.ok ()) idleEnvironment :: (ListenerTask.listensTo bytes).map .listener

theorem run_hears (plist : PlistCrate) (bytes : List UInt8) :
    (run plist plainBridge (hears bytes)).phase = .looping ∧
      (run plist plainBridge (hears bytes)).listener =
        ListenerTask.run plist (ListenerTask.listensTo bytes) := by
  let begun := connect plainBridge idleEnvironment "SIMULATOR"
    { start with phase := .looping, listServer := false, listening := true }
  have listening : begun.listening = true := connect_listening ..
  have own : ∀ action ∈ ListenerTask.listensTo bytes, action.Own = true := by
    simp [ListenerTask.listensTo, ListenAction.Own]
  have fresh : begun.listener = .start := connect_listener ..
  have first : step plist plainBridge start (.begin (.ok ()) idleEnvironment) = begun := rfl
  rw [run, hears, run_cons, first, run_listener listening own, fresh, ListenerTask.run]
  constructor
  · exact connect_phase ..
  · dsimp only

theorem run_stopsAlone_iff_crossing :
    ∃ later, (∀ action ∈ later, action.Local = true) ∧
      (run (knowsDevice crossingSerial) plainBridge (hears crossingPacket ++ later)).phase =
        .returned .ok := by
  obtain ⟨looping, listener⟩ := run_hears (knowsDevice crossingSerial) crossingPacket
  have some : crossingPacket ≠ [] := nofun
  have short : crossingPacket.length ≤ bufferSize := by
    rw [crossingPacket, plistPacket_length]
    decide +kernel
  rw [ListenerTask.run_listensTo _ some short] at listener
  have bound := sampleDocument_bounds.2
  refine (run_stopsAlone_iff _ _ _ looping ?_).mpr ⟨crossingPacket, ?_, ?_⟩
  · rw [Cancelled, listener]
  · rw [listener, crossingPacket, frames_attachedDocument bound]
    exact List.mem_singleton_self _
  · exact (unsplittable_attachedDocument bound).mpr (standardSerial_eq_none.mp (by decide))

end ProxyRun

end IosWebkitDebugProxy
