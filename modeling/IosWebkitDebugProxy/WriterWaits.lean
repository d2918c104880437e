import IosWebkitDebugProxy.Library.History
import IosWebkitDebugProxy.WriterStream

/-! How long the caller of `send_plist` waits. The main loop makes the call, so while
it lasts no device is served. A write task that writes a packet or flushes it looks
neither at its queue nor at its cancellation. -/

namespace IosWebkitDebugProxy

open Transition WebInspectorCodec

/-- The stream has no part in the step: it takes no bytes, ends no flush, and does not
fail. -/
def WriteAction.Quiet : WriteAction → Prop
  | .write _ => False
  | .flush => False
  | .fail => False
  | _ => True

namespace WriteSide

variable {plist : PlistCrate} {side after : WriteSide}

def Finishes (plist : PlistCrate) (side : WriteSide) (actions : List WriteAction) : Prop :=
  side.results.length < (Transition.run (step plist) side actions).results.length

/-- The write task is at a packet, and the queue has no room for what is left of the
call. -/
structure Stuck (side : WriteSide) (left : List UInt8) (results : Nat) : Prop where
  inside : side.task = .writing left
  crowded : 64 < side.pending.length + side.queue.items.length
  results : side.results.length = results

/-- A flush cannot end while some of the packet is left. -/
theorem Stuck.moves {left : List UInt8} {results : Nat} (stuck : side.Stuck left results)
    (action : WriteAction) (quiet : action.Quiet ∨ action = .flush ∧ left ≠ []) :
    (side.step plist action).Stuck left results := by
  obtain ⟨writing, crowded, counted⟩ := stuck
  have bounded := side.queue.bounded
  have waiting : side.pending ≠ [] := by
    intro none
    rw [none, List.length_nil] at crowded
    omega
  obtain ⟨packet, later, split⟩ := List.exists_cons_of_ne_nil waiting
  have stays : side.Stuck left results := ⟨writing, crowded, counted⟩
  unfold step
  cases action with
  | sendPlist rpcBin =>
      have busy : ¬(side.pending = [] ∧ side.dropped = false) := fun free => waiting free.1
      simpa only [next, sendPlist, if_neg busy, Option.getD_none] using stays
  | put =>
      have running : side.task ≠ .ended := by simp [writing]
      simp only [next, put, split, if_neg running]
      cases stored : side.queue.send packet with
      | none => exact stays
      | some queue =>
          obtain ⟨items, room⟩ := Channel.send_items stored
          have below := Channel.not_full_iff.mp room
          rw [split, List.length_cons] at crowded
          have more : later ≠ [] := by
            intro none
            rw [none, List.length_nil] at crowded
            omega
          refine ⟨writing, ?_, ?_⟩
          · simp only [Option.map_some, Option.getD_some, items, List.length_append,
              List.length_singleton]
            omega
          · simpa only [Option.map_some, Option.getD_some, if_neg more] using counted
  | take => simpa only [next, take, writing, Option.getD_none] using stays
  | write count => simp [WriteAction.Quiet] at quiet
  | flush =>
      obtain ⟨first, rest, rfl⟩ : ∃ first rest, left = first :: rest :=
        List.exists_cons_of_ne_nil (quiet.resolve_left id).2
      simpa only [next, flush, writing, Option.getD_none] using stays
  | fail => simp [WriteAction.Quiet] at quiet
  | cancel => exact ⟨writing, crowded, counted⟩
  | seeCancelled =>
      have busy : ¬(side.task = .receiving ∧ side.cancelled = true) := by simp [writing]
      simpa only [next, seeCancelled, if_neg busy, Option.getD_none] using stays
  | dropHandle => simpa only [next, dropHandle, if_neg waiting, Option.getD_none] using stays
  | seeDropped =>
      have busy : ¬(side.task = .receiving ∧ side.dropped = true ∧ side.queue.items = []) := by
        simp [writing]
      simpa only [next, seeDropped, if_neg busy, Option.getD_none] using stays

theorem Stuck.run {left : List UInt8} {results : Nat} (stuck : side.Stuck left results)
    {actions : List WriteAction}
    (quiet : ∀ action ∈ actions, action.Quiet ∨ action = .flush ∧ left ≠ []) :
    (Transition.run (step plist) side actions).Stuck left results := by
  induction actions generalizing side with
  | nil => exact stuck
  | cons action later ih =>
      exact ih (stuck.moves action (quiet action List.mem_cons_self))
        fun next member => quiet next (List.mem_cons_of_mem _ member)

theorem Stuck.unfinished {left : List UInt8} {results : Nat} (stuck : side.Stuck left results)
    {actions : List WriteAction}
    (quiet : ∀ action ∈ actions, action.Quiet ∨ action = .flush ∧ left ≠ []) :
    ¬Finishes plist side actions := by
  intro finished
  rw [Finishes, (@Stuck.run plist _ _ _ stuck _ quiet).results, stuck.results] at finished
  exact Nat.lt_irrefl _ finished

theorem finishes_refused (waiting : side.pending ≠ []) (ended : side.task = .ended) :
    Finishes plist side [.put] := by
  obtain ⟨packet, later, split⟩ := List.exists_cons_of_ne_nil waiting
  simp [Finishes, Transition.run, step, next, put, split, ended]

theorem step_puts {packet : List UInt8} {later : List (List UInt8)}
    (split : side.pending = packet :: later) (running : side.task ≠ .ended)
    (room : side.queue.items.length < 64) :
    ∃ queue : Channel (List UInt8) 64, queue.items = side.queue.items ++ [packet] ∧
      side.step plist .put = { side with
        queue
        pending := later
        results := if later = [] then side.results ++ [.ok ()] else side.results } := by
  obtain ⟨queue, stored, items⟩ := Channel.exists_send (Channel.not_full_iff.mpr room) packet
  exact ⟨queue, items, by
    simp only [step, next, put, split, if_neg running, stored, Option.map_some, Option.getD_some]⟩

theorem finishes_puts (waiting : side.pending ≠ []) (running : side.task ≠ .ended)
    (room : side.pending.length + side.queue.items.length ≤ 64) :
    Finishes plist side (List.replicate side.pending.length .put) := by
  induction waits : side.pending generalizing side with
  | nil => exact absurd waits waiting
  | cons packet later ih =>
      rw [waits, List.length_cons] at room
      obtain ⟨queue, items, stepped⟩ := @step_puts plist side packet later waits running (by omega)
      rw [List.length_cons, List.replicate_succ, Finishes, Transition.run, List.foldl_cons, stepped]
      by_cases final : later = []
      · subst final
        simp
      · rw [if_neg final]
        refine @ih { side with queue, pending := later } final running ?_ rfl
        simp only [items, List.length_append, List.length_singleton]
        omega

theorem run_stops (between : side.task = .receiving) :
    Transition.run (step plist) side [.cancel, .seeCancelled] =
      { side with task := .ended, cancelled := true } := by
  simp [Transition.run, step, next, seeCancelled, between]

/-- A call that has begun can end without the stream taking part in it, just when
the write task is not at a packet, or the queue has room for the rest of the call.
Cancelling does not help. -/
theorem finishes_quietly_iff (plist : PlistCrate) (side : WriteSide) (waiting : side.pending ≠ []) :
    (∃ actions : List WriteAction, (∀ action ∈ actions, action.Quiet) ∧
        Finishes plist side actions) ↔
      (side.task = .receiving ∨ side.task = .ended) ∨
        side.pending.length + side.queue.items.length ≤ 64 := by
  constructor
  · rintro ⟨actions, quiet, finished⟩
    by_contra neither
    obtain ⟨inside, crowded⟩ := not_or.mp neither
    cases task : side.task with
    | receiving => exact inside (.inl task)
    | ended => exact inside (.inr task)
    | writing left =>
        have stuck : side.Stuck left side.results.length := ⟨task, Nat.lt_of_not_le crowded, rfl⟩
        exact stuck.unfinished (fun action member => .inl (quiet action member)) finished
  · rintro ((between | ended) | room)
    · refine ⟨[.cancel, .seeCancelled] ++ [.put], by simp [WriteAction.Quiet], ?_⟩
      have refused : Finishes plist { side with task := .ended, cancelled := true } [.put] :=
        finishes_refused waiting rfl
      rw [Finishes, run_append, run_stops between]
      exact refused
    · exact ⟨[.put], by simp [WriteAction.Quiet], finishes_refused waiting ended⟩
    · by_cases ended : side.task = .ended
      · exact ⟨[.put], by simp [WriteAction.Quiet], finishes_refused waiting ended⟩
      · refine ⟨List.replicate side.pending.length .put, ?_, finishes_puts waiting ended room⟩
        intro action member
        rw [List.eq_of_mem_replicate member]
        exact trivial

/-- The first message is written and not yet flushed, and the last of many finds no room. -/
def unflushed : List WriteAction :=
  [.sendPlist [0], .put, .take, .write 5] ++
    (List.replicate 64 [.sendPlist [0], .put]).flatten ++ [.sendPlist [0]]

/-- While the device keeps the flush from its end, a cancellation ends no call. -/
theorem finishes_quietly_iff_unflushed :
    ¬∃ actions : List WriteAction, (∀ action ∈ actions, action.Quiet) ∧
      Finishes reportIdentifierCrate
        (run reportIdentifierCrate (.new true false) unflushed) actions := by
  rw [finishes_quietly_iff reportIdentifierCrate _ (by decide +kernel)]
  decide +kernel

def unsent (plist : PlistCrate) (codec : WebInspectorCodec) (bins : List (List UInt8))
    (side : WriteSide) : List (List UInt8) :=
  (bins.drop side.called.length).flatMap (codec.encodePlist plist)

structure Filling (plist : PlistCrate) (codec : WebInspectorCodec) (bins : List (List UInt8))
    (side : WriteSide) : Prop where
  codec_eq : side.codec = codec
  inside : ∃ first rest, side.task = .writing (first :: rest)
  handed : side.dropped = false
  called : side.called <+: bins
  crowd : 64 < side.queue.items.length + side.pending.length + (unsent plist codec bins side).length

theorem Filling.progress {codec : WebInspectorCodec} {bins : List (List UInt8)}
    (filling : side.Filling plist codec bins)
    (room : ¬64 < side.pending.length + side.queue.items.length) :
    ∃ action, WriteAction.Quiet action ∧ (side.step plist action).Filling plist codec bins ∧
      (side.step plist action).pending.length +
          2 * (unsent plist codec bins (side.step plist action)).length <
        side.pending.length + 2 * (unsent plist codec bins side).length := by
  obtain ⟨rfl, ⟨first, rest, writing⟩, handed, ⟨later, split⟩, crowd⟩ := filling
  cases waits : side.pending with
  | nil =>
      cases later with
      | nil =>
          have bounded := side.queue.bounded
          rw [unsent, ← split, List.append_nil, List.drop_length, waits] at crowd
          simp only [List.flatMap_nil, List.length_nil] at crowd
          omega
      | cons message more =>
          have stepped : side.step plist (.sendPlist message) = { side with
              pending := side.codec.encodePlist plist message
              called := side.called ++ [message] } := by
            simp [step, next, sendPlist, waits, handed]
          have before : unsent plist side.codec bins side =
              side.codec.encodePlist plist message ++ more.flatMap (side.codec.encodePlist plist) := by
            rw [unsent, ← split, List.drop_left, List.flatMap_cons]
          have after : unsent plist side.codec bins (side.step plist (.sendPlist message)) =
              more.flatMap (side.codec.encodePlist plist) := by
            have whole : side.called ++ [message] ++ more = bins := by rw [← List.append_cons, split]
            rw [unsent, stepped, ← whole, List.drop_left]
          have positive := List.length_pos_iff.mpr (@encodePlist_ne_nil plist side.codec message)
          rw [before, waits, List.length_append, List.length_nil] at crowd
          refine ⟨.sendPlist message, trivial, ⟨?_, ?_, ?_, ?_, ?_⟩, ?_⟩
          · rw [stepped]
          · exact ⟨first, rest, by rw [stepped, writing]⟩
          · rw [stepped, handed]
          · rw [stepped, ← split]
            exact ⟨more, (List.append_cons ..).symm⟩
          · rw [after, stepped]
            simp only
            omega
          · rw [after, before, stepped, List.length_append]
            simp only [List.length_nil]
            omega
  | cons packet waiting =>
      have running : side.task ≠ .ended := by simp [writing]
      rw [waits, List.length_cons] at room
      obtain ⟨queue, items, stepped⟩ := @step_puts plist side packet waiting waits running (by omega)
      refine ⟨.put, trivial, ?_, ?_⟩
      · rw [stepped]
        refine ⟨rfl, ⟨first, rest, writing⟩, handed, ⟨later, split⟩, ?_⟩
        rw [waits, List.length_cons] at crowd
        simp only [items, List.length_append, List.length_singleton]
        exact Nat.lt_of_lt_of_le crowd (by simp only [unsent]; omega)
      · rw [stepped]
        simp only [unsent, List.length_cons]
        omega

theorem encodeFragments_packets (rpcBin : List UInt8) (offset : Nat) :
    ∀ packet ∈ encodeFragments plist rpcBin offset, ∃ data, packet = buildPacket data := by
  fun_induction encodeFragments plist rpcBin offset with
  | case1 offset more chunk ih =>
      intro packet member
      rcases List.mem_cons.mp member with rfl | later
      · exact ⟨_, rfl⟩
      · exact ih packet later
  | case2 offset last =>
      intro packet member
      exact ⟨_, List.mem_singleton.mp member⟩

theorem encodePlist_packets (codec : WebInspectorCodec) (rpcBin : List UInt8) :
    ∀ packet ∈ codec.encodePlist plist rpcBin, ∃ data, packet = buildPacket data := by
  intro packet member
  unfold encodePlist at member
  split at member
  · split at member
    · rcases List.mem_cons.mp member with rfl | second
      · exact ⟨_, rfl⟩
      · exact ⟨_, List.mem_singleton.mp second⟩
    · exact ⟨_, List.mem_singleton.mp member⟩
  · exact encodeFragments_packets rpcBin 0 packet member

theorem run_begins {codec : WebInspectorCodec} {message packet : List UInt8}
    {waiting : List (List UInt8)} (split : codec.encodePlist plist message = packet :: waiting) :
    ∃ results, run plist codec [.sendPlist message, .put, .take] =
      ⟨codec, waiting, .empty, .writing packet, false, false, [message], results, []⟩ := by
  refine ⟨if waiting = [] then [.ok ()] else [], ?_⟩
  simp only [run, Transition.run, List.foldl_cons, List.foldl_nil]
  have called : step plist (start codec) (.sendPlist message) =
      ⟨codec, packet :: waiting, .empty, .receiving, false, false, [message], [], []⟩ := by
    rw [← split]
    rfl
  rw [called]
  rfl

theorem filling_start {codec : WebInspectorCodec} {message : List UInt8}
    {later : List (List UInt8)}
    (enough : 65 < ((message :: later).flatMap (codec.encodePlist plist)).length) :
    (run plist codec [.sendPlist message, .put, .take]).Filling plist codec (message :: later) := by
  obtain ⟨packet, waiting, split⟩ :=
    List.exists_cons_of_ne_nil (@encodePlist_ne_nil plist codec message)
  obtain ⟨data, rfl⟩ := encodePlist_packets codec message packet (split ▸ List.mem_cons_self)
  obtain ⟨results, begun⟩ := run_begins split
  rw [begun]
  refine ⟨rfl, ⟨_, _, rfl⟩, rfl, ⟨later, rfl⟩, ?_⟩
  rw [List.flatMap_cons, split, List.length_append, List.length_cons] at enough
  have rest : unsent plist codec (message :: later)
      ⟨codec, waiting, .empty, .writing (buildPacket data), false, false, [message], results, []⟩ =
        later.flatMap (codec.encodePlist plist) := rfl
  rw [rest]
  simp only [Channel.empty, List.length_nil]
  omega

structure Filled (plist : PlistCrate) (codec : WebInspectorCodec) (bins : List (List UInt8))
    (side : WriteSide) : Prop extends Filling plist codec bins side where
  crowded : 64 < side.pending.length + side.queue.items.length

theorem Filling.run_filled {codec : WebInspectorCodec} {bins : List (List UInt8)}
    (filling : side.Filling plist codec bins) :
    ∃ actions : List WriteAction, (∀ action ∈ actions, action.Quiet) ∧
      (Transition.run (step plist) side actions).Filled plist codec bins :=
  exists_run_of_decreasing
    (fun side => side.pending.length + 2 * (unsent plist codec bins side).length)
    (Filling plist codec bins)
    (fun _ filling missed => filling.progress fun crowded => missed ⟨filling, crowded⟩) filling

theorem Filled.waiting {codec : WebInspectorCodec} {bins : List (List UInt8)}
    (filled : side.Filled plist codec bins) : side.pending ≠ [] := by
  intro none
  have bounded := side.queue.bounded
  have crowded := filled.crowded
  rw [none, List.length_nil] at crowded
  omega

/-- Any messages of more packets than the queue and the write task hold can be sent
to a device that reads nothing. The call that waits then cannot end, whoever cancels
it. -/
theorem run_stalls (plist : PlistCrate) (codec : WebInspectorCodec) (bins : List (List UInt8))
    (enough : 65 < (bins.flatMap (codec.encodePlist plist)).length) :
    ∃ actions : List WriteAction, (∀ action ∈ actions, action.Quiet) ∧
      (run plist codec actions).called <+: bins ∧ (run plist codec actions).pending ≠ [] ∧
      ∀ later : List WriteAction, (∀ action ∈ later, action.Quiet ∨ action = .flush) →
        ¬Finishes plist (run plist codec actions) later := by
  cases bins with
  | nil => cases enough
  | cons message later =>
      let begun : List WriteAction := [.sendPlist message, .put, .take]
      obtain ⟨actions, quiet, filled⟩ := (filling_start enough).run_filled
      have filled : (run plist codec (begun ++ actions)).Filled plist codec (message :: later) := by
        rw [run, run_append]
        exact filled
      refine ⟨begun ++ actions, ?_, filled.called, filled.waiting, ?_⟩
      · simpa [begun, WriteAction.Quiet] using quiet
      · intro after quiet
        obtain ⟨first, rest, inside⟩ := filled.inside
        have stuck : (run plist codec (begun ++ actions)).Stuck (first :: rest) _ :=
          ⟨inside, filled.crowded, rfl⟩
        exact stuck.unfinished fun action member =>
          (quiet action member).imp_right fun flushes => ⟨flushes, List.cons_ne_nil _ _⟩

theorem run_stalls_simulator :
    ∃ actions : List WriteAction, (∀ action ∈ actions, action.Quiet) ∧
      (run reportIdentifierCrate (.new true false) actions).called <+: List.replicate 66 [0] ∧
      (run reportIdentifierCrate (.new true false) actions).pending ≠ [] ∧
      ∀ later : List WriteAction, (∀ action ∈ later, action.Quiet ∨ action = .flush) →
        ¬Finishes reportIdentifierCrate
          (run reportIdentifierCrate (.new true false) actions) later :=
  run_stalls reportIdentifierCrate (.new true false) (List.replicate 66 [0]) (by decide)

def work (side : WriteSide) : Nat :=
  (side.pending.map fun packet => packet.length + 3).sum +
    (side.queue.items.map fun packet => packet.length + 2).sum +
    match side.task with
    | .writing left => left.length + 1
    | _ => 0

/-- The tasks alone, and a stream that takes what it is given. -/
def Flows : WriteAction → Prop
  | .put | .take | .write _ | .flush => True
  | _ => False

theorem flows_progress (running : side.task ≠ .ended)
    (unfinished : ¬(side.pending = [] ∧ side.queue.items = [] ∧ side.task = .receiving)) :
    ∃ action, Flows action ∧ (side.step plist action).task ≠ .ended ∧
      (side.step plist action).called = side.called ∧
      (side.step plist action).work < side.work := by
  cases task : side.task with
  | ended => exact absurd task running
  | writing left =>
      cases left with
      | nil =>
          refine ⟨.flush, trivial, ?_⟩
          simp [step, next, flush, task, work]
      | cons first rest =>
          refine ⟨.write (rest.length + 1), trivial, ?_⟩
          simp [step, next, write, task, work]
  | receiving =>
      cases queued : side.queue.items with
      | cons packet later =>
          obtain ⟨queue, taken, rest⟩ := Channel.exists_recv queued
          refine ⟨.take, trivial, ?_⟩
          simp only [step, next, take, task, taken, Option.map_some, Option.getD_some, work, queued,
            rest, List.map_cons, List.sum_cons]
          exact ⟨by simp, trivial, by omega⟩
      | nil =>
          cases waits : side.pending with
          | nil => exact absurd ⟨waits, queued, task⟩ unfinished
          | cons packet later =>
              obtain ⟨queue, items, stepped⟩ :=
                @step_puts plist side packet later waits running (by simp [queued])
              refine ⟨.put, trivial, ?_⟩
              rw [stepped]
              simp only [work, items, queued, waits, task, List.map_cons, List.sum_cons,
                List.nil_append, List.map_nil, List.sum_nil]
              exact ⟨by simp, trivial, by omega⟩

structure Drained (called : List (List UInt8)) (side : WriteSide) : Prop where
  pending : side.pending = []
  queue : side.queue.items = []
  task : side.task = .receiving
  called : side.called = called

theorem reaches_drained (running : side.task ≠ .ended) :
    ∃ later : List WriteAction, (∀ action ∈ later, Flows action) ∧
      (Transition.run (step plist) side later).Drained side.called := by
  refine exists_run_of_decreasing work
    (fun state => state.task ≠ .ended ∧ state.called = side.called) ?_ ⟨running, rfl⟩
  rintro state ⟨alive, same⟩ undrained
  obtain ⟨action, flows, alive', called, less⟩ := @flows_progress plist state alive
    fun ⟨pending, queue, task⟩ => undrained ⟨pending, queue, task, same⟩
  exact ⟨action, flows, ⟨alive', called.trans same⟩, less⟩

/-- Nothing that was handed over is stranded: while the write task runs, the tasks
and a stream that takes what it is given bring all of it into the stream, and every
call ends well. -/
theorem run_drains (plist : PlistCrate) (codec : WebInspectorCodec) (actions : List WriteAction)
    (running : (run plist codec actions).task ≠ .ended) :
    ∃ later : List WriteAction, (∀ action ∈ later, Flows action) ∧
      (run plist codec (actions ++ later)).called = (run plist codec actions).called ∧
      (run plist codec (actions ++ later)).wire =
        (run plist codec actions).called.flatMap (encoded plist codec) ∧
      (run plist codec (actions ++ later)).results =
        List.replicate (run plist codec actions).called.length (.ok ()) := by
  obtain ⟨later, flows, drained⟩ := @reaches_drained plist _ running
  have same : run plist codec (actions ++ later) =
      Transition.run (step plist) (run plist codec actions) later := by
    rw [run, run_append]
    rfl
  rw [← same] at drained
  obtain ⟨pending, queue, task, called⟩ := drained
  have ordered := @run_ordered plist codec (actions ++ later)
  have alive : (run plist codec (actions ++ later)).task ≠ .ended := by simp [task]
  have whole := ordered.whole alive
  rw [held, task, queue, pending, called, run_codec] at whole
  obtain ⟨count, results⟩ := ordered.results_of_open alive
  have calls := ordered.calls
  rw [if_pos pending, called, results, List.length_replicate, Nat.add_zero] at calls
  refine ⟨later, flows, called, ?_, by rw [results, calls]⟩
  simpa [WriteTask.left] using whole

theorem run_drains_simulator :
    ∃ later : List WriteAction, (∀ action ∈ later, Flows action) ∧
      (run reportIdentifierCrate (.new true false) ([.sendPlist [0]] ++ later)).called =
        (run reportIdentifierCrate (.new true false) [.sendPlist [0]]).called ∧
      (run reportIdentifierCrate (.new true false) ([.sendPlist [0]] ++ later)).wire =
        (run reportIdentifierCrate (.new true false) [.sendPlist [0]]).called.flatMap
          (encoded reportIdentifierCrate (.new true false)) ∧
      (run reportIdentifierCrate (.new true false) ([.sendPlist [0]] ++ later)).results =
        List.replicate (run reportIdentifierCrate (.new true false)
          [.sendPlist [0]]).called.length (.ok ()) :=
  run_drains reportIdentifierCrate (.new true false) [.sendPlist [0]] nofun

end WriteSide

end IosWebkitDebugProxy
