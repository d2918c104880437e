import Mathlib.Data.List.Infix
import IosWebkitDebugProxy.CodecFrames
import IosWebkitDebugProxy.RpcCommands
import IosWebkitDebugProxy.WriterCore

/-! What a connection writes, against what `send_plist` was called with. The stream
takes the packets of the calls in their order and may break off anywhere, and the
device that reads it comes to know the commands in front of the break. -/

namespace IosWebkitDebugProxy

open Plist WebInspectorCodec Transition

def WriteTask.left : WriteTask → List UInt8
  | .writing left => left
  | _ => []

namespace WriteSide

variable {plist : PlistCrate} {side after : WriteSide}

/-- Everything that one step of the write side can do. -/
inductive Moves (plist : PlistCrate) (side : WriteSide) : WriteSide → Prop
  | idle : Moves plist side side
  | flags (cancelled dropped) : Moves plist side { side with cancelled, dropped }
  | call (rpcBin) : side.pending = [] →
      Moves plist side { side with
        pending := side.codec.encodePlist plist rpcBin
        called := side.called ++ [rpcBin] }
  | refuse : side.pending ≠ [] → side.task = .ended →
      Moves plist side { side with
        pending := [], results := side.results ++ [.error .channelClosed] }
  | put (packet later queue) : side.pending = packet :: later → side.task ≠ .ended →
      queue.items = side.queue.items ++ [packet] →
      Moves plist side { side with
        queue
        pending := later
        results := if later = [] then side.results ++ [.ok ()] else side.results }
  | take (data queue) : side.task = .receiving → side.queue.items = data :: queue.items →
      Moves plist side { side with queue, task := .writing data }
  | write (left count) : side.task = .writing left → 0 < count → count ≤ left.length →
      Moves plist side { side with
        task := .writing (left.drop count), wire := side.wire ++ left.take count }
  | flush : side.task = .writing [] → Moves plist side { side with task := .receiving }
  | stop : side.task ≠ .ended → Moves plist side { side with task := .ended }

theorem put_moves (moved : side.put = some after) : Moves plist side after := by
  unfold put at moved
  cases waiting : side.pending with
  | nil => simp only [waiting, reduceCtorEq] at moved
  | cons packet later =>
      simp only [waiting] at moved
      by_cases ended : side.task = .ended
      · rw [if_pos ended] at moved
        cases moved
        exact .refuse (by simp [waiting]) ended
      · rw [if_neg ended, Option.map_eq_some_iff] at moved
        obtain ⟨queue, stored, rfl⟩ := moved
        exact .put packet later queue waiting ended (Channel.send_items stored).1

theorem next_moves {action : WriteAction} (moved : side.next plist action = some after) :
    Moves plist side after := by
  cases action with
  | sendPlist rpcBin =>
      simp only [next, sendPlist, Option.ite_none_right_eq_some, Option.some.injEq] at moved
      obtain ⟨⟨free, _⟩, rfl⟩ := moved
      exact .call rpcBin free
  | put => exact put_moves moved
  | take =>
      simp only [next, take] at moved
      split at moved
      · rename_i receiving
        obtain ⟨⟨data, queue⟩, taken, rfl⟩ := Option.map_eq_some_iff.mp moved
        exact .take data queue receiving (Channel.recv_items taken)
      · cases moved
  | write count =>
      simp only [next, write] at moved
      split at moved
      · rename_i left writing
        simp only [Option.ite_none_right_eq_some, Option.some.injEq] at moved
        obtain ⟨⟨positive, fits⟩, rfl⟩ := moved
        exact .write left count writing positive fits
      · cases moved
  | flush =>
      simp only [next, flush] at moved
      split at moved
      · rename_i written
        cases moved
        exact .flush written
      · cases moved
  | fail =>
      simp only [next, fail] at moved
      split at moved
      · rename_i writing
        cases moved
        exact .stop (by simp [writing])
      · cases moved
  | cancel =>
      cases moved
      exact .flags true side.dropped
  | seeCancelled =>
      simp only [next, seeCancelled, Option.ite_none_right_eq_some, Option.some.injEq] at moved
      obtain ⟨⟨receiving, _⟩, rfl⟩ := moved
      exact .stop (by simp [receiving])
  | dropHandle =>
      simp only [next, dropHandle, Option.ite_none_right_eq_some, Option.some.injEq] at moved
      obtain ⟨_, rfl⟩ := moved
      exact .flags side.cancelled true
  | seeDropped =>
      simp only [next, seeDropped, Option.ite_none_right_eq_some, Option.some.injEq] at moved
      obtain ⟨⟨receiving, _⟩, rfl⟩ := moved
      exact .stop (by simp [receiving])

theorem step_moves (side : WriteSide) (action : WriteAction) :
    Moves plist side (side.step plist action) := by
  unfold step
  cases moved : side.next plist action with
  | none => exact .idle
  | some after => exact next_moves moved

theorem encodeFragments_ne_nil (rpcBin : List UInt8) (offset : Nat) :
    encodeFragments plist rpcBin offset ≠ [] := by
  rw [encodeFragments]
  split <;> simp

theorem encodePlist_ne_nil (codec : WebInspectorCodec) (rpcBin : List UInt8) :
    codec.encodePlist plist rpcBin ≠ [] := by
  unfold encodePlist
  split
  · split <;> simp
  · exact encodeFragments_ne_nil rpcBin 0

def accepted (side : WriteSide) : Nat := side.results.countP Except.isOk

/-- What was handed over and is not yet in the stream. -/
def held (side : WriteSide) : List UInt8 :=
  side.task.left ++ side.queue.items.flatten ++ side.pending.flatten

/-- The calls that succeed come before those that find the queue closed, and the
stream has nothing of the latter but perhaps of the first. -/
structure Ordered (plist : PlistCrate) (side : WriteSide) : Prop where
  calls : side.called.length = side.results.length + if side.pending = [] then 0 else 1
  results : ∃ count refused, side.results =
      List.replicate count (.ok ()) ++ List.replicate refused (.error .channelClosed) ∧
    (side.task ≠ .ended → refused = 0)
  whole : side.task ≠ .ended →
    side.wire ++ side.held = side.called.flatMap (encoded plist side.codec)
  behind : side.wire <+:
    (side.called.take (side.accepted + 1)).flatMap (encoded plist side.codec)

theorem accepted_of_results {count refused : Nat} (shape : side.results =
    List.replicate count (.ok ()) ++ List.replicate refused (.error .channelClosed)) :
    side.accepted = count := by
  simp [accepted, shape, List.countP_replicate, Except.isOk, Except.toBool]

theorem Ordered.of_open {count : Nat}
    (calls : side.called.length = side.results.length + if side.pending = [] then 0 else 1)
    (results : side.results = List.replicate count (.ok ()))
    (whole : side.wire ++ side.held = side.called.flatMap (encoded plist side.codec)) :
    side.Ordered plist := by
  have shape : side.results =
      List.replicate count (.ok ()) ++ List.replicate 0 (.error .channelClosed) := by
    rw [results, List.replicate_zero, List.append_nil]
  have short : side.called.length ≤ side.accepted + 1 := by
    rw [accepted_of_results shape, calls, results, List.length_replicate]
    split <;> omega
  refine ⟨calls, ⟨count, 0, shape, fun _ => rfl⟩, fun _ => whole, ?_⟩
  rw [List.take_of_length_le short, ← whole]
  exact List.prefix_append _ _

theorem Ordered.results_of_open (ordered : side.Ordered plist) (running : side.task ≠ .ended) :
    ∃ count, side.results = List.replicate count (.ok ()) := by
  obtain ⟨count, refused, shape, none⟩ := ordered.results
  exact ⟨count, by rw [shape, none running, List.replicate_zero, List.append_nil]⟩

theorem Ordered.moves (ordered : side.Ordered plist) (moved : Moves plist side after) :
    after.Ordered plist := by
  obtain ⟨calls, results, whole, behind⟩ := ordered
  cases moved with
  | idle => exact ⟨calls, results, whole, behind⟩
  | flags cancelled dropped => exact ⟨calls, results, whole, behind⟩
  | call rpcBin free =>
      refine ⟨?_, results, ?_, ?_⟩
      · rw [if_pos free] at calls
        simp only [List.length_append, List.length_singleton, encodePlist_ne_nil, if_false]
        omega
      · intro running
        have earlier := whole running
        simp only [held, free, List.flatten_nil, List.append_nil] at earlier
        simp only [held, List.flatMap_append, List.flatMap_singleton, encoded, ← earlier,
          List.append_assoc]
      · have longer : side.called.take (side.accepted + 1) <+:
            (side.called ++ [rpcBin]).take (side.accepted + 1) := by
          rw [List.take_append]
          exact List.prefix_append _ _
        exact behind.trans (longer.flatMap _)
  | refuse waiting ended =>
      obtain ⟨count, refused, shape, _⟩ := results
      rw [if_neg waiting] at calls
      have later : side.results ++ [.error .channelClosed] =
          List.replicate count (.ok ()) ++ List.replicate (refused + 1) (.error .channelClosed) := by
        rw [shape, List.append_assoc, List.replicate_succ']
      refine ⟨?_, ⟨count, refused + 1, later, fun running => absurd ended running⟩,
        fun running => absurd ended running, ?_⟩
      · simp only [List.length_append, List.length_singleton, if_true]
        omega
      · rw [accepted_of_results later, ← accepted_of_results shape]
        exact behind
  | put packet later queue waiting running stored =>
      obtain ⟨count, refused, shape, none⟩ := results
      rw [none running, List.replicate_zero, List.append_nil] at shape
      have earlier := whole running
      simp only [waiting, reduceCtorEq, if_false] at calls
      have same : side.wire ++ (side.task.left ++ queue.items.flatten ++ later.flatten) =
          side.called.flatMap (encoded plist side.codec) := by
        rw [← earlier, held, stored, waiting]
        simp
      by_cases final : later = []
      · refine @Ordered.of_open plist _ (count + 1) ?_ ?_ same
        · simp only [final, if_true, List.length_append, List.length_singleton]
          omega
        · simp only [final, if_true, shape, List.replicate_succ']
      · refine @Ordered.of_open plist _ count ?_ ?_ same
        · simp only [final, if_false]
          exact calls
        · simp only [final, if_false, shape]
  | take data queue receiving taken =>
      have running : side.task ≠ .ended := by simp [receiving]
      refine ⟨calls, results.imp fun _ => .imp fun _ => .imp_right fun none _ => none running,
        fun _ => ?_, behind⟩
      rw [← whole running, held, held, receiving, taken]
      simp [WriteTask.left]
  | write left count writing positive fits =>
      have running : side.task ≠ .ended := by simp [writing]
      have same : side.wire ++ left.take count ++
          (left.drop count ++ side.queue.items.flatten ++ side.pending.flatten) =
            side.called.flatMap (encoded plist side.codec) := by
        rw [← whole running, held, writing, WriteTask.left]
        simp only [List.append_assoc, List.append_cancel_left_eq]
        rw [← List.append_assoc (left.take count), List.take_append_drop]
      obtain ⟨total, refused, shape, none⟩ := results
      rw [none running, List.replicate_zero, List.append_nil] at shape
      exact .of_open calls shape same
  | flush written =>
      have running : side.task ≠ .ended := by simp [written]
      refine ⟨calls, results.imp fun _ => .imp fun _ => .imp_right fun none _ => none running,
        fun _ => ?_, behind⟩
      rw [← whole running, held, held, written]
      rfl
  | stop running =>
      refine ⟨calls, results.imp fun _ => .imp fun _ => .imp_right fun none _ => none running,
        fun impossible => absurd rfl impossible, behind⟩

theorem start_ordered (codec : WebInspectorCodec) : (start codec).Ordered plist :=
  .of_open rfl (List.replicate_zero.symm : [] = List.replicate 0 _) rfl

theorem run_ordered (codec : WebInspectorCodec) (actions : List WriteAction) :
    (run plist codec actions).Ordered plist :=
  run_invariant (Ordered plist) (start_ordered codec)
    (fun side action ordered => ordered.moves (step_moves side action)) actions

theorem Moves.codec_eq (moved : Moves plist side after) : after.codec = side.codec := by
  cases moved <;> rfl

theorem run_codec (codec : WebInspectorCodec) (actions : List WriteAction) :
    (run plist codec actions).codec = codec :=
  run_invariant (fun side => side.codec = codec) rfl
    (fun side action same => (step_moves side action).codec_eq.trans same) actions

end WriteSide

/-- The commands that a device reads from a stream. -/
def readCommands (plist : PlistCrate) (codec : WebInspectorCodec) (stream : List UInt8) :
    List (Option (String × RpcCommand)) :=
  (wiReadLoop plist codec stream).1.map fun (.recvPlist message, _) => readCommand message

theorem readCommands_append (plist : PlistCrate) (codec : WebInspectorCodec)
    (stream later : List UInt8) :
    readCommands plist codec stream <+: readCommands plist codec (stream ++ later) :=
  (wiReadLoop_append later).map _

def commandBins (plist : PlistCrate) (sender : RpcSender) (commands : List RpcCommand) :
    List (List UInt8) :=
  commands.map fun command => plistToBin plist (sender.build command)

/-- What the property-list library and the packet format are relied on for. -/
structure Sendable (plist : PlistCrate) (codec : WebInspectorCodec) (message : Value) : Prop where
  lawful : plist.RoundTrips message
  bounds : ∀ packet ∈ codec.encodePlist plist (plistToBin plist message),
    packet.length ≤ maxBodyLength + 4

def Wrappable (plist : PlistCrate) : Prop :=
  ∀ key ∈ fragmentKeys, ∀ chunk, plist.RoundTrips (wrapChunk key chunk)

theorem readCommands_whole {plist : PlistCrate} {isSim partialsSupported : Bool}
    {sender : RpcSender} {commands : List RpcCommand} (wrappers : Wrappable plist)
    (fits : ∀ command ∈ commands, command.PageIdFits)
    (sendable : ∀ command ∈ commands,
      Sendable plist (.new isSim partialsSupported) (sender.build command)) :
    readCommands plist (.new isSim partialsSupported)
        ((commandBins plist sender commands).flatMap
          (WriteSide.encoded plist (.new isSim partialsSupported))) =
      commands.map fun command => some (sender.connectionId, command) := by
  induction commands with
  | nil =>
      rw [readCommands]
      simp only [commandBins, List.map_nil, List.flatMap_nil]
      rw [wiReadLoop_short rfl]
      rfl
  | cons command later ih =>
      obtain ⟨lawful, bounds⟩ := sendable command List.mem_cons_self
      have rest := ih (fun next member => fits next (List.mem_cons_of_mem _ member))
        fun next member => sendable next (List.mem_cons_of_mem _ member)
      rw [readCommands] at rest ⊢
      simp only [commandBins, List.map_cons, List.flatMap_cons] at rest ⊢
      rw [WriteSide.encoded, wiReadLoop_message plist isSim partialsSupported _ lawful wrappers bounds,
        List.map_cons, rest, readCommand_build sender (fits command List.mem_cons_self)]

/-- From a write side in order, the device reads the first commands. -/
theorem WriteSide.Ordered.reads {plist : PlistCrate} {side : WriteSide}
    {isSim partialsSupported : Bool} {sender : RpcSender} {commands : List RpcCommand}
    (ordered : side.Ordered plist) (codec : side.codec = .new isSim partialsSupported)
    (called : side.called = commandBins plist sender commands)
    (wrappers : Wrappable plist) (fits : ∀ command ∈ commands, command.PageIdFits)
    (sendable : ∀ command ∈ commands,
      Sendable plist (.new isSim partialsSupported) (sender.build command)) :
    ∃ count, count ≤ commands.length ∧ count ≤ side.accepted + 1 ∧
      readCommands plist (.new isSim partialsSupported) side.wire =
        (commands.take count).map (fun command => some (sender.connectionId, command)) ∧
      ∀ whole ≤ commands.length,
        (commandBins plist sender (commands.take whole)).flatMap
            (WriteSide.encoded plist (.new isSim partialsSupported)) <+: side.wire →
          whole ≤ count := by
  let front := commands.take (side.accepted + 1)
  have read (items : List RpcCommand) (inside : ∀ command ∈ items, command ∈ commands) :=
    @readCommands_whole plist isSim partialsSupported sender items wrappers
      (fun command member => fits command (inside command member))
      fun command member => sendable command (inside command member)
  have behind : side.wire <+: (commandBins plist sender front).flatMap
      (WriteSide.encoded plist (.new isSim partialsSupported)) := by
    have written := ordered.behind
    rw [codec, called, commandBins, ← List.map_take] at written
    exact written
  obtain ⟨rest, whole⟩ := behind
  have seen : readCommands plist (.new isSim partialsSupported) side.wire <+:
      front.map fun command => some (sender.connectionId, command) := by
    rw [← read front fun command member => List.mem_of_mem_take member, ← whole]
    exact readCommands_append plist (.new isSim partialsSupported) side.wire rest
  have short := seen.length_le
  simp only [List.length_map, front, List.length_take] at short
  refine ⟨(readCommands plist (.new isSim partialsSupported) side.wire).length, by omega, by omega,
    ?_, ?_⟩
  · have same := List.prefix_iff_eq_take.mp seen
    rw [← List.map_take, List.take_take, min_eq_left (by omega)] at same
    exact same
  · rintro number inside ⟨later, split⟩
    have earlier : readCommands plist (.new isSim partialsSupported)
        ((commandBins plist sender (commands.take number)).flatMap
          (WriteSide.encoded plist (.new isSim partialsSupported))) <+:
            readCommands plist (.new isSim partialsSupported) side.wire := by
      rw [← split]
      exact readCommands_append plist (.new isSim partialsSupported) _ later
    have reached := earlier.length_le
    rw [read _ fun command member => List.mem_of_mem_take member] at reached
    rw [List.length_map, List.length_take, min_eq_left inside] at reached
    exact reached

/-- Whatever the tasks do, and wherever the stream breaks off, the device reads
the first commands and nothing else. Every command that is wholly written is among
them, and at most one whose call did not succeed. -/
theorem run_deviceReads (plist : PlistCrate) (isSim partialsSupported : Bool) (sender : RpcSender)
    (commands : List RpcCommand) (actions : List WriteAction)
    (called : (WriteSide.run plist (.new isSim partialsSupported) actions).called =
      commandBins plist sender commands)
    (wrappers : Wrappable plist) (fits : ∀ command ∈ commands, command.PageIdFits)
    (sendable : ∀ command ∈ commands,
      Sendable plist (.new isSim partialsSupported) (sender.build command)) :
    ∃ count, count ≤ commands.length ∧
      count ≤ (WriteSide.run plist (.new isSim partialsSupported) actions).accepted + 1 ∧
      readCommands plist (.new isSim partialsSupported)
          (WriteSide.run plist (.new isSim partialsSupported) actions).wire =
        (commands.take count).map (fun command => some (sender.connectionId, command)) ∧
      ∀ whole ≤ commands.length,
        (commandBins plist sender (commands.take whole)).flatMap
            (WriteSide.encoded plist (.new isSim partialsSupported)) <+:
          (WriteSide.run plist (.new isSim partialsSupported) actions).wire → whole ≤ count :=
  (WriteSide.run_ordered (.new isSim partialsSupported) actions).reads
    (WriteSide.run_codec (.new isSim partialsSupported) actions) called wrappers fits sendable

def sampleSender : RpcSender := ⟨"0F1E2D3C-4B5A-6978-8796-A5B4C3D2E1F0"⟩

def reportIdentifierBin : List UInt8 :=
  ascii "bplist00" ++ [0xD2, 1, 2, 3, 4, 0x5A] ++ ascii "__selector" ++ [0x5A] ++
    ascii "__argument" ++ [0x5F, 0x10, 22] ++ ascii "_rpc_reportIdentifier:" ++ [0xD1, 5, 6] ++
    [0x5F, 0x10, 26] ++ ascii "WIRConnectionIdentifierKey" ++ [0x5F, 0x10, 36] ++
    ascii sampleSender.connectionId ++ [8, 13, 24, 35, 60, 63, 92] ++ bplistTrailer 7 131

/-- The binary format on one command, fragments are tagged. -/
def reportIdentifierCrate : PlistCrate where
  fromBytes bytes :=
    if bytes = reportIdentifierBin then .ok (sampleSender.build .reportIdentifier)
    else match bytes with
      | 0 :: chunk => .ok (wrapChunk "WIRPartialMessageKey" chunk)
      | 1 :: chunk => .ok (wrapChunk "WIRFinalMessageKey" chunk)
      | _ => .error "Expected binary plist"
  toWriterBinary
    | .dictionary [("WIRPartialMessageKey", .data chunk)] => 0 :: chunk
    | .dictionary [("WIRFinalMessageKey", .data chunk)] => 1 :: chunk
    | _ => reportIdentifierBin

theorem reportIdentifierCrate_wrappable : Wrappable reportIdentifierCrate := by
  intro key member chunk
  have first : reportIdentifierBin.head? = some 98 := rfl
  have tagged (tag : UInt8) (other : tag ≠ 98) : tag :: chunk ≠ reportIdentifierBin := by
    intro same
    rw [← same] at first
    exact other (by simpa using first)
  simp only [fragmentKeys, List.mem_cons, List.not_mem_nil, or_false] at member
  rcases member with rfl | rfl
  · have written : reportIdentifierCrate.toWriterBinary (wrapChunk "WIRPartialMessageKey" chunk) =
        0 :: chunk := rfl
    constructor <;> rw [written]
    · simp [reportIdentifierCrate, tagged]
    · simp
  · have written : reportIdentifierCrate.toWriterBinary (wrapChunk "WIRFinalMessageKey" chunk) =
        1 :: chunk := rfl
    constructor <;> rw [written]
    · simp [reportIdentifierCrate, tagged]
    · simp

theorem reportIdentifierCrate_written :
    plistToBin reportIdentifierCrate (sampleSender.build .reportIdentifier) =
      reportIdentifierBin := rfl

theorem reportIdentifierCrate_read : reportIdentifierCrate.fromBytes reportIdentifierBin =
    .ok (sampleSender.build .reportIdentifier) := by
  simp only [reportIdentifierCrate, if_true]

theorem encodePlist_simulator (plist : PlistCrate) (bin : List UInt8) :
    (WebInspectorCodec.new true false).encodePlist plist bin = [buildPacket bin] := rfl

theorem reportIdentifierCrate_sendable :
    Sendable reportIdentifierCrate (.new true false) (sampleSender.build .reportIdentifier) := by
  have nonempty : reportIdentifierBin ≠ [] := List.cons_ne_nil _ _
  refine ⟨⟨reportIdentifierCrate_read, nonempty⟩, ?_⟩
  rw [reportIdentifierCrate_written, encodePlist_simulator]
  intro packet member
  rw [List.mem_singleton.mp member, buildPacket_length]
  have length : reportIdentifierBin.length = 170 := rfl
  rw [length]
  decide

/-- The connection is cancelled in the middle of the only packet. -/
def cutShort (bin : List UInt8) : List WriteAction :=
  [.sendPlist bin, .put, .take, .write 4, .cancel] ++ [.write bin.length]

theorem cutShort_run (plist : PlistCrate) {bin : List UInt8} (nonempty : bin ≠ []) :
    WriteSide.run plist (.new true false) (cutShort bin) =
      ⟨.new true false, [], .empty, .writing [], true, false, [bin], [.ok ()], buildPacket bin⟩ := by
  have before : WriteSide.run plist (.new true false)
      [.sendPlist bin, .put, .take, .write 4, .cancel] =
        ⟨.new true false, [], .empty, .writing bin, true, false, [bin], [.ok ()],
          (buildPacket bin).take 4⟩ := rfl
  have fits : 0 < bin.length ∧ bin.length ≤ bin.length :=
    ⟨List.length_pos_iff.mpr nonempty, le_rfl⟩
  rw [WriteSide.run] at before ⊢
  rw [cutShort, run_concat, before, WriteSide.step, WriteSide.next, WriteSide.write]
  simp only [if_pos fits, Option.getD_some, List.take_length, List.drop_length]
  rfl

theorem run_deviceReads_reportIdentifier :
    readCommands reportIdentifierCrate (.new true false)
        (WriteSide.run reportIdentifierCrate (.new true false)
          (cutShort reportIdentifierBin)).wire =
      [some (sampleSender.connectionId, .reportIdentifier)] := by
  have ran := @cutShort_run reportIdentifierCrate reportIdentifierBin (List.cons_ne_nil _ _)
  have bins : commandBins reportIdentifierCrate sampleSender [.reportIdentifier] =
      [reportIdentifierBin] := by
    rw [commandBins, List.map_singleton, reportIdentifierCrate_written]
  obtain ⟨count, inside, _, read, whole⟩ :=
    run_deviceReads reportIdentifierCrate true false sampleSender [.reportIdentifier]
      (cutShort reportIdentifierBin) (by rw [ran, bins]) reportIdentifierCrate_wrappable
      (by simp [RpcCommand.PageIdFits]) (by simpa using reportIdentifierCrate_sendable)
  have reached := whole 1 le_rfl (by
    rw [ran, List.take_succ_cons, List.take_zero, bins, List.flatMap_singleton,
      WriteSide.encoded, encodePlist_simulator, List.flatten_singleton])
  have one : count = 1 := le_antisymm inside reached
  rw [read, one]
  rfl

end IosWebkitDebugProxy
