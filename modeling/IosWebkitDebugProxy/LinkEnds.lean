import IosWebkitDebugProxy.LinkRuns

/-! From one end of the proxy to the other. What the device reads from the stream is what
its clients sent, each in order, and what a client is given is what the device said to it,
however the tasks take turns and wherever a stream breaks off. -/

namespace IosWebkitDebugProxy

open Transition WebInspectorCodec

def heardData (command : Option (String × RpcCommand)) : Option (List UInt8) :=
  command.bind fun (_, command) => command.socketData

/-- The data of a message of the device to a client. -/
def RpcMessage.replyTo (wsId : String) : RpcMessage → Option (List UInt8)
  | .applicationSentData _ destId data => if destId = wsId then some data else none
  | _ => none

def WiEvent.replyTo (wsId : String) (event : WiEvent) : Option (List UInt8) :=
  event.rpc.bind (RpcMessage.replyTo wsId)

namespace DeviceLink

variable {plist : PlistCrate} {new : NewConnection} {deviceOf : Nat → String}
variable {link : DeviceLink}

/-- Nothing is between the handlers of the main loop and the stream. -/
def Written (link : DeviceLink) : Prop :=
  link.unsent = [] ∧ link.write.held = [] ∧ link.write.task ≠ .ended

/-- What the device hears of a client are frames of that client, in order and once. While
the page of the client stays, they are the first ones, and the others are on their way. -/
structure Hears (plist : PlistCrate) (new : NewConnection) (actions : List TaskAction)
    (link : DeviceLink) (heard : List (String × List UInt8)) : Prop where
  read : (readCommands plist new.codec link.write.wire).filterMap heardData =
    heard.map Prod.snd
  ordered : ∀ wsId, (FanIn.own wsId heard).Sublist
    (collected DeviceTasks.step (DeviceTasks.sentFrames wsId) (.start new.runtime) actions)
  served : ∀ wsId, (Throughout DeviceTasks.step (.start new.runtime) actions
      fun tasks _ => tasks.PageServed wsId) →
    FanIn.own wsId heard <+:
        collected DeviceTasks.step (DeviceTasks.sentFrames wsId) (.start new.runtime) actions ∧
      (link.Written → FanIn.own wsId heard ++ link.tasks.pendingFrames wsId =
        collected DeviceTasks.step (DeviceTasks.sentFrames wsId) (.start new.runtime) actions)

theorem run_reads (actions : List LinkAction) (wrappers : Wrappable plist)
    (sendable : ∀ command ∈ (run plist new deviceOf actions).tasks.runtime.written,
      Sendable plist new.codec (new.sender.build command)) :
    ∃ read, read <+: (run plist new deviceOf actions).tasks.runtime.written ∧
      readCommands plist new.codec (run plist new deviceOf actions).write.wire =
        read.map (fun command => some (new.sender.connectionId, command)) ∧
      ((run plist new deviceOf actions).Written →
        read = (run plist new deviceOf actions).tasks.runtime.written) := by
  obtain ⟨sent, called, written⟩ := @run_calls plist new deviceOf actions
  obtain ⟨writes, same⟩ := @run_write plist new deviceOf actions
  obtain ⟨_, fits⟩ := @run_tasks_fits plist new deviceOf actions
  generalize run plist new deviceOf actions = link at *
  have part : ∀ command ∈ sent, command ∈ link.tasks.runtime.written := by
    intro command member
    rw [written]
    exact List.mem_append_left _ member
  rw [same] at called
  have ordered := @WriteSide.run_ordered plist new.codec writes
  obtain ⟨count, inside, _, read, whole⟩ := ordered.reads (WriteSide.run_codec new.codec writes)
    called wrappers (fun command member => fits.written command (part command member))
    fun command member => sendable command (part command member)
  refine ⟨sent.take count, ?_, ?_, ?_⟩
  · rw [written]
    exact (List.take_prefix count sent).trans (List.prefix_append _ _)
  · rw [same]
    exact read
  · rintro ⟨nothing, settled, running⟩
    rw [nothing, List.append_nil] at written
    rw [same] at settled running
    have all := ordered.whole running
    rw [settled, List.append_nil, WriteSide.run_codec, called] at all
    have reached := whole sent.length le_rfl (by
      rw [List.take_length]
      exact all ▸ List.prefix_refl _)
    rw [written, List.take_of_length_le reached]

theorem reads_hears {actions : List LinkAction} {read : List RpcCommand}
    (first : read <+: (run plist new deviceOf actions).tasks.runtime.written)
    (seen : readCommands plist new.codec (run plist new deviceOf actions).write.wire =
      read.map (fun command => some (new.sender.connectionId, command)))
    (whole : (run plist new deviceOf actions).Written →
      read = (run plist new deviceOf actions).tasks.runtime.written) :
    ∃ heard, Hears plist new (taskRun plist new deviceOf actions) (run plist new deviceOf actions)
      heard := by
  have addressed := runtime_addressed new
  have data := DeviceTasks.run_relayed addressed (runtime_fits new)
    (@taskRun_pageIdsFit plist new deviceOf actions)
  rw [← run_tasks] at data
  have opening : (DeviceTasks.start new.runtime).runtime.written.filterMap
    RpcCommand.socketData = [] := rfl
  rw [opening, List.nil_append] at data
  have among (wsId : String) :=
    (collected_among DeviceTasks.relayed (FanIn.own wsId) rfl (FanIn.own_append wsId)
      (taskRun plist new deviceOf actions)).trans
      (congrArg (fun gives => collected DeviceTasks.step gives (.start new.runtime) _)
        (funext fun tasks => funext (DeviceTasks.own_relayed wsId tasks)))
  have front := first.filterMap RpcCommand.socketData
  rw [data] at front
  obtain ⟨heard, relayed, same⟩ := List.prefix_map_iff.mp front
  have own (wsId : String) : FanIn.own wsId heard <+: collected DeviceTasks.step
      (DeviceTasks.relayedFrames wsId) (.start new.runtime) (taskRun plist new deviceOf actions) := by
    rw [← among]
    exact relayed.filterMap _
  refine ⟨heard, ?_, ?_, ?_⟩
  · rw [seen, List.filterMap_map, ← same]
    rfl
  · intro wsId
    exact (own wsId).sublist.trans (DeviceTasks.run_relayedFrames_sublist addressed wsId _)
  · intro wsId stays
    have frames := DeviceTasks.run_frames addressed stays
    have fresh : (DeviceTasks.start new.runtime).pendingFrames wsId = [] := rfl
    rw [fresh, List.nil_append, ← run_tasks] at frames
    refine ⟨(own wsId).trans ⟨_, frames⟩, ?_⟩
    intro settled
    rw [whole settled, data] at same
    have all : heard.length = (collected DeviceTasks.step DeviceTasks.relayed
        (.start new.runtime) (taskRun plist new deviceOf actions)).length := by
      simpa using congrArg List.length same.symm
    rw [← frames, ← among, relayed.eq_of_length all]

/-- Whatever the tasks of the device do, and wherever its stream breaks off, the device
hears of every client what that client sent. -/
theorem run_deviceHears (plist : PlistCrate) (new : NewConnection) (deviceOf : Nat → String)
    (actions : List LinkAction) (wrappers : Wrappable plist)
    (sendable : ∀ command ∈ (run plist new deviceOf actions).tasks.runtime.written,
      Sendable plist new.codec (new.sender.build command)) :
    ∃ heard, Hears plist new (taskRun plist new deviceOf actions) (run plist new deviceOf actions)
      heard := by
  obtain ⟨read, first, seen, whole⟩ := run_reads actions wrappers sendable
  exact reads_hears first seen whole

def simulatorLink : NewConnection where
  bridge := ⟨none, none, false⟩
  environment := ⟨fun _ => true, none, none, "0F1E2D3C-4B5A-6978-8796-A5B4C3D2E1F0"⟩
  deviceId := "SIMULATOR"
  port := 9222
  deviceName := "SIMULATOR"
  deviceOsVersion := 0
  isSim := true
  partialsSupported := false
  connection := 0
  earlier := []

def listingBin : List UInt8 :=
  ascii "bplist00" ++ [0xD2, 1, 2, 3, 4, 0x5A] ++ ascii "__selector" ++ [0x5A] ++
    ascii "__argument" ++ [0x5F, 0x10, 28] ++ ascii "_rpc_applicationSentListing:" ++
    [0xD2, 5, 6, 7, 8, 0x5F, 0x10, 27] ++ ascii "WIRApplicationIdentifierKey" ++ [0x5D] ++
    ascii "WIRListingKey" ++ [0x55] ++ ascii "PID:1" ++ [0xD1, 9, 10, 0x51] ++ ascii "1" ++
    [0xD2, 11, 12, 13, 14, 0x5F, 0x10, 20] ++ ascii "WIRPageIdentifierKey" ++ [0x5A] ++
    ascii "WIRTypeKey" ++ [0x10, 1, 0x5E] ++ ascii "WIRTypeWebPage" ++
    [8, 13, 24, 35, 66, 71, 101, 115, 121, 124, 126, 131, 154, 165, 167] ++ bplistTrailer 15 182

def forwardSocketSetupBin : List UInt8 :=
  ascii "bplist00" ++ [0xD2, 1, 2, 3, 4, 0x5A] ++ ascii "__selector" ++ [0x5A] ++
    ascii "__argument" ++ [0x5F, 0x10, 24] ++ ascii "_rpc_forwardSocketSetup:" ++
    [0xD5, 5, 6, 7, 8, 9, 10, 11, 12, 13, 14, 0x5F, 0x10, 26] ++
    ascii "WIRConnectionIdentifierKey" ++ [0x5F, 0x10, 27] ++ ascii "WIRApplicationIdentifierKey" ++
    [0x5F, 0x10, 21] ++ ascii "WIRAutomaticallyPause" ++ [0x5F, 0x10, 20] ++
    ascii "WIRPageIdentifierKey" ++ [0x5C] ++ ascii "WIRSenderKey" ++ [0x5F, 0x10, 36] ++
    ascii sampleSender.connectionId ++ [0x55] ++ ascii "PID:1" ++ [8, 0x10, 1, 0x51] ++ ascii "A" ++
    [8, 13, 24, 35, 62, 73, 102, 132, 156, 179, 192, 231, 237, 238, 240] ++ bplistTrailer 15 242

def forwardSocketDataBin : List UInt8 :=
  ascii "bplist00" ++ [0xD2, 1, 2, 3, 4, 0x5A] ++ ascii "__selector" ++ [0x5A] ++
    ascii "__argument" ++ [0x5F, 0x10, 23] ++ ascii "_rpc_forwardSocketData:" ++
    [0xD5, 5, 6, 7, 8, 9, 10, 11, 12, 13, 14, 0x5F, 0x10, 26] ++
    ascii "WIRConnectionIdentifierKey" ++ [0x5F, 0x10, 27] ++ ascii "WIRApplicationIdentifierKey" ++
    [0x5F, 0x10, 20] ++ ascii "WIRPageIdentifierKey" ++ [0x5C] ++ ascii "WIRSenderKey" ++
    [0x5F, 0x10, 16] ++ ascii "WIRSocketDataKey" ++ [0x5F, 0x10, 36] ++
    ascii sampleSender.connectionId ++ [0x55] ++ ascii "PID:1" ++ [0x10, 1, 0x51] ++ ascii "A" ++
    [0x42, 123, 125] ++
    [8, 13, 24, 35, 61, 72, 101, 131, 154, 167, 186, 225, 231, 233, 235] ++ bplistTrailer 15 238

/-- The binary format on a page that is listed, and on the commands for a client of it. -/
def clientCrate : PlistCrate where
  fromBytes bytes :=
    if bytes = listingBin then .ok (listingMessage "PID:1" 1)
    else if bytes = forwardSocketSetupBin then
      .ok (sampleSender.build (.forwardSocketSetup "PID:1" 1 "A"))
    else if bytes = forwardSocketDataBin then
      .ok (sampleSender.build (.forwardSocketData "PID:1" 1 "A" [123, 125]))
    else reportIdentifierCrate.fromBytes bytes
  toWriterBinary
    | .dictionary [("__selector", .string "_rpc_forwardSocketSetup:"), _] => forwardSocketSetupBin
    | .dictionary [("__selector", .string "_rpc_forwardSocketData:"), _] => forwardSocketDataBin
    | value => reportIdentifierCrate.toWriterBinary value

def clientCommands : List RpcCommand :=
  [.reportIdentifier, .forwardSocketSetup "PID:1" 1 "A",
    .forwardSocketData "PID:1" 1 "A" [123, 125]]

theorem clientCrate_tagged (tag : UInt8) (chunk : List UInt8) (other : tag ≠ 98) :
    clientCrate.fromBytes (tag :: chunk) = reportIdentifierCrate.fromBytes (tag :: chunk) := by
  have differs {bin : List UInt8} (first : bin.head? = some 98) : tag :: chunk ≠ bin := by
    rintro rfl
    exact other (Option.some.inj first)
  simp only [clientCrate, if_neg (@differs listingBin rfl), if_neg (@differs forwardSocketSetupBin rfl),
    if_neg (@differs forwardSocketDataBin rfl)]

theorem clientCrate_wrappable : Wrappable clientCrate := by
  intro key member chunk
  obtain ⟨inverse, nonempty⟩ := reportIdentifierCrate_wrappable key member chunk
  simp only [fragmentKeys, List.mem_cons, List.not_mem_nil, or_false] at member
  rcases member with rfl | rfl
  · exact ⟨(clientCrate_tagged 0 chunk (by decide)).trans inverse, nonempty⟩
  · exact ⟨(clientCrate_tagged 1 chunk (by decide)).trans inverse, nonempty⟩

theorem clientCrate_sendable_of_bin (bin : List UInt8) {command : RpcCommand}
    (written : clientCrate.toWriterBinary (sampleSender.build command) = bin)
    (read : clientCrate.fromBytes bin = .ok (sampleSender.build command))
    (short : bin.length ≤ 300) (nonempty : bin ≠ []) :
    Sendable clientCrate (.new true false) (sampleSender.build command) := by
  refine ⟨⟨written.symm ▸ read, written.symm ▸ nonempty⟩, ?_⟩
  have packets : plistToBin clientCrate (sampleSender.build command) = bin := written
  rw [packets, encodePlist_simulator]
  intro packet member
  rw [List.mem_singleton.mp member, buildPacket_length]
  exact (Nat.add_le_add_right short 4).trans (by decide)

theorem clientCrate_sendable :
    ∀ command ∈ clientCommands, Sendable clientCrate (.new true false) (sampleSender.build command) := by
  have identifier : reportIdentifierBin ≠ listingBin ∧ reportIdentifierBin ≠ forwardSocketSetupBin ∧
      reportIdentifierBin ≠ forwardSocketDataBin := by decide +kernel
  have setup : forwardSocketSetupBin ≠ listingBin := by decide +kernel
  have data : forwardSocketDataBin ≠ listingBin ∧ forwardSocketDataBin ≠ forwardSocketSetupBin := by
    decide +kernel
  simp only [clientCommands, List.forall_mem_cons, List.not_mem_nil, false_imp_iff, implies_true,
    and_true]
  refine ⟨?_, ?_, ?_⟩
  · refine clientCrate_sendable_of_bin reportIdentifierBin rfl ?_ (by decide +kernel) (by decide +kernel)
    simp only [clientCrate, if_neg identifier.1, if_neg identifier.2.1, if_neg identifier.2.2,
      reportIdentifierCrate_read]
  · refine clientCrate_sendable_of_bin forwardSocketSetupBin rfl ?_ (by decide +kernel) (by decide +kernel)
    simp only [clientCrate, if_neg setup, if_true]
  · refine clientCrate_sendable_of_bin forwardSocketDataBin rfl ?_ (by decide +kernel) (by decide +kernel)
    simp only [clientCrate, if_neg data.1, if_neg data.2, if_true]

/-- One command goes through the queue into the stream. -/
def passOn (packet : Nat) : List LinkAction :=
  [.call, .write .put, .write .take, .write (.write packet), .write .flush]

def listed : List LinkAction :=
  passOn 174 ++ [.read (.deliver 0 (buildPacket listingBin)), .read (.read 0 4),
    .read (.read 0 listingBin.length), .read (.send 0), .read (.forward 0), .read (.forward 0),
    .takeEvent, .task .grantWrite]

/-- A client comes to the page, and sends a frame. -/
def clientSends : List LinkAction :=
  listed ++ [.task (.upgrade "A" 1), .task (.acquire "A"), .task (.put "A"),
    .task .forwardRegistration, .task .forwardRegistration, .task .takeRegistration,
    .task (.acquire "A"), .task (.put "A"), .task .forwardMessage, .task .forwardMessage,
    .task .takeMessage] ++ passOn 293 ++ [.task (.frame "A" [123, 125])]

def frameOn : List LinkAction :=
  [.task (.acquire "A"), .task (.put "A"), .task .forwardMessage, .task .forwardMessage,
    .task .takeMessage] ++ passOn 289

def clientHeard : List LinkAction := clientSends ++ frameOn

theorem clientHeard_written :
    (run clientCrate simulatorLink (fun _ => "SIMULATOR") clientHeard).tasks.runtime.written =
      clientCommands ∧
    (run clientCrate simulatorLink (fun _ => "SIMULATOR") clientHeard).Written := by
  unfold Written
  decide +kernel

/-- The client's page stays, and its one frame has left the queues. -/
theorem clientHeard_sent :
    Throughout DeviceTasks.step (.start simulatorLink.runtime)
        (taskRun clientCrate simulatorLink (fun _ => "SIMULATOR") clientHeard)
        (fun tasks _ => tasks.PageServed "A") ∧
      collected DeviceTasks.step (DeviceTasks.sentFrames "A") (.start simulatorLink.runtime)
        (taskRun clientCrate simulatorLink (fun _ => "SIMULATOR") clientHeard) = [[123, 125]] ∧
      (run clientCrate simulatorLink (fun _ => "SIMULATOR") clientHeard).tasks.pendingFrames "A" =
        [] := by
  decide +kernel

theorem run_deviceHears_client :
    ∃ heard, Hears clientCrate simulatorLink
        (taskRun clientCrate simulatorLink (fun _ => "SIMULATOR") clientHeard)
        (run clientCrate simulatorLink (fun _ => "SIMULATOR") clientHeard) heard ∧
      FanIn.own "A" heard = [[123, 125]] := by
  obtain ⟨commands, written⟩ := clientHeard_written
  obtain ⟨stays, sent, nothing⟩ := clientHeard_sent
  obtain ⟨heard, hears⟩ := run_deviceHears clientCrate simulatorLink (fun _ => "SIMULATOR")
    clientHeard clientCrate_wrappable (by rw [commands]; exact clientCrate_sendable)
  refine ⟨heard, hears, ?_⟩
  have all := (hears.served "A" stays).2 written
  rwa [nothing, List.append_nil, sent] at all

/-- A reply that an event brings to a client, with its connection. -/
def toldReply (new : NewConnection) (deviceOf : Nat → String) (wsId : String)
    (tagged : Nat × WiEvent) : Option (Nat × List UInt8) :=
  ((told new deviceOf tagged).bind (RpcMessage.replyTo wsId)).map fun data => (tagged.1, data)

theorem arrived_messages_sublist (wsId : String) (tasks : DeviceTasks)
    (messages : List RpcMessage) :
    (collected DeviceTasks.step (DeviceTasks.arrivedReplies wsId) tasks
      (messages.map .takeRpc)).Sublist (messages.filterMap (RpcMessage.replyTo wsId)) := by
  induction messages generalizing tasks with
  | nil => exact List.Sublist.refl _
  | cons message messages ih =>
      have rest := ih (tasks.step (.takeRpc message))
      have first : (tasks.arrivedReplies wsId (.takeRpc message)).Sublist
          (message.replyTo wsId).toList := by
        cases message with
        | applicationSentData appId destId data =>
            simp only [DeviceTasks.arrivedReplies, RpcMessage.replyTo]
            split
            · rename_i arrived
              rw [if_pos arrived.1]
              exact List.Sublist.refl _
            · exact List.nil_sublist _
        | _ => exact List.nil_sublist _
      rw [List.filterMap_cons, List.map_cons, collected]
      cases reply : message.replyTo wsId with
      | none =>
          rw [reply, Option.toList_none, List.sublist_nil] at first
          rw [first]
          exact rest
      | some data =>
          rw [reply] at first
          exact first.append rest

theorem arrived_sublist (wsId : String) (link : DeviceLink) (action : LinkAction) :
    (collected DeviceTasks.step (DeviceTasks.arrivedReplies wsId) link.tasks
      (taskActions plist new deviceOf link action)).Sublist
        (((takenEvents plist new deviceOf link action).filterMap
          (toldReply new deviceOf wsId)).map Prod.snd) := by
  cases action with
  | task own =>
      have quiet : collected DeviceTasks.step (DeviceTasks.arrivedReplies wsId) link.tasks
          (taskActions plist new deviceOf link (.task own)) = [] := by
        simp only [taskActions]
        split
        · rename_i possible
          cases own with
          | takeRpc message => simp [onTask] at possible
          | _ => rfl
        · rfl
      rw [quiet]
      exact List.nil_sublist _
  | takeEvent =>
      have taken := arrived_messages_sublist wsId link.tasks
        ((takenEvents plist new deviceOf link .takeEvent).filterMap (told new deviceOf))
      rw [List.filterMap_filterMap] at taken
      rw [List.map_filterMap]
      simpa [toldReply, taskActions] using taken
  | _ => exact List.nil_sublist _

theorem toldReply_eq_some {wsId : String} {tagged : Nat × WiEvent} {reply : Nat × List UInt8}
    (given : toldReply new deviceOf wsId tagged = some reply) :
    deviceOf tagged.1 = new.deviceId ∧ tagged.2.replyTo wsId = some reply.2 ∧
      reply.1 = tagged.1 := by
  obtain ⟨data, replied, rfl⟩ := Option.map_eq_some_iff.mp given
  obtain ⟨message, tells, replied⟩ := Option.bind_eq_some_iff.mp replied
  obtain ⟨ours, heard⟩ := Option.ite_none_right_eq_some.mp tells
  refine ⟨ours, ?_, rfl⟩
  rw [WiEvent.replyTo, heard]
  exact replied

theorem own_toldReply_sublist (wsId : String) (connection : Nat) (taken : List (Nat × WiEvent)) :
    (FanIn.own connection (taken.filterMap (toldReply new deviceOf wsId))).Sublist
      ((FanIn.own connection taken).filterMap (WiEvent.replyTo wsId)) := by
  induction taken with
  | nil => exact List.Sublist.refl _
  | cons tagged taken ih =>
      obtain ⟨name, event⟩ := tagged
      rw [FanIn.own_cons, List.filterMap_append]
      cases given : toldReply new deviceOf wsId (name, event) with
      | none =>
          rw [List.filterMap_cons_none given]
          exact ih.trans (List.sublist_append_right _ _)
      | some reply =>
          obtain ⟨source, data⟩ := reply
          obtain ⟨_, replied, same⟩ := toldReply_eq_some given
          rw [List.filterMap_cons_some given, FanIn.own_cons]
          refine List.Sublist.append ?_ ih
          cases same
          split
          · rw [List.filterMap_cons_some replied]
            exact List.Sublist.refl _
          · exact List.nil_sublist _

theorem run_arrived_sublist (wsId : String) (actions : List LinkAction) :
    (collected DeviceTasks.step (DeviceTasks.arrivedReplies wsId) (.start new.runtime)
      (taskRun plist new deviceOf actions)).Sublist
        (((collected (step plist new deviceOf) (takenEvents plist new deviceOf) (start plist new)
          actions).filterMap (toldReply new deviceOf wsId)).map Prod.snd) := by
  have arrived := @collected_projects _ _ _ (step plist new deviceOf) (start plist new) _ _
    DeviceTasks.step DeviceLink.tasks (taskActions plist new deviceOf) step_tasks
    (DeviceTasks.arrivedReplies wsId) actions
  have told := @collected_among _ _ _ (step plist new deviceOf) (start plist new) _
    (takenEvents plist new deviceOf)
    (fun taken => (taken.filterMap (toldReply new deviceOf wsId)).map Prod.snd) rfl (by simp)
    actions
  rw [told]
  change (collected DeviceTasks.step _ (start plist new).tasks _).Sublist _
  rw [taskRun, arrived]
  refine collected_sublist ?_
  intro before action after _
  exact arrived_sublist wsId _ action

/-- However the tasks take turns, every reply that a client is given is one that a
connection of its device brought for it. A client gets the replies of a connection in
their order and each of them once. -/
theorem run_clientHears (plist : PlistCrate) (new : NewConnection) (deviceOf : Nat → String)
    (actions : List LinkAction) (wsId : String) :
    ∃ replies : List (Nat × List UInt8),
      DeviceTasks.putReplies wsId (.start new.runtime) (taskRun plist new deviceOf actions) =
        replies.map Prod.snd ∧
      (∀ reply ∈ replies, deviceOf reply.1 = new.deviceId ∧
        reply.1 ∈ (run plist new deviceOf actions).read.tasks) ∧
      ∀ connection task,
        (run plist new deviceOf actions).read.tasks.lookup connection = some task →
        (FanIn.own connection replies).Sublist
          ((wiEvents plist task.fresh task.delivered).filterMap (WiEvent.replyTo wsId)) := by
  have put := (@DeviceTasks.putReplies_isPrefix _
    (DeviceTasks.start_orderly new.bridge new.environment new.deviceId new.port _ new.codec)
    (runtime_addressed new) wsId rfl rfl (taskRun plist new deviceOf actions)).sublist
  obtain ⟨replies, among, same⟩ :=
    List.sublist_map_iff.mp (put.trans (run_arrived_sublist wsId actions))
  obtain ⟨reads, read⟩ := @run_read plist new deviceOf actions
  have faithful := @ReadSide.run_faithful plist reads
  have taken := @run_taken plist new deviceOf actions
  rw [← read] at faithful
  generalize collected (step plist new deviceOf) (takenEvents plist new deviceOf)
    (start plist new) actions = events at among taken
  generalize run plist new deviceOf actions = link at faithful taken
  have own (connection : Nat) : (FanIn.own connection replies).Sublist
      ((link.read.passed connection).filterMap (WiEvent.replyTo wsId)) := by
    have later : (FanIn.own connection events).Sublist (link.read.passed connection) := by
      rw [ReadSide.passed, taken, FanIn.own_append]
      exact (List.sublist_append_right _ _).trans (List.sublist_append_left _ _)
    exact (among.filterMap _).trans ((own_toldReply_sublist wsId connection events).trans
      (later.filterMap _))
  refine ⟨replies, same, ?_, ?_⟩
  · intro reply member
    obtain ⟨tagged, _, given⟩ := List.mem_filterMap.mp (among.subset member)
    obtain ⟨ours, _, name⟩ := toldReply_eq_some given
    refine ⟨name ▸ ours, ?_⟩
    by_contra unknown
    have nothing := faithful reply.1
    rw [AList.lookup_eq_none.mpr unknown] at nothing
    have here := own reply.1
    rw [nothing, List.filterMap_nil, List.sublist_nil] at here
    have inside : reply.2 ∈ FanIn.own reply.1 replies :=
      List.mem_filterMap.mpr ⟨reply, member, if_pos rfl⟩
    rw [here] at inside
    cases inside
  · intro connection task found
    have passes := faithful connection
    rw [found] at passes
    exact (own connection).trans (passes.begins.sublist.filterMap _)

end DeviceLink

end IosWebkitDebugProxy
