import IosWebkitDebugProxy.LinkCore

/-! What the handlers of the main loop send. For a message of a client it is about the
page of the client, and its data is that of the message. For a message of the device it
asks for listings. -/

namespace IosWebkitDebugProxy

open Transition

/-- Page identifiers are read as 32-bit numbers. -/
def RpcMessage.PageIdsFit : RpcMessage → Prop
  | .applicationSentListing _ items => ∀ item ∈ items, item.pageId < 2 ^ 32
  | _ => True

theorem parseRpcMessage_pageIdsFit {rpcDict : Plist.Value} {message : RpcMessage}
    (parsed : parseRpcMessage rpcDict = .ok message) : message.PageIdsFit := by
  cases message with
  | applicationSentListing appId items => exact fun item member => DeviceRuntime.listed_small parsed member
  | _ => trivial

def TaskAction.PageIdsFit : TaskAction → Prop
  | .takeRpc message => message.PageIdsFit
  | _ => True

namespace DeviceRuntime

variable {runtime : DeviceRuntime}

def IsListing (command : RpcCommand) : Prop := ∃ appId, command = .forwardGetListing appId

theorem addAppId_sends (appId : String) (runtime : DeviceRuntime) :
    Sends IsListing runtime (runtime.addAppId appId) := by
  unfold addAppId
  split
  · exact .nothing runtime
  · exact sends_send ⟨appId, rfl⟩ { runtime with appIds := runtime.appIds.assign appId true }

theorem addListedApps_sends (apps : List RpcApp) (runtime : DeviceRuntime) :
    Sends IsListing runtime (apps.foldl addListedApp runtime) := by
  apply List.foldlRecOn apps addListedApp (.nothing runtime)
  intro known sent app _
  exact sent.trans (addAppId_sends app.appId known)

theorem listPages_written (appId : String) (items : List RpcPage) (runtime : DeviceRuntime) :
    (items.foldl (listPage appId) runtime).written = runtime.written := by
  induction items generalizing runtime with
  | nil => rfl
  | cons item items ih =>
      rw [List.foldl_cons, ih]
      unfold listPage
      split <;> rfl

theorem handleRpcMessage_sends (message : RpcMessage) (runtime : DeviceRuntime) :
    Sends IsListing runtime (runtime.handleRpcMessage message) := by
  cases message with
  | reportConnectedApplicationList apps =>
      have connects : Sends IsListing runtime
          (if runtime.connected then runtime else runtime.setConnected) := by
        split <;> exact .nothing runtime
      exact connects.trans (addListedApps_sends apps _)
  | applicationConnected app => exact addAppId_sends app.appId { runtime with currentApp := some app }
  | applicationSentListing appId items =>
      exact ⟨[], (listPages_written appId items runtime).trans (List.append_nil _).symm, by simp⟩
  | applicationSentData appId destId data =>
      simp only [handleRpcMessage, handleAppData]
      split <;> exact .nothing runtime
  | applicationUpdated appId destId => exact addAppId_sends destId runtime
  | _ => exact .nothing runtime

theorem IsListing.fits {command : RpcCommand} (asks : IsListing command) : command.PageIdFits := by
  obtain ⟨_, rfl⟩ := asks
  trivial

def PagesFit (runtime : DeviceRuntime) : Prop :=
  ∀ num page, runtime.pages.lookup num = some page → page.pageId < 2 ^ 32

theorem PagesFit.about {touched : Nat → Prop} (fit : runtime.PagesFit) {command : RpcCommand}
    (about : AboutTouched touched runtime command) : command.PageIdFits := by
  cases command with
  | reportIdentifier => trivial
  | forwardGetListing appId => trivial
  | forwardSocketSetup | forwardSocketData | forwardDidClose =>
      obtain ⟨num, page, _, found, same⟩ := about _ rfl
      cases same
      exact fit num page found

theorem PagesFit.listPages (valid : PageTable runtime.pages) (fit : runtime.PagesFit)
    (appId : String) {items : List RpcPage} (small : ∀ item ∈ items, item.pageId < 2 ^ 32) :
    (items.foldl (listPage appId) runtime).PagesFit := by
  induction items generalizing runtime with
  | nil => exact fit
  | cons item items ih =>
      refine ih (listPage_table valid appId item) ?_ fun other member =>
        small other (List.mem_cons_of_mem item member)
      intro place entry found
      rcases listPage_news valid appId item with ⟨num, _, _, _, _, shape⟩ | ⟨_, shape⟩
      · rw [shape] at found
        rcases Table.lookup_of_modify found with ⟨_, old, before, rfl⟩ | ⟨_, before⟩
        · exact fit place old before
        · exact fit place entry before
      · rw [shape, Table.lookup_assign] at found
        split at found
        · cases found
          exact small item List.mem_cons_self
        · exact fit place entry found

theorem handle_pagesFit (valid : PageTable runtime.pages) (fit : runtime.PagesFit)
    {event : RuntimeEvent} (small : ∀ message, event = .rpc message → message.PageIdsFit) :
    (runtime.handle event).PagesFit := by
  by_cases listing : ∃ appId items, event = .rpc (.applicationSentListing appId items)
  · obtain ⟨appId, items, rfl⟩ := listing
    intro num page found
    have listed := ((handlePageListing_lookup runtime appId items num page).mp found).1
    exact fit.listPages valid appId (small _ rfl) num page listed
  · have moves := handle_moves valid fun appId items same => listing ⟨appId, items, same⟩
    intro num page found
    obtain ⟨old, before, _, same⟩ := moves.reshapes.same num page found
    rw [← same]
    exact fit num old before

theorem handle_sends (valid : PageTable runtime.pages) (fit : runtime.PagesFit)
    (event : RuntimeEvent) : Sends RpcCommand.PageIdFits runtime (runtime.handle event) := by
  cases event with
  | rpc message => exact (handleRpcMessage_sends message runtime).mono fun _ asks => asks.fits
  | wsMessage message =>
      exact (handleWsMessage_moves valid message).sends.mono fun _ about => fit.about about
  | registration registration => exact .nothing runtime

/-- The data that a handler sends on, under the client whose message it handles. -/
def relays (event : RuntimeEvent) (runtime : DeviceRuntime) : List (String × List UInt8) :=
  match event with
  | .wsMessage message =>
      ((runtime.sentBy event).filterMap RpcCommand.socketData).map fun data => (message.wsId, data)
  | _ => []

theorem handle_relays (event : RuntimeEvent) :
    (runtime.sentBy event).filterMap RpcCommand.socketData = (runtime.relays event).map Prod.snd := by
  cases event with
  | wsMessage message =>
      rw [relays, List.map_map]
      exact (List.map_id _).symm
  | registration registration => simp [sentBy, handle, handleWsRegistration, written, relays]
  | rpc message =>
      simp only [relays, List.map_nil, List.filterMap_eq_nil_iff]
      intro command member
      obtain ⟨_, rfl⟩ := (handleRpcMessage_sends message runtime).drop command member
      rfl

theorem relays_sublist (valid : PageTable runtime.pages) (message : WsToWiMessage) :
    ((runtime.sentBy (.wsMessage message)).filterMap RpcCommand.socketData).Sublist
      message.frames := by
  by_cases control : message.isClose ∨ message.data = []
  · have quiet : (runtime.sentBy (.wsMessage message)).filterMap RpcCommand.socketData = [] := by
      rw [List.filterMap_eq_nil_iff]
      intro command member
      have other := sentBy_control control command member
      cases command with
      | forwardSocketData appId pageId sender data => exact absurd rfl (other _ _ _ _)
      | _ => rfl
    rw [quiet]
    exact List.nil_sublist _
  · obtain ⟨live, frame⟩ := not_or.mp control
    rw [Bool.not_eq_true] at live
    have whole : message.frames = [message.data] := by
      simp [WsToWiMessage.frames, Outgoing.frames, live, frame]
    rw [sentBy_data valid live frame, whole]
    split
    · split
      · exact List.Sublist.refl _
      · exact List.nil_sublist _
    · exact List.nil_sublist _

end DeviceRuntime

namespace DeviceTasks

variable {tasks after : DeviceTasks}

def Handles (tasks : DeviceTasks) (action : TaskAction) : RuntimeEvent → Prop
  | .wsMessage message => action = .takeMessage ∧ tasks.main = .select ∧
      ∃ messages, tasks.messages.recv = some (message, messages)
  | .registration _ => action = .takeRegistration
  | .rpc message => action ≠ .takeMessage ∧
      (action = .takeRpc message ∨ tasks.main = .awaitWrite message ∨
        ∃ destId data, message = .applicationSentData "" destId data)

theorem handOver_handles {before : DeviceTasks} {action : TaskAction} {destId : String}
    {data : List UInt8} (same : before.runtime = tasks.runtime) (other : action ≠ .takeMessage)
    (given : before.handOver destId data = some after) :
    after.runtime = tasks.runtime ∧ action ≠ .takeMessage ∨
      ∃ event, tasks.Handles action event ∧ after.runtime = tasks.runtime.handle event := by
  rw [← same]
  rcases handOver_runtime given with kept | handled
  · exact .inl ⟨kept, other⟩
  · exact .inr ⟨.rpc (.applicationSentData "" destId data), ⟨other, .inr (.inr ⟨_, _, rfl⟩)⟩, handled⟩

theorem taskStep_handles {action : TaskAction} (moved : TaskStep tasks action after) :
    after.runtime = tasks.runtime ∧ action ≠ .takeMessage ∨
      ∃ event, tasks.Handles action event ∧ after.runtime = tasks.runtime.handle event := by
  cases moved with
  | takeMessage idle received => exact .inr ⟨.wsMessage _, ⟨rfl, idle, _, received⟩, rfl⟩
  | takeRegistration idle received => exact .inr ⟨.registration _, rfl, rfl⟩
  | handleRpc idle _ _ => exact .inr ⟨.rpc _, ⟨by simp, .inl rfl⟩, rfl⟩
  | grantWrite waiting _ => exact .inr ⟨.rpc _, ⟨by simp, .inr (.inl waiting)⟩, rfl⟩
  | handOver _ given => exact handOver_handles rfl (by simp) given
  | deliver _ given =>
      exact @handOver_handles tasks after { tasks with main := .select } _ _ _ rfl (by simp) given
  | _ => exact .inl ⟨rfl, by simp⟩

/-- The data that a step sends on, with the client whose message it was. -/
def relayed (tasks : DeviceTasks) : TaskAction → List (String × List UInt8)
  | .takeMessage =>
      if tasks.main = .select then
        (tasks.messages.recv.toList.map Prod.fst).flatMap fun message =>
          tasks.runtime.relays (.wsMessage message)
      else []
  | _ => []

theorem relayed_handles {action : TaskAction} {event : RuntimeEvent}
    (handles : tasks.Handles action event) : tasks.relayed action = tasks.runtime.relays event := by
  cases event with
  | wsMessage message =>
      obtain ⟨rfl, idle, messages, received⟩ := handles
      simp [relayed, idle, received]
  | registration registration =>
      cases handles
      rfl
  | rpc message =>
      obtain ⟨other, _⟩ := handles
      cases action with
      | takeMessage => exact absurd rfl other
      | _ => rfl

theorem relayed_quiet {action : TaskAction} (other : action ≠ .takeMessage) :
    tasks.relayed action = [] := by
  cases action with
  | takeMessage => exact absurd rfl other
  | _ => rfl

/-- What every step keeps: page identifiers are 32-bit numbers, also in what was sent and
in the message that waits for the lock. -/
structure Fits (tasks : DeviceTasks) : Prop where
  pages : tasks.runtime.PagesFit
  written : ∀ command ∈ tasks.runtime.written, command.PageIdFits
  waiting : ∀ message, tasks.main = .awaitWrite message → message.PageIdsFit

theorem relayed_idle {action : TaskAction} (stuck : tasks.next action = none) :
    tasks.relayed action = [] := by
  cases action with
  | takeMessage =>
      simp only [relayed]
      split
      · rename_i idle
        simp only [next, if_pos idle, Option.map_eq_none_iff] at stuck
        rw [stuck]
        rfl
      · rfl
  | _ => rfl

theorem step_adds (addressed : tasks.Addressed) (fits : tasks.Fits) (action : TaskAction) :
    ∃ added, (tasks.step action).runtime.written = tasks.runtime.written ++ added ∧
      (∀ command ∈ added, command.PageIdFits) ∧
      added.filterMap RpcCommand.socketData = (tasks.relayed action).map Prod.snd := by
  cases stepped : tasks.next action with
  | none =>
      rw [step_stuck stepped]
      exact ⟨[], by simp, by simp, by simp [relayed_idle stepped]⟩
  | some after =>
      rw [step_moved stepped]
      rcases taskStep_handles (next_taskStep stepped) with ⟨same, other⟩ | ⟨event, handles, handled⟩
      · exact ⟨[], by simp [same], by simp, by simp [relayed_quiet other]⟩
      · obtain ⟨added, written, small⟩ :=
          DeviceRuntime.handle_sends addressed.paged.table fits.pages event
        have sent : tasks.runtime.sentBy event = added := by
          rw [DeviceRuntime.sentBy, written, List.drop_left]
        refine ⟨added, by rw [handled, written], small, ?_⟩
        rw [← sent, DeviceRuntime.handle_relays, relayed_handles handles]

theorem step_fits (addressed : tasks.Addressed) (fits : tasks.Fits) {action : TaskAction}
    (heard : action.PageIdsFit) : (tasks.step action).Fits := by
  obtain ⟨added, written, small, _⟩ := step_adds addressed fits action
  refine ⟨?_, ?_, ?_⟩
  · rcases step_cases tasks action with same | moved
    · rw [same]
      exact fits.pages
    · rcases taskStep_handles moved with ⟨same, _⟩ | ⟨event, handles, handled⟩
      · rw [same]
        exact fits.pages
      · rw [handled]
        refine DeviceRuntime.handle_pagesFit addressed.paged.table fits.pages ?_
        rintro message rfl
        obtain ⟨_, taken | waiting | ⟨_, _, rfl⟩⟩ := handles
        · rwa [taken] at heard
        · exact fits.waiting message waiting
        · trivial
  · intro command member
    rw [written] at member
    rcases List.mem_append.mp member with earlier | now
    · exact fits.written command earlier
    · exact small command now
  · intro message waits
    rcases step_cases tasks action with same | moved
    · rw [same] at waits
      exact fits.waiting message waits
    · rcases taskStep_main moved with same | idle | ⟨other, taken, _, _, shape⟩ |
        ⟨_, _, _, _, _, _, shape⟩
      · exact fits.waiting message (same ▸ waits)
      · rw [idle] at waits
        cases waits
      · rw [shape] at waits
        cases waits
        rwa [taken] at heard
      · rw [shape] at waits
        cases waits

variable {start : DeviceTasks} {actions : List TaskAction}

theorem run_fits (addressed : start.Addressed) (fits : start.Fits)
    (heard : ∀ action ∈ actions, action.PageIdsFit) :
    (run step start actions).Addressed ∧ (run step start actions).Fits := by
  induction actions using List.reverseRecOn with
  | nil => exact ⟨addressed, fits⟩
  | append_singleton actions action ih =>
      obtain ⟨addressed, fits⟩ := ih fun earlier member => heard earlier (by simp [member])
      rw [run_concat]
      exact ⟨step_addressed addressed action, step_fits addressed fits (heard action (by simp))⟩

/-- The data among the commands of a run is what its steps send on. -/
theorem run_relayed (addressed : start.Addressed) (fits : start.Fits)
    (heard : ∀ action ∈ actions, action.PageIdsFit) :
    (run step start actions).runtime.written.filterMap RpcCommand.socketData =
      start.runtime.written.filterMap RpcCommand.socketData ++
        (collected step relayed start actions).map Prod.snd := by
  induction actions using List.reverseRecOn with
  | nil => exact (List.append_nil _).symm
  | append_singleton actions action ih =>
      have front : ∀ earlier ∈ actions, earlier.PageIdsFit :=
        fun earlier member => heard earlier (by simp [member])
      obtain ⟨addressed, fits⟩ := run_fits addressed fits front
      obtain ⟨added, written, _, data⟩ := step_adds addressed fits action
      rw [run_concat, written, List.filterMap_append, ih front, data, collected_concat,
        List.map_append, List.append_assoc]

theorem start_fits (bridge : ProxyBridge) (environment : ConnectEnvironment) (deviceId : String)
    (port : Nat) (deviceName : String) (deviceOsVersion : Nat) (codec : WebInspectorCodec) :
    (DeviceTasks.start (bridge.newRuntime environment deviceId port
      ⟨deviceName, deviceOsVersion, none⟩ codec)).Fits where
  pages := by simp [DeviceTasks.start, DeviceRuntime.PagesFit, ProxyBridge.newRuntime]
  written := by
    have only : (bridge.newRuntime environment deviceId port
      ⟨deviceName, deviceOsVersion, none⟩ codec).written = [.reportIdentifier] := rfl
    intro command member
    rw [DeviceTasks.start, only] at member
    rw [List.mem_singleton.mp member]
    trivial
  waiting := by simp [DeviceTasks.start]

/-- Of what a client sent, a step sends on some of what the core takes. -/
theorem own_relayed_sublist (addressed : tasks.Addressed) (wsId : String) (action : TaskAction) :
    (FanIn.own wsId (tasks.relayed action)).Sublist
      ((tasks.takenMessages wsId action).flatMap WsToWiMessage.frames) := by
  cases action with
  | takeMessage =>
      simp only [relayed, takenMessages]
      split
      · cases received : tasks.messages.recv with
        | none => exact List.Sublist.refl _
        | some pair =>
            have whole := DeviceRuntime.relays_sublist addressed.paged.table pair.1
            by_cases own : pair.1.wsId = wsId
            · simpa [DeviceRuntime.relays, FanIn.own, own, List.filterMap_map] using whole
            · simp [DeviceRuntime.relays, FanIn.own, own, List.filterMap_map]
      · exact List.Sublist.refl _
  | _ => exact List.nil_sublist _

theorem own_relayed (wsId : String) (tasks : DeviceTasks) (action : TaskAction) :
    FanIn.own wsId (tasks.relayed action) = tasks.relayedFrames wsId action := by
  cases stepped : tasks.next action with
  | none =>
      rw [relayed_idle stepped, relayedFrames_idle (step_stuck stepped)]
      rfl
  | some after =>
      cases next_taskStep stepped with
      | @takeMessage message _ idle received =>
          have handled : (tasks.step .takeMessage).runtime =
              tasks.runtime.handleWsMessage message := by
            simp [step, next, idle, received]
          by_cases own : message.wsId = wsId
          · simp [relayed, relayedFrames, idle, received, handled, DeviceRuntime.relays, FanIn.own,
              List.filterMap_map, own]
            rfl
          · simp [relayed, relayedFrames, idle, received, DeviceRuntime.relays, FanIn.own,
              List.filterMap_map, own]
      | _ => rfl

/-- What is sent on for a client is some of what it sent, in order and once. -/
theorem run_relayedFrames_sublist {runtime : DeviceRuntime}
    (addressed : (DeviceTasks.start runtime).Addressed) (wsId : String) (actions : List TaskAction) :
    (collected step (relayedFrames wsId) (.start runtime) actions).Sublist
      (collected step (sentFrames wsId) (.start runtime) actions) := by
  have steps : Throughout step (.start runtime) actions fun tasks action =>
      (tasks.relayedFrames wsId action).Sublist
        ((tasks.takenMessages wsId action).flatMap WsToWiMessage.frames) := by
    intro before action after _
    rw [← own_relayed]
    exact own_relayed_sublist (run_invariant Addressed addressed
      (fun _ action kept => step_addressed kept action) before) wsId action
  have frames (gives : DeviceTasks → TaskAction → List WsToWiMessage) :=
    @collected_among _ _ _ step (.start runtime) _ gives
      (List.flatMap WsToWiMessage.frames) rfl (fun _ _ => List.flatMap_append) actions
  have taken := collected_sublist steps
  rw [← frames (takenMessages wsId)] at taken
  refine taken.trans ?_
  have sent : collected step (sentFrames wsId) (.start runtime) actions =
      (collected step (sentMessages wsId) (.start runtime) actions).flatMap
        WsToWiMessage.frames := by
    rw [frames]
    exact congrArg (fun gives => collected step gives (.start runtime) actions)
      (funext fun tasks => funext (sentFrames_eq wsId tasks))
  rw [sent, ← run_messages, List.flatMap_append]
  exact List.sublist_append_left _ _

end DeviceTasks

end IosWebkitDebugProxy
