import IosWebkitDebugProxy.ProxyPages

/-! Isolation of debug sessions. Messages of clients are served by page number,
and what goes out carries the sender that the page names. Data and closes stay
with the client they come from exactly where that client holds the page. -/

namespace IosWebkitDebugProxy

open Transition

namespace DeviceRuntime

variable {runtime : DeviceRuntime}

def Sends (allowed : RpcCommand → Prop) (before after : DeviceRuntime) : Prop :=
  ∃ added, after.written = before.written ++ added ∧ ∀ command ∈ added, allowed command

theorem Sends.nothing {allowed : RpcCommand → Prop} (runtime : DeviceRuntime) :
    Sends allowed runtime runtime :=
  ⟨[], by simp, by simp⟩

theorem Sends.trans {allowed : RpcCommand → Prop} {first second third : DeviceRuntime}
    (earlier : Sends allowed first second) (later : Sends allowed second third) :
    Sends allowed first third := by
  obtain ⟨front, frontShape, frontAllowed⟩ := earlier
  obtain ⟨back, backShape, backAllowed⟩ := later
  refine ⟨front ++ back, by rw [backShape, frontShape, List.append_assoc], ?_⟩
  intro command member
  rcases List.mem_append.mp member with inFront | inBack
  · exact frontAllowed command inFront
  · exact backAllowed command inBack

theorem Sends.mono {allowed permitted : RpcCommand → Prop} {before after : DeviceRuntime}
    (sent : Sends allowed before after)
    (weaker : ∀ command, allowed command → permitted command) : Sends permitted before after := by
  obtain ⟨added, shape, legal⟩ := sent
  exact ⟨added, shape, fun command member => weaker command (legal command member)⟩

theorem sends_send {allowed : RpcCommand → Prop} {command : RpcCommand}
    (permitted : allowed command) (runtime : DeviceRuntime) :
    Sends allowed runtime (runtime.send command) := by
  cases ready : runtime.canSend with
  | true => exact ⟨[command], written_send command ready, by simpa using permitted⟩
  | false =>
      rw [send_eq_self command ready]
      exact .nothing runtime

theorem Sends.drop {allowed : RpcCommand → Prop} {before after : DeviceRuntime}
    (sent : Sends allowed before after) :
    ∀ command ∈ after.written.drop before.written.length, allowed command := by
  obtain ⟨added, shape, permitted⟩ := sent
  rw [shape, List.drop_left]
  exact permitted

def sentBy (event : RuntimeEvent) (runtime : DeviceRuntime) : List RpcCommand :=
  (runtime.handle event).written.drop runtime.written.length

def IsClose (command : RpcCommand) : Prop :=
  ∃ appId pageId sender, command = .forwardDidClose appId pageId sender

def IsSetup (wsId : String) (command : RpcCommand) : Prop :=
  ∃ appId pageId, command = .forwardSocketSetup appId pageId wsId

theorem stopDevtools_sends (runtime : DeviceRuntime) (num : Nat) :
    Sends IsClose runtime (runtime.stopDevtools num) := by
  unfold stopDevtools
  split
  · exact .nothing runtime
  · split
    · exact .nothing runtime
    · exact sends_send ⟨_, _, _, rfl⟩ runtime

theorem openDevtools_sends (runtime : DeviceRuntime) (wsId : String) (num : Nat) :
    Sends (IsSetup wsId) runtime (runtime.openDevtools wsId num) := by
  unfold openDevtools
  split
  · exact .nothing runtime
  · exact sends_send ⟨_, _, rfl⟩
      { runtime with
        pages := runtime.pages.modifyWhere (fun known => known.pageNum == num)
          (PageInfo.hold wsId) }

theorem sendForwardSocketSetup_sends (runtime : DeviceRuntime) (wsId : String) (num : Nat) :
    Sends (fun command => IsClose command ∨ IsSetup wsId command) runtime
      (runtime.sendForwardSocketSetup wsId num) := by
  have closes : Sends (fun command => IsClose command ∨ IsSetup wsId command) runtime
      (runtime.stopDevtools num) :=
    (stopDevtools_sends runtime num).mono fun _ close => .inl close
  have opens (runtime : DeviceRuntime) :
      Sends (fun command => IsClose command ∨ IsSetup wsId command) runtime
        (runtime.openDevtools wsId num) :=
    (openDevtools_sends runtime wsId num).mono fun _ setup => .inr setup
  unfold sendForwardSocketSetup
  split
  · split
    · exact closes.trans (opens _)
    · exact opens runtime
  · exact opens runtime

def NotData (command : RpcCommand) : Prop :=
  ∀ appId pageId sender data, command ≠ .forwardSocketData appId pageId sender data

theorem IsClose.notData {command : RpcCommand} (close : IsClose command) : NotData command := by
  obtain ⟨_, _, _, rfl⟩ := close
  simp [NotData]

theorem IsSetup.notData {wsId : String} {command : RpcCommand} (setup : IsSetup wsId command) :
    NotData command := by
  obtain ⟨_, _, rfl⟩ := setup
  simp [NotData]

theorem sentBy_data (valid : PageTable runtime.pages) {message : WsToWiMessage}
    (live : message.isClose = false) (frame : message.data ≠ []) :
    runtime.sentBy (.wsMessage message) =
      match runtime.pages.lookup message.pageNum with
      | some page =>
          if runtime.canSend then
            [.forwardSocketData page.appId page.pageId (page.senderId.getD message.wsId)
              message.data]
          else []
      | none => [] := by
  have filled : message.data.isEmpty = false := by simpa using frame
  simp only [sentBy, handle, handleWsMessage, live, filled, forwardData, findPage_eq valid]
  cases runtime.pages.lookup message.pageNum with
  | none => simp
  | some page =>
      cases ready : runtime.canSend with
      | true => simp [written_send _ ready]
      | false => simp [send_eq_self _ ready]

theorem sentBy_control {message : WsToWiMessage} (control : message.isClose ∨ message.data = []) :
    ∀ command ∈ runtime.sentBy (.wsMessage message), NotData command := by
  unfold sentBy
  simp only [handle, handleWsMessage]
  apply Sends.drop
  by_cases close : message.isClose
  · rw [if_pos close]
    exact (stopDevtools_sends runtime message.pageNum).mono fun _ closing => closing.notData
  · have empty : message.data.isEmpty = true := by simpa using control.resolve_left close
    rw [if_neg close, if_pos empty]
    apply (sendForwardSocketSetup_sends runtime message.wsId message.pageNum).mono
    rintro command (closing | setup)
    · exact closing.notData
    · exact setup.notData

/-- Whatever data a client message sends goes out under that client, whose
session on the page is open. -/
def DataIsolated (runtime : DeviceRuntime) (event : RuntimeEvent) : Prop :=
  ∀ message, event = .wsMessage message → ∀ appId pageId sender data,
    .forwardSocketData appId pageId sender data ∈ runtime.sentBy event →
    sender = message.wsId ∧ SessionOpen runtime.written appId pageId message.wsId

/-- A data frame that can be sent finds its page held by its client. A page that
nobody holds may have been listed anew since the client opened its session. -/
def DataFromHolder (runtime : DeviceRuntime) (event : RuntimeEvent) : Prop :=
  ∀ message, event = .wsMessage message → message.isClose = false → message.data ≠ [] →
    runtime.canSend → ∀ page, runtime.pages.lookup message.pageNum = some page →
    page.senderId = some message.wsId ∨
      page.senderId = none ∧ SessionOpen runtime.written page.appId page.pageId message.wsId

theorem dataIsolated_iff (valid : Paged runtime) (event : RuntimeEvent) :
    DataIsolated runtime event ↔ DataFromHolder runtime event := by
  constructor
  · rintro isolated message rfl live frame ready page found
    have sent : RpcCommand.forwardSocketData page.appId page.pageId
        (page.senderId.getD message.wsId) message.data ∈ runtime.sentBy (.wsMessage message) := by
      simp [sentBy_data valid.table live frame, found, ready]
    obtain ⟨same, opened⟩ := isolated message rfl _ _ _ _ sent
    cases held : page.senderId with
    | none => exact .inr ⟨rfl, opened⟩
    | some sender =>
        rw [held, Option.getD_some] at same
        exact .inl (by rw [same])
  · rintro held message rfl appId pageId sender data sent
    by_cases control : message.isClose ∨ message.data = []
    · exact absurd rfl (sentBy_control control _ sent appId pageId sender data)
    · obtain ⟨live, frame⟩ := not_or.mp control
      rw [Bool.not_eq_true] at live
      rw [sentBy_data valid.table live frame] at sent
      cases found : runtime.pages.lookup message.pageNum with
      | none => simp [found] at sent
      | some page =>
          cases ready : runtime.canSend with
          | false => simp [found, ready] at sent
          | true =>
              simp only [found, ready, if_true, List.mem_singleton,
                RpcCommand.forwardSocketData.injEq] at sent
              obtain ⟨rfl, rfl, rfl, -⟩ := sent
              rcases held message rfl live frame ready page found with owned | ⟨free, opened⟩
              · rw [owned]
                exact ⟨rfl, valid.held message.pageNum page message.wsId found owned ready⟩
              · rw [free]
                exact ⟨rfl, opened⟩

/-- Data is isolated at every point of a run exactly when every data frame that
is sent on comes from the holder of its page. -/
theorem run_dataIsolated_iff (bridge : ProxyBridge) (environment : ConnectEnvironment)
    (deviceId : String) (port : Nat) (connection : DeviceConnection) (codec : WebInspectorCodec)
    (events : List RuntimeEvent) :
    Throughout handle (bridge.newRuntime environment deviceId port connection codec) events
        DataIsolated ↔
      Throughout handle (bridge.newRuntime environment deviceId port connection codec) events
        DataFromHolder := by
  apply throughout_congr
  intro before event
  apply dataIsolated_iff
  exact run_invariant Paged (newRuntime_paged bridge environment deviceId port connection codec)
    (fun _ event valid => handle_paged valid event) before

def sharedPage : List RuntimeEvent :=
  [.rpc (.applicationSentListing "PID:1" [⟨1, .webPage, none, some "Start", none⟩]),
    .wsMessage ⟨1, "A", [], false⟩, .wsMessage ⟨1, "B", [], false⟩]

/-- What the displaced client sends goes out under the other client. -/
theorem displaced_data_not_isolated :
    ¬Throughout handle phoneRuntime (sharedPage ++ [.wsMessage ⟨1, "A", [123, 125], false⟩])
      DataIsolated := by
  intro isolated
  have sent := isolated sharedPage _ [] rfl _ rfl "PID:1" 1 "B" [123, 125] (by decide)
  exact absurd sent.1 (by decide)

/-- Handling a close message of a client ends at most the session of that
client, on pages that it holds, and forgets only that client. -/
structure CloseIsolated (before after : DeviceRuntime) (message : WsToWiMessage) : Prop where
  sent : Sends (fun command => ∃ appId pageId,
    command = .forwardDidClose appId pageId message.wsId) before after
  quiet : ∀ page holder, before.pages.lookup message.pageNum = some page →
    page.senderId = some holder → holder ≠ message.wsId → after.written = before.written
  others : ∀ num page, before.pages.lookup num = some page →
    page.senderId ≠ some message.wsId → after.pages.lookup num = some page
  own : ∀ num page, before.pages.lookup num = some page → page.senderId = some message.wsId →
    after.pages.lookup num = some page ∨ after.pages.lookup num = some page.release
  absent : ∀ num, before.pages.lookup num = none → after.pages.lookup num = none
  rest : after = { before with
    wiHandle := after.wiHandle
    pages := after.pages
    wsClients := before.wsClients.erase message.wsId
    wsClientTxs := before.wsClientTxs.erase message.wsId }

theorem closeIsolated_idle {message : WsToWiMessage} (close : message.isClose = true)
    (idle : runtime.stopDevtools message.pageNum = runtime) :
    CloseIsolated runtime (runtime.handleWsMessage message) message := by
  simp only [handleWsMessage, close, if_true, idle]
  exact {
    sent := .nothing runtime
    quiet := fun _ _ _ _ _ => rfl
    others := fun _ _ found _ => found
    own := fun _ _ found _ => .inl found
    absent := fun _ missing => missing
    rest := rfl }

theorem closeIsolated_own (valid : PageTable runtime.pages) {message : WsToWiMessage}
    (close : message.isClose = true) {page : PageInfo}
    (found : runtime.pages.lookup message.pageNum = some page)
    (held : page.senderId = some message.wsId) :
    CloseIsolated runtime (runtime.handleWsMessage message) message := by
  simp only [handleWsMessage, close, if_true, stopDevtools_held valid found held, send_wsClients,
    send_wsClientTxs]
  refine ⟨?_, ?_, ?_, ?_, ?_, ?_⟩
  · exact sends_send ⟨page.appId, page.pageId, rfl⟩ runtime
  · intro known holder stored owned other
    rw [found] at stored
    cases stored
    rw [held] at owned
    cases owned
    exact absurd rfl other
  · intro num known stored other
    have elsewhere : num ≠ message.pageNum := by
      rintro rfl
      rw [found] at stored
      cases stored
      exact other held
    simp [elsewhere, stored]
  · intro num known stored owned
    simp only [Table.lookup_modify]
    split
    · exact .inr (by simp [stored])
    · exact .inl stored
  · intro num missing
    simp [missing]
  · rw [send_eq]

theorem closeIsolated_iff (valid : PageTable runtime.pages) {message : WsToWiMessage}
    (close : message.isClose = true) :
    CloseIsolated runtime (runtime.handleWsMessage message) message ↔
      ∀ page, runtime.pages.lookup message.pageNum = some page →
        page.senderId = none ∨ page.senderId = some message.wsId := by
  constructor
  · intro isolated page found
    cases held : page.senderId with
    | none => exact .inl rfl
    | some holder =>
        by_cases own : holder = message.wsId
        · exact .inr (by rw [own])
        · have kept := isolated.others message.pageNum page found (by simpa [held] using own)
          simp only [handleWsMessage, close, if_true, stopDevtools_held valid found held,
            Table.lookup_modify, found, Option.map_some, Option.some.injEq] at kept
          rw [← kept] at held
          cases held
  · intro harmless
    cases found : runtime.pages.lookup message.pageNum with
    | none => exact closeIsolated_idle close (stopDevtools_absent valid found)
    | some page =>
        rcases harmless page found with free | held
        · exact closeIsolated_idle close (stopDevtools_idle valid found free)
        · exact closeIsolated_own valid close found held

end DeviceRuntime

namespace ProxyBridge

/-- Seen from the whole proxy, a close message is a matter of its own device. -/
structure CloseIsolated (before after : ProxyState) (deviceId : String)
    (message : WsToWiMessage) : Prop where
  own : ∀ runtime, before.devices.lookup deviceId = some runtime →
    ∃ closed, after.devices.lookup deviceId = some closed ∧ runtime.CloseIsolated closed message
  others : ∀ other, other ≠ deviceId → after.devices.lookup other = before.devices.lookup other
  views : after.deviceListState = before.deviceListState ∧
    after.listenerCalls = before.listenerCalls

/-- In every state that is reached, a close message is isolated exactly when no
other client holds its page. -/
theorem handleWsMessage_closeIsolated_iff (bridge : ProxyBridge) (environment : ConnectEnvironment)
    (events : List ProxyEvent) (deviceId wsId : String) (pageNum : Nat) (data : List UInt8) :
    CloseIsolated (bridge.run environment events)
        (handleWsMessage deviceId ⟨pageNum, wsId, data, true⟩ (bridge.run environment events))
        deviceId ⟨pageNum, wsId, data, true⟩ ↔
      ∀ runtime page, (bridge.run environment events).devices.lookup deviceId = some runtime →
        runtime.pages.lookup pageNum = some page →
        page.senderId = none ∨ page.senderId = some wsId := by
  have valid := run_paged bridge environment events
  generalize bridge.run environment events = state at valid ⊢
  have closed : ∀ runtime, state.devices.lookup deviceId = some runtime →
      (handleWsMessage deviceId ⟨pageNum, wsId, data, true⟩ state).devices.lookup deviceId =
        some (runtime.handleWsMessage ⟨pageNum, wsId, data, true⟩) := by
    intro runtime found
    simp [handleWsMessage, found]
  constructor
  · intro isolated runtime page found stored
    obtain ⟨after, afterFound, own⟩ := isolated.own runtime found
    rw [closed runtime found] at afterFound
    cases afterFound
    exact (DeviceRuntime.closeIsolated_iff (valid deviceId runtime found).table rfl).mp own
      page stored
  · intro harmless
    refine ⟨?_, ?_, rfl, rfl⟩
    · intro runtime found
      refine ⟨_, closed runtime found, ?_⟩
      exact (DeviceRuntime.closeIsolated_iff (valid deviceId runtime found).table rfl).mpr
        fun page stored => harmless runtime page found stored
    · intro other elsewhere
      simp [handleWsMessage, elsewhere]

def displacedRun : List ProxyEvent :=
  [.attached "UDID" phoneEnvironment, .wiEvent "UDID" (.recvPlist (listingMessage "PID:1" 1)),
    .wsMessage "UDID" ⟨1, "A", [], false⟩, .wsMessage "UDID" ⟨1, "B", [], false⟩]

/-- The close of a displaced client ends the session of the client that came after it. -/
theorem displaced_close_not_isolated :
    ¬CloseIsolated (plainBridge.run idleEnvironment displacedRun)
      (handleWsMessage "UDID" ⟨1, "A", [], true⟩ (plainBridge.run idleEnvironment displacedRun))
      "UDID" ⟨1, "A", [], true⟩ := by
  intro isolated
  have before : ((plainBridge.run idleEnvironment displacedRun).devices.lookup "UDID").map
      (fun runtime => (runtime.pages.lookup 1).bind PageInfo.senderId) = some (some "B") := by
    decide
  have after : ((handleWsMessage "UDID" ⟨1, "A", [], true⟩
      (plainBridge.run idleEnvironment displacedRun)).devices.lookup "UDID").map
      (fun runtime => (runtime.pages.lookup 1).bind PageInfo.senderId) = some none := by
    decide
  obtain ⟨runtime, found, holder⟩ := Option.map_eq_some_iff.mp before
  obtain ⟨page, stored, held⟩ := Option.bind_eq_some_iff.mp holder
  obtain ⟨closed, closedFound, own⟩ := isolated.own runtime found
  have kept := own.others 1 page stored (by rw [held]; decide)
  rw [closedFound, Option.map_some, kept, Option.bind_some, held] at after
  exact absurd after (by decide)

end ProxyBridge

end IosWebkitDebugProxy
