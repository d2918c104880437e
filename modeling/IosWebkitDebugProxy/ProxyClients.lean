import IosWebkitDebugProxy.ProxySessions

/-! What the handlers of one device do to its registered clients, and for whom
they open sessions. -/

namespace IosWebkitDebugProxy

namespace DeviceRuntime

/-- What the clients see of a message of the device: they stay registered, and
no session is opened. -/
structure LeavesClients (before after : DeviceRuntime) : Prop where
  sent : Sends (fun command => ∀ wsId, ¬IsSetup wsId command) before after
  registered : after.wsClientTxs = before.wsClientTxs

theorem LeavesClients.of_eq {before after : DeviceRuntime}
    (handle : after.wiHandle = before.wiHandle) (same : after.wsClientTxs = before.wsClientTxs) :
    LeavesClients before after :=
  ⟨⟨[], by simp [written, handle], by simp⟩, same⟩

theorem LeavesClients.trans {first second third : DeviceRuntime}
    (earlier : LeavesClients first second) (later : LeavesClients second third) :
    LeavesClients first third :=
  ⟨earlier.sent.trans later.sent, later.registered.trans earlier.registered⟩

theorem addAppId_leavesClients (appId : String) (runtime : DeviceRuntime) :
    LeavesClients runtime (runtime.addAppId appId) := by
  unfold addAppId
  split
  · exact .of_eq rfl rfl
  · refine ⟨?_, send_wsClientTxs _ _⟩
    apply sends_send _ { runtime with appIds := runtime.appIds.assign appId true }
    rintro wsId ⟨_, _, setup⟩
    cases setup

theorem addListedApps_leavesClients (apps : List RpcApp) (runtime : DeviceRuntime) :
    LeavesClients runtime (apps.foldl addListedApp runtime) := by
  induction apps generalizing runtime with
  | nil => exact .of_eq rfl rfl
  | cons app apps ih =>
      have added : LeavesClients runtime (runtime.addListedApp app) :=
        (addAppId_leavesClients app.appId runtime).trans (.of_eq rfl rfl)
      exact added.trans (ih _)

theorem listPages_leavesClients (appId : String) (items : List RpcPage) (runtime : DeviceRuntime) :
    LeavesClients runtime (items.foldl (listPage appId) runtime) := by
  induction items generalizing runtime with
  | nil => exact .of_eq rfl rfl
  | cons item items ih =>
      have listed : LeavesClients runtime (runtime.listPage appId item) := by
        unfold listPage
        split <;> exact .of_eq rfl rfl
      exact listed.trans (ih _)

theorem handleRpcMessage_leavesClients (message : RpcMessage) (runtime : DeviceRuntime) :
    LeavesClients runtime (runtime.handleRpcMessage message) := by
  cases message with
  | reportSetup => exact .of_eq rfl rfl
  | reportConnectedApplicationList apps =>
      have connects : LeavesClients runtime
          (if runtime.connected then runtime else runtime.setConnected) := by
        split <;> exact .of_eq rfl rfl
      exact connects.trans (addListedApps_leavesClients apps _)
  | applicationConnected app =>
      have current : LeavesClients runtime { runtime with currentApp := some app } :=
        .of_eq rfl rfl
      exact current.trans (addAppId_leavesClients app.appId _)
  | applicationDisconnected app => exact .of_eq rfl rfl
  | applicationSentListing appId pages =>
      exact (listPages_leavesClients appId pages runtime).trans (.of_eq rfl rfl)
  | applicationSentData appId destId data =>
      simp only [handleRpcMessage, handleAppData]
      split <;> exact .of_eq rfl rfl
  | applicationUpdated appId destId => exact addAppId_leavesClients destId runtime
  | unknown _ => exact .of_eq rfl rfl

@[simp] theorem stopDevtools_wsClientTxs (num : Nat) (runtime : DeviceRuntime) :
    (runtime.stopDevtools num).wsClientTxs = runtime.wsClientTxs := by
  unfold stopDevtools
  split
  · rfl
  · split
    · rfl
    · exact send_wsClientTxs _ _

@[simp] theorem openDevtools_wsClientTxs (wsId : String) (num : Nat) (runtime : DeviceRuntime) :
    (runtime.openDevtools wsId num).wsClientTxs = runtime.wsClientTxs := by
  unfold openDevtools
  split
  · rfl
  · exact send_wsClientTxs _ _

theorem handleWsMessage_wsClientTxs (message : WsToWiMessage) (runtime : DeviceRuntime) :
    (runtime.handleWsMessage message).wsClientTxs =
      if message.isClose then runtime.wsClientTxs.erase message.wsId
      else runtime.wsClientTxs := by
  unfold handleWsMessage
  split
  · simp
  · split
    · unfold sendForwardSocketSetup
      split
      · split <;> simp
      · simp
    · unfold forwardData
      split <;> simp

theorem handleWsMessage_sends (message : WsToWiMessage) (runtime : DeviceRuntime) :
    Sends (fun command => ∀ wsId, IsSetup wsId command → wsId = message.wsId) runtime
      (runtime.handleWsMessage message) := by
  have closing : ∀ command, IsClose command →
      ∀ wsId, IsSetup wsId command → wsId = message.wsId := by
    rintro command ⟨_, _, _, rfl⟩ wsId ⟨_, _, setup⟩
    cases setup
  unfold handleWsMessage
  split
  · obtain ⟨added, shape, closes⟩ := stopDevtools_sends runtime message.pageNum
    exact ⟨added, shape, fun command member => closing command (closes command member)⟩
  · split
    · apply (sendForwardSocketSetup_sends runtime message.wsId message.pageNum).mono
      rintro command (close | ⟨_, _, rfl⟩)
      · exact closing command close
      · rintro wsId ⟨_, _, setup⟩
        cases setup
        rfl
    · unfold forwardData
      split
      · exact .nothing runtime
      · apply sends_send
        rintro wsId ⟨_, _, setup⟩
        cases setup

theorem addListedApp_wsClients (runtime : DeviceRuntime) (app : RpcApp) :
    (runtime.addListedApp app).wsClients = runtime.wsClients := by
  simp only [addListedApp, addAppId]
  split
  · rfl
  · exact send_wsClients _ _

theorem listPage_wsClients (appId : String) (runtime : DeviceRuntime) (item : RpcPage) :
    (runtime.listPage appId item).wsClients = runtime.wsClients := by
  unfold listPage
  split <;> rfl

theorem foldl_wsClients {Item : Type} {update : DeviceRuntime → Item → DeviceRuntime}
    (same : ∀ runtime item, (update runtime item).wsClients = runtime.wsClients)
    (items : List Item) (runtime : DeviceRuntime) :
    (items.foldl update runtime).wsClients = runtime.wsClients := by
  induction items generalizing runtime with
  | nil => rfl
  | cons item items ih => rw [List.foldl_cons, ih, same]

theorem handleRpcMessage_wsClients (message : RpcMessage) (runtime : DeviceRuntime) :
    (runtime.handleRpcMessage message).wsClients = runtime.wsClients := by
  cases message with
  | reportConnectedApplicationList apps =>
      simp only [handleRpcMessage, foldl_wsClients addListedApp_wsClients]
      split <;> rfl
  | applicationConnected app =>
      exact addListedApp_wsClients { runtime with currentApp := some app } app
  | applicationSentListing appId pages =>
      exact foldl_wsClients (listPage_wsClients appId) pages runtime
  | applicationSentData appId destId data =>
      simp only [handleRpcMessage, handleAppData]
      split <;> rfl
  | applicationUpdated appId destId => exact addListedApp_wsClients runtime ⟨destId, "", false⟩
  | _ => rfl

theorem stopDevtools_wsClients (num : Nat) (runtime : DeviceRuntime) :
    (runtime.stopDevtools num).wsClients = runtime.wsClients := by
  unfold stopDevtools
  split
  · rfl
  · split
    · rfl
    · exact send_wsClients _ _

theorem openDevtools_wsClients (wsId : String) (num : Nat) (runtime : DeviceRuntime) :
    (runtime.openDevtools wsId num).wsClients = runtime.wsClients := by
  unfold openDevtools
  split
  · rfl
  · exact send_wsClients _ _

theorem handleWsMessage_wsClients (message : WsToWiMessage) (runtime : DeviceRuntime) :
    (runtime.handleWsMessage message).wsClients =
      if message.isClose then runtime.wsClients.erase message.wsId else runtime.wsClients := by
  unfold handleWsMessage
  split
  · simp only [stopDevtools_wsClients]
  · split
    · unfold sendForwardSocketSetup
      split
      · split <;> simp only [openDevtools_wsClients, stopDevtools_wsClients]
      · exact openDevtools_wsClients _ _ _
    · unfold forwardData
      split
      · rfl
      · exact send_wsClients _ _

end DeviceRuntime

end IosWebkitDebugProxy
