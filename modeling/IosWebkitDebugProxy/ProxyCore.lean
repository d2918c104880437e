import Mathlib.Data.List.Sort
import IosWebkitDebugProxy.Library.Table
import IosWebkitDebugProxy.RpcCore
import IosWebkitDebugProxy.CodecCore

/-! The proxy core (`proxy.rs`) with the states it shares with the HTTP server
(`http_server.rs`). The handlers of one device work on its runtime, and the
bridge keeps the table of runtimes, the published device list and the calls
made to the embedding program's listener. -/

namespace IosWebkitDebugProxy

structure PageEntry where
  pageNum : Nat
  appId : String
  pageId : Nat
  title : Option String
  url : Option String
  senderId : Option String
  deriving DecidableEq, Repr

structure DevicePortState where
  port : Nat
  deviceId : Option String
  deviceName : Option String
  deviceOsVersion : Nat
  connected : Bool
  pages : List PageEntry
  frontend : Option String
  deriving DecidableEq, Repr

structure WsToWiMessage where
  pageNum : Nat
  wsId : String
  data : List UInt8
  isClose : Bool
  deriving DecidableEq, Repr

/-- The sending end of the queue that the named connection reads. -/
structure WiMsgTx where
  owner : String
  deriving DecidableEq, Repr

structure WiToWsRegistration where
  pageNum : Nat
  wsId : String
  tx : WiMsgTx
  deriving DecidableEq, Repr

structure DeviceInfo where
  deviceId : String
  deviceName : String
  deviceOsVersion : Nat
  port : Nat
  deriving DecidableEq, Repr

structure DebuggablePageInfo where
  deviceId : String
  pageNum : Nat
  pageType : PageType
  name : String
  webSocketDebuggerUrl : String
  deviceOsVersion : Nat
  deriving DecidableEq, Repr

/-- What the write queue has taken, and how many more messages it takes before
the write task ends, if it ends at all. -/
structure WebInspectorHandle where
  written : List RpcCommand
  remaining : Option Nat
  deriving DecidableEq, Repr

def WebInspectorHandle.sendPlist (handle : WebInspectorHandle) (command : RpcCommand) :
    Except Error WebInspectorHandle :=
  match handle.remaining with
  | none => .ok ⟨handle.written ++ [command], none⟩
  | some 0 => .error .channelClosed
  | some (room + 1) => .ok ⟨handle.written ++ [command], some room⟩

structure WsClientInfo where
  pageNum : Nat
  senderId : String
  deriving DecidableEq, Repr

structure PageInfo where
  pageNum : Nat
  pageType : PageType
  appId : String
  pageId : Nat
  connectionId : Option String
  title : Option String
  url : Option String
  senderId : Option String
  wsClientId : Option String
  deriving DecidableEq, Repr

namespace PageInfo

def entry (page : PageInfo) : PageEntry :=
  ⟨page.pageNum, page.appId, page.pageId, page.title, page.url, page.senderId⟩

def list (item : RpcPage) (page : PageInfo) : PageInfo :=
  { page with title := item.title, url := item.url, connectionId := item.connectionId }

def hold (wsId : String) (page : PageInfo) : PageInfo :=
  { page with senderId := some wsId, wsClientId := some wsId }

def release (page : PageInfo) : PageInfo :=
  { page with senderId := none, wsClientId := none }

end PageInfo

/-- The runtime of one device. `delivered` records what was put into the queues
of clients, oldest first. -/
structure DeviceRuntime where
  port : Nat
  deviceId : Option String
  deviceName : Option String
  deviceOsVersion : Nat
  connected : Bool
  wiHandle : Option WebInspectorHandle
  wiCodec : Option WebInspectorCodec
  rpcSender : Option RpcSender
  connectionId : Option String
  appIds : Table String Bool
  currentApp : Option RpcApp
  pages : Table Nat PageInfo
  maxPageNum : Nat
  sharedState : DevicePortState
  wsClients : Table String WsClientInfo
  wsClientTxs : Table String WiMsgTx
  delivered : List (WiMsgTx × List UInt8)
  deriving DecidableEq

namespace DeviceRuntime

def written (runtime : DeviceRuntime) : List RpcCommand :=
  (runtime.wiHandle.map WebInspectorHandle.written).getD []

/-- A message is sent if the connection is set up and its write task runs. A
failure is only logged. -/
def send (command : RpcCommand) (runtime : DeviceRuntime) : DeviceRuntime :=
  match runtime.rpcSender, runtime.wiHandle, runtime.wiCodec with
  | some _, some handle, some _ =>
      match handle.sendPlist command with
      | .ok handle => { runtime with wiHandle := some handle }
      | .error _ => runtime
  | _, _, _ => runtime

def findPage (pageNum : Nat) (runtime : DeviceRuntime) : Option PageInfo :=
  runtime.pages.findValue fun page => page.pageNum == pageNum

def syncedPages (runtime : DeviceRuntime) : List PageEntry :=
  (runtime.pages.values.map PageInfo.entry).insertionSort
    fun first second => first.pageNum ≤ second.pageNum

def syncPages (runtime : DeviceRuntime) : DeviceRuntime :=
  { runtime with sharedState := { runtime.sharedState with pages := runtime.syncedPages } }

def setConnected (runtime : DeviceRuntime) : DeviceRuntime :=
  { runtime with
    connected := true
    sharedState := { runtime.sharedState with connected := true } }

def sendForwardGetListing (appId : String) (runtime : DeviceRuntime) : DeviceRuntime :=
  runtime.send (.forwardGetListing appId)

def addAppId (appId : String) (runtime : DeviceRuntime) : DeviceRuntime :=
  if appId ∈ runtime.appIds then runtime
  else sendForwardGetListing appId { runtime with appIds := runtime.appIds.assign appId true }

def removeAppId (appId : String) (runtime : DeviceRuntime) : DeviceRuntime :=
  let pageNums := runtime.pages.keysWhere fun page => page.appId == appId
  syncPages { runtime with
    appIds := runtime.appIds.erase appId
    pages := runtime.pages.eraseAll pageNums }

/-- One item of a listing updates the page it names, or adds it under the next
number. The counter wraps as in a release build. -/
def listPage (appId : String) (runtime : DeviceRuntime) (page : RpcPage) : DeviceRuntime :=
  match runtime.pages.findValue fun known => known.appId == appId && known.pageId == page.pageId with
  | some existing =>
      { runtime with pages := runtime.pages.modify existing.pageNum (PageInfo.list page) }
  | none =>
      let pageNum := (runtime.maxPageNum + 1) % 2 ^ 32
      { runtime with
        maxPageNum := pageNum
        pages := runtime.pages.assign pageNum {
          pageNum
          pageType := page.pageType
          appId
          pageId := page.pageId
          connectionId := page.connectionId
          title := page.title
          url := page.url
          senderId := none
          wsClientId := none } }

def unlistedPages (appId : String) (pages : List RpcPage) (runtime : DeviceRuntime) : List Nat :=
  runtime.pages.keysWhere fun known =>
    known.appId == appId && !pages.any fun page => page.pageId == known.pageId

def handlePageListing (appId : String) (pages : List RpcPage) (runtime : DeviceRuntime) :
    DeviceRuntime :=
  let listed := pages.foldl (listPage appId) runtime
  syncPages { listed with pages := listed.pages.eraseAll (listed.unlistedPages appId pages) }

def handleAppData (destId : String) (data : List UInt8) (runtime : DeviceRuntime) :
    DeviceRuntime :=
  match runtime.wsClientTxs.lookup destId with
  | some tx => { runtime with delivered := runtime.delivered ++ [(tx, data)] }
  | none => runtime

def stopDevtools (pageNum : Nat) (runtime : DeviceRuntime) : DeviceRuntime :=
  match runtime.findPage pageNum with
  | none => runtime
  | some page =>
      match page.senderId with
      | none => runtime
      | some senderId =>
          let closed := runtime.send (.forwardDidClose page.appId page.pageId senderId)
          { closed with
            pages := closed.pages.modifyWhere (fun known => known.pageNum == pageNum)
              PageInfo.release }

def openDevtools (wsId : String) (pageNum : Nat) (runtime : DeviceRuntime) : DeviceRuntime :=
  match runtime.findPage pageNum with
  | none => runtime
  | some page =>
      send (.forwardSocketSetup page.appId page.pageId wsId)
        { runtime with
          pages := runtime.pages.modifyWhere (fun known => known.pageNum == pageNum)
            (PageInfo.hold wsId) }

def sendForwardSocketSetup (wsId : String) (pageNum : Nat) (runtime : DeviceRuntime) :
    DeviceRuntime :=
  match (runtime.findPage pageNum).bind PageInfo.wsClientId with
  | some oldId =>
      if oldId ≠ wsId then openDevtools wsId pageNum (runtime.stopDevtools pageNum)
      else runtime.openDevtools wsId pageNum
  | none => runtime.openDevtools wsId pageNum

def forwardData (message : WsToWiMessage) (runtime : DeviceRuntime) : DeviceRuntime :=
  match runtime.findPage message.pageNum with
  | none => runtime
  | some page =>
      runtime.send (.forwardSocketData page.appId page.pageId
        (page.senderId.getD message.wsId) message.data)

def handleWsMessage (message : WsToWiMessage) (runtime : DeviceRuntime) : DeviceRuntime :=
  if message.isClose then
    let stopped := runtime.stopDevtools message.pageNum
    { stopped with
      wsClients := stopped.wsClients.erase message.wsId
      wsClientTxs := stopped.wsClientTxs.erase message.wsId }
  else if message.data.isEmpty then
    runtime.sendForwardSocketSetup message.wsId message.pageNum
  else runtime.forwardData message

def handleWsRegistration (registration : WiToWsRegistration) (runtime : DeviceRuntime) :
    DeviceRuntime :=
  { runtime with
    wsClients := runtime.wsClients.assign registration.wsId
      ⟨registration.pageNum, registration.wsId⟩
    wsClientTxs := runtime.wsClientTxs.assign registration.wsId registration.tx }

def addListedApp (runtime : DeviceRuntime) (app : RpcApp) : DeviceRuntime :=
  { runtime.addAppId app.appId with currentApp := some app }

def handleRpcMessage (message : RpcMessage) (runtime : DeviceRuntime) : DeviceRuntime :=
  match message with
  | .reportSetup => runtime.setConnected
  | .reportConnectedApplicationList apps =>
      apps.foldl addListedApp (if runtime.connected then runtime else runtime.setConnected)
  | .applicationConnected app => addAppId app.appId { runtime with currentApp := some app }
  | .applicationDisconnected app => runtime.removeAppId app.appId
  | .applicationSentListing appId pages => runtime.handlePageListing appId pages
  | .applicationSentData _ destId data => runtime.handleAppData destId data
  | .applicationUpdated _ destId => runtime.addAppId destId
  | .unknown _ => runtime

def deviceInfo (runtime : DeviceRuntime) : DeviceInfo :=
  ⟨runtime.deviceId.getD "", runtime.deviceName.getD "", runtime.deviceOsVersion, runtime.port⟩

def debuggablePages (runtime : DeviceRuntime) : List DebuggablePageInfo :=
  runtime.pages.values.map fun page => {
    deviceId := runtime.deviceId.getD ""
    pageNum := page.pageNum
    pageType := page.pageType
    name := page.title.getD ""
    webSocketDebuggerUrl :=
      "ws://localhost:" ++ toString runtime.port ++ "/devtools/page/" ++ toString page.pageNum
    deviceOsVersion := runtime.deviceOsVersion }

end DeviceRuntime

inductive RuntimeEvent where
  | rpc (message : RpcMessage)
  | wsMessage (message : WsToWiMessage)
  | registration (registration : WiToWsRegistration)
  deriving DecidableEq, Repr

def DeviceRuntime.handle (runtime : DeviceRuntime) : RuntimeEvent → DeviceRuntime
  | .rpc message => runtime.handleRpcMessage message
  | .wsMessage message => runtime.handleWsMessage message
  | .registration registration => runtime.handleWsRegistration registration

inductive ListenerCall where
  | deviceConnected (info : DeviceInfo)
  | deviceDisconnected (info : DeviceInfo)
  | devicePageListChanged (info : DeviceInfo) (pages : List DebuggablePageInfo)
  deriving DecidableEq, Repr

structure HttpServiceConfig where
  deviceListPort : Nat
  frontend : Option String
  deriving DecidableEq, Repr

/-- The configuration of a proxy. The end of the port range is excluded. -/
structure ProxyBridge where
  devicePorts : Option (Nat × Nat)
  httpServiceConfig : Option HttpServiceConfig
  hasListener : Bool
  deriving DecidableEq, Repr

structure ProxyState where
  devices : Table String DeviceRuntime
  deviceListState : List DeviceInfo
  listenerCalls : List ListenerCall
  deriving DecidableEq

/-- What connecting to the inspector of a device gives, among it how many
messages its write task will take. -/
structure DeviceConnection where
  deviceName : String
  deviceOsVersion : Nat
  writeLimit : Option Nat

structure ConnectEnvironment where
  bindable : Nat → Bool
  autoPort : Option Nat
  connection : Option DeviceConnection
  newUuid : String

namespace ProxyState

def empty : ProxyState := ⟨∅, [], []⟩

def publishedDevices (devices : Table String DeviceRuntime) : List DeviceInfo :=
  (devices.values.filter fun runtime => runtime.connected && runtime.deviceId.isSome).map
    DeviceRuntime.deviceInfo

def updateDeviceList (state : ProxyState) : ProxyState :=
  { state with deviceListState := publishedDevices state.devices }

def modifyDevice (deviceId : String) (update : DeviceRuntime → DeviceRuntime)
    (state : ProxyState) : ProxyState :=
  { state with devices := state.devices.modify deviceId update }

end ProxyState

namespace ProxyBridge

open ProxyState

def notify (bridge : ProxyBridge) (call : ListenerCall) (state : ProxyState) : ProxyState :=
  if bridge.hasListener then { state with listenerCalls := state.listenerCalls ++ [call] }
  else state

def bindPort (bridge : ProxyBridge) (environment : ConnectEnvironment)
    (devices : Table String DeviceRuntime) : Option Nat :=
  match bridge.devicePorts with
  | some (first, stop) =>
      let usedPorts := devices.values.map DeviceRuntime.port
      match (List.range' first (stop - first)).find? fun port => !usedPorts.contains port with
      | some port => if environment.bindable port then some port else none
      | none => none
  | none => environment.autoPort.bind fun port => if port = 0 then none else some port

def connectWebInspector (environment : ConnectEnvironment) (deviceId : String) :
    Option (DeviceConnection × WebInspectorCodec) :=
  environment.connection.map fun connection =>
    if deviceId = "SIMULATOR" then
      (⟨"SIMULATOR", 0, connection.writeLimit⟩, .new true false)
    else (connection, .new false (connection.deviceOsVersion < 0xb0000))

def newRuntime (bridge : ProxyBridge) (environment : ConnectEnvironment) (deviceId : String)
    (port : Nat) (connection : DeviceConnection) (codec : WebInspectorCodec) : DeviceRuntime :=
  DeviceRuntime.send .reportIdentifier {
    port
    deviceId := some deviceId
    deviceName := some connection.deviceName
    deviceOsVersion := connection.deviceOsVersion
    connected := false
    wiHandle := some ⟨[], connection.writeLimit⟩
    wiCodec := some codec
    rpcSender := some ⟨environment.newUuid⟩
    connectionId := some environment.newUuid
    appIds := ∅
    currentApp := none
    pages := ∅
    maxPageNum := 0
    sharedState := {
      port
      deviceId := some deviceId
      deviceName := some connection.deviceName
      deviceOsVersion := connection.deviceOsVersion
      connected := false
      pages := []
      frontend := bridge.httpServiceConfig.bind HttpServiceConfig.frontend }
    wsClients := ∅
    wsClientTxs := ∅
    delivered := [] }

def connectDevice (bridge : ProxyBridge) (environment : ConnectEnvironment) (deviceId : String)
    (state : ProxyState) : ProxyState :=
  if deviceId ∈ state.devices then state
  else
    match bridge.bindPort environment state.devices, connectWebInspector environment deviceId with
    | some port, some (connection, codec) =>
        updateDeviceList { state with
          devices := state.devices.assign deviceId
            (bridge.newRuntime environment deviceId port connection codec) }
    | _, _ => state

def disconnectDevice (bridge : ProxyBridge) (deviceId : String) (state : ProxyState) :
    ProxyState :=
  match state.devices.lookup deviceId with
  | some runtime =>
      let removed := { state with devices := state.devices.erase deviceId }
      updateDeviceList (if runtime.connected
        then bridge.notify (.deviceDisconnected runtime.deviceInfo) removed else removed)
  | none => state.updateDeviceList

def notifyDeviceConnected (bridge : ProxyBridge) (deviceId : String) (state : ProxyState) :
    ProxyState :=
  match state.devices.lookup deviceId with
  | some runtime => bridge.notify (.deviceConnected runtime.deviceInfo) state
  | none => state

def notifyPageListChanged (bridge : ProxyBridge) (deviceId : String) (state : ProxyState) :
    ProxyState :=
  match state.devices.lookup deviceId with
  | some runtime =>
      bridge.notify (.devicePageListChanged runtime.deviceInfo runtime.debuggablePages) state
  | none => state

/-- The runtime's own part comes first here: the device list and the listener
are told nothing that the rest of the handler changes. -/
def handleRpcMessage (bridge : ProxyBridge) (deviceId : String) (message : RpcMessage)
    (state : ProxyState) : ProxyState :=
  let handled := state.modifyDevice deviceId (DeviceRuntime.handleRpcMessage message)
  match message with
  | .reportSetup => bridge.notifyDeviceConnected deviceId handled.updateDeviceList
  | .reportConnectedApplicationList _ =>
      match state.devices.lookup deviceId with
      | some runtime =>
          if runtime.connected then handled
          else bridge.notifyDeviceConnected deviceId handled.updateDeviceList
      | none => handled
  | .applicationDisconnected _ => bridge.notifyPageListChanged deviceId handled
  | .applicationSentListing _ _ => bridge.notifyPageListChanged deviceId handled
  | _ => handled

def handleWiEvent (bridge : ProxyBridge) (deviceId : String) (event : WiEvent)
    (state : ProxyState) : ProxyState :=
  match event with
  | .recvPlist rpcDict =>
      match parseRpcMessage rpcDict with
      | .ok message => bridge.handleRpcMessage deviceId message state
      | .error _ => state

def handleWsMessage (deviceId : String) (message : WsToWiMessage) (state : ProxyState) :
    ProxyState :=
  state.modifyDevice deviceId (DeviceRuntime.handleWsMessage message)

def handleWsRegistration (deviceId : String) (registration : WiToWsRegistration)
    (state : ProxyState) : ProxyState :=
  state.modifyDevice deviceId (DeviceRuntime.handleWsRegistration registration)

end ProxyBridge

inductive ProxyEvent where
  | attached (deviceId : String) (environment : ConnectEnvironment)
  | detached (deviceId : String)
  | wiEvent (deviceId : String) (event : WiEvent)
  | wsMessage (deviceId : String) (message : WsToWiMessage)
  | registration (deviceId : String) (registration : WiToWsRegistration)

def ProxyBridge.step (bridge : ProxyBridge) (state : ProxyState) : ProxyEvent → ProxyState
  | .attached deviceId environment => bridge.connectDevice environment deviceId state
  | .detached deviceId => bridge.disconnectDevice deviceId state
  | .wiEvent deviceId event => bridge.handleWiEvent deviceId event state
  | .wsMessage deviceId message => handleWsMessage deviceId message state
  | .registration deviceId registration => handleWsRegistration deviceId registration state

def ProxyBridge.start (bridge : ProxyBridge) (environment : ConnectEnvironment) : ProxyState :=
  bridge.connectDevice environment "SIMULATOR" .empty

end IosWebkitDebugProxy
