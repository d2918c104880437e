import IosWebkitDebugProxy.PlistCore

/-! Remote procedure calls of the inspector protocol (`rpc.rs`): the messages
the proxy builds, and the parser of the messages a device sends. -/

namespace IosWebkitDebugProxy

open Plist

inductive PageType where
  | unknown
  | javaScript
  | webPage
  deriving DecidableEq, Repr

structure RpcApp where
  appId : String
  appName : String
  isProxy : Bool
  deriving DecidableEq, Repr

structure RpcPage where
  pageId : Nat
  pageType : PageType
  connectionId : Option String
  title : Option String
  url : Option String
  deriving DecidableEq, Repr

structure RpcSender where
  connectionId : String
  deriving DecidableEq, Repr

namespace RpcSender

def buildMessage (selector : String) (args : Dictionary) : Value :=
  .dictionary ((Dictionary.new.insert "__selector" (.string selector)).insert
    "__argument" (.dictionary args))

def newArgs (sender : RpcSender) : Dictionary :=
  Dictionary.new.insert "WIRConnectionIdentifierKey" (.string sender.connectionId)

def buildReportIdentifier (sender : RpcSender) : Value :=
  buildMessage "_rpc_reportIdentifier:" sender.newArgs

def buildForwardGetListing (sender : RpcSender) (appId : String) : Value :=
  buildMessage "_rpc_forwardGetListing:"
    (sender.newArgs.insert "WIRApplicationIdentifierKey" (.string appId))

def buildForwardSocketSetup (sender : RpcSender) (appId : String) (pageId : Nat)
    (senderId : String) : Value :=
  buildMessage "_rpc_forwardSocketSetup:"
    ((((sender.newArgs.insert "WIRApplicationIdentifierKey" (.string appId)).insert
      "WIRAutomaticallyPause" (.boolean false)).insert
      "WIRPageIdentifierKey" (.integer pageId)).insert
      "WIRSenderKey" (.string senderId))

def buildForwardSocketData (sender : RpcSender) (appId : String) (pageId : Nat)
    (senderId : String) (data : List UInt8) : Value :=
  buildMessage "_rpc_forwardSocketData:"
    ((((sender.newArgs.insert "WIRApplicationIdentifierKey" (.string appId)).insert
      "WIRPageIdentifierKey" (.integer pageId)).insert
      "WIRSenderKey" (.string senderId)).insert
      "WIRSocketDataKey" (.data data))

def buildForwardDidClose (sender : RpcSender) (appId : String) (pageId : Nat)
    (senderId : String) : Value :=
  buildMessage "_rpc_forwardDidClose:"
    (((sender.newArgs.insert "WIRApplicationIdentifierKey" (.string appId)).insert
      "WIRPageIdentifierKey" (.integer pageId)).insert
      "WIRSenderKey" (.string senderId))

end RpcSender

inductive RpcCommand where
  | reportIdentifier
  | forwardGetListing (appId : String)
  | forwardSocketSetup (appId : String) (pageId : Nat) (senderId : String)
  | forwardSocketData (appId : String) (pageId : Nat) (senderId : String) (data : List UInt8)
  | forwardDidClose (appId : String) (pageId : Nat) (senderId : String)
  deriving DecidableEq, Repr

def RpcSender.build (sender : RpcSender) : RpcCommand → Value
  | .reportIdentifier => sender.buildReportIdentifier
  | .forwardGetListing appId => sender.buildForwardGetListing appId
  | .forwardSocketSetup appId pageId senderId =>
      sender.buildForwardSocketSetup appId pageId senderId
  | .forwardSocketData appId pageId senderId data =>
      sender.buildForwardSocketData appId pageId senderId data
  | .forwardDidClose appId pageId senderId => sender.buildForwardDidClose appId pageId senderId

inductive RpcMessage where
  | reportSetup
  | reportConnectedApplicationList (apps : List RpcApp)
  | applicationConnected (app : RpcApp)
  | applicationDisconnected (app : RpcApp)
  | applicationSentListing (appId : String) (pages : List RpcPage)
  | applicationSentData (appId : String) (destId : String) (data : List UInt8)
  | applicationUpdated (appId : String) (destId : String)
  | unknown (selector : String)
  deriving DecidableEq, Repr

def okOr {Item : Type} (error : Error) : Option Item → Except Error Item
  | some value => .ok value
  | none => .error error

def getRequiredString (dict : Dictionary) (key : String) : Except Error String :=
  okOr (.rpc ("Missing required string field: " ++ key)) ((dict.get key).bind Value.asString)

def getRequiredData (dict : Dictionary) (key : String) : Except Error (List UInt8) :=
  okOr (.rpc ("Missing required data field: " ++ key)) ((dict.get key).bind Value.asData)

def parseApp (dict : Dictionary) : Except Error RpcApp := do
  let appId ← getRequiredString dict "WIRApplicationIdentifierKey"
  return {
    appId
    appName := ((dict.get "WIRApplicationNameKey").bind Value.asString).getD ""
    isProxy := ((dict.get "WIRIsApplicationProxyKey").bind Value.asBoolean).getD false
  }

def parseApps (args : Dictionary) : Except Error (List RpcApp) := do
  let appDict ← okOr (.rpc "Missing WIRApplicationDictionaryKey")
    ((args.get "WIRApplicationDictionaryKey").bind Value.asDictionary)
  return appDict.filterMap fun (_, value) =>
    value.asDictionary.bind fun appInfo => (parseApp appInfo).toOption

def parsePageType : String → PageType
  | "WIRTypeWebPage" => .webPage
  | "WIRTypeJavaScript" => .javaScript
  | _ => .unknown

def parsePage (pageDict : Dictionary) : Except Error RpcPage := do
  let pageId ← okOr (.rpc "Missing WIRPageIdentifierKey")
    ((pageDict.get "WIRPageIdentifierKey").bind Value.asUnsignedInteger)
  return {
    -- The identifier is narrowed to 32 bits.
    pageId := pageId % 2 ^ 32
    pageType :=
      (((pageDict.get "WIRTypeKey").bind Value.asString).map parsePageType).getD .unknown
    connectionId := (pageDict.get "WIRConnectionIdentifierKey").bind Value.asString
    title := (pageDict.get "WIRTitleKey").bind Value.asString
    url := (pageDict.get "WIRURLKey").bind Value.asString
  }

/-- Entries of a listing that are no dictionary are passed over, a page without
an identifier refuses the listing. -/
def parsePages (listing : Value) : Except Error (List RpcPage) := do
  let dict ← okOr (.rpc "WIRListingKey is not a dictionary") listing.asDictionary
  (dict.filterMap fun (_, value) => value.asDictionary).mapM parsePage

def parseRpcMessage (rpcDict : Value) : Except Error RpcMessage := do
  let dict ← okOr (.rpc "RPC message is not a dictionary") rpcDict.asDictionary
  let selector ← okOr (.rpc "Missing __selector") ((dict.get "__selector").bind Value.asString)
  let args ← okOr (.rpc "Missing __argument") ((dict.get "__argument").bind Value.asDictionary)
  match selector with
  | "_rpc_reportSetup:" => return .reportSetup
  | "_rpc_reportConnectedApplicationList:" =>
      return .reportConnectedApplicationList (← parseApps args)
  | "_rpc_applicationConnected:" => return .applicationConnected (← parseApp args)
  | "_rpc_applicationDisconnected:" => return .applicationDisconnected (← parseApp args)
  | "_rpc_applicationSentListing:" =>
      let appId ← getRequiredString args "WIRApplicationIdentifierKey"
      match args.get "WIRListingKey" with
      | some listing => return .applicationSentListing appId (← parsePages listing)
      | none => return .applicationSentListing appId []
  | "_rpc_applicationSentData:" =>
      let appId ← getRequiredString args "WIRApplicationIdentifierKey"
      let destId ← getRequiredString args "WIRDestinationKey"
      let data ← getRequiredData args "WIRMessageDataKey"
      return .applicationSentData appId destId data
  | "_rpc_applicationUpdated:" =>
      let appId ← (getRequiredString args "WIRHostApplicationIdentifierKey").orElseLazy
        fun _ => getRequiredString args "WIRApplicationNameKey"
      let destId ← getRequiredString args "WIRApplicationIdentifierKey"
      return .applicationUpdated appId destId
  | other => return .unknown other

end IosWebkitDebugProxy
