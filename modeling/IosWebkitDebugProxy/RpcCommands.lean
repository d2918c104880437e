import IosWebkitDebugProxy.ProxyIdentifiers

/-! The commands of the proxy as a device reads them. A command is taken from
the fields of its message alone, so no two commands are built alike. -/

namespace IosWebkitDebugProxy

open Plist

structure SessionFields where
  appId : String
  pageId : Nat
  senderId : String

def sessionFields (args : Dictionary) : Option SessionFields := do
  let appId ← (args.get "WIRApplicationIdentifierKey").bind Value.asString
  let pageId ← (args.get "WIRPageIdentifierKey").bind Value.asUnsignedInteger
  let senderId ← (args.get "WIRSenderKey").bind Value.asString
  return { appId, pageId, senderId }

def readArgs (args : Dictionary) (selector : String) : Option RpcCommand :=
  match selector with
  | "_rpc_reportIdentifier:" => some .reportIdentifier
  | "_rpc_forwardGetListing:" =>
      ((args.get "WIRApplicationIdentifierKey").bind Value.asString).map .forwardGetListing
  | "_rpc_forwardSocketSetup:" =>
      (sessionFields args).map fun fields =>
        .forwardSocketSetup fields.appId fields.pageId fields.senderId
  | "_rpc_forwardSocketData:" =>
      (sessionFields args).bind fun fields =>
        ((args.get "WIRSocketDataKey").bind Value.asData).map fun data =>
          .forwardSocketData fields.appId fields.pageId fields.senderId data
  | "_rpc_forwardDidClose:" =>
      (sessionFields args).map fun fields =>
        .forwardDidClose fields.appId fields.pageId fields.senderId
  | _ => none

/-- What a device makes of a message: the connection it names, and the command. -/
def readCommand (message : Value) : Option (String × RpcCommand) := do
  let dict ← message.asDictionary
  let selector ← (dict.get "__selector").bind Value.asString
  let args ← (dict.get "__argument").bind Value.asDictionary
  let connectionId ← (args.get "WIRConnectionIdentifierKey").bind Value.asString
  let command ← readArgs args selector
  return (connectionId, command)

/-- Page identifiers are 32-bit numbers in the source. -/
def RpcCommand.PageIdFits : RpcCommand → Prop
  | .forwardSocketSetup _ pageId _ => pageId < 2 ^ 32
  | .forwardSocketData _ pageId _ _ => pageId < 2 ^ 32
  | .forwardDidClose _ pageId _ => pageId < 2 ^ 32
  | _ => True

theorem sessionFields_eq {args : Dictionary} {appId senderId : String} {pageId : Nat}
    (app : args.get "WIRApplicationIdentifierKey" = some (.string appId))
    (page : args.get "WIRPageIdentifierKey" = some (.integer pageId))
    (sender : args.get "WIRSenderKey" = some (.string senderId)) (fits : pageId < 2 ^ 32) :
    sessionFields args = some ⟨appId, pageId, senderId⟩ := by
  have inside : pageId < 2 ^ 64 := by omega
  rw [sessionFields, app, page, sender, Option.bind_some, Option.bind_some, Option.bind_some,
    asUnsignedInteger_natCast, if_pos inside]
  rfl

theorem readCommand_buildMessage {selector : String} {args : Dictionary} {connectionId : String}
    (named : args.get "WIRConnectionIdentifierKey" = some (.string connectionId)) :
    readCommand (RpcSender.buildMessage selector args) =
      (readArgs args selector).map fun command => (connectionId, command) := by
  have apart : "__selector" ≠ "__argument" := by decide
  simp only [readCommand, RpcSender.buildMessage, Value.asDictionary, get_insert_self,
    get_insert_of_ne _ apart, Option.bind_some, Value.asString, named, Option.bind_eq_bind]
  cases readArgs args selector <;> rfl

theorem readCommand_build (sender : RpcSender) {command : RpcCommand} (fits : command.PageIdFits) :
    readCommand (sender.build command) = some (sender.connectionId, command) := by
  cases command with
  | reportIdentifier => exact readCommand_buildMessage rfl
  | forwardGetListing appId => exact readCommand_buildMessage rfl
  | forwardSocketSetup appId pageId senderId =>
      apply (readCommand_buildMessage rfl).trans
      rw [readArgs, sessionFields_eq rfl rfl rfl fits]
      rfl
  | forwardSocketData appId pageId senderId data =>
      apply (readCommand_buildMessage rfl).trans
      rw [readArgs, sessionFields_eq rfl rfl rfl fits]
      rfl
  | forwardDidClose appId pageId senderId =>
      apply (readCommand_buildMessage rfl).trans
      rw [readArgs, sessionFields_eq rfl rfl rfl fits]
      rfl

end IosWebkitDebugProxy
