import IosWebkitDebugProxy.ProxyPages
import IosWebkitDebugProxy.WriterStream

/-! The handle of the proxy core against the write side that it stands for. The core
knows of a handle only how many more messages it takes, and every run of the packets,
the queue and the write task is a run of such a handle. -/

namespace IosWebkitDebugProxy

open Transition

namespace DeviceRuntime

variable {runtime : DeviceRuntime}

def sendAll (commands : List RpcCommand) (runtime : DeviceRuntime) : DeviceRuntime :=
  commands.foldl (fun runtime command => runtime.send command) runtime

/-- How many of so many messages a handle takes. -/
def taken (limit : Option Nat) (number : Nat) : Nat := (limit.map (min number)).getD number

/-- A new connection whose handle takes so many messages. -/
structure Limited (runtime : DeviceRuntime) (limit : Option Nat) : Prop where
  sender : runtime.rpcSender.isSome
  codec : runtime.wiCodec.isSome
  handle : runtime.wiHandle = some ⟨[], limit⟩

theorem send_handle {sender : RpcSender} {codec : WebInspectorCodec}
    {handle : WebInspectorHandle} (hasSender : runtime.rpcSender = some sender)
    (hasCodec : runtime.wiCodec = some codec) (hasHandle : runtime.wiHandle = some handle)
    (command : RpcCommand) :
    (runtime.send command).rpcSender = some sender ∧
      (runtime.send command).wiCodec = some codec ∧
      (runtime.send command).wiHandle =
        some ((handle.sendPlist command).toOption.getD handle) := by
  simp only [send, hasSender, hasCodec, hasHandle]
  cases handle.sendPlist command <;> simp [hasSender, hasCodec, hasHandle, Except.toOption]

theorem sendAll_written {sender : RpcSender} {codec : WebInspectorCodec}
    {earlier commands : List RpcCommand} {remaining : Option Nat}
    (hasSender : runtime.rpcSender = some sender) (hasCodec : runtime.wiCodec = some codec)
    (hasHandle : runtime.wiHandle = some ⟨earlier, remaining⟩) :
    (runtime.sendAll commands).written =
      earlier ++ commands.take (taken remaining commands.length) := by
  induction commands generalizing runtime earlier remaining with
  | nil => simp [sendAll, written, hasHandle]
  | cons command later ih =>
      obtain ⟨sender', codec', handle'⟩ := send_handle hasSender hasCodec hasHandle command
      change ((runtime.send command).sendAll later).written = _
      rcases remaining with _ | _ | room
      · rw [ih sender' codec' handle', List.append_assoc]
        rfl
      · rw [ih sender' codec' handle']
        simp [taken]
      · rw [ih sender' codec' handle', List.append_assoc]
        simp [taken, Nat.succ_min_succ]

end DeviceRuntime

/-- The commands whose calls ended well. -/
def succeeded (commands : List RpcCommand) (results : List (Except Error Unit)) :
    List RpcCommand :=
  ((commands.zip results).filter fun (_, result) => result.isOk).map Prod.fst

theorem succeeded_replicate (commands : List RpcCommand) (count refused : Nat)
    (enough : commands.length ≤ count + refused) :
    succeeded commands
        (List.replicate count (.ok ()) ++ List.replicate refused (.error .channelClosed)) =
      commands.take count := by
  induction commands generalizing count refused with
  | nil => simp [succeeded]
  | cons command later ih =>
      simp only [List.length_cons] at enough
      cases count with
      | zero =>
          cases refused with
          | zero => omega
          | succ refused =>
              have rest := ih 0 refused (by omega)
              rw [List.replicate_zero, List.nil_append, List.take_zero] at rest ⊢
              rw [List.replicate_succ, succeeded, List.zip_cons_cons, List.filter_cons_of_neg]
              · exact rest
              · exact Bool.false_ne_true
      | succ count =>
          have rest := ih count refused (by omega)
          rw [List.replicate_succ, List.cons_append, succeeded, List.zip_cons_cons,
            List.filter_cons_of_pos rfl, List.map_cons, ← succeeded, rest, List.take_succ_cons]

/-- Every run of the write side is one of a handle with some limit, and with none
while the write task runs: at each point, the core has recorded just the commands
whose calls ended well by then. -/
theorem run_refinesHandle (plist : PlistCrate) (codec : WebInspectorCodec)
    (actions : List WriteAction) :
    ∃ limit : Option Nat,
      ((WriteSide.run plist codec actions).task ≠ .ended → limit = none) ∧
      ∀ (runtime : DeviceRuntime) (commands : List RpcCommand), runtime.Limited limit →
        commands.length ≤ (WriteSide.run plist codec actions).results.length →
        (runtime.sendAll commands).written =
          succeeded commands (WriteSide.run plist codec actions).results := by
  obtain ⟨count, refused, shape, running⟩ :=
    (@WriteSide.run_ordered plist codec actions).results
  let limit := if refused = 0 then none else some count
  refine ⟨limit, fun alive => if_pos (running alive), ?_⟩
  rintro runtime commands ⟨sender, hasCodec, handle⟩ short
  obtain ⟨sender, hasSender⟩ := Option.isSome_iff_exists.mp sender
  obtain ⟨codec, hasCodec⟩ := Option.isSome_iff_exists.mp hasCodec
  rw [shape, List.length_append, List.length_replicate, List.length_replicate] at short
  rw [DeviceRuntime.sendAll_written hasSender hasCodec handle, shape,
    succeeded_replicate commands count refused short, List.nil_append, List.take_eq_take_iff]
  by_cases none : refused = 0
  · simp only [limit, none, if_true, DeviceRuntime.taken, Option.map_none, Option.getD_none]
    omega
  · simp only [limit, none, if_false, DeviceRuntime.taken, Option.map_some, Option.getD_some]
    omega

end IosWebkitDebugProxy
