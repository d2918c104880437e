import IosWebkitDebugProxy.LinkEnds
import IosWebkitDebugProxy.TasksRest
import IosWebkitDebugProxy.WriterWaits

/-! A device link coming to rest. While the connection stands, everything that the clients
have sent can still get to the device, unless the tasks keep each other from going on. -/

namespace IosWebkitDebugProxy

open Transition

/-- What the proxy does by itself, with a device and clients that take what they are given. -/
def LinkAction.Own : LinkAction → Prop
  | .task action => action.Own = true
  | .call => True
  | .write action => WriteSide.Flows action
  | _ => False

namespace DeviceTasks

variable {tasks : DeviceTasks}

theorem AtRest.pendingFrames (rest : tasks.AtRest) (wsId : String) :
    tasks.pendingFrames wsId = [] := by
  rw [DeviceTasks.pendingFrames, rest.messages, heldFrames]
  cases found : tasks.handlers.lookup wsId with
  | none => rfl
  | some handler =>
      rcases rest.handlers wsId handler found with ended | ⟨bridging, _⟩
      · simp [queuedFrames, ended, HandlerPhase.frames]
      · simp [queuedFrames, bridging, HandlerPhase.frames]

end DeviceTasks

namespace DeviceLink

variable {plist : PlistCrate} {new : NewConnection} {deviceOf : Nat → String}
variable {link after : DeviceLink}

/-- What came of a link when its calls of `send_plist` have ended. They end well, and
everything gets into the stream, while the write task runs. -/
structure Settled (link after : DeviceLink) : Prop where
  free : after.Free
  tasks : after.tasks = link.tasks
  written : link.write.task ≠ .ended → after.Written

end DeviceLink

end IosWebkitDebugProxy
