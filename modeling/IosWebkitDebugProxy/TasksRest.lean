import IosWebkitDebugProxy.Library.History
import IosWebkitDebugProxy.TasksBackpressure
import IosWebkitDebugProxy.TasksLock
import IosWebkitDebugProxy.TasksRegistration
import IosWebkitDebugProxy.TasksTraffic

/-! Coming to rest. When nothing new comes from the clients or the device, the tasks
around a device can finish everything that is under way, but for the states from which
the lock or the back-pressure keeps them for ever. -/

namespace IosWebkitDebugProxy

open Transition

/-- What the tasks do by themselves, with clients that read what they are given. -/
def TaskAction.Own : TaskAction → Bool
  | .upgrade _ _ => false
  | .frame _ _ => false
  | .closeFrame _ => false
  | .socketFailed _ => false
  | .takeRpc _ => false
  | _ => true

def HandlerPhase.work : HandlerPhase → Nat
  | wants .registration => 10
  | sending .registration => 9
  | wants (.message _ _) => 5
  | sending (.message _ _) => 4
  | bridging => 0
  | ended => 0

def WsHandler.work (handler : WsHandler) : Nat := handler.phase.work + handler.inbox.items.length

def MainTask.work : MainTask → Nat
  | .select => 0
  | .awaitWrite _ => 1
  | .awaitRoom _ _ => 2

namespace DeviceTasks

variable {tasks after : DeviceTasks}

def work (tasks : DeviceTasks) : Nat :=
  tasks.messages.work + tasks.registrations.work +
    (tasks.handlers.values.map WsHandler.work).sum + tasks.main.work

/-- Everything under way has arrived. A handler that has ended reads its queue no more. -/
structure AtRest (tasks : DeviceTasks) : Prop where
  main : tasks.main = .select
  messages : tasks.messages.contents = []
  registrations : tasks.registrations.contents = []
  handlers : ∀ wsId handler, tasks.handlers.lookup wsId = some handler →
    handler.phase = .ended ∨ handler.phase = .bridging ∧ handler.inbox.items = []

theorem atRest_iff : tasks.AtRest ↔ tasks.main = .select ∧ tasks.messages.contents = [] ∧
    tasks.registrations.contents = [] ∧ ∀ handler ∈ tasks.handlers.values,
      handler.phase = .ended ∨ handler.phase = .bridging ∧ handler.inbox.items = [] := by
  constructor
  · rintro ⟨main, messages, registrations, handlers⟩
    refine ⟨main, messages, registrations, fun handler member => ?_⟩
    obtain ⟨wsId, found⟩ := Table.mem_values.mp member
    exact handlers wsId handler found
  · rintro ⟨main, messages, registrations, handlers⟩
    refine ⟨main, messages, registrations, fun wsId handler found => ?_⟩
    exact handlers handler (Table.mem_values.mpr ⟨wsId, found⟩)

instance (tasks : DeviceTasks) : Decidable tasks.AtRest := decidable_of_iff' _ atRest_iff

end DeviceTasks

end IosWebkitDebugProxy
