import Mathlib.Data.List.Induction

/-! Runs of a transition function, properties that hold throughout a run, and
the inductions that carry an invariant along it. -/

universe u v

namespace Transition

variable {State : Type u} {Event : Type v} {start : State}

def run (step : State → Event → State) (start : State) (events : List Event) : State :=
  events.foldl step start

/-- A property of a state and the event taken there holds wherever an event of
the run is taken. -/
def Throughout (step : State → Event → State) (start : State) (events : List Event)
    (Holds : State → Event → Prop) : Prop :=
  ∀ before event after, events = before ++ event :: after → Holds (run step start before) event

variable {step : State → Event → State}

theorem run_cons (event : Event) (later : List Event) :
    run step start (event :: later) = run step (step start event) later :=
  rfl

theorem run_append (earlier later : List Event) :
    run step start (earlier ++ later) = run step (run step start earlier) later :=
  List.foldl_append

theorem run_concat (events : List Event) (event : Event) :
    run step start (events ++ [event]) = step (run step start events) event :=
  run_append events [event]

theorem run_invariant (Holds : State → Prop) (initial : Holds start)
    (keeps : ∀ state event, Holds state → Holds (step state event)) (events : List Event) :
    Holds (run step start events) :=
  List.foldlRecOn events step initial fun state holds event _ => keeps state event holds

theorem throughout_nil (Holds : State → Event → Prop) : Throughout step start [] Holds := by
  intro before event after split
  simp at split

theorem throughout_concat {Holds : State → Event → Prop} {events : List Event} {event : Event} :
    Throughout step start (events ++ [event]) Holds ↔
      Throughout step start events Holds ∧ Holds (run step start events) event := by
  constructor
  · intro holds
    refine ⟨?_, holds events event [] rfl⟩
    intro before earlier after split
    exact holds before earlier (after ++ [event]) (by simp [split])
  · rintro ⟨holds, last⟩ before earlier after split
    rcases List.eq_nil_or_concat after with rfl | ⟨front, final, rfl⟩
    · obtain ⟨rfl, same⟩ := List.append_inj' split rfl
      cases same
      exact last
    · rw [List.concat_eq_append, ← List.cons_append, ← List.append_assoc] at split
      exact holds before earlier front (List.append_inj' split rfl).1

theorem throughout_cons {Holds : State → Event → Prop} {event : Event} {later : List Event} :
    Throughout step start (event :: later) Holds ↔
      Holds start event ∧ Throughout step (step start event) later Holds := by
  constructor
  · intro holds
    refine ⟨holds [] event later rfl, ?_⟩
    intro before next after split
    exact holds (event :: before) next after (by rw [split, List.cons_append])
  · rintro ⟨first, holds⟩ before next after split
    cases before with
    | nil =>
        obtain ⟨rfl, rfl⟩ := List.cons.inj split
        exact first
    | cons earlier before =>
        obtain ⟨rfl, rfl⟩ := List.cons.inj split
        exact holds before next after rfl

instance decidableThroughout {Holds : State → Event → Prop}
    [decides : ∀ state event, Decidable (Holds state event)] :
    (start : State) → (events : List Event) → Decidable (Throughout step start events Holds)
  | _, [] => .isTrue (throughout_nil Holds)
  | start, event :: later =>
      let _ : Decidable (Throughout step (step start event) later Holds) :=
        decidableThroughout (step start event) later
      decidable_of_iff' _ throughout_cons

theorem throughout_append {Holds : State → Event → Prop} {earlier later : List Event} :
    Throughout step start (earlier ++ later) Holds ↔
      Throughout step start earlier Holds ∧
        Throughout step (run step start earlier) later Holds := by
  induction later using List.reverseRecOn with
  | nil => simp [throughout_nil]
  | append_singleton later event ih =>
      rw [← List.append_assoc, throughout_concat, throughout_concat, ih, run_append, and_assoc]

theorem run_invariant_throughout (Holds : State → Prop) {Allowed : State → Event → Prop}
    (initial : Holds start)
    (keeps : ∀ state event, Holds state → Allowed state event → Holds (step state event))
    {events : List Event} (allowed : Throughout step start events Allowed) :
    Holds (run step start events) := by
  induction events using List.reverseRecOn with
  | nil => exact initial
  | append_singleton events event ih =>
      obtain ⟨earlier, last⟩ := throughout_concat.mp allowed
      rw [run_concat]
      exact keeps _ event (ih earlier) last

theorem throughout_congr {First Second : State → Event → Prop} {events : List Event}
    (equivalent : ∀ before event,
      (First (run step start before) event ↔ Second (run step start before) event)) :
    Throughout step start events First ↔ Throughout step start events Second := by
  constructor
  · intro holds before event after split
    exact (equivalent before event).mp (holds before event after split)
  · intro holds before event after split
    exact (equivalent before event).mpr (holds before event after split)

end Transition
