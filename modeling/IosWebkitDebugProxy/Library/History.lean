import IosWebkitDebugProxy.Library.Transition

/-! What the events of a run give, one after the other, and when. A law that
balances what comes in, what goes out and what is held at one step balances
them over a run. -/

universe u v w

namespace Transition

variable {State : Type u} {Event : Type v} {Item : Type w}
variable {step : State → Event → State} {start : State}

def collected (step : State → Event → State) (gives : State → Event → List Item) (start : State) :
    List Event → List Item
  | [] => []
  | event :: events => gives start event ++ collected step gives (step start event) events

theorem collected_append (gives : State → Event → List Item) (earlier later : List Event) :
    collected step gives start (earlier ++ later) =
      collected step gives start earlier ++ collected step gives (run step start earlier) later := by
  induction earlier generalizing start with
  | nil => rfl
  | cons event earlier ih =>
      simp only [List.cons_append, collected, ih, List.append_assoc]
      rfl

theorem collected_concat (gives : State → Event → List Item) (events : List Event) (event : Event) :
    collected step gives start (events ++ [event]) =
      collected step gives start events ++ gives (run step start events) event := by
  rw [collected_append]
  simp [collected]

/-- What of the items is looked at does not depend on when they are given. -/
theorem collected_among {Other : Type*} (gives : State → Event → List Item)
    (among : List Item → List Other) (nothing : among [] = [])
    (both : ∀ earlier later, among (earlier ++ later) = among earlier ++ among later)
    (events : List Event) :
    among (collected step gives start events) =
      collected step (fun state event => among (gives state event)) start events := by
  induction events generalizing start with
  | nil => exact nothing
  | cons event events ih => rw [collected, both, ih, collected]

/-- What is given at each event of the run is part of what is given there otherwise. -/
theorem collected_sublist {some whole : State → Event → List Item} {events : List Event}
    (less : Throughout step start events fun state event =>
      (some state event).Sublist (whole state event)) :
    (collected step some start events).Sublist (collected step whole start events) := by
  induction events using List.reverseRecOn with
  | nil => exact List.Sublist.refl _
  | append_singleton events event ih =>
      obtain ⟨earlier, last⟩ := throughout_concat.mp less
      rw [collected_concat, collected_concat]
      exact (ih earlier).append last

section Projection

variable {Inner : Type*} {Act : Type*} {inner : Inner → Act → Inner} {project : State → Inner}
variable {gives : State → Event → List Act}

/-- A part of the state goes its own way, and each event is some actions of that part. -/
theorem run_projects
    (each : ∀ state event, project (step state event) = run inner (project state) (gives state event))
    (events : List Event) :
    project (run step start events) = run inner (project start) (collected step gives start events) := by
  induction events generalizing start with
  | nil => rfl
  | cons event events ih => rw [run_cons, ih, each, collected, run_append]

theorem collected_projects
    (each : ∀ state event, project (step state event) = run inner (project state) (gives state event))
    (items : Inner → Act → List Item) (events : List Event) :
    collected inner items (project start) (collected step gives start events) =
      collected step (fun state event => collected inner items (project state) (gives state event))
        start events := by
  induction events generalizing start with
  | nil => rfl
  | cons event events ih => rw [collected, collected_append, ← each, ih, collected]

end Projection

theorem mem_collected {gives : State → Event → List Item} {item : Item} {events : List Event}
    (member : item ∈ collected step gives start events) :
    ∃ before event after, events = before ++ event :: after ∧
      item ∈ gives (run step start before) event := by
  induction events generalizing start with
  | nil => cases member
  | cons event events ih =>
      rcases List.mem_append.mp member with now | later
      · exact ⟨[], event, events, rfl, now⟩
      · obtain ⟨before, other, after, rfl, given⟩ := ih later
        exact ⟨event :: before, other, after, rfl, given⟩

/-- Some event of the run is taken in a state where the property holds. -/
def Happens (step : State → Event → State) (start : State) (events : List Event)
    (Holds : State → Event → Prop) : Prop :=
  ∃ before event after, events = before ++ event :: after ∧ Holds (run step start before) event

theorem throughout_of_run {Holds : State → Prop}
    (back : ∀ state event, Holds (step state event) → Holds state) {events : List Event}
    (final : Holds (run step start events)) :
    Throughout step start events fun state _ => Holds state := by
  induction events using List.reverseRecOn with
  | nil => exact throughout_nil _
  | append_singleton events event ih =>
      rw [run_concat] at final
      have before := back _ _ final
      exact throughout_concat.mpr ⟨ih before, before⟩

theorem collected_balanced (gives takes : State → Event → List Item) (held : State → List Item)
    (Keep : State → Prop) {Allowed : State → Event → Prop} (initial : Keep start)
    (keeps : ∀ state event, Keep state → Keep (step state event))
    (balanced : ∀ state event, Keep state → Allowed state event →
      gives state event ++ held (step state event) = held state ++ takes state event)
    {events : List Event} (allowed : Throughout step start events Allowed) :
    collected step gives start events ++ held (run step start events) =
      held start ++ collected step takes start events := by
  induction events using List.reverseRecOn with
  | nil => simp [collected, run]
  | append_singleton events event ih =>
      obtain ⟨earlier, last⟩ := throughout_concat.mp allowed
      have kept := run_invariant Keep initial keeps events
      rw [collected_concat, collected_concat, run_concat, List.append_assoc,
        balanced _ event kept last, ← List.append_assoc, ih earlier, List.append_assoc]

theorem exists_last {Holds : State → Prop} {events : List Event} (initial : Holds start)
    (final : ¬Holds (run step start events)) :
    ∃ before event after, events = before ++ event :: after ∧ Holds (run step start before) ∧
      ¬Holds (step (run step start before) event) := by
  induction events generalizing start with
  | nil => exact absurd initial final
  | cons event events ih =>
      by_cases still : Holds (step start event)
      · obtain ⟨before, last, after, rfl, holds, gone⟩ := ih still final
        exact ⟨event :: before, last, after, rfl, holds, gone⟩
      · exact ⟨[], event, events, rfl, initial, still⟩

/-- Where some allowed events that decrease a measure are always at hand until
something is reached, allowed events reach it. -/
theorem exists_run_of_rounds (measure : State → Nat) (Keep : State → Prop)
    {Reached : State → Prop} {Allowed : Event → Prop}
    (progress : ∀ state, Keep state → ¬Reached state →
      ∃ round, (∀ event ∈ round, Allowed event) ∧ Keep (run step state round) ∧
        measure (run step state round) < measure state)
    (keeps : Keep start) :
    ∃ events, (∀ event ∈ events, Allowed event) ∧ Reached (run step start events) ∧
      Keep (run step start events) := by
  induction rank : measure start using Nat.strongRecOn generalizing start with
  | ind rank ih =>
      by_cases reached : Reached start
      · exact ⟨[], by simp, reached, keeps⟩
      · obtain ⟨round, allowed, kept, decreases⟩ := progress start keeps reached
        obtain ⟨events, rest, final⟩ := ih _ (by omega) kept rfl
        refine ⟨round ++ events, List.forall_mem_append.mpr ⟨allowed, rest⟩, ?_⟩
        rw [run_append]
        exact final

theorem exists_run_of_decreasing (measure : State → Nat) (Keep : State → Prop)
    {Reached : State → Prop} {Allowed : Event → Prop}
    (progress : ∀ state, Keep state → ¬Reached state →
      ∃ event, Allowed event ∧ Keep (step state event) ∧
        measure (step state event) < measure state)
    (keeps : Keep start) :
    ∃ events, (∀ event ∈ events, Allowed event) ∧ Reached (run step start events) := by
  have rounds : ∀ state, Keep state → ¬Reached state →
      ∃ round, (∀ event ∈ round, Allowed event) ∧ Keep (run step state round) ∧
        measure (run step state round) < measure state := by
    intro state keeps unreached
    obtain ⟨event, allowed, later⟩ := progress state keeps unreached
    exact ⟨[event], List.forall_mem_singleton.mpr allowed, later⟩
  obtain ⟨events, allowed, reached, _⟩ := exists_run_of_rounds measure Keep rounds keeps
  exact ⟨events, allowed, reached⟩

/-- Every event that opens something is followed by one that closes it. -/
def Answered (opens closes : Event → Prop) (events : List Event) : Prop :=
  ∀ earlier event later, events = earlier ++ event :: later → opens event →
    ∃ closing ∈ later, closes closing

variable {opens closes : Event → Prop}

theorem answered_nil : Answered opens closes [] := by
  intro earlier event later split
  simp at split

theorem answered_append {front back : List Event} :
    Answered opens closes (front ++ back) ↔
      Answered opens closes back ∧
        (Answered opens closes front ∨ ∃ closing ∈ back, closes closing) := by
  constructor
  · intro answered
    refine ⟨?_, ?_⟩
    · rintro earlier event later rfl opened
      exact answered (front ++ earlier) event later (by simp) opened
    · by_contra neither
      simp only [not_or, Answered, not_forall] at neither
      obtain ⟨⟨earlier, event, later, rfl, opened, unanswered⟩, none⟩ := neither
      obtain ⟨closing, member, closed⟩ := answered earlier event (later ++ back) (by simp) opened
      rcases List.mem_append.mp member with inside | outside
      · exact unanswered ⟨closing, inside, closed⟩
      · exact none ⟨closing, outside, closed⟩
  · rintro ⟨behind, before⟩ earlier event later split opened
    rcases List.append_eq_append_iff.mp split with ⟨middle, rfl, rfl⟩ | ⟨middle, rfl, same⟩
    · exact behind middle event later rfl opened
    · cases middle with
      | nil => exact behind [] event later same.symm opened
      | cons first middle =>
          rw [List.cons_append] at same
          cases same
          rcases before with answered | ⟨closing, member, closed⟩
          · obtain ⟨closing, member, closed⟩ := answered earlier event middle rfl opened
            exact ⟨closing, List.mem_append_left back member, closed⟩
          · exact ⟨closing, List.mem_append_right middle member, closed⟩

theorem answered_singleton {event : Event} :
    Answered opens closes [event] ↔ ¬opens event := by
  constructor
  · intro answered opened
    obtain ⟨closing, member, _⟩ := answered [] event [] rfl opened
    cases member
  · intro quiet earlier other later split opened
    rcases List.append_eq_singleton_iff.mp split.symm with ⟨rfl, same⟩ | ⟨_, same⟩
    · cases same
      exact absurd opened quiet
    · cases same

end Transition
