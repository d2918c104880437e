import Mathlib.Data.Nat.Notation

/-! Loops that go on until a turn gives a result, and that may never end. -/

universe u v

namespace Iteration

variable {State : Type u} {Result : Type v}

/-- The state of the loop after some turns, or its result when it is over by then. -/
def iterate (turn : State → State ⊕ Result) : Nat → State → State ⊕ Result
  | 0, state => .inl state
  | count + 1, state =>
      match turn state with
      | .inl next => iterate turn count next
      | .inr result => .inr result

inductive Ends (turn : State → State ⊕ Result) : State → Result → Prop
  | done {state result} : turn state = .inr result → Ends turn state result
  | again {state next result} : turn state = .inl next → Ends turn next result →
      Ends turn state result

def Terminates (turn : State → State ⊕ Result) (state : State) : Prop :=
  ∃ result, Ends turn state result

inductive Visits (turn : State → State ⊕ Result) (start : State) : State → Prop
  | start : Visits turn start start
  | next {state later} : Visits turn start state → turn state = .inl later →
      Visits turn start later

variable {turn : State → State ⊕ Result} {state next : State} {result : Result}

theorem ends_iff_iterate :
    Ends turn state result ↔ ∃ count, iterate turn count state = .inr result := by
  constructor
  · intro ends
    induction ends with
    | done stops => exact ⟨1, by rw [iterate, stops]⟩
    | again goes _ ih =>
        obtain ⟨count, finished⟩ := ih
        exact ⟨count + 1, by rw [iterate, goes]; exact finished⟩
  · rintro ⟨count, finished⟩
    induction count generalizing state with
    | zero => cases finished
    | succ count ih =>
        rw [iterate] at finished
        split at finished
        · rename_i next goes
          exact .again goes (ih finished)
        · rename_i reached stops
          cases finished
          exact .done stops

theorem ends_again (goes : turn state = .inl next) :
    Ends turn state result ↔ Ends turn next result := by
  constructor
  · rintro (stops | ⟨went, ends⟩)
    · rw [goes] at stops
      cases stops
    · rw [goes] at went
      cases went
      exact ends
  · exact .again goes

theorem ends_done {reached : Result} (stops : turn state = .inr reached) :
    Ends turn state result ↔ result = reached := by
  constructor
  · rintro (same | ⟨went, _⟩)
    · rw [stops] at same
      cases same
      rfl
    · rw [stops] at went
      cases went
  · rintro rfl
    exact .done stops

theorem Ends.unique {other : Result} (ends : Ends turn state result)
    (also : Ends turn state other) : other = result := by
  induction ends with
  | done stops => exact (ends_done stops).mp also
  | again goes _ ih => exact ih ((ends_again goes).mp also)

theorem terminates_again (goes : turn state = .inl next) :
    Terminates turn state ↔ Terminates turn next :=
  exists_congr fun _ => ends_again goes

theorem not_terminates_of_fixed (Stuck : State → Prop)
    (goes : ∀ state, Stuck state → ∃ next, turn state = .inl next ∧ Stuck next)
    (stuck : Stuck state) : ¬Terminates turn state := by
  rintro ⟨result, ends⟩
  induction ends with
  | done stops =>
      obtain ⟨next, went, _⟩ := goes _ stuck
      rw [stops] at went
      cases went
  | again went _ ih =>
      obtain ⟨next, same, still⟩ := goes _ stuck
      rw [went] at same
      cases same
      exact ih still

theorem visits_again (goes : turn state = .inl next) {later : State} :
    Visits turn state later ↔ later = state ∨ Visits turn next later := by
  constructor
  · intro visits
    induction visits with
    | start => exact .inl rfl
    | next _ moved ih =>
        rcases ih with rfl | visited
        · rw [goes] at moved
          cases moved
          exact .inr .start
        · exact .inr (.next visited moved)
  · rintro (rfl | visited)
    · exact .start
    · induction visited with
      | start => exact .next .start goes
      | next _ moved ih => exact .next ih moved

theorem visits_done (stops : turn state = .inr result) {later : State} :
    Visits turn state later ↔ later = state := by
  constructor
  · intro visits
    induction visits with
    | start => rfl
    | next _ moved ih =>
        subst ih
        rw [stops] at moved
        cases moved
  · rintro rfl
    exact .start

end Iteration
