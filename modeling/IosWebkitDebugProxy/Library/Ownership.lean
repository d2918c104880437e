import Mathlib.Data.Finset.Basic
import Mathlib.Data.Finset.Image

/-! Programs that call foreign functions on handles. A program may use and release what
it owns only, and acquires what it does not own yet; whatever it still owns at its end
is left over. The rules carry what is owned through a program, step by step. -/

universe u v w x

namespace Ownership

inductive Call (Handle : Type u) where
  | acquire (handle : Handle)
  | use (handle : Handle)
  | release (handle : Handle)
  deriving DecidableEq, Repr

def Call.map {Handle : Type u} {Other : Type x} (rename : Handle → Other) : Call Handle → Call Other
  | .acquire handle => .acquire (rename handle)
  | .use handle => .use (rename handle)
  | .release handle => .release (rename handle)

/-- The calls that a program makes, in order, and its result. -/
structure Program (Handle : Type u) (Result : Type v) where
  calls : List (Call Handle)
  result : Result

variable {Handle : Type u} {Result : Type v} {Next : Type w} {Other : Type x}

namespace Program

def done (result : Result) : Program Handle Result := ⟨[], result⟩

def andThen (program : Program Handle Result) (next : Result → Program Handle Next) :
    Program Handle Next :=
  ⟨program.calls ++ (next program.result).calls, (next program.result).result⟩

def calling (call : Call Handle) (next : Program Handle Result) : Program Handle Result :=
  ⟨call :: next.calls, next.result⟩

def acquire (handle : Handle) : Program Handle Result → Program Handle Result :=
  calling (.acquire handle)

def use (handle : Handle) : Program Handle Result → Program Handle Result := calling (.use handle)

def release (handle : Handle) : Program Handle Result → Program Handle Result :=
  calling (.release handle)

end Program

variable [DecidableEq Handle]

/-- What is owned after some calls. A call on a handle that is not owned is a fault, and
so is acquiring one that is. -/
def ownedAfter (owned : Finset Handle) : List (Call Handle) → Option (Finset Handle)
  | [] => some owned
  | .acquire handle :: later => if handle ∈ owned then none else ownedAfter (insert handle owned) later
  | .use handle :: later => if handle ∈ owned then ownedAfter owned later else none
  | .release handle :: later => if handle ∈ owned then ownedAfter (owned.erase handle) later else none

theorem ownedAfter_append {owned middle : Finset Handle} {earlier later : List (Call Handle)}
    (first : ownedAfter owned earlier = some middle) :
    ownedAfter owned (earlier ++ later) = ownedAfter middle later := by
  induction earlier generalizing owned with
  | nil =>
      cases first
      rfl
  | cons call rest ih =>
      cases call <;> simp only [ownedAfter] at first <;> split at first <;>
        simp_all [ownedAfter]

/-- Calls leave alone what others own: renamed apart from it, they run in its midst. -/
theorem ownedAfter_map [DecidableEq Other] {owned left : Finset Handle} {others : Finset Other}
    {calls : List (Call Handle)} (rename : Handle ↪ Other)
    (apart : ∀ handle, rename handle ∉ others) (runs : ownedAfter owned calls = some left) :
    ownedAfter (others ∪ owned.map rename) (calls.map (Call.map rename)) =
      some (others ∪ left.map rename) := by
  have held (owned : Finset Handle) (handle : Handle) :
      rename handle ∈ others ∪ owned.map rename ↔ handle ∈ owned := by
    simp [apart]
  induction calls generalizing owned with
  | nil =>
      cases runs
      rfl
  | cons call later ih =>
      cases call with
      | acquire handle =>
          simp only [ownedAfter, Option.ite_none_left_eq_some] at runs
          rw [List.map_cons, Call.map, ownedAfter, if_neg ((held owned handle).not.mpr runs.1),
            ← Finset.union_insert, ← Finset.map_insert]
          exact ih runs.2
      | use handle =>
          simp only [ownedAfter, Option.ite_none_right_eq_some] at runs
          rw [List.map_cons, Call.map, ownedAfter, if_pos ((held owned handle).mpr runs.1)]
          exact ih runs.2
      | release handle =>
          simp only [ownedAfter, Option.ite_none_right_eq_some] at runs
          have given : (others ∪ owned.map rename).erase (rename handle) =
              others ∪ (owned.erase handle).map rename := by
            rw [Finset.erase_union_distrib, Finset.erase_eq_of_notMem (apart handle), Finset.map_erase]
          rw [List.map_cons, Call.map, ownedAfter, if_pos ((held owned handle).mpr runs.1), given]
          exact ih runs.2

namespace Program

variable {owned middle left : Finset Handle} {handle : Handle}
variable {program : Program Handle Result} {next : Result → Program Handle Next}

/-- From what it owns before, the program runs without a fault and leaves this. -/
def Runs (owned left : Finset Handle) (program : Program Handle Result) : Prop :=
  ownedAfter owned program.calls = some left

theorem runs_done (result : Result) (same : owned = left) :
    (done result : Program Handle Result).Runs owned left :=
  congrArg some same

theorem runs_andThen (first : program.Runs owned middle)
    (second : (next program.result).Runs middle left) : (program.andThen next).Runs owned left := by
  rw [Runs, andThen, ownedAfter_append first]
  exact second

theorem runs_acquire (fresh : handle ∉ owned) (later : program.Runs (insert handle owned) left) :
    (acquire handle program).Runs owned left :=
  (if_neg fresh).trans later

theorem runs_use (own : handle ∈ owned) (later : program.Runs owned left) :
    (use handle program).Runs owned left :=
  (if_pos own).trans later

theorem runs_release (own : handle ∈ owned) (later : program.Runs (owned.erase handle) left) :
    (release handle program).Runs owned left :=
  (if_pos own).trans later

end Program

end Ownership
