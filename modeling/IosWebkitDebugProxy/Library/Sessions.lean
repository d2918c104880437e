import Mathlib.Data.List.Basic

/-! Sequences of sessions. Every item opens a session, belongs inside one, or
closes one, and sessions follow each other without overlapping. -/

universe u

inductive SessionMark where
  | opens
  | inside
  | closes
  deriving DecidableEq, Repr

namespace SessionMark

def before : SessionMark → Bool
  | opens => false
  | inside => true
  | closes => true

def after : SessionMark → Bool
  | opens => true
  | inside => true
  | closes => false

end SessionMark

/-- Sessions, each opened, gone through and closed, one after the other. The
last of them may be cut short, which the flag tells. -/
inductive InSessions {Item : Type u} (mark : Item → SessionMark) : Bool → List Item → Prop
  | nil : InSessions mark false []
  | concat {items item} : InSessions mark (mark item).before items →
      InSessions mark (mark item).after (items ++ [item])

namespace InSessions

variable {Item : Type u} {mark : Item → SessionMark} {opened : Bool} {items : List Item}

theorem nil_iff : InSessions mark opened [] ↔ opened = false := by
  constructor
  · intro sessions
    generalize shape : ([] : List Item) = whole at sessions
    cases sessions with
    | nil => rfl
    | concat _ => simp at shape
  · rintro rfl
    exact .nil

theorem concat_iff {item : Item} :
    InSessions mark opened (items ++ [item]) ↔
      opened = (mark item).after ∧ InSessions mark (mark item).before items := by
  constructor
  · intro sessions
    generalize shape : items ++ [item] = whole at sessions
    cases sessions with
    | nil => simp at shape
    | concat earlier =>
        obtain ⟨rfl, same⟩ := List.append_inj' shape rfl
        cases same
        exact ⟨rfl, earlier⟩
  · rintro ⟨rfl, earlier⟩
    exact .concat earlier

end InSessions
