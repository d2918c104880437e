import Mathlib.Data.List.DropRight

/-! Text cut at its beginning or at the last place where a separator stands. -/

universe u

namespace Text

def hexValue (digit : Char) : Option Nat :=
  if digit.isDigit then some (digit.toNat - 48)
  else if 'a' ≤ digit ∧ digit ≤ 'f' then some (digit.toNat - 87)
  else if 'A' ≤ digit ∧ digit ≤ 'F' then some (digit.toNat - 55)
  else none

variable {Letter : Type u} [DecidableEq Letter]

def afterLast (separator : Letter) (text : List Letter) : List Letter :=
  text.rtakeWhile (· ≠ separator)

/-- Up to the last separator and with it. -/
def throughLast (separator : Letter) (text : List Letter) : List Letter :=
  text.rdropWhile (· ≠ separator)

def cutLast (separator : Letter) (text : List Letter) : Option (List Letter × List Letter) :=
  if separator ∈ text then
    some ((throughLast separator text).dropLast, afterLast separator text)
  else none

def stripStart (start text : List Letter) : Option (List Letter) :=
  if start.isPrefixOf text then some (text.drop start.length) else none

theorem stripStart_append (start rest : List Letter) :
    stripStart start (start ++ rest) = some rest := by
  rw [stripStart, if_pos (List.isPrefixOf_iff_prefix.mpr (List.prefix_append start rest)),
    List.drop_left]

variable {separator : Letter} {front back : List Letter}

omit [DecidableEq Letter] in
theorem notMem_concat {letter : Letter} (apart : separator ∉ back ++ [letter]) :
    separator ∉ back ∧ letter ≠ separator := by
  simp only [List.mem_append, List.mem_singleton, not_or] at apart
  exact ⟨apart.1, apart.2 ∘ Eq.symm⟩

theorem afterLast_append (apart : separator ∉ back) :
    afterLast separator (front ++ separator :: back) = back := by
  unfold afterLast
  induction back using List.reverseRecOn with
  | nil => exact List.rtakeWhile_concat_neg _ _ _ (by simp)
  | append_singleton back letter ih =>
      obtain ⟨before, differs⟩ := notMem_concat apart
      rw [← List.cons_append, ← List.append_assoc,
        List.rtakeWhile_concat_pos _ _ _ (by simp [differs]), ih before]

theorem throughLast_append (apart : separator ∉ back) :
    throughLast separator (front ++ separator :: back) = front ++ [separator] := by
  unfold throughLast
  induction back using List.reverseRecOn with
  | nil => exact List.rdropWhile_concat_neg _ _ _ (by simp)
  | append_singleton back letter ih =>
      obtain ⟨before, differs⟩ := notMem_concat apart
      rw [← List.cons_append, ← List.append_assoc,
        List.rdropWhile_concat_pos _ _ _ (by simp [differs]), ih before]

theorem notMem_afterLast (separator : Letter) (text : List Letter) :
    separator ∉ afterLast separator text := by
  intro member
  have kept := List.mem_rtakeWhile_imp member
  simp at kept

theorem cutLast_append (apart : separator ∉ back) :
    cutLast separator (front ++ separator :: back) = some (front, back) := by
  rw [cutLast, if_pos (by simp), throughLast_append apart, afterLast_append apart,
    List.dropLast_concat]

theorem cutLast_of_notMem {text : List Letter} (apart : separator ∉ text) :
    cutLast separator text = none :=
  if_neg apart

end Text
