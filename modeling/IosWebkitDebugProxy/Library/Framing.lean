import Mathlib.Data.List.Basic

/-! Streams cut into frames that declare their own length at the front. The
header belongs to the frame, so a frame that declares no length at all is where
the cutting comes to a stop. -/

universe u

structure Header (Item : Type u) where
  declared : List Item → Option Nat
  stable : ∀ {front later length}, declared front = some length →
    declared (front ++ later) = some length

namespace Header

variable {Item : Type u} (header : Header Item)

def nextFrame (stream : List Item) : Option (List Item × List Item) :=
  (header.declared stream).bind fun length =>
    if 0 < length ∧ length ≤ stream.length then
      some (stream.take length, stream.drop length)
    else none

variable {header} {stream frame rest : List Item}

theorem nextFrame_eq_some :
    header.nextFrame stream = some (frame, rest) ↔
      header.declared stream = some frame.length ∧ frame ≠ [] ∧ stream = frame ++ rest := by
  unfold nextFrame
  cases declared : header.declared stream with
  | none => simp
  | some length =>
      simp only [Option.bind_some, Option.ite_none_right_eq_some, Option.some.injEq,
        Prod.mk.injEq]
      constructor
      · rintro ⟨⟨positive, fits⟩, rfl, rfl⟩
        refine ⟨by simp [fits], ?_, (List.take_append_drop length stream).symm⟩
        rw [← List.length_pos_iff, List.length_take]
        omega
      · rintro ⟨rfl, nonempty, rfl⟩
        have positive := List.length_pos_iff.mpr nonempty
        exact ⟨⟨positive, by simp⟩, by simp, by simp⟩

theorem nextFrame_shorter (cut : header.nextFrame stream = some (frame, rest)) :
    rest.length < stream.length := by
  obtain ⟨_, nonempty, rfl⟩ := nextFrame_eq_some.mp cut
  have positive := List.length_pos_iff.mpr nonempty
  rw [List.length_append]
  omega

theorem nextFrame_append (cut : header.nextFrame stream = some (frame, rest))
    (later : List Item) : header.nextFrame (stream ++ later) = some (frame, rest ++ later) := by
  obtain ⟨declared, nonempty, rfl⟩ := nextFrame_eq_some.mp cut
  exact nextFrame_eq_some.mpr ⟨header.stable declared, nonempty, by simp⟩

variable (header) in
/-- The frames at the front of a stream, and the rest that begins with no complete frame. -/
def split (stream : List Item) : List (List Item) × List Item :=
  match _cut : header.nextFrame stream with
  | none => ([], stream)
  | some (frame, rest) => (frame :: (split rest).1, (split rest).2)
termination_by stream.length
decreasing_by all_goals exact nextFrame_shorter _cut

variable (header) in
def frames (stream : List Item) : List (List Item) := (header.split stream).1

variable (header) in
def tail (stream : List Item) : List Item := (header.split stream).2

theorem split_none (cut : header.nextFrame stream = none) : header.split stream = ([], stream) := by
  rw [split]
  split
  · rfl
  · rename_i some
    rw [cut] at some
    cases some

theorem split_some (cut : header.nextFrame stream = some (frame, rest)) :
    header.split stream = (frame :: header.frames rest, header.tail rest) := by
  rw [split]
  split
  · rename_i none
    rw [cut] at none
    cases none
  · rename_i same
    rw [cut] at same
    cases same
    rfl

variable (header) in
/-- The cutting of the stream comes to a frame that declares length zero. -/
def Stalled (stream : List Item) : Prop := header.declared (header.tail stream) = some 0

theorem tail_append (stream later : List Item) :
    header.tail (stream ++ later) = header.tail (header.tail stream ++ later) := by
  induction stream using split.induct header with
  | case1 stream cut =>
      have incomplete : header.tail stream = stream := by rw [tail, split_none cut]
      rw [incomplete]
  | case2 stream frame rest cut ih =>
      have whole : header.tail (stream ++ later) = header.tail (rest ++ later) := by
        rw [tail, split_some (nextFrame_append cut later)]
      have front : header.tail stream = header.tail rest := by rw [tail, split_some cut]
      rw [whole, front]
      exact ih

theorem frames_append (stream later : List Item) :
    header.frames (stream ++ later) =
      header.frames stream ++ header.frames (header.tail stream ++ later) := by
  induction stream using split.induct header with
  | case1 stream cut =>
      rw [frames, frames, tail, split_none cut]
      rfl
  | case2 stream frame rest cut ih =>
      have whole : header.frames (stream ++ later) = frame :: header.frames (rest ++ later) := by
        rw [frames, split_some (nextFrame_append cut later)]
      have front : header.frames stream = frame :: header.frames rest := by
        rw [frames, split_some cut]
      have left : header.tail stream = header.tail rest := by rw [tail, split_some cut]
      rw [whole, front, left, ih, List.cons_append]

theorem stalled_append (stalled : header.Stalled stream) (later : List Item) :
    header.Stalled (stream ++ later) := by
  have zero : header.declared (header.tail stream ++ later) = some 0 := header.stable stalled
  have stuck : header.nextFrame (header.tail stream ++ later) = none := by
    simp [nextFrame, zero]
  rw [Stalled, tail_append, tail, split_none stuck]
  exact zero

theorem split_flatten {frames : List (List Item)} {tail : List Item}
    (wellFormed : ∀ frame ∈ frames, frame ≠ [] ∧ header.declared frame = some frame.length)
    (incomplete : header.nextFrame tail = none) :
    header.split (frames.flatten ++ tail) = (frames, tail) := by
  induction frames with
  | nil => exact split_none incomplete
  | cons first later ih =>
      obtain ⟨nonempty, declared⟩ := wellFormed first (by simp)
      have cut : header.nextFrame (first ++ (later.flatten ++ tail)) =
          some (first, later.flatten ++ tail) :=
        nextFrame_eq_some.mpr ⟨header.stable declared, nonempty, rfl⟩
      rw [List.flatten_cons, List.append_assoc, split_some cut, frames, Header.tail,
        ih fun frame member => wellFormed frame (by simp [member])]

end Header
