import Mathlib.Data.List.Basic

/-! Regular expressions with groups. The ways to match are listed in the order in
which a backtracking matcher tries them: an alternative before the next one, and
a repetition or an option with as much as it can take before it takes less. The
first way that matches is the match. What follows an expression says which of its
ways is taken, and a repetition is greedy when less never does better. -/

universe u

inductive Regex where
  | start
  | stop
  | empty
  | char (accepts : Char → Bool)
  | many (accepts : Char → Bool) (least : Nat)
  | seq (first second : Regex)
  | either (first second : Regex)
  | optional (inner : Regex)
  | group (index : Nat) (inner : Regex)

namespace Regex

/-- Where a matcher stands in a text, and what its groups have taken so far. -/
structure Cursor where
  atStart : Bool
  rest : List Char
  groups : List (Nat × List Char)
  deriving DecidableEq, Repr

namespace Cursor

def advance (count : Nat) (cursor : Cursor) : Cursor :=
  if count = 0 then cursor
  else { cursor with atStart := false, rest := cursor.rest.drop count }

def capture (index : Nat) (before after : Cursor) : Cursor :=
  { after with
    groups := (index, before.rest.take (before.rest.length - after.rest.length)) :: after.groups }

def group (index : Nat) (cursor : Cursor) : Option (List Char) := cursor.groups.lookup index

end Cursor

/-- All ways to match from a cursor, the preferred one first. -/
def ways : Regex → Cursor → List Cursor
  | start, cursor => if cursor.atStart then [cursor] else []
  | stop, cursor => if cursor.rest = [] then [cursor] else []
  | empty, cursor => [cursor]
  | char accepts, cursor => if cursor.rest.head?.any accepts then [cursor.advance 1] else []
  | many accepts least, cursor =>
      let most := (cursor.rest.takeWhile accepts).length
      ((List.range' least (most + 1 - least)).reverse).map fun count => cursor.advance count
  | seq first second, cursor => (first.ways cursor).flatMap second.ways
  | either first second, cursor => first.ways cursor ++ second.ways cursor
  | optional inner, cursor => inner.ways cursor ++ [cursor]
  | group index inner, cursor => (inner.ways cursor).map (cursor.capture index)

/-- The match that begins first, wherever in the text it begins. -/
def captures (regex : Regex) (text : List Char) : Option Cursor :=
  text.tails.zipIdx.findSome? fun (rest, offset) => (regex.ways ⟨offset == 0, rest, []⟩).head?

def isMatch (regex : Regex) (text : List Char) : Bool := (regex.captures text).isSome

def all (parts : List Regex) : Regex := parts.foldr seq empty

def literal (accepts : Char → Char → Bool) (text : String) : Regex :=
  all (text.toList.map fun letter => char (accepts letter))

namespace Cursor

variable {cursor before after : Cursor} {index : Nat}

@[simp] theorem advance_rest (count : Nat) (cursor : Cursor) :
    (cursor.advance count).rest = cursor.rest.drop count := by
  unfold advance
  split
  · rename_i none
    rw [none, List.drop_zero]
  · rfl

@[simp] theorem advance_groups (count : Nat) (cursor : Cursor) :
    (cursor.advance count).groups = cursor.groups := by
  unfold advance
  split <;> rfl

end Cursor

variable {Result : Type u} {next : Cursor → Option Result}

/-- What comes of the first way that the rest of the match accepts. -/
def follow (regex : Regex) (next : Cursor → Option Result) (cursor : Cursor) : Option Result :=
  (regex.ways cursor).findSome? next

theorem follow_stop (cursor : Cursor) :
    stop.follow next cursor = if cursor.rest = [] then next cursor else none := by
  unfold follow ways
  split <;> simp

theorem follow_empty : empty.follow next = next := by
  funext cursor
  simp [follow, ways]

theorem follow_char (accepts : Char → Bool) (cursor : Cursor) :
    (char accepts).follow next cursor =
      if cursor.rest.head?.any accepts then next (cursor.advance 1) else none := by
  unfold follow ways
  split <;> simp

theorem findSome?_flatMap {Item Other : Type} (items : List Item) (others : Item → List Other)
    (next : Other → Option Result) :
    (items.flatMap others).findSome? next =
      items.findSome? fun item => (others item).findSome? next := by
  induction items with
  | nil => rfl
  | cons item items ih =>
      rw [List.flatMap_cons, List.findSome?_append, ih, List.findSome?_cons]
      cases (others item).findSome? next <;> rfl

theorem follow_seq (first second : Regex) :
    (seq first second).follow next = first.follow (second.follow next) := by
  funext cursor
  exact findSome?_flatMap _ _ _

theorem follow_either (first second : Regex) (cursor : Cursor) :
    (either first second).follow next cursor =
      (first.follow next cursor).or (second.follow next cursor) :=
  List.findSome?_append

theorem follow_optional (inner : Regex) (cursor : Cursor) :
    (optional inner).follow next cursor = (inner.follow next cursor).or (next cursor) := by
  rw [follow, ways, List.findSome?_append, List.findSome?_singleton]
  rfl

theorem follow_group (index : Nat) (inner : Regex) (cursor : Cursor) :
    (group index inner).follow next cursor =
      inner.follow (fun after => next (cursor.capture index after)) cursor :=
  List.findSome?_map

theorem findSome?_first {Item : Type} {items : List Item} {first : Item}
    {next : Item → Option Result}
    (greedy : ∀ item ∈ items, (next item).isSome → (next first).isSome) :
    (first :: items).findSome? next = next first := by
  rw [List.findSome?_cons]
  cases found : next first with
  | some result => rfl
  | none =>
      rw [List.findSome?_eq_none_iff]
      intro item member
      rw [← Option.not_isSome_iff_eq_none]
      intro accepted
      have first := greedy item member accepted
      rw [found] at first
      cases first

theorem drop_takeWhile {accepts : Char → Bool} {text taken left : List Char}
    (shape : text.takeWhile accepts = taken ++ left) :
    text.drop taken.length = left ++ text.dropWhile accepts := by
  have whole : text = taken ++ (left ++ text.dropWhile accepts) := by
    rw [← List.append_assoc, ← shape, List.takeWhile_append_dropWhile]
  rw [whole, List.drop_left, ← whole]

theorem drop_takeWhile_length (accepts : Char → Bool) (text : List Char) :
    text.drop (text.takeWhile accepts).length = text.dropWhile accepts :=
  drop_takeWhile (List.append_nil _).symm

/-- A repetition takes all that it can, if whatever goes on after less of it goes
on after all of it. -/
theorem follow_many {accepts : Char → Bool} {least : Nat} {cursor : Cursor}
    (greedy : ∀ taken left, cursor.rest.takeWhile accepts = taken ++ left → left ≠ [] →
      (next (cursor.advance taken.length)).isSome →
      (next (cursor.advance (cursor.rest.takeWhile accepts).length)).isSome) :
    (many accepts least).follow next cursor =
      if least ≤ (cursor.rest.takeWhile accepts).length then
        next (cursor.advance (cursor.rest.takeWhile accepts).length)
      else none := by
  simp only [follow, ways, List.findSome?_map]
  split
  · rename_i enough
    obtain ⟨more, shape⟩ := Nat.exists_eq_add_of_le enough
    have counts : (cursor.rest.takeWhile accepts).length + 1 - least = more + 1 := by omega
    rw [counts, List.range'_1_concat, List.reverse_append, List.reverse_singleton,
      List.singleton_append, ← shape]
    refine findSome?_first ?_
    intro count member
    rw [List.mem_reverse, List.mem_range'_1] at member
    have cut := greedy ((cursor.rest.takeWhile accepts).take count)
      ((cursor.rest.takeWhile accepts).drop count) (List.take_append_drop _ _).symm
    rw [List.length_take_of_le (by omega)] at cut
    refine cut ?_
    rw [ne_eq, List.drop_eq_nil_iff]
    omega
  · rename_i few
    have counts : (cursor.rest.takeWhile accepts).length + 1 - least = 0 := by omega
    rw [counts]
    rfl

theorem head?_findSome?_some {Item : Type} (items : List Item) :
    items.findSome? some = items.head? := by
  cases items <;> rfl

/-- An expression that begins at the start matches there or nowhere. -/
theorem captures_start (rest : Regex) (text : List Char) :
    (seq start rest).captures text = rest.follow some ⟨true, text, []⟩ := by
  have elsewhere (texts : List (List Char)) (offset : Nat) :
      ((texts.zipIdx (offset + 1)).findSome? fun (text, offset) =>
        ((seq start rest).ways ⟨offset == 0, text, []⟩).head?) = none := by
    rw [List.findSome?_eq_none_iff]
    intro item member
    have beyond := (List.mem_zipIdx member).1
    have apart : (item.2 == 0) = false := by
      rw [beq_eq_false_iff_ne]
      omega
    simp [ways, apart]
  unfold captures follow
  cases text with
  | nil =>
      rw [head?_findSome?_some]
      simp [ways]
  | cons letter text =>
      rw [List.tails, List.zipIdx_cons, List.findSome?_cons, elsewhere, head?_findSome?_some]
      simp only [ways, beq_self_eq_true, if_true, List.flatMap_cons, List.flatMap_nil,
        List.append_nil]
      cases (rest.ways ⟨true, letter :: text, []⟩).head? <;> rfl

/-! What a match captures in the groups one looks at, said of the text. -/

def Cursor.seen (looks : Nat → Bool) (cursor : Cursor) : List (Nat × List Char) :=
  cursor.groups.filter fun (index, _) => looks index

def taken (text rest : List Char) : List Char := text.take (text.length - rest.length)

theorem taken_append (front rest : List Char) : taken (front ++ rest) rest = front := by
  simp [taken]

theorem taken_dropWhile (accepts : Char → Bool) (text : List Char) :
    taken text (text.dropWhile accepts) = text.takeWhile accepts := by
  have shape := taken_append (text.takeWhile accepts) (text.dropWhile accepts)
  rwa [List.takeWhile_append_dropWhile] at shape

theorem taken_drop (count : Nat) (text : List Char) :
    taken text (text.drop count) = text.take count := by
  have shape := taken_append (text.take count) (text.drop count)
  rwa [List.take_append_drop] at shape

theorem Cursor.lookup_seen {looks : Nat → Bool} {index : Nat} (looked : looks index = true)
    (cursor : Cursor) : (cursor.seen looks).lookup index = cursor.group index := by
  unfold seen group
  induction cursor.groups with
  | nil => rfl
  | cons pair groups ih =>
      obtain ⟨other, text⟩ := pair
      by_cases same : index = other
      · subst same
        simp [looked]
      · have apart : (index == other) = false := beq_eq_false_iff_ne.mpr same
        by_cases kept : looks other = true
        · simp only [List.filter_cons, kept, if_true, List.lookup_cons, apart]
          exact ih
        · rw [Bool.not_eq_true] at kept
          simp only [List.filter_cons, kept, Bool.false_eq_true, if_false, List.lookup_cons, apart]
          exact ih

/-- The rest of a match goes on just where the reader does, and captures the same. -/
def Yields (looks : Nat → Bool) (next : Cursor → Option Cursor)
    (read : List Char → Option (List (Nat × List Char))) : Prop :=
  ∀ cursor, (next cursor).map (Cursor.seen looks) =
    (read cursor.rest).map (· ++ cursor.seen looks)

namespace Yields

variable {looks : Nat → Bool} {next : Cursor → Option Cursor}
variable {read : List Char → Option (List (Nat × List Char))}

theorem isSome (yields : Yields looks next read) (cursor : Cursor) :
    (next cursor).isSome = (read cursor.rest).isSome := by
  rw [← Option.isSome_map, yields cursor, Option.isSome_map]

theorem advance (yields : Yields looks next read) (count : Nat) (cursor : Cursor) :
    (next (cursor.advance count)).map (Cursor.seen looks) =
      (read (cursor.rest.drop count)).map (· ++ cursor.seen looks) := by
  rw [yields, Cursor.advance_rest, Cursor.seen, Cursor.advance_groups, Cursor.seen]

theorem congr {other : List Char → Option (List (Nat × List Char))}
    (yields : Yields looks next read) (same : ∀ text, other text = read text) :
    Yields looks next other := by
  intro cursor
  rw [same]
  exact yields cursor

theorem found : Yields looks some fun _ => some [] := fun _ => rfl

theorem stop (yields : Yields looks next read) :
    Yields looks (Regex.stop.follow next) fun text => if text = [] then read text else none := by
  intro cursor
  rw [follow_stop]
  by_cases empty : cursor.rest = []
  · simp only [empty, if_true]
    rw [← empty]
    exact yields cursor
  · simp only [empty, if_false, Option.map_none]

theorem char (yields : Yields looks next read) (accepts : Char → Bool) :
    Yields looks ((Regex.char accepts).follow next) fun text =>
      if text.head?.any accepts then read (text.drop 1) else none := by
  intro cursor
  rw [follow_char]
  by_cases accepted : cursor.rest.head?.any accepts
  · simp only [accepted, if_true]
    exact yields.advance 1 cursor
  · simp only [accepted, Bool.false_eq_true, if_false, Option.map_none]

theorem either {first second : Regex} {readFirst readSecond}
    (one : Yields looks (first.follow next) readFirst)
    (other : Yields looks (second.follow next) readSecond) :
    Yields looks ((Regex.either first second).follow next) fun text =>
      (readFirst text).or (readSecond text) := by
  intro cursor
  rw [follow_either, Option.map_or, one cursor, other cursor, Option.map_or]

theorem optional {inner : Regex} {readInner} (yields : Yields looks next read)
    (taken : Yields looks (inner.follow next) readInner) :
    Yields looks ((Regex.optional inner).follow next) fun text =>
      (readInner text).or (read text) := by
  intro cursor
  rw [follow_optional, Option.map_or, taken cursor, yields cursor, Option.map_or]

theorem group {index : Nat} {inner : Regex}
    (readInner : List Char → List Char → Option (List (Nat × List Char)))
    (yields : ∀ before : Cursor,
      Yields looks (inner.follow fun after => next (before.capture index after))
        (readInner before.rest)) :
    Yields looks ((Regex.group index inner).follow next) fun text => readInner text text := by
  intro cursor
  rw [follow_group]
  exact yields cursor cursor

theorem capture (yields : Yields looks next read) (index : Nat) (looked : looks index = true)
    (before : Cursor) :
    Yields looks (fun after => next (before.capture index after)) fun text =>
      (read text).map (· ++ [(index, taken before.rest text)]) := by
  intro after
  rw [yields, Option.map_map]
  simp only [Cursor.seen, Cursor.capture, taken, List.filter_cons, looked, if_true]
  congr 1
  funext captured
  simp

theorem capture_unseen (yields : Yields looks next read) (index : Nat)
    (unseen : looks index = false) (before : Cursor) :
    Yields looks (fun after => next (before.capture index after)) read := by
  intro after
  rw [yields]
  simp only [Cursor.seen, Cursor.capture, List.filter_cons, unseen, Bool.false_eq_true, if_false]

/-- A reader that goes on after less of a repetition goes on after all of it. -/
theorem many {accepts : Char → Bool} (yields : Yields looks next read) (least : Nat)
    (greedy : ∀ letters rest, letters ≠ [] → (∀ letter ∈ letters, accepts letter = true) →
      rest.head?.any accepts = false → (read (letters ++ rest)).isSome → (read rest).isSome) :
    Yields looks ((Regex.many accepts least).follow next) fun text =>
      if least ≤ (text.takeWhile accepts).length then read (text.dropWhile accepts) else none := by
  intro cursor
  rw [follow_many]
  · by_cases enough : least ≤ (cursor.rest.takeWhile accepts).length
    · simp only [enough, if_true, yields.advance, drop_takeWhile_length]
    · simp only [enough, if_false, Option.map_none]
  · intro front left shape more accepted
    rw [yields.isSome, Cursor.advance_rest] at accepted ⊢
    rw [drop_takeWhile shape] at accepted
    rw [drop_takeWhile_length]
    refine greedy left _ more ?_ ?_ accepted
    · intro letter member
      have inside : letter ∈ cursor.rest.takeWhile accepts := by
        rw [shape]
        exact List.mem_append_right front member
      exact List.all_eq_true.mp List.all_takeWhile letter inside
    · have stops := List.head?_dropWhile_not accepts cursor.rest
      cases rest : (cursor.rest.dropWhile accepts).head? with
      | none => rfl
      | some letter =>
          rw [rest] at stops
          simpa using stops

/-- A reader that stops where there is more of a repetition lets it take all. -/
theorem many_strict {accepts : Char → Bool} (yields : Yields looks next read) (least : Nat)
    (strict : ∀ letter text, accepts letter = true → read (letter :: text) = none) :
    Yields looks ((Regex.many accepts least).follow next) fun text =>
      if least ≤ (text.takeWhile accepts).length then read (text.dropWhile accepts) else none := by
  refine yields.many least ?_
  intro letters rest more all _ accepted
  obtain ⟨letter, later, rfl⟩ := List.exists_cons_of_ne_nil more
  rw [List.cons_append, strict letter _ (all letter List.mem_cons_self)] at accepted
  cases accepted

/-- The letters of a word one after another, compared by what they fold to. -/
theorem word (yields : Yields looks next read) (fold : Char → Char) (wanted : List Char) :
    Yields looks ((all (wanted.map fun letter =>
        Regex.char fun other => fold other == letter)).follow next) fun text =>
      if (text.take wanted.length).map fold = wanted then read (text.drop wanted.length)
      else none := by
  induction wanted with
  | nil =>
      rw [List.map_nil, all, List.foldr_nil, follow_empty]
      exact yields
  | cons letter wanted ih =>
      rw [List.map_cons, all, List.foldr_cons, follow_seq]
      refine (ih.char _).congr ?_
      intro text
      cases text with
      | nil => rfl
      | cons other text =>
          by_cases first : fold other = letter
          · simp [first]
          · simp [first]

end Yields

end Regex
