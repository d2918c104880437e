import IosWebkitDebugProxy.Library.Html

/-! Pages put together from pieces, each with the tokens that it is meant to give, and the
texts of their list items. -/

namespace Html

structure Piece where
  text : List Char
  tokens : List Token

def Piece.shown (text : List Char) : Piece := ⟨text, letters text⟩

def Piece.quoted (opening text : List Char) (before : List Token) (tag : Tag) : Piece :=
  ⟨opening ++ (text ++ ['\x22', '>']), before ++ [.tag tag]⟩

def textOf (pieces : List Piece) : List Char := pieces.flatMap Piece.text

def tokensOf (pieces : List Piece) : List Token := pieces.flatMap Piece.tokens

theorem textOf_cons (piece : Piece) (pieces : List Piece) :
    textOf (piece :: pieces) = piece.text ++ textOf pieces := List.flatMap_cons

theorem textOf_append (front back : List Piece) :
    textOf (front ++ back) = textOf front ++ textOf back := List.flatMap_append

theorem tokensOf_cons (piece : Piece) (pieces : List Piece) :
    tokensOf (piece :: pieces) = piece.tokens ++ tokensOf pieces := List.flatMap_cons

theorem tokensOf_append (front back : List Piece) :
    tokensOf (front ++ back) = tokensOf front ++ tokensOf back := List.flatMap_append

/-- At each border between two pieces, the reader is outside of every tag and comment and
has read what the pieces so far are meant to give. -/
def Places (pieces : List Piece) : Prop :=
  ∀ front back, pieces = front ++ back → Shows (.text none) (textOf front) (tokensOf front)

def Adds (state : State) (piece : Piece) : Prop :=
  ∃ before after, state.held = some before ∧ (run state piece.text).1.held = some after ∧
    (run state piece.text).2 ++ letters after = letters before ++ piece.tokens

def InPlace : State → List Piece → Prop
  | _, [] => True
  | state, piece :: pieces => Adds state piece ∧ InPlace (run state piece.text).1 pieces

theorem shows_append {start : State} {front back : List Char} {shown added : List Token}
    (shows' : Shows start front shown) :
    Shows start (front ++ back) (shown ++ added) ↔ Adds (run start front).1 ⟨back, added⟩ := by
  obtain ⟨held, outside, same⟩ := shows'
  subst same
  simp only [Shows, Adds, run_append, List.append_assoc, List.append_cancel_left_eq]
  constructor
  · rintro ⟨after, later, same⟩
    exact ⟨held, after, outside, later, same⟩
  · rintro ⟨before, after, earlier, later, same⟩
    obtain rfl := Option.some.inj (outside.symm.trans earlier)
    exact ⟨after, later, same⟩

theorem shows_iff_inPlace {start : State} {front : List Char} {shown : List Token}
    (shows' : Shows start front shown) (pieces : List Piece) :
    (∀ before after, pieces = before ++ after →
      Shows start (front ++ textOf before) (shown ++ tokensOf before)) ↔
      InPlace (run start front).1 pieces := by
  induction pieces generalizing front shown with
  | nil =>
      refine iff_of_true ?_ trivial
      intro before after same
      obtain ⟨rfl, -⟩ := List.append_eq_nil_iff.mp same.symm
      simpa [textOf, tokensOf] using shows'
  | cons piece pieces ih =>
      rw [InPlace, ← shows_append shows']
      constructor
      · intro every
        have first : Shows start (front ++ piece.text) (shown ++ piece.tokens) := by
          simpa [textOf, tokensOf] using every [piece] pieces rfl
        refine ⟨first, ?_⟩
        have rest := (ih first).mp fun before after same => by
          have whole := every (piece :: before) after (by rw [same]; rfl)
          rwa [textOf_cons, tokensOf_cons, ← List.append_assoc, ← List.append_assoc] at whole
        rwa [run_append] at rest
      · rintro ⟨first, rest⟩ before after same
        cases before with
        | nil => simpa [textOf, tokensOf] using shows'
        | cons next before =>
            obtain ⟨rfl, tail⟩ := List.cons.inj (same.trans List.cons_append)
            have whole := (ih first).mpr (by rwa [run_append]) before after tail
            rwa [textOf_cons, tokensOf_cons, ← List.append_assoc, ← List.append_assoc]

theorem places_iff (pieces : List Piece) : Places pieces ↔ InPlace (.text none) pieces :=
  @shows_iff_inPlace (.text none) [] [] ⟨[], rfl, rfl⟩ pieces

theorem tokens_of_places {pieces : List Piece} (places : Places pieces) :
    tokens (textOf pieces) = tokensOf pieces :=
  tokens_of_shows (places pieces [] (List.append_nil pieces).symm)

/-! A text and the piece of the page that comes after it. -/

def Reads (element : Option (List Char)) (piece : Piece) (next : Option (List Char)) : Prop :=
  run (.text element) piece.text = (.text next, piece.tokens)

instance (element : Option (List Char)) (piece : Piece) (next : Option (List Char)) :
    Decidable (Reads element piece next) :=
  inferInstanceAs (Decidable (_ = _))

/-- A piece that does not go on with markup that a text before it has begun. -/
structure Follows (element : Option (List Char)) (piece : Piece)
    (next : Option (List Char)) : Prop where
  reads : Reads element piece next
  begins : ∃ first ∈ piece.text.head?, isOpening first = false ∧ first ≠ '>'

variable {element next : Option (List Char)} {piece : Piece} {pieces : List Piece}

theorem Follows.shape (follows : Follows element piece next) :
    ∃ first rest, piece.text = first :: rest ∧ isOpening first = false ∧ first ≠ '>' := by
  obtain ⟨first, head, closed⟩ := follows.begins
  obtain ⟨rest, shape⟩ := List.head?_eq_some_iff.mp head
  exact ⟨first, rest, shape, closed⟩

theorem inPlace_reads (reads : Reads element piece next) :
    InPlace (.text element) (piece :: pieces) ↔ InPlace (.text next) pieces := by
  have adds : Adds (.text element) piece := ⟨[], [], rfl, by rw [reads]; rfl, by
    rw [reads]
    exact List.append_nil _⟩
  rw [InPlace, show (run (.text element) piece.text).1 = .text next by rw [reads]]
  exact and_iff_right adds

theorem inPlace_follows {state : State} {held : List Char} (follows : Follows element piece next)
    (here : AtText element state held) :
    InPlace state (piece :: pieces) ↔ InPlace (.text next) pieces := by
  cases here with
  | text => exact inPlace_reads follows.reads
  | less =>
      obtain ⟨first, rest, shape, closed, -⟩ := follows.shape
      have same : run (.less element) piece.text = (.text next, .letter '<' :: piece.tokens) := by
        have reads := follows.reads
        rw [Reads, shape] at reads
        rw [shape, run_less closed, reads]
      have adds : Adds (.less element) piece := ⟨_, [], rfl, by rw [same]; rfl, by
        rw [same]
        exact List.append_nil _⟩
      rw [InPlace, same]
      exact and_iff_right adds

theorem adds_quiet {text : List Char} (quiet : Quiet text) :
    Adds (.text element) (.shown text) ∧
      ∃ held, AtText element (run (.text element) text).1 held := by
  obtain ⟨state, held, here, last, same⟩ := run_quiet quiet element
  subst last
  exact ⟨⟨[], held, rfl, here.held, same⟩, held, here⟩

theorem inPlace_quiet {text : List Char} (quiet : Quiet text)
    (follows : Follows element piece next) :
    InPlace (.text element) (.shown text :: piece :: pieces) ↔ InPlace (.text next) pieces := by
  obtain ⟨adds, held, here⟩ := adds_quiet quiet
  rw [InPlace, ← inPlace_follows follows here]
  exact and_iff_right adds

theorem not_adds_lessSlash (follows : Follows element piece next) :
    ¬ Adds (.lessSlash none) piece := by
  rintro ⟨before, after, earlier, later, same⟩
  obtain ⟨first, rest, shape, closed, close⟩ := follows.shape
  simp only [isOpening, Bool.or_eq_false_iff] at closed
  have bogus : step (.lessSlash none) first = (.comment .bogus, []) := by
    simp [step, closed.1.1.1, close]
  rw [shape, run, bogus] at later same
  obtain ⟨token, more, isMarkup, head⟩ := run_inside rfl later
  obtain rfl := Option.some.inj earlier
  rw [head] at same
  rw [(List.cons.inj same).1] at isMarkup
  exact Bool.false_ne_true isMarkup

/-- A text stands in its place, with what comes after it, just when it opens nothing. -/
theorem inPlace_shown {text : List Char} (follows : Follows none piece next) :
    InPlace (.text none) (.shown text :: piece :: pieces) ↔
      Quiet text ∧ InPlace (.text next) pieces := by
  constructor
  · intro inPlace
    have ⟨⟨before, after, earlier, later, same⟩, adds, _⟩ := inPlace
    obtain rfl := Option.some.inj earlier
    have apart : (run (.text none) text).1 ≠ .lessSlash none := by
      intro slash
      rw [show (Piece.shown text).text = text from rfl, slash] at adds
      exact not_adds_lessSlash follows adds
    have quiet := quiet_of_run later apart same
    exact ⟨quiet, (inPlace_quiet quiet follows).mp inPlace⟩
  · rintro ⟨quiet, inPlace⟩
    exact (inPlace_quiet quiet follows).mpr inPlace

/-- What stands after an element that holds no other is read as ever, if the text of the
element is nothing but text. -/
theorem inPlace_raw {name text rest : List Char} (follows : Follows (some name) piece next)
    (shape : piece.text = '<' :: rest)
    (inPlace : InPlace (.text (some name)) (.shown text :: piece :: pieces)) :
    InPlace (.text next) pieces := by
  obtain ⟨⟨before, after, earlier, later, same⟩, -, inPlace⟩ := inPlace
  obtain rfl := Option.some.inj earlier
  have unmarked : ∀ token ∈ (run (.text (some name)) text).2, token.isMarkup = false := by
    intro token member
    have whole : (run (.text (some name)) text).2 ++ letters after = letters text := same
    have shown : token ∈ letters text := by
      rw [← whole]
      exact List.mem_append_left _ member
    obtain ⟨letter, -, rfl⟩ := List.mem_map.mp shown
    rfl
  obtain ⟨held, -, last⟩ := run_raw_less (inRaw_run .text later unmarked) rest
  have reads := follows.reads
  rw [Reads, shape] at reads
  have reads : run (.less (some name)) rest = (.text next, piece.tokens) := reads
  rw [reads] at last
  rw [shape, last] at inPlace
  exact inPlace

theorem inPlace_quoted {opening text : List Char} {tag : Tag} {before : List Token}
    (opens : run (.text element) opening = (.tag tag (.quoted '\x22'), before))
    (after : (emitTag tag).1 = .text next) :
    InPlace (.text element) (.quoted opening text before tag :: pieces) ↔
      '\x22' ∉ text ∧ InPlace (.text next) pieces := by
  have whole : run (.text element) (opening ++ (text ++ ['\x22', '>'])) =
      ((run (.tag tag (.quoted '\x22')) (text ++ ['\x22', '>'])).1,
        before ++ (run (.tag tag (.quoted '\x22')) (text ++ ['\x22', '>'])).2) := by
    rw [run_append, opens]
  have adds : Adds (.text element) (.quoted opening text before tag) ↔ '\x22' ∉ text := by
    rw [← @quoted_iff tag, Adds]
    simp only [Piece.quoted, whole, List.append_assoc]
    constructor
    · rintro ⟨earlier, held, inText, outside, same⟩
      obtain rfl := Option.some.inj inText
      exact ⟨held, outside, List.append_cancel_left same⟩
    · rintro ⟨held, outside, same⟩
      exact ⟨[], held, rfl, outside, congrArg (before ++ ·) same⟩
  rw [InPlace, adds, show (Piece.quoted opening text before tag).text =
    opening ++ (text ++ ['\x22', '>']) from rfl, whole]
  apply and_congr_right
  intro apart
  have last : (run (.tag tag (.quoted '\x22')) (text ++ ['\x22', '>'])).1 = .text next := by
    rw [run_append, run_quoted tag apart, ← after]
    rfl
  rw [last]

/-! Parts that are joined by a separator. -/

section Joined

variable {Item : Type*} {part : Item → List Piece} {separator : Piece}

theorem joined_rule {motive : List Item → List Piece → Prop} (none : motive [] [])
    (last : ∀ item, motive [item] (part item))
    (more : ∀ item next items joined, motive (next :: items) joined →
      motive (item :: next :: items) (part item ++ separator :: joined)) (items : List Item) :
    motive items ([separator].intercalate (items.map part)) := by
  induction items with
  | nil => exact none
  | cons item items ih =>
      cases items with
      | nil => simpa using last item
      | cons next items =>
          rw [List.map_cons, List.map_cons, List.intercalate_cons_cons, ← List.map_cons,
            List.append_assoc, List.singleton_append]
          exact more item next items _ ih

theorem textOf_joined (items : List Item) :
    textOf ([separator].intercalate (items.map part)) =
      separator.text.intercalate (items.map fun item => textOf (part item)) := by
  refine joined_rule (motive := fun items joined => textOf joined =
    separator.text.intercalate (items.map fun item => textOf (part item))) rfl ?_ ?_ items
  · intro item
    rw [List.map_singleton, List.intercalate_singleton]
  · intro item next items joined same
    rw [textOf_append, textOf_cons, same, List.map_cons, List.map_cons, List.map_cons,
      List.intercalate_cons_cons, List.append_assoc]

theorem inPlace_joined {fits : Item → Prop} (between : Reads none separator none)
    (each : ∀ item pieces, InPlace (.text none) (part item ++ pieces) ↔
      fits item ∧ InPlace (.text none) pieces) (items : List Item) :
    ∀ pieces, InPlace (.text none) ([separator].intercalate (items.map part) ++ pieces) ↔
      (∀ item ∈ items, fits item) ∧ InPlace (.text none) pieces := by
  refine joined_rule (motive := fun items joined =>
    ∀ pieces, InPlace (.text none) (joined ++ pieces) ↔
      (∀ item ∈ items, fits item) ∧ InPlace (.text none) pieces) ?_ ?_ ?_ items
  · intro pieces
    simp
  · intro item pieces
    rw [each, List.forall_mem_singleton]
  · intro item next items joined rest pieces
    rw [List.append_assoc, each, List.cons_append, inPlace_reads between, rest, ← and_assoc,
      ← List.forall_mem_cons]

theorem filter_letters (text : List Char) : (letters text).filter Token.isMarkup = [] := by
  induction text with
  | nil => rfl
  | cons letter text ih => exact ih

theorem markup_joined (between : separator.tokens.filter Token.isMarkup = [])
    {marks : List Token} (each : ∀ item, (tokensOf (part item)).filter Token.isMarkup = marks)
    (items : List Item) :
    (tokensOf ([separator].intercalate (items.map part))).filter Token.isMarkup =
      (List.replicate items.length marks).flatten := by
  refine joined_rule (motive := fun items joined => (tokensOf joined).filter Token.isMarkup =
    (List.replicate items.length marks).flatten) rfl ?_ ?_ items
  · intro item
    simpa using each item
  · intro item next items joined same
    rw [tokensOf_append, tokensOf_cons, List.filter_append, List.filter_append, each, between,
      same]
    rfl

end Joined

/-! The text of an element, with its references read. -/

/-- The references of the standard: what stands after an `&`, if it is one of them, with
the text it stands for and with what comes after it. -/
structure References where
  read : List Char → Option (List Char × List Char)
  shorter : ∀ {text replaced rest}, read text = some (replaced, rest) →
    replaced.length + rest.length ≤ text.length

/-- A table of references, of which the first that fits is taken. -/
def References.ofTable (table : List (List Char × List Char))
    (shorter : ∀ entry ∈ table, entry.2.length ≤ entry.1.length) : References where
  read text :=
    (table.find? fun entry => entry.1.isPrefixOf text).map fun entry =>
      (entry.2, text.drop entry.1.length)
  shorter := by
    intro text replaced rest found
    obtain ⟨entry, first, same⟩ := Option.map_eq_some_iff.mp found
    obtain ⟨rfl, rfl⟩ := Prod.mk.inj same
    have begins : entry.1.isPrefixOf text = true := by simpa using List.find?_some first
    have fits := (List.isPrefixOf_iff_prefix.mp begins).length_le
    have less := shorter entry (List.mem_of_find?_eq_some first)
    rw [List.length_drop]
    omega

/-- A carriage return is a line feed, alone or with one, and NUL is left out. -/
def readText (references : References) (text : List Char) : List Char :=
  match text with
  | [] => []
  | '\x00' :: rest => readText references rest
  | '\r' :: '\n' :: rest => '\n' :: readText references rest
  | '\r' :: rest => '\n' :: readText references rest
  | '&' :: rest =>
      match _found : references.read rest with
      | some (replaced, rest') => replaced ++ readText references rest'
      | none => '&' :: readText references rest
  | letter :: rest => letter :: readText references rest
termination_by text.length
decreasing_by
  all_goals simp only [List.length_cons]
  all_goals first | omega | (have shorter := references.shorter _found; omega)

/-- Text that is read as it is written. -/
def Plain (references : References) (text : List Char) : Prop :=
  '\x00' ∉ text ∧ '\r' ∉ text ∧
    ∀ front rest, text = front ++ '&' :: rest → references.read rest = none

variable {references : References}

theorem plain_cons {letter : Char} {text : List Char} :
    Plain references (letter :: text) ↔
      (letter ≠ '\x00' ∧ letter ≠ '\r' ∧ (letter = '&' → references.read text = none)) ∧
        Plain references text := by
  simp only [Plain, List.mem_cons, not_or]
  constructor
  · rintro ⟨⟨nul, noNul⟩, ⟨carriage, noCarriage⟩, none⟩
    refine ⟨⟨Ne.symm nul, Ne.symm carriage, ?_⟩, noNul, noCarriage, ?_⟩
    · rintro rfl
      exact none [] text rfl
    · intro front rest same
      exact none (letter :: front) rest (by rw [same]; rfl)
  · rintro ⟨⟨nul, carriage, first⟩, noNul, noCarriage, none⟩
    refine ⟨⟨Ne.symm nul, noNul⟩, ⟨Ne.symm carriage, noCarriage⟩, ?_⟩
    intro front rest same
    cases front with
    | nil =>
        obtain ⟨isReference, rfl⟩ := List.cons.inj same
        exact first isReference
    | cons next front => exact none front rest (List.cons.inj same).2

instance decidablePlain : (text : List Char) → Decidable (Plain references text)
  | [] => .isTrue (by simp [Plain])
  | _ :: text =>
      let _ : Decidable (Plain references text) := decidablePlain text
      decidable_of_iff' _ plain_cons

theorem readText_nil : readText references [] = [] := by
  rw [readText]

theorem readText_length (text : List Char) :
    (readText references text).length ≤ text.length := by
  fun_induction readText references text with
  | case1 => exact Nat.le_refl _
  | case2 rest ih => exact ih.trans (Nat.le_succ _)
  | case3 rest ih => exact Nat.succ_le_succ (ih.trans (Nat.le_succ _))
  | case4 rest _ ih => exact Nat.succ_le_succ ih
  | case5 rest replaced rest' found ih =>
      have shorter := references.shorter found
      rw [List.length_append, List.length_cons]
      omega
  | case6 rest _ ih => exact Nat.succ_le_succ ih
  | case7 letter rest _ _ _ _ ih => exact Nat.succ_le_succ ih

theorem readText_iff (text : List Char) :
    readText references text = text ↔ Plain references text := by
  fun_induction readText references text with
  | case1 => exact iff_of_true rfl ⟨by simp, by simp, by simp⟩
  | case2 rest ih =>
      refine iff_of_false ?_ fun plain => (plain_cons.mp plain).1.1 rfl
      intro same
      have length : (readText references rest).length ≤ rest.length := readText_length rest
      rw [same, List.length_cons] at length
      omega
  | case3 rest ih =>
      refine iff_of_false ?_ fun plain => (plain_cons.mp plain).1.2.1 rfl
      intro same
      exact absurd (List.cons.inj same).1 (by decide)
  | case4 rest _ ih =>
      refine iff_of_false ?_ fun plain => (plain_cons.mp plain).1.2.1 rfl
      intro same
      exact absurd (List.cons.inj same).1 (by decide)
  | case5 rest replaced rest' found ih =>
      refine iff_of_false ?_ fun plain => ?_
      · intro same
        have length : (readText references rest').length ≤ rest'.length := readText_length rest'
        have shorter := references.shorter found
        have whole := congrArg List.length same
        rw [List.length_append, List.length_cons] at whole
        omega
      · rw [(plain_cons.mp plain).1.2.2 rfl] at found
        exact nomatch found
  | case6 rest missing ih =>
      rw [plain_cons, ← ih, List.cons_inj_right]
      exact (and_iff_right ⟨by decide, by decide, fun _ => missing⟩).symm
  | case7 letter rest nul _ carriage ampersand ih =>
      rw [plain_cons, ← ih, List.cons_inj_right]
      exact (and_iff_right ⟨nul, carriage, fun isReference => (ampersand isReference).elim⟩).symm

/-! The items of a list. -/

def Token.isItem (isEnd : Bool) : Token → Bool
  | .tag found => found.isEnd == isEnd && found.name == ['l', 'i']
  | .letter _ | .comment => false

/-- The texts of the list items. What is open is an item with what has been read of it,
and the letters since the last tag. -/
def readItems (references : References) :
    Option (List Char × List Char) → List Token → List (List Char)
  | none, [] => []
  | none, token :: tokens =>
      readItems references (if token.isItem false then some ([], []) else none) tokens
  | some (item, recent), [] => [item ++ readText references recent]
  | some (item, recent), .letter letter :: tokens =>
      readItems references (some (item, recent ++ [letter])) tokens
  | some (item, recent), token :: tokens =>
      let text := item ++ readText references recent
      if token.isItem true then text :: readItems references none tokens
      else if token.isItem false then text :: readItems references (some ([], [])) tokens
      else readItems references (some (text, [])) tokens

def itemTexts (references : References) (html : List Char) : List (List Char) :=
  readItems references none (tokens html)

theorem noItem_letters (isEnd : Bool) (text : List Char) :
    ∀ token ∈ letters text, token.isItem isEnd = false := by
  intro token member
  obtain ⟨letter, -, rfl⟩ := List.mem_map.mp member
  rfl

theorem readItems_outside {front : List Token} (noItem : ∀ token ∈ front, token.isItem false = false)
    (back : List Token) :
    readItems references none (front ++ back) = readItems references none back := by
  induction front with
  | nil => rfl
  | cons token front ih =>
      have first := noItem token List.mem_cons_self
      have rest := ih fun later member => noItem later (List.mem_cons_of_mem _ member)
      simp [readItems, first, rest]

theorem readItems_letters (item before text : List Char) (back : List Token) :
    readItems references (some (item, before)) (letters text ++ back) =
      readItems references (some (item, before ++ text)) back := by
  induction text generalizing before with
  | nil => rw [List.append_nil]; rfl
  | cons letter text ih =>
      have first : readItems references (some (item, before)) (letters (letter :: text) ++ back) =
          readItems references (some (item, before ++ [letter])) (letters text ++ back) := rfl
      rw [first, ih, List.append_assoc, List.singleton_append]

theorem readItems_joined {Item : Type*} {part : Item → List Piece} {separator : Piece}
    {text : Item → List Char} (between : ∀ token ∈ separator.tokens, token.isItem false = false)
    (each : ∀ item back, readItems references none (tokensOf (part item) ++ back) =
      text item :: readItems references none back) (items : List Item) :
    ∀ back, readItems references none
        (tokensOf ([separator].intercalate (items.map part)) ++ back) =
      items.map text ++ readItems references none back := by
  refine joined_rule (motive := fun items joined => ∀ back,
    readItems references none (tokensOf joined ++ back) =
      items.map text ++ readItems references none back) ?_ ?_ ?_ items
  · intro back
    rfl
  · intro item back
    exact each item back
  · intro item next items joined rest back
    rw [tokensOf_append, tokensOf_cons, List.append_assoc, each, List.append_assoc,
      readItems_outside between, rest]
    rfl

end Html
