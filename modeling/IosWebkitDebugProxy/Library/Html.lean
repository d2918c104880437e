import Mathlib.Data.List.Basic
import Mathlib.Data.List.Chain

/-! HTML read letter by letter into text, tags and comments, as the HTML standard does it,
and the text that is read as nothing but text. -/

namespace Html

/-- The attributes are kept by name, the last one first, each as often as it is written. -/
structure Tag where
  isEnd : Bool
  name : List Char
  attributes : List (List Char)
  deriving DecidableEq, Repr

def Tag.named (tag : Tag) (letter : Char) : Tag :=
  { tag with name := tag.name ++ [letter.toLower] }

def Tag.begin (tag : Tag) (letter : Char) : Tag :=
  { tag with attributes := [letter.toLower] :: tag.attributes }

def Tag.spelled (tag : Tag) (letter : Char) : Tag :=
  match tag.attributes with
  | [] => tag
  | last :: earlier => { tag with attributes := (last ++ [letter.toLower]) :: earlier }

inductive Token where
  | letter (letter : Char)
  | tag (tag : Tag)
  | comment
  deriving DecidableEq, Repr

def Token.isMarkup : Token → Bool
  | .letter _ => false
  | .tag _ | .comment => true

def letters (text : List Char) : List Token := text.map .letter

/-- After a value or a slash, a tag reads on as it does before an attribute. -/
inductive TagPlace where
  | name
  | beforeAttribute
  | attributeName
  | afterAttribute
  | beforeValue
  | quoted (quote : Char)
  | unquoted
  deriving DecidableEq, Repr

inductive CommentPlace where
  | declaration
  | declarationDash
  | bogus
  | start
  | startDash
  | text
  | dash
  | close
  | closeBang
  deriving DecidableEq, Repr

/-- Text in an element that holds no other carries the element's name. -/
inductive State where
  | text (element : Option (List Char))
  | less (element : Option (List Char))
  | lessSlash (element : Option (List Char))
  | closing (element read : List Char)
  | tag (tag : Tag) (place : TagPlace)
  | comment (place : CommentPlace)
  deriving DecidableEq, Repr

def isSpace (letter : Char) : Bool :=
  letter == ' ' || letter == '\n' || letter == '\t' || letter == '\r' || letter == '\x0c'

/-- The elements that end only at their own end tag. The escapes of a script are not
told apart. -/
def rawElements : List (List Char) :=
  ["title", "textarea", "style", "script", "xmp", "iframe", "noembed", "noframes"].map
    String.toList

def emitTag (tag : Tag) : State × List Token :=
  (.text (if !tag.isEnd && rawElements.contains tag.name then some tag.name else none),
    [.tag tag])

def emitComment : State × List Token := (.text none, [.comment])

def textStep (element : Option (List Char)) (letter : Char) : State × List Token :=
  if letter = '<' then (.less element, []) else (.text element, [.letter letter])

/-- What was held back turns out to be text, and the letter is read as text again. -/
def textAgain (held : List Char) (element : Option (List Char)) (letter : Char) :
    State × List Token :=
  ((textStep element letter).1, letters held ++ (textStep element letter).2)

def afterAttributeStep (tag : Tag) (letter : Char) : State × List Token :=
  if isSpace letter then (.tag tag .afterAttribute, [])
  else if letter = '/' then (.tag tag .beforeAttribute, [])
  else if letter = '=' then (.tag tag .beforeValue, [])
  else if letter = '>' then emitTag tag
  else (.tag (tag.begin letter) .attributeName, [])

def tagStep (tag : Tag) (place : TagPlace) (letter : Char) : State × List Token :=
  match place with
  | .name =>
      if isSpace letter || letter == '/' then (.tag tag .beforeAttribute, [])
      else if letter = '>' then emitTag tag
      else (.tag (tag.named letter) .name, [])
  | .beforeAttribute =>
      if isSpace letter || letter == '/' then (.tag tag .beforeAttribute, [])
      else if letter = '>' then emitTag tag
      else (.tag (tag.begin letter) .attributeName, [])
  | .attributeName =>
      if isSpace letter || letter == '/' || letter == '=' || letter == '>' then
        afterAttributeStep tag letter
      else (.tag (tag.spelled letter) .attributeName, [])
  | .afterAttribute => afterAttributeStep tag letter
  | .beforeValue =>
      if isSpace letter then (.tag tag .beforeValue, [])
      else if letter = '\x22' ∨ letter = '\x27' then (.tag tag (.quoted letter), [])
      else if letter = '>' then emitTag tag
      else (.tag tag .unquoted, [])
  | .quoted quote =>
      if letter = quote then (.tag tag .beforeAttribute, []) else (.tag tag (.quoted quote), [])
  | .unquoted =>
      if isSpace letter then (.tag tag .beforeAttribute, [])
      else if letter = '>' then emitTag tag
      else (.tag tag .unquoted, [])

/-- A doctype and what else is declared ends at the first `>`, as a bogus comment does. -/
def commentStep (place : CommentPlace) (letter : Char) : State × List Token :=
  match place with
  | .declaration =>
      if letter = '-' then (.comment .declarationDash, [])
      else if letter = '>' then emitComment
      else (.comment .bogus, [])
  | .declarationDash =>
      if letter = '-' then (.comment .start, [])
      else if letter = '>' then emitComment
      else (.comment .bogus, [])
  | .bogus => if letter = '>' then emitComment else (.comment .bogus, [])
  | .start =>
      if letter = '-' then (.comment .startDash, [])
      else if letter = '>' then emitComment
      else (.comment .text, [])
  | .startDash =>
      if letter = '-' then (.comment .close, [])
      else if letter = '>' then emitComment
      else (.comment .text, [])
  | .text => if letter = '-' then (.comment .dash, []) else (.comment .text, [])
  | .dash => if letter = '-' then (.comment .close, []) else (.comment .text, [])
  | .close =>
      if letter = '-' then (.comment .close, [])
      else if letter = '>' then emitComment
      else if letter = '!' then (.comment .closeBang, [])
      else (.comment .text, [])
  | .closeBang =>
      if letter = '-' then (.comment .dash, [])
      else if letter = '>' then emitComment
      else (.comment .text, [])

def step : State → Char → State × List Token
  | .text element, letter => textStep element letter
  | .less none, letter =>
      if letter = '/' then (.lessSlash none, [])
      else if letter.isAlpha then (.tag ⟨false, [letter.toLower], []⟩ .name, [])
      else if letter = '!' then (.comment .declaration, [])
      else if letter = '?' then (.comment .bogus, [])
      else textAgain ['<'] none letter
  | .less (some element), letter =>
      if letter = '/' then (.lessSlash (some element), [])
      else textAgain ['<'] (some element) letter
  | .lessSlash none, letter =>
      if letter.isAlpha then (.tag ⟨true, [letter.toLower], []⟩ .name, [])
      else if letter = '>' then (.text none, [])
      else (.comment .bogus, [])
  | .lessSlash (some element), letter =>
      if letter.isAlpha then (.closing element [letter], [])
      else textAgain ['<', '/'] (some element) letter
  | .closing element read, letter =>
      if (isSpace letter || letter == '/' || letter == '>') && read.map Char.toLower == element then
        tagStep ⟨true, element, []⟩ .name letter
      else if letter.isAlpha then (.closing element (read ++ [letter]), [])
      else textAgain ('<' :: '/' :: read) (some element) letter
  | .tag tag place, letter => tagStep tag place letter
  | .comment place, letter => commentStep place letter

def run : State → List Char → State × List Token
  | state, [] => (state, [])
  | state, letter :: text =>
      ((run (step state letter).1 text).1,
        (step state letter).2 ++ (run (step state letter).1 text).2)

/-- The letters that are held back, if what is being read can still be text. -/
def State.held : State → Option (List Char)
  | .text _ => some []
  | .less _ => some ['<']
  | .lessSlash _ => some ['<', '/']
  | .closing _ read => some ('<' :: '/' :: read)
  | .tag _ _ | .comment _ => none

/-- The tokens read from a state to the end of the text, which stands outside of every
tag and comment. -/
def Shows (state : State) (text : List Char) (tokens : List Token) : Prop :=
  ∃ held, (run state text).1.held = some held ∧ (run state text).2 ++ letters held = tokens

/-- At its end a text lets go of what was held back. A tag that is still open is lost, a
comment is closed. -/
def State.finish : State → List Token
  | .tag _ _ => []
  | .comment _ => [.comment]
  | state => letters (state.held.getD [])

def tokens (html : List Char) : List Token :=
  (run (.text none) html).2 ++ (run (.text none) html).1.finish

def markup (html : List Char) : List Token :=
  (tokens html).filter Token.isMarkup

theorem run_append (state : State) (front back : List Char) :
    run state (front ++ back) =
      ((run (run state front).1 back).1,
        (run state front).2 ++ (run (run state front).1 back).2) := by
  induction front generalizing state with
  | nil => rfl
  | cons letter front ih => simp only [List.cons_append, run, ih, List.append_assoc]

theorem tokens_of_shows {html : List Char} {shown : List Token}
    (shows' : Shows (.text none) html shown) : tokens html = shown := by
  obtain ⟨held, outside, same⟩ := shows'
  rw [← same, tokens]
  congr 1
  cases state : (run (.text none) html).1 <;> rw [state] at outside <;>
    first
      | exact congrArg letters (Option.some.inj outside)
      | exact nomatch outside

/-! Inside of a tag or a comment, nothing but a tag or a comment comes next. -/

inductive Inside (result : State × List Token) : Prop where
  | stays : result.1.held = none → result.2 = [] → Inside result
  | closes (token : Token) : token.isMarkup = true → result.1.held = some [] →
      result.2 = [token] → Inside result

theorem inside_emitTag (tag : Tag) : Inside (emitTag tag) :=
  .closes (.tag tag) rfl rfl rfl

theorem inside_afterAttributeStep (tag : Tag) (letter : Char) :
    Inside (afterAttributeStep tag letter) := by
  unfold afterAttributeStep
  repeat' split
  all_goals first | exact .stays rfl rfl | exact inside_emitTag tag

theorem inside_tagStep (tag : Tag) (place : TagPlace) (letter : Char) :
    Inside (tagStep tag place letter) := by
  cases place <;> simp only [tagStep] <;> repeat' split
  all_goals
    first
      | exact .stays rfl rfl
      | exact inside_emitTag tag
      | exact inside_afterAttributeStep tag letter

theorem inside_commentStep (place : CommentPlace) (letter : Char) :
    Inside (commentStep place letter) := by
  cases place <;> simp only [commentStep] <;> repeat' split
  all_goals first | exact .stays rfl rfl | exact .closes .comment rfl rfl rfl

theorem inside_step {state : State} (inside : state.held = none) (letter : Char) :
    Inside (step state letter) := by
  cases state with
  | tag tag place => exact inside_tagStep tag place letter
  | comment place => exact inside_commentStep place letter
  | text | less | lessSlash | closing => exact nomatch inside

theorem run_inside {state : State} {text held : List Char} (inside : state.held = none)
    (outside : (run state text).1.held = some held) :
    ∃ token more, token.isMarkup = true ∧ (run state text).2 = token :: more := by
  induction text generalizing state with
  | nil => rw [run, inside] at outside; exact nomatch outside
  | cons letter text ih =>
      rw [run] at outside ⊢
      cases inside_step inside letter with
      | stays still none =>
          obtain ⟨token, more, isMarkup, same⟩ := ih still outside
          exact ⟨token, more, isMarkup, by rw [none, same, List.nil_append]⟩
      | closes token isMarkup _ same => exact ⟨token, _, isMarkup, by rw [same]; rfl⟩

theorem letters_of_inside {state : State} {text held expected : List Char}
    (inside : state.held = none) (outside : (run state text).1.held = some held)
    (same : (run state text).2 ++ letters held = letters expected) : False := by
  obtain ⟨token, more, isMarkup, shape⟩ := run_inside inside outside
  rw [shape, List.cons_append] at same
  cases expected with
  | nil => exact nomatch same
  | cons letter expected => rw [(List.cons.inj same).1] at isMarkup; exact nomatch isMarkup

/-! A letter gives at most one token, besides those that were held back for it. -/

def State.weight (state : State) : Nat := (state.held.getD []).length

theorem weight_of_held {state : State} {held : List Char} (outside : state.held = some held) :
    state.weight = held.length := by
  rw [State.weight, outside, Option.getD_some]

theorem textAgain_weight (held : List Char) (element : Option (List Char)) (letter : Char) :
    (textAgain held element letter).2.length + (textAgain held element letter).1.weight =
      held.length + 1 := by
  unfold textAgain textStep
  split <;> simp [letters, State.weight, State.held]

theorem inside_weight {result : State × List Token} (inside : Inside result) :
    result.2.length + result.1.weight ≤ 1 := by
  cases inside with
  | stays still none => simp [State.weight, still, none]
  | closes token _ outside same => simp [State.weight, outside, same]

theorem step_weight (state : State) (letter : Char) :
    (step state letter).2.length + (step state letter).1.weight ≤ state.weight + 1 := by
  cases state with
  | text element => exact (textAgain_weight [] element letter).le
  | less element =>
      have again := (textAgain_weight ['<'] element letter).le
      cases element <;> simp only [step] <;> repeat' split
      all_goals first | exact again | simp [State.weight, State.held]
  | lessSlash element =>
      have again := (textAgain_weight ['<', '/'] element letter).le
      cases element <;> simp only [step] <;> repeat' split
      all_goals first | exact again | simp [State.weight, State.held]
  | closing element read =>
      have again := (textAgain_weight ('<' :: '/' :: read) (some element) letter).le
      simp only [step]
      repeat' split
      · exact (inside_weight (inside_tagStep _ _ letter)).trans (Nat.le_add_left 1 _)
      · simp [State.weight, State.held]
      · exact again
  | tag tag place =>
      exact (inside_weight (inside_tagStep tag place letter)).trans (Nat.le_add_left 1 _)
  | comment place =>
      exact (inside_weight (inside_commentStep place letter)).trans (Nat.le_add_left 1 _)

theorem run_weight (state : State) (text : List Char) :
    (run state text).2.length + (run state text).1.weight ≤ state.weight + text.length := by
  induction text generalizing state with
  | nil => simp [run]
  | cons letter text ih =>
      have first := step_weight state letter
      have rest := ih (step state letter).1
      simp only [run, List.length_append, List.length_cons]
      omega

/-! Text in which no `<` has a letter after it that makes it the beginning of markup. -/

def isOpening (letter : Char) : Bool :=
  letter.isAlpha || letter == '/' || letter == '!' || letter == '?'

def Quiet (text : List Char) : Prop :=
  text.IsChain fun letter next => letter = '<' → isOpening next = false

instance (text : List Char) : Decidable (Quiet text) :=
  inferInstanceAs (Decidable (List.IsChain _ text))

theorem quiet_cons {letter : Char} {text : List Char} (differs : letter ≠ '<') :
    Quiet (letter :: text) ↔ Quiet text := by
  cases text with
  | nil => simp [Quiet]
  | cons next text => simp [Quiet, differs]

theorem quiet_less {next : Char} {text : List Char} :
    Quiet ('<' :: next :: text) ↔ isOpening next = false ∧ Quiet (next :: text) := by
  simp [Quiet]

theorem step_less {letter : Char} (closed : isOpening letter = false)
    (element : Option (List Char)) : step (.less element) letter = textAgain ['<'] element letter := by
  simp only [isOpening, Bool.or_eq_false_iff, beq_eq_false_iff_ne] at closed
  obtain ⟨⟨⟨notAlpha, slash⟩, bang⟩, question⟩ := closed
  cases element <;> simp [step, notAlpha, slash, bang, question]

theorem run_less {letter : Char} (closed : isOpening letter = false)
    (element : Option (List Char)) (text : List Char) :
    run (.less element) (letter :: text) =
      ((run (.text element) (letter :: text)).1,
        .letter '<' :: (run (.text element) (letter :: text)).2) := by
  simp only [run, step_less closed]
  rfl

/-- The states in which a text that opens nothing leaves the reader. -/
inductive AtText (element : Option (List Char)) : State → List Char → Prop where
  | text : AtText element (.text element) []
  | less : AtText element (.less element) ['<']

theorem AtText.held {element : Option (List Char)} {state : State} {held : List Char}
    (here : AtText element state held) : state.held = some held := by
  cases here <;> rfl

theorem run_quiet {text : List Char} (quiet : Quiet text) (element : Option (List Char)) :
    ∃ state held, AtText element state held ∧
      (run (.text element) text).1 = state ∧
      (run (.text element) text).2 ++ letters held = letters text := by
  induction text with
  | nil => exact ⟨_, _, .text, rfl, rfl⟩
  | cons letter text ih =>
      by_cases less : letter = '<'
      · subst less
        cases text with
        | nil => exact ⟨_, _, .less, rfl, rfl⟩
        | cons next text =>
            obtain ⟨closed, quiet⟩ := quiet_less.mp quiet
            obtain ⟨state, held, here, last, same⟩ := ih quiet
            have first : run (.text element) ('<' :: next :: text) =
                run (.less element) (next :: text) := rfl
            rw [first, run_less closed]
            exact ⟨state, held, here, last, congrArg (Token.letter '<' :: ·) same⟩
      · obtain ⟨state, held, here, last, same⟩ := ih ((quiet_cons less).mp quiet)
        have first : step (.text element) letter = (.text element, [.letter letter]) :=
          if_neg less
        rw [run, first]
        exact ⟨state, held, here, last, congrArg (Token.letter letter :: ·) same⟩

/-- What comes after `</` is lost to the text. A `>` takes the two letters along with it. -/
theorem lost_after_slash {next : Char} {text held expected : List Char}
    (outside : (run (.lessSlash none) (next :: text)).1.held = some held)
    (same : (run (.lessSlash none) (next :: text)).2 ++ letters held = letters expected)
    (length : text.length < expected.length) : False := by
  by_cases alpha : next.isAlpha
  · have first : step (.lessSlash none) next = (.tag ⟨true, [next.toLower], []⟩ .name, []) :=
      if_pos alpha
    rw [run, first] at outside same
    exact letters_of_inside rfl outside same
  by_cases close : next = '>'
  · subst close
    have first : step (.lessSlash none) '>' = (.text none, []) := rfl
    have start : (State.text none).weight = 0 := rfl
    rw [run, first] at outside same
    have weight := run_weight (.text none) text
    rw [weight_of_held outside, start] at weight
    have whole := congrArg List.length same
    simp only [letters, List.nil_append, List.length_append, List.length_map] at whole
    omega
  · have first : step (.lessSlash none) next = (.comment .bogus, []) := by
      simp [step, alpha, close]
    rw [run, first] at outside same
    exact letters_of_inside rfl outside same

/-- The letters that make a `<` the beginning of markup are lost to the text. -/
theorem lost_of_opening {letter : Char} {text held expected : List Char}
    (opening : isOpening letter = true)
    (outside : (run (.less none) (letter :: text)).1.held = some held)
    (apart : (run (.less none) (letter :: text)).1 ≠ .lessSlash none)
    (same : (run (.less none) (letter :: text)).2 ++ letters held = letters expected)
    (length : expected.length = text.length + 2) : False := by
  by_cases slash : letter = '/'
  · subst slash
    have first : run (.less none) ('/' :: text) = run (.lessSlash none) text := rfl
    rw [first] at outside apart same
    cases text with
    | nil => exact apart rfl
    | cons next text =>
        refine lost_after_slash outside same ?_
        rw [List.length_cons] at length
        omega
  · have first : (step (.less none) letter).1.held = none ∧ (step (.less none) letter).2 = [] := by
      simp only [isOpening, Bool.or_eq_true, beq_iff_eq, slash, or_false] at opening
      by_cases alpha : letter.isAlpha
      · simp [step, slash, alpha, State.held]
      · obtain bang | question := opening
        · simp [step, bang.resolve_left alpha, State.held]
        · simp [step, question, State.held]
    rw [run, first.2] at same
    exact letters_of_inside first.1 outside same

theorem quiet_of_run {text held : List Char}
    (outside : (run (.text none) text).1.held = some held)
    (apart : (run (.text none) text).1 ≠ .lessSlash none)
    (same : (run (.text none) text).2 ++ letters held = letters text) : Quiet text := by
  induction text with
  | nil => exact .nil
  | cons letter text ih =>
      by_cases less : letter = '<'
      · subst less
        cases text with
        | nil => exact .singleton _
        | cons next text =>
            have first : run (.text none) ('<' :: next :: text) =
                run (.less none) (next :: text) := rfl
            rw [first] at outside apart same
            cases opening : isOpening next with
            | true => exact (lost_of_opening opening outside apart same rfl).elim
            | false =>
                rw [run_less opening] at outside apart same
                exact quiet_less.mpr ⟨opening, ih outside apart (List.cons.inj same).2⟩
      · have first : step (.text none) letter = (.text none, [.letter letter]) := if_neg less
        rw [run, first] at outside apart same
        exact (quiet_cons less).mpr (ih outside apart (List.cons.inj same).2)

example : Quiet "1 < 2 << 3".toList ∧ ¬Quiet "a<b".toList := by decide

/-! Text in an element that holds no other element. -/

inductive InRaw (element : List Char) : State → Prop where
  | text : InRaw element (.text (some element))
  | less : InRaw element (.less (some element))
  | lessSlash : InRaw element (.lessSlash (some element))
  | closing (read : List Char) : InRaw element (.closing element read)

theorem inRaw_textStep (element : List Char) (letter : Char) :
    InRaw element (textStep (some element) letter).1 := by
  unfold textStep
  split
  · exact .less
  · exact .text

theorem inRaw_step {element : List Char} {state : State} (raw : InRaw element state)
    (letter : Char) :
    InRaw element (step state letter).1 ∨ Inside (step state letter) := by
  cases raw with
  | text => exact .inl (inRaw_textStep element letter)
  | less =>
      left
      simp only [step]
      split
      · exact .lessSlash
      · exact inRaw_textStep element letter
  | lessSlash =>
      left
      simp only [step]
      split
      · exact .closing _
      · exact inRaw_textStep element letter
  | closing read =>
      simp only [step]
      repeat' split
      · exact .inr (inside_tagStep _ _ letter)
      · exact .inl (.closing _)
      · exact .inl (inRaw_textStep element letter)

theorem inRaw_run {element : List Char} {state : State} {text held : List Char}
    (raw : InRaw element state) (outside : (run state text).1.held = some held)
    (unmarked : ∀ token ∈ (run state text).2, token.isMarkup = false) :
    InRaw element (run state text).1 := by
  induction text generalizing state with
  | nil => exact raw
  | cons letter text ih =>
      rw [run] at outside unmarked ⊢
      obtain raw | inside := inRaw_step raw letter
      · exact ih raw outside fun token member => unmarked token (List.mem_append_right _ member)
      · cases inside with
        | stays still _ =>
            obtain ⟨token, more, isMarkup, same⟩ := run_inside still outside
            have clean := unmarked token (List.mem_append_right _ (by rw [same]; simp))
            rw [isMarkup] at clean
            exact nomatch clean
        | closes token isMarkup _ same =>
            have clean := unmarked token (List.mem_append_left _ (by rw [same]; simp))
            rw [isMarkup] at clean
            exact nomatch clean

theorem run_raw_less {element : List Char} {state : State} (raw : InRaw element state)
    (text : List Char) :
    ∃ held, state.held = some held ∧
      run state ('<' :: text) =
        ((run (.less (some element)) text).1,
          letters held ++ (run (.less (some element)) text).2) := by
  cases raw with
  | text => exact ⟨_, rfl, rfl⟩
  | less => exact ⟨_, rfl, rfl⟩
  | lessSlash => exact ⟨_, rfl, rfl⟩
  | closing read =>
      refine ⟨_, rfl, ?_⟩
      have first : step (.closing element read) '<' =
          (.less (some element), letters ('<' :: '/' :: read)) := by
        simp [step, isSpace, textAgain, textStep]
      rw [run, first]

/-! The value of an attribute in quotes. -/

theorem run_quoted (tag : Tag) {quote : Char} {text : List Char} (apart : quote ∉ text) :
    run (.tag tag (.quoted quote)) text = (.tag tag (.quoted quote), []) := by
  induction text with
  | nil => rfl
  | cons letter text ih =>
      simp only [List.mem_cons, not_or] at apart
      have first : step (.tag tag (.quoted quote)) letter = (.tag tag (.quoted quote), []) :=
        if_neg (Ne.symm apart.1)
      rw [run, first, ih apart.2, List.nil_append]

inductive Widens (count : Nat) (result : State × List Token) : Prop where
  | stays (tag : Tag) (place : TagPlace) : count < tag.attributes.length →
      result = (.tag tag place, []) → Widens count result
  | closes (tag : Tag) : count < tag.attributes.length → result = emitTag tag →
      Widens count result

theorem spelled_length (tag : Tag) (letter : Char) :
    (tag.spelled letter).attributes.length = tag.attributes.length := by
  unfold Tag.spelled
  split
  · rfl
  · rename_i same
    rw [same, List.length_cons, List.length_cons]

theorem widens_afterAttribute {count : Nat} {tag : Tag} (more : count < tag.attributes.length)
    (letter : Char) : Widens count (afterAttributeStep tag letter) := by
  unfold afterAttributeStep
  repeat' split
  all_goals
    first
      | exact .stays tag _ more rfl
      | exact .closes tag more rfl
      | exact .stays (tag.begin letter) _ (Nat.lt_succ_of_lt more) rfl

theorem widens_tagStep {count : Nat} {tag : Tag} (more : count < tag.attributes.length)
    (place : TagPlace) (letter : Char) : Widens count (tagStep tag place letter) := by
  cases place <;> simp only [tagStep] <;> repeat' split
  all_goals
    first
      | exact .stays tag _ more rfl
      | exact .closes tag more rfl
      | exact .stays (tag.named letter) _ more rfl
      | exact .stays (tag.begin letter) _ (Nat.lt_succ_of_lt more) rfl
      | exact .stays (tag.spelled letter) _ ((spelled_length tag letter).symm ▸ more) rfl
      | exact widens_afterAttribute more letter

theorem run_widened {count : Nat} {tag : Tag} (more : count < tag.attributes.length)
    (place : TagPlace) {text held : List Char}
    (outside : (run (.tag tag place) text).1.held = some held) :
    ∃ (closed : Tag) (after : List Token), count < closed.attributes.length ∧
      (run (.tag tag place) text).2 = .tag closed :: after := by
  induction text generalizing tag place with
  | nil => exact nomatch outside
  | cons letter text ih =>
      rw [run] at outside ⊢
      have first : step (.tag tag place) letter = tagStep tag place letter := rfl
      rw [first] at outside ⊢
      cases widens_tagStep more place letter with
      | stays next place more same =>
          rw [same] at outside ⊢
          exact ih more place outside
      | closes closed more same => exact ⟨closed, _, more, by rw [same]; rfl⟩

theorem step_quote (state : State) : (step state '\x22').1 ≠ .lessSlash none := by
  intro same
  cases held : state.held with
  | none =>
      cases inside_step held '\x22' with
      | stays still _ => rw [same] at still; exact nomatch still
      | closes _ _ outside _ => rw [same] at outside; exact nomatch outside
  | some held =>
      cases state with
      | text element => exact nomatch same
      | less element => cases element <;> exact nomatch same
      | lessSlash element => cases element <;> exact nomatch same
      | closing element read => exact nomatch same
      | tag | comment => exact nomatch held

theorem step_close {state : State} (apart : state ≠ .lessSlash none)
    (outside : (step state '>').1.held = some []) : (step state '>').2 ≠ [] := by
  intro empty
  cases held : state.held with
  | none =>
      cases inside_step held '>' with
      | stays still _ => rw [outside] at still; exact nomatch still
      | closes _ _ _ same => rw [same] at empty; exact nomatch empty
  | some held =>
      cases state with
      | text element => exact nomatch empty
      | less element => cases element <;> exact nomatch empty
      | lessSlash element =>
          cases element with
          | none => exact apart rfl
          | some element => exact nomatch empty
      | closing element read =>
          rw [step] at empty
          split at empty <;> exact nomatch empty
      | tag | comment => exact nomatch held

/-- A quote and a `>` are never read without a trace. -/
theorem run_quote_close {state : State} {text held : List Char}
    (outside : (run state (text ++ ['\x22', '>'])).1.held = some held)
    (empty : (run state (text ++ ['\x22', '>'])).2 ++ letters held = []) : False := by
  obtain ⟨none, noHeld⟩ := List.append_eq_nil_iff.mp empty
  have noHeld : held = [] := List.map_eq_nil_iff.mp noHeld
  subst noHeld
  rw [run_append] at outside none
  have last := (List.append_eq_nil_iff.mp (List.append_eq_nil_iff.mp none).2).2
  exact step_close (step_quote _) outside (List.append_eq_nil_iff.mp last).1

theorem not_widened {tag : Tag} {letter : Char} {place : TagPlace} {text held : List Char}
    (outside : (run (.tag (tag.begin letter) place) text).1.held = some held)
    (same : (run (.tag (tag.begin letter) place) text).2 ++ letters held = [.tag tag]) :
    False := by
  obtain ⟨closed, after, more, shape⟩ := run_widened (Nat.lt_succ_self _) place outside
  rw [shape, List.cons_append] at same
  rw [Token.tag.inj (List.cons.inj same).1] at more
  exact absurd more (Nat.lt_irrefl _)

theorem quoted_overrun {tag : Tag} {text held : List Char}
    (outside : (run (.tag tag .beforeAttribute) (text ++ ['\x22', '>'])).1.held = some held)
    (same : (run (.tag tag .beforeAttribute) (text ++ ['\x22', '>'])).2 ++ letters held =
      [.tag tag]) : False := by
  induction text with
  | nil => exact @not_widened tag '\x22' .attributeName ['>'] held outside same
  | cons letter text ih =>
      rw [List.cons_append, run] at outside same
      by_cases skipped : (isSpace letter || letter == '/') = true
      · have first : step (.tag tag .beforeAttribute) letter = (.tag tag .beforeAttribute, []) :=
          if_pos skipped
        rw [first] at outside same
        exact ih outside same
      by_cases close : letter = '>'
      · subst close
        rw [show step (.tag tag .beforeAttribute) '>' = emitTag tag from rfl] at outside same
        exact run_quote_close outside (List.cons.inj same).2
      · have first : step (.tag tag .beforeAttribute) letter =
            (.tag (tag.begin letter) .attributeName, []) := by
          simp only [step, tagStep, if_neg skipped, if_neg close]
        rw [first] at outside same
        exact not_widened outside same

/-- A tag whose last value is in quotes is read as it was written just when the value has
no quote of its own. -/
theorem quoted_iff {tag : Tag} {text : List Char} :
    (∃ held, (run (.tag tag (.quoted '\x22')) (text ++ ['\x22', '>'])).1.held = some held ∧
      (run (.tag tag (.quoted '\x22')) (text ++ ['\x22', '>'])).2 ++ letters held =
        [.tag tag]) ↔ '\x22' ∉ text := by
  constructor
  · rintro ⟨held, outside, same⟩ member
    obtain ⟨front, back, rfl, apart⟩ := List.eq_append_cons_of_mem member
    have first : run (.tag tag (.quoted '\x22')) (front ++ '\x22' :: back ++ ['\x22', '>']) =
        run (.tag tag .beforeAttribute) (back ++ ['\x22', '>']) := by
      rw [List.append_assoc, run_append, run_quoted tag apart]
      rfl
    rw [first] at outside same
    exact quoted_overrun outside same
  · intro apart
    rw [run_append, run_quoted tag apart]
    exact ⟨[], rfl, rfl⟩

end Html
