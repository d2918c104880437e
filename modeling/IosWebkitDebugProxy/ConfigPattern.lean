import Mathlib.Data.List.DropRight
import Mathlib.Data.List.TakeWhile
import IosWebkitDebugProxy.ConfigCore

/-! What the pattern of the port configuration takes from a rule, computed without
the pattern. Taking as much as there is never spoils what follows, so a rule is read from
left to right without going back. -/

namespace IosWebkitDebugProxy

/-- The end of the ports: perhaps a last port, and nothing after it. -/
def readLast (text : List Char) : Option (Option (List Char)) :=
  match text.dropWhile isBlank with
  | [] => some none
  | letter :: later =>
      let digits := (later.dropWhile isBlank).takeWhile Char.isDigit
      if letter = '-' ∧ digits ≠ [] ∧
          ((later.dropWhile isBlank).dropWhile Char.isDigit).all isBlank then
        some (some digits)
      else none

def signOf (text : List Char) : List Char := if text.head? = some '-' then ['-'] else []

def numberOf (text : List Char) : List Char :=
  (text.drop (signOf text).length).takeWhile Char.isDigit

/-- The ports of a rule. A number after a sign is the first port, not the last. -/
def readPorts (text : List Char) : Option (Option (List Char) × Option (List Char)) :=
  if numberOf text = [] then (readLast text).map fun last => (none, last)
  else (readLast ((text.drop (signOf text).length).dropWhile Char.isDigit)).map fun last =>
    (some (signOf text ++ numberOf text), last)

def readGap (text : List Char) : List Char :=
  match text.dropWhile isBlank with
  | [] => []
  | letter :: later => (if letter = ':' then later else letter :: later).dropWhile isBlank

/-- The device of a rule, with as many letters as it can have. -/
def readDevice (text : List Char) : Option (List Char × List Char) :=
  if 25 ≤ (text.takeWhile isUdidLetter).length then
    some (text.takeWhile isUdidLetter, text.dropWhile isUdidLetter)
  else if text.head? = some '*' then some (['*'], text.drop 1)
  else if (text.take 4).map Char.toLower = ['n', 'u', 'l', 'l'] then some (text.take 4, text.drop 4)
  else none

abbrev RuleParts := Option (List Char) × Option (List Char) × Option (List Char)

def readRule (text : List Char) : Option RuleParts :=
  match readDevice (text.dropWhile isBlank) with
  | some (device, rest) => (readPorts (readGap rest)).map fun ports => (some device, ports)
  | none =>
      if (text.dropWhile isBlank).head? = some ':' then
        (readPorts (((text.dropWhile isBlank).drop 1).dropWhile isBlank)).map fun ports =>
          (none, ports)
      else none

theorem all_isBlank_iff {text : List Char} :
    text.all isBlank = true ↔ text.dropWhile isBlank = [] := by
  rw [List.all_eq_true, List.dropWhile_eq_nil_iff]

theorem isDigit_apart {letter : Char} (digit : letter.isDigit = true) :
    isBlank letter = false ∧ letter ≠ '-' ∧ letter ≠ ':' := by
  have low : '0' ≤ letter := by
    simp only [Char.isDigit, Bool.and_eq_true, decide_eq_true_eq] at digit
    exact digit.1
  refine ⟨?_, ?_, ?_⟩
  · unfold isBlank
    rw [Bool.or_eq_false_iff, beq_eq_false_iff_ne, beq_eq_false_iff_ne]
    constructor <;> rintro rfl <;> exact absurd low (by decide)
  · rintro rfl
    exact absurd low (by decide)
  · rintro rfl
    exact absurd digit (by decide)

theorem isBlank_cases {letter : Char} (blank : isBlank letter = true) :
    letter = ' ' ∨ letter = '\t' := by
  simpa [isBlank] using blank

theorem isBlank_apart {letter : Char} (blank : isBlank letter = true) :
    letter.isDigit = false ∧ letter ≠ '-' ∧ letter ≠ ':' ∧ isUdidLetter letter = false := by
  rcases isBlank_cases blank with rfl | rfl <;> decide

namespace PortConfig

open Regex

/-- The groups that the rules are made from. -/
def looks (index : Nat) : Bool := index == 2 || index == 3 || index == 5

def lastGroups : Option (List Char) → List (Nat × List Char)
  | none => []
  | some digits => [(5, digits)]

def portGroups (ports : Option (List Char) × Option (List Char)) : List (Nat × List Char) :=
  lastGroups ports.2 ++ match ports.1 with
    | none => []
    | some number => [(3, number)]

def ending : Regex := seq (many isBlank 0) (seq stop empty)

def lastPort : Regex :=
  group 4 (all [many isBlank 0, char (· == '-'), many isBlank 0, group 5 (many Char.isDigit 1)])

def firstPort : Regex := group 3 (all [optional (char (· == '-')), many Char.isDigit 1])

def device : Regex :=
  group 2 (either (many isUdidLetter 25) (either (char (· == '*'))
    (literal (fun wanted letter => letter.toLower == wanted) "null")))

theorem ending_yields :
    Yields looks (ending.follow some) fun text => if text.all isBlank then some [] else none := by
  rw [ending, follow_seq, follow_seq, follow_empty]
  refine (Yields.found.stop.many_strict 0 fun letter text _ => if_neg (by simp)).congr ?_
  intro text
  simp only [Nat.zero_le, if_true, all_isBlank_iff]

theorem lastNumber_yields {next : Cursor → Option Cursor}
    (yields : Yields looks next fun text => if text.all isBlank then some [] else none) :
    Yields looks ((group 5 (many Char.isDigit 1)).follow next) fun text =>
      if text.takeWhile Char.isDigit ≠ [] ∧ (text.dropWhile Char.isDigit).all isBlank then
        some [(5, text.takeWhile Char.isDigit)]
      else none := by
  refine (Yields.group (fun whole text =>
    if text.takeWhile Char.isDigit ≠ [] ∧ (text.dropWhile Char.isDigit).all isBlank then
      some [(5, taken whole (text.dropWhile Char.isDigit))]
    else none) fun before => ?_).congr fun text => by rw [taken_dropWhile]
  refine ((yields.capture 5 rfl before).many_strict 1 ?_).congr ?_
  · intro letter text digit
    simp [(isDigit_apart digit).1]
  · intro text
    by_cases number : text.takeWhile Char.isDigit = []
    · simp [number]
    · have count : 1 ≤ (text.takeWhile Char.isDigit).length := List.length_pos_iff.mpr number
      rw [if_pos count]
      by_cases blank : (text.dropWhile Char.isDigit).all isBlank
      · simp only [number, blank, ne_eq, not_false_eq_true, and_self, if_true, Option.map_some,
          List.nil_append]
      · simp only [blank, Bool.false_eq_true, and_false, if_false, Option.map_none]

theorem dash_yields {next : Cursor → Option Cursor}
    (yields : Yields looks next fun text => if text.all isBlank then some [] else none) :
    Yields looks ((many isBlank 0).follow ((char (· == '-')).follow ((many isBlank 0).follow
        ((group 5 (many Char.isDigit 1)).follow next)))) fun text =>
      ((readLast text).bind id).map fun digits => [(5, digits)] := by
  refine ((((lastNumber_yields yields).many_strict 0 ?_).char _).many_strict 0 ?_).congr ?_
  · intro letter text blank
    simp [(isBlank_apart blank).1]
  · intro letter text blank
    simp [(isBlank_apart blank).2.1]
  · intro text
    simp only [Nat.zero_le, if_true, readLast]
    cases text.dropWhile isBlank with
    | nil => rfl
    | cons letter later =>
        by_cases dash : letter = '-'
        · simp only [dash, List.head?_cons, Option.any_some, beq_self_eq_true, if_true,
            List.drop_succ_cons, List.drop_zero, true_and]
          split <;> rfl
        · simp [dash]

theorem afterFirst_yields :
    Yields looks ((optional lastPort).follow (ending.follow some)) fun text =>
      (readLast text).map lastGroups := by
  refine (ending_yields.optional (Yields.group (fun _ text =>
    ((readLast text).bind id).map fun digits => [(5, digits)]) fun before => ?_)).congr ?_
  · simp only [all, List.foldr, follow_seq, follow_empty]
    exact dash_yields (ending_yields.capture_unseen 4 rfl before)
  · intro text
    simp only [readLast]
    cases blank : text.dropWhile isBlank with
    | nil =>
        rw [all_isBlank_iff.mpr blank]
        rfl
    | cons letter later =>
        have filled : text.all isBlank = false := by
          rw [← Bool.not_eq_true, all_isBlank_iff, blank]
          simp
        simp only [filled, Bool.false_eq_true, if_false, Option.or_none]
        split <;> simp [lastGroups]

theorem readLast_digit {letter : Char} (digit : letter.isDigit = true) (text : List Char) :
    readLast (letter :: text) = none := by
  obtain ⟨solid, dash, _⟩ := isDigit_apart digit
  simp [readLast, solid, dash]

theorem signOf_cons (letter : Char) (text : List Char) :
    signOf (letter :: text) = if letter = '-' then ['-'] else [] := by
  simp [signOf]

/-- Where a number is not followed by the end of a rule, the number with its sign
does not end the rule either. -/
theorem readLast_isSome_of_number {text : List Char} (number : numberOf text ≠ [])
    (ends : (readLast text).isSome) :
    (readLast ((text.drop (signOf text).length).dropWhile Char.isDigit)).isSome := by
  cases text with
  | nil => simp [numberOf] at number
  | cons letter text =>
      by_cases dash : letter = '-'
      · subst dash
        have solid : isBlank '-' = false := rfl
        simp only [numberOf, signOf_cons, if_true, List.length_singleton, List.drop_succ_cons,
          List.drop_zero] at number ⊢
        have front : text.dropWhile isBlank = text := by
          cases text with
          | nil => rfl
          | cons digit text =>
              have first : digit.isDigit = true := by
                by_contra other
                simp [other] at number
              simp [(isDigit_apart first).1]
        simp only [readLast, List.dropWhile_cons, solid, Bool.false_eq_true, if_false, front] at ends
        split at ends
        · rename_i found
          rw [readLast, all_isBlank_iff.mp found.2.2]
          rfl
        · cases ends
      · simp only [numberOf, signOf_cons, dash, if_false, List.length_nil, List.drop_zero] at number
        have digit : letter.isDigit = true := by
          by_contra other
          simp [other] at number
        rw [readLast_digit digit] at ends
        cases ends

theorem firstNumber_yields {next : Cursor → Option Cursor} (whole : List Char)
    (yields : Yields looks next fun text =>
      ((readLast text).map lastGroups).map (· ++ [(3, taken whole text)])) :
    Yields looks ((many Char.isDigit 1).follow next) fun text =>
      if text.takeWhile Char.isDigit ≠ [] then
        (readLast (text.dropWhile Char.isDigit)).map fun last =>
          lastGroups last ++ [(3, taken whole (text.dropWhile Char.isDigit))]
      else none := by
  refine (yields.many_strict 1 ?_).congr ?_
  · intro letter text digit
    rw [readLast_digit digit]
    rfl
  · intro text
    by_cases number : text.takeWhile Char.isDigit = []
    · simp [number]
    · have count : 1 ≤ (text.takeWhile Char.isDigit).length := List.length_pos_iff.mpr number
      rw [if_pos count, if_pos number, Option.map_map]
      rfl

theorem firstPort_yields :
    Yields looks (firstPort.follow ((optional lastPort).follow (ending.follow some))) fun text =>
      if numberOf text = [] then none
      else (readLast ((text.drop (signOf text).length).dropWhile Char.isDigit)).map fun last =>
        lastGroups last ++ [(3, signOf text ++ numberOf text)] := by
  refine (Yields.group (fun whole text =>
    (if text.head?.any (· == '-') then
      if (text.drop 1).takeWhile Char.isDigit ≠ [] then
        (readLast ((text.drop 1).dropWhile Char.isDigit)).map fun last =>
          lastGroups last ++ [(3, taken whole ((text.drop 1).dropWhile Char.isDigit))]
      else none
    else none).or
      (if text.takeWhile Char.isDigit ≠ [] then
        (readLast (text.dropWhile Char.isDigit)).map fun last =>
          lastGroups last ++ [(3, taken whole (text.dropWhile Char.isDigit))]
      else none)) fun before => ?_).congr ?_
  · simp only [all, List.foldr, follow_seq, follow_empty]
    have number := firstNumber_yields before.rest (afterFirst_yields.capture 3 rfl before)
    exact number.optional (number.char _)
  · intro text
    cases text with
    | nil => simp [numberOf]
    | cons letter text =>
        by_cases dash : letter = '-'
        · subst dash
          have shape := taken_append ('-' :: text.takeWhile Char.isDigit)
            (text.dropWhile Char.isDigit)
          rw [List.cons_append, List.takeWhile_append_dropWhile] at shape
          have none : ('-' :: text).takeWhile Char.isDigit = [] := rfl
          simp only [numberOf, signOf_cons, if_true, List.length_singleton, List.drop_succ_cons,
            List.drop_zero, List.head?_cons, Option.any_some, beq_self_eq_true, shape, none,
            ne_eq, not_true_eq_false, if_false, Option.or_none, List.singleton_append, ite_not]
        · have other : (letter == '-') = false := beq_eq_false_iff_ne.mpr dash
          simp only [numberOf, signOf_cons, dash, if_false, List.length_nil, List.drop_zero,
            List.head?_cons, Option.any_some, other, Bool.false_eq_true, Option.none_or,
            taken_dropWhile, List.nil_append, ne_eq, ite_not]

theorem ports_yields :
    Yields looks ((optional firstPort).follow ((optional lastPort).follow (ending.follow some)))
      fun text => (readPorts text).map portGroups := by
  refine (afterFirst_yields.optional firstPort_yields).congr ?_
  intro text
  unfold readPorts
  by_cases number : numberOf text = []
  · simp only [number, if_true, Option.none_or, Option.map_map]
    congr 1
    funext last
    simp [portGroups]
  · simp only [number, if_false, Option.map_map]
    cases after : readLast ((text.drop (signOf text).length).dropWhile Char.isDigit) with
    | some last => rfl
    | none =>
        have ends : readLast text = none := by
          rw [← Option.not_isSome_iff_eq_none]
          intro ends
          have goes := readLast_isSome_of_number number ends
          rw [after] at goes
          cases goes
        simp [ends]

theorem readPorts_isSome_of_readLast {text : List Char} (ends : (readLast text).isSome) :
    (readPorts text).isSome := by
  unfold readPorts
  split
  · rwa [Option.isSome_map]
  · rename_i number
    rw [Option.isSome_map]
    exact readLast_isSome_of_number number ends

theorem dropWhile_blanks {letters : List Char}
    (blanks : ∀ letter ∈ letters, isBlank letter = true) (rest : List Char) :
    (letters ++ rest).dropWhile isBlank = rest.dropWhile isBlank :=
  List.dropWhile_append_of_pos blanks

theorem readPorts_blanks {letters rest : List Char} (more : letters ≠ [])
    (blanks : ∀ letter ∈ letters, isBlank letter = true)
    (reads : (readPorts (letters ++ rest)).isSome) : (readPorts rest).isSome := by
  obtain ⟨letter, later, rfl⟩ := List.exists_cons_of_ne_nil more
  obtain ⟨digit, dash, _⟩ := isBlank_apart (blanks letter List.mem_cons_self)
  have number : numberOf (letter :: later ++ rest) = [] := by
    simp [numberOf, signOf_cons, dash, digit]
  have last : readLast (letter :: later ++ rest) = readLast rest := by
    rw [readLast, dropWhile_blanks blanks, readLast]
  rw [readPorts, if_pos number, Option.isSome_map, last] at reads
  exact readPorts_isSome_of_readLast reads

theorem gap_yields :
    Yields looks ((many isBlank 0).follow
        ((optional firstPort).follow ((optional lastPort).follow (ending.follow some))))
      fun text => (readPorts (text.dropWhile isBlank)).map portGroups := by
  refine (ports_yields.many 0 ?_).congr fun text => by rw [if_pos (Nat.zero_le _)]
  intro letters rest more blanks _ reads
  rw [Option.isSome_map] at reads ⊢
  exact readPorts_blanks more blanks reads

theorem readPorts_colon (text : List Char) : readPorts (':' :: text) = none := by
  have number : numberOf (':' :: text) = [] := rfl
  have solid : isBlank ':' = false := rfl
  simp [readPorts, number, readLast, solid]

theorem readGap_blanks {letters : List Char}
    (blanks : ∀ letter ∈ letters, isBlank letter = true) (rest : List Char) :
    readGap (letters ++ rest) = readGap rest := by
  rw [readGap, dropWhile_blanks blanks, readGap]

theorem readGap_cons {letter : Char} (solid : isBlank letter = false) (other : letter ≠ ':')
    (text : List Char) : readGap (letter :: text) = letter :: text := by
  simp [readGap, solid, other]

theorem colon_yields {next : Cursor → Option Cursor}
    (yields : Yields looks next fun text => (readPorts (text.dropWhile isBlank)).map portGroups) :
    Yields looks ((many isBlank 0).follow ((optional (char (· == ':'))).follow next)) fun text =>
      (readPorts (readGap text)).map portGroups := by
  have gap : Yields looks ((optional (char (· == ':'))).follow next) fun text =>
      if text.head?.any isBlank then (readPorts (text.dropWhile isBlank)).map portGroups
      else (readPorts (readGap text)).map portGroups := by
    refine (yields.optional (yields.char _)).congr ?_
    intro text
    cases text with
    | nil => rfl
    | cons letter text =>
        by_cases colon : letter = ':'
        · subst colon
          have solid : isBlank ':' = false := rfl
          simp [solid, readGap, readPorts_colon]
        · by_cases blank : isBlank letter = true
          · simp [colon, blank]
          · rw [Bool.not_eq_true] at blank
            simp [colon, blank, readGap_cons blank colon]
  refine (gap.many 0 ?_).congr ?_
  · intro letters rest more blanks stops reads
    obtain ⟨letter, later, rfl⟩ := List.exists_cons_of_ne_nil more
    have first := blanks letter List.mem_cons_self
    simp only [List.cons_append, List.head?_cons, Option.any_some, first, if_true] at reads
    rw [← List.cons_append, dropWhile_blanks blanks, Option.isSome_map] at reads
    rw [stops]
    simp only [Bool.false_eq_true, if_false, Option.isSome_map]
    cases rest with
    | nil => exact reads
    | cons letter rest =>
        have solid : isBlank letter = false := by simpa using stops
        have other : letter ≠ ':' := by
          rintro rfl
          rw [List.dropWhile_cons_of_neg (by simp [solid]), readPorts_colon] at reads
          cases reads
        rw [readGap_cons solid other]
        rwa [List.dropWhile_cons_of_neg (by simp [solid])] at reads
  · intro text
    have stops : (text.dropWhile isBlank).head?.any isBlank = false := by
      have head := List.head?_dropWhile_not isBlank text
      cases shape : (text.dropWhile isBlank).head? with
      | none => rfl
      | some letter =>
          rw [shape] at head
          simpa using head
    have same : readGap (text.dropWhile isBlank) = readGap text := by
      rw [readGap, List.dropWhile_idempotent, readGap]
    rw [if_pos (Nat.zero_le _), stops, if_neg (by simp), same]

theorem isSome_readPorts_digit {letter : Char} (digit : letter.isDigit = true)
    (text : List Char) :
    (readPorts (letter :: text)).isSome = (readLast (text.dropWhile Char.isDigit)).isSome := by
  obtain ⟨_, dash, _⟩ := isDigit_apart digit
  simp [readPorts, numberOf, signOf_cons, dash, digit]

theorem readGap_isSome_of_readLast {text : List Char} (ends : (readLast text).isSome) :
    (readPorts (readGap text)).isSome := by
  have same : readLast text = readLast (text.dropWhile isBlank) := by
    rw [readLast, readLast, List.dropWhile_idempotent]
  cases shape : text.dropWhile isBlank with
  | nil =>
      rw [readGap, shape]
      rfl
  | cons letter later =>
      have dash : letter = '-' := by
        by_contra other
        simp [readLast, shape, other] at ends
      have gap : readGap text = letter :: later := by
        subst dash
        rw [readGap, shape]
        rfl
      rw [gap, ← shape]
      rw [same] at ends
      exact readPorts_isSome_of_readLast ends

theorem isUdidLetter_digit {letter : Char} (digit : letter.isDigit = true) :
    isUdidLetter letter = true := by
  simp [isUdidLetter, digit]

theorem readGap_dropWhile (text : List Char) : readGap (text.dropWhile isBlank) = readGap text := by
  rw [readGap, readGap, List.dropWhile_idempotent]

theorem readGap_digit {letter : Char} (digit : letter.isDigit = true) (text : List Char) :
    readGap (letter :: text) = letter :: text :=
  readGap_cons (isDigit_apart digit).1 (isDigit_apart digit).2.2 text

theorem exists_digit_of_takeWhile {text : List Char} (number : text.takeWhile Char.isDigit ≠ []) :
    ∃ digit later, text = digit :: later ∧ digit.isDigit = true := by
  cases text with
  | nil => simp at number
  | cons digit later =>
      refine ⟨digit, later, rfl, ?_⟩
      by_contra stops
      simp [stops] at number

theorem readGap_isSome_of_dash {text : List Char} (reads : (readPorts ('-' :: text)).isSome) :
    (readPorts (readGap text)).isSome := by
  have solid : isBlank '-' = false := rfl
  have number : numberOf ('-' :: text) = text.takeWhile Char.isDigit := rfl
  by_cases none : text.takeWhile Char.isDigit = []
  · rw [readPorts, number, if_pos none, Option.isSome_map] at reads
    simp only [readLast, List.dropWhile_cons, solid, Bool.false_eq_true, if_false,
      true_and] at reads
    split at reads
    · rename_i found
      obtain ⟨digit, later, shape, more⟩ := exists_digit_of_takeWhile found.1
      rw [shape, List.dropWhile_cons_of_pos more, all_isBlank_iff] at found
      rw [← readGap_dropWhile, shape, readGap_digit more, isSome_readPorts_digit more, readLast,
        found.2]
      rfl
    · cases reads
  · obtain ⟨digit, later, rfl, more⟩ := exists_digit_of_takeWhile none
    rw [readPorts, number, if_neg none, Option.isSome_map] at reads
    change (readLast ((digit :: later).dropWhile Char.isDigit)).isSome at reads
    rw [List.dropWhile_cons_of_pos more] at reads
    rwa [readGap_digit more, isSome_readPorts_digit more]

/-- One letter less of a device leaves no less to go on with. -/
theorem readGap_isSome_of_cons {letter : Char} {text : List Char}
    (named : isUdidLetter letter = true) (reads : (readPorts (readGap (letter :: text))).isSome) :
    (readPorts (readGap text)).isSome := by
  have solid : isBlank letter = false := by
    rw [← Bool.not_eq_true]
    intro blank
    rw [(isBlank_apart blank).2.2.2] at named
    cases named
  have other : letter ≠ ':' := by
    rintro rfl
    exact absurd named (by decide)
  rw [readGap_cons solid other] at reads
  by_cases digit : letter.isDigit = true
  · rw [isSome_readPorts_digit digit] at reads
    cases text with
    | nil => rfl
    | cons first later =>
        by_cases more : first.isDigit = true
        · rw [List.dropWhile_cons_of_pos more] at reads
          rwa [readGap_digit more, isSome_readPorts_digit more]
        · rw [List.dropWhile_cons_of_neg more] at reads
          exact readGap_isSome_of_readLast reads
  · rw [Bool.not_eq_true] at digit
    by_cases dash : letter = '-'
    · subst dash
      exact readGap_isSome_of_dash reads
    · have number : numberOf (letter :: text) = [] := by
        simp [numberOf, signOf_cons, dash, digit]
      simp [readPorts, number, readLast, solid, dash] at reads

theorem readGap_isSome_of_append {letters rest : List Char}
    (named : ∀ letter ∈ letters, isUdidLetter letter = true)
    (reads : (readPorts (readGap (letters ++ rest))).isSome) :
    (readPorts (readGap rest)).isSome := by
  induction letters with
  | nil => exact reads
  | cons letter letters ih =>
      refine ih (fun other member => named other (List.mem_cons_of_mem _ member)) ?_
      exact readGap_isSome_of_cons (named letter List.mem_cons_self) reads

theorem eq_of_toLower_n {letter : Char} (same : letter.toLower = 'n') :
    letter = 'n' ∨ letter = 'N' := by
  unfold Char.toLower at same
  split at same
  · right
    have value := congrArg Char.val same
    have shift : 'a'.val - 'A'.val = 32 := by decide
    simp only [shift] at value
    have back : letter.val + 32 - 32 = letter.val := UInt32.add_sub_cancel _ _
    apply Char.ext
    rw [← back, value]
    decide
  · left
    exact same

/-- A device with letters is no other device and no colon. -/
theorem letters_apart {letter : Char} (named : isUdidLetter letter = true) :
    letter ≠ '*' ∧ letter ≠ ':' ∧ letter.toLower ≠ 'n' := by
  refine ⟨?_, ?_, ?_⟩
  · rintro rfl
    exact absurd named (by decide)
  · rintro rfl
    exact absurd named (by decide)
  · intro same
    rcases eq_of_toLower_n same with rfl | rfl <;> exact absurd named (by decide)

theorem exists_letter {text : List Char} (enough : 25 ≤ (text.takeWhile isUdidLetter).length) :
    ∃ letter later, text = letter :: later ∧ isUdidLetter letter = true := by
  cases text with
  | nil => simp at enough
  | cons letter later =>
      refine ⟨letter, later, rfl, ?_⟩
      by_contra stops
      simp [stops] at enough

theorem device_yields {next : Cursor → Option Cursor}
    (yields : Yields looks next fun text => (readPorts (readGap text)).map portGroups) :
    Yields looks (device.follow next) fun text => (readDevice text).bind fun (device, rest) =>
      (readPorts (readGap rest)).map fun ports => portGroups ports ++ [(2, device)] := by
  let after (whole text : List Char) :=
    ((readPorts (readGap text)).map portGroups).map (· ++ [(2, taken whole text)])
  refine (Yields.group (fun whole text =>
    (if 25 ≤ (text.takeWhile isUdidLetter).length then after whole (text.dropWhile isUdidLetter)
      else none).or
    ((if text.head?.any (· == '*') then after whole (text.drop 1) else none).or
      (if (text.take 4).map Char.toLower = ['n', 'u', 'l', 'l'] then after whole (text.drop 4)
        else none))) fun before => ?_).congr ?_
  · have ahead : Yields looks (fun cursor => next (before.capture 2 cursor)) (after before.rest) :=
      yields.capture 2 rfl before
    refine (ahead.many 25 ?_).either ((ahead.char _).either (ahead.word Char.toLower _))
    intro letters rest _ named _ reads
    rw [Option.isSome_map, Option.isSome_map] at reads ⊢
    exact readGap_isSome_of_append named reads
  · intro text
    simp only [after, taken_dropWhile, taken_drop, Option.map_map]
    unfold readDevice
    by_cases enough : 25 ≤ (text.takeWhile isUdidLetter).length
    · obtain ⟨letter, later, rfl, named⟩ := exists_letter enough
      obtain ⟨star, _, null⟩ := letters_apart named
      simp [enough, star, null, Function.comp_def]
    · by_cases star : text.head? = some '*'
      · obtain ⟨later, rfl⟩ : ∃ later, text = '*' :: later := by
          cases text with
          | nil => cases star
          | cons letter later => exact ⟨later, by simpa using star⟩
        have null : ('*' :: later.take 3).map Char.toLower ≠ ['n', 'u', 'l', 'l'] := by
          simp
        simp [enough, Function.comp_def]
      · have other : text.head?.any (· == '*') = false := by
          cases text with
          | nil => rfl
          | cons letter later => simpa using star
        by_cases null : (text.take 4).map Char.toLower = ['n', 'u', 'l', 'l']
        · simp only [enough, star, other, null, if_false, if_true, Bool.false_eq_true,
            Option.none_or, Option.bind_some]
          rfl
        · simp only [enough, star, other, null, if_false, Bool.false_eq_true, Option.none_or,
            Option.bind_none]

def ruleGroups (rule : RuleParts) : List (Nat × List Char) :=
  portGroups rule.2 ++ match rule.1 with
    | none => []
    | some device => [(2, device)]

theorem readDevice_colon (text : List Char) : readDevice (':' :: text) = none := by
  have named : isUdidLetter ':' = false := by decide
  simp [readDevice, named]

theorem readDevice_blank {letter : Char} (blank : isBlank letter = true) (text : List Char) :
    readDevice (letter :: text) = none := by
  have named := (isBlank_apart blank).2.2.2
  rcases isBlank_cases blank with rfl | rfl <;> simp [readDevice, named]

theorem identity_yields {next : Cursor → Option Cursor}
    (yields : Yields looks next fun text => (readPorts (text.dropWhile isBlank)).map portGroups) :
    Yields looks ((group 1 (either (all [device, many isBlank 0, optional (char (· == ':'))])
        (char (· == ':')))).follow next) fun text =>
      ((readDevice text).bind fun (device, rest) =>
        (readPorts (readGap rest)).map fun ports => portGroups ports ++ [(2, device)]).or
      (if text.head?.any (· == ':') then
        (readPorts ((text.drop 1).dropWhile isBlank)).map portGroups
      else none) := by
  refine Yields.group (fun _ text => ((readDevice text).bind fun (device, rest) =>
      (readPorts (readGap rest)).map fun ports => portGroups ports ++ [(2, device)]).or
    (if text.head?.any (· == ':') then
      (readPorts ((text.drop 1).dropWhile isBlank)).map portGroups
    else none)) fun before => ?_
  have ahead := yields.capture_unseen 1 rfl before
  refine Yields.either ?_ (ahead.char _)
  simp only [all, List.foldr, follow_seq, follow_empty]
  exact device_yields (colon_yields ahead)

theorem rule_yields :
    Yields looks ((many isBlank 0).follow
        ((group 1 (either (all [device, many isBlank 0, optional (char (· == ':'))])
          (char (· == ':')))).follow ((many isBlank 0).follow
            ((optional firstPort).follow ((optional lastPort).follow (ending.follow some))))))
      fun text => (readRule text).map ruleGroups := by
  refine ((identity_yields gap_yields).many_strict 0 ?_).congr ?_
  · intro letter text blank
    have colon : (letter == ':') = false := beq_eq_false_iff_ne.mpr (isBlank_apart blank).2.2.1
    simp [readDevice_blank blank, colon]
  · intro text
    rw [if_pos (Nat.zero_le _), readRule]
    cases device : readDevice (text.dropWhile isBlank) with
    | none =>
        rw [Option.bind_none, Option.none_or]
        cases text.dropWhile isBlank with
        | nil => rfl
        | cons letter later =>
            by_cases colon : letter = ':'
            · subst colon
              simp only [List.head?_cons, if_true, Option.any_some, beq_self_eq_true,
                Option.map_map]
              congr 1
              funext ports
              simp [ruleGroups]
            · simp [colon]
    | some found =>
        obtain ⟨device, rest⟩ := found
        have colon : (text.dropWhile isBlank).head?.any (· == ':') = false := by
          cases shape : text.dropWhile isBlank with
          | nil => rfl
          | cons letter later =>
              rw [List.head?_cons, Option.any_some, beq_eq_false_iff_ne]
              rintro rfl
              rw [shape, readDevice_colon] at device
              cases device
        simp only [colon, Bool.false_eq_true, if_false, Option.or_none, Option.bind_some,
          Option.map_map]
        rfl

theorem re_eq :
    re = seq start (seq (many isBlank 0)
      (seq (group 1 (either (all [device, many isBlank 0, optional (char (· == ':'))])
          (char (· == ':'))))
        (seq (many isBlank 0) (seq (optional firstPort) (seq (optional lastPort) ending))))) := rfl

theorem lookup_ruleGroups (rule : RuleParts) :
    ((ruleGroups rule).lookup 2, (ruleGroups rule).lookup 3, (ruleGroups rule).lookup 5) =
      rule := by
  obtain ⟨device, first, last⟩ := rule
  cases device <;> cases first <;> cases last <;> rfl

/-- What the pattern takes from a text is what there is to read from it. -/
theorem captures_eq (text : List Char) :
    (re.captures text).map (fun caps => (caps.group 2, caps.group 3, caps.group 5)) =
      readRule text := by
  have whole := rule_yields ⟨true, text, []⟩
  rw [re_eq, captures_start]
  simp only [follow_seq]
  revert whole
  generalize (many isBlank 0).follow _ _ = result
  intro whole
  have unseen : (⟨true, text, []⟩ : Cursor).seen looks = [] := rfl
  simp only [unseen, List.append_nil, Option.map_id_fun', id] at whole
  cases read : readRule text with
  | none =>
      rw [read, Option.map_none, Option.map_eq_none_iff] at whole
      rw [whole]
      rfl
  | some rule =>
      rw [read, Option.map_some, Option.map_eq_some_iff] at whole
      obtain ⟨caps, rfl, seen⟩ := whole
      rw [Option.map_some, ← lookup_ruleGroups rule, ← seen, Cursor.lookup_seen rfl,
        Cursor.lookup_seen rfl, Cursor.lookup_seen rfl]

def entryOf (rule : RuleParts) : PortConfigEntry :=
  let minPort := (rule.2.1.bind parseI32).getD 0
  ⟨match rule.1 with
    | some device =>
        if eqIgnoreAsciiCase (String.ofList device) "null" then none
        else some (String.ofList device)
    | none => some "*", minPort, (rule.2.2.bind parseI32).getD minPort⟩

theorem addSegment_eq (segment : List Char) (config : PortConfig) :
    config.addSegment segment =
      (readRule segment).map fun rule => ⟨config.entries ++ [entryOf rule]⟩ := by
  rw [← captures_eq, Option.map_map]
  rfl

end PortConfig

end IosWebkitDebugProxy
