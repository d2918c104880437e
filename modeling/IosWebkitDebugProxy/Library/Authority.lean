import Mathlib.Algebra.Group.Nat.Defs
import Mathlib.Data.List.Basic
import IosWebkitDebugProxy.Library.Text

/-! The authority of a URL, which is also what a Host header has: a host, which may
be an address in brackets, and a port. -/

structure Authority where
  host : List Char
  port : Option Nat
  deriving DecidableEq, Repr

namespace Authority

/-- Letters of a name or of an address in decimals. -/
def isNameLetter (letter : Char) : Bool :=
  letter.isAlphanum || "-._~%!$&'()*+,;=".toList.contains letter

def isLiteralLetter (letter : Char) : Bool :=
  (Text.hexValue letter).isSome || letter == ':' || letter == '.'

def isOctet (text : List Char) : Bool :=
  text ≠ [] && text.all Char.isDigit && (text.length == 1 || text.head? != some '0') &&
    Nat.ofDigitChars 10 text 0 ≤ 255

def isIpv4 (text : List Char) : Bool :=
  (text.splitOn '.').length == 4 && (text.splitOn '.').all isOctet

def isGroup (text : List Char) : Bool :=
  text ≠ [] && text.length ≤ 4 && text.all fun letter => (Text.hexValue letter).isSome

/-- How many groups of 16 bits these parts are. The last two may be written as four
decimals. -/
def countGroups : List (List Char) → Option Nat
  | [] => some 0
  | [last] => if isGroup last then some 1 else if isIpv4 last then some 2 else none
  | part :: parts => if isGroup part then (countGroups parts).map (· + 1) else none

def groups (text : List Char) : Option Nat :=
  if text = [] then some 0 else countGroups (text.splitOn ':')

/-- The sides of the first two colons that stand together. -/
def cutDouble : List Char → Option (List Char × List Char)
  | ':' :: ':' :: rest => some ([], rest)
  | letter :: rest => (cutDouble rest).map fun sides => (letter :: sides.1, sides.2)
  | [] => none

/-- All eight groups are there, or two colons stand for those that are not. -/
def isIpv6 (address : List Char) : Bool :=
  match cutDouble address with
  | some (front, back) =>
      !front.contains '.' && (groups front).any fun before =>
        (groups back).any fun after => before + after ≤ 7
  | none => groups address == some 8

def readPort (host : List Char) : List Char → Option Authority
  | [] | [':'] => some ⟨host, none⟩
  | ':' :: digits =>
      if digits.all Char.isDigit && Nat.ofDigitChars 10 digits 0 < 2 ^ 16 then
        some ⟨host, some (Nat.ofDigitChars 10 digits 0)⟩
      else none
  | _ => none

def read (text : List Char) : Option Authority :=
  match text with
  | '[' :: rest =>
      let address := rest.takeWhile isLiteralLetter
      match rest.dropWhile isLiteralLetter with
      | ']' :: after => if isIpv6 address then readPort ('[' :: (address ++ [']'])) after else none
      | _ => none
  | text =>
      let host := text.takeWhile isNameLetter
      if host = [] then none else readPort host (text.dropWhile isNameLetter)

def isEnd (letter : Char) : Bool := ['/', '?', '#', '\x5c'].contains letter

/-- The authority of a URL that starts like this, and what comes after it. -/
def readAfter (start text : List Char) : Option (Authority × List Char) :=
  (Text.stripStart start text).bind fun rest =>
    (read (rest.takeWhile (!isEnd ·))).map fun authority => (authority, rest.dropWhile (!isEnd ·))

inductive HostText : List Char → Prop
  | name (text) : text ≠ [] → (∀ letter ∈ text, isNameLetter letter = true) → HostText text
  | literal (address) : (∀ letter ∈ address, isLiteralLetter letter = true) →
      isIpv6 address = true → HostText ('[' :: (address ++ [']']))

theorem cutDouble_eq {text front back : List Char} (cut : cutDouble text = some (front, back)) :
    text = front ++ ':' :: ':' :: back := by
  induction text using cutDouble.induct generalizing front with
  | case1 rest =>
      rw [cutDouble] at cut
      cases cut
      rfl
  | case2 letter rest apart ih =>
      rw [cutDouble] at cut
      · obtain ⟨⟨first, last⟩, found, same⟩ := Option.map_eq_some_iff.mp cut
        rw [Prod.mk.injEq] at same
        obtain ⟨rfl, rfl⟩ := same
        rw [ih found, List.cons_append]
      · exact apart
  | case3 =>
      rw [cutDouble] at cut
      cases cut

theorem colon_mem {address : List Char} (valid : isIpv6 address = true) : ':' ∈ address := by
  unfold isIpv6 at valid
  cases cut : cutDouble address with
  | some sides =>
      rw [cutDouble_eq cut]
      simp
  | none =>
      rw [cut] at valid
      by_contra apart
      have counted : groups address = some 8 := beq_iff_eq.mp valid
      rw [groups, List.splitOn_eq_singleton apart, countGroups] at counted
      revert counted
      split
      · simp
      · split
        · simp
        · split <;> simp

theorem readPort_cases {host after : List Char} {authority : Authority}
    (found : readPort host after = some authority) : authority.host = host ∧
      (after = [] ∨ ∃ digits, after = ':' :: digits ∧ ∀ digit ∈ digits, digit.isDigit = true) := by
  unfold readPort at found
  split at found
  · cases found
    exact ⟨rfl, .inl rfl⟩
  · cases found
    exact ⟨rfl, .inr ⟨[], rfl, fun _ member => absurd member List.not_mem_nil⟩⟩
  · split at found
    · rename_i valid
      cases found
      rw [Bool.and_eq_true, List.all_eq_true] at valid
      exact ⟨rfl, .inr ⟨_, rfl, valid.1⟩⟩
    · cases found
  · cases found

variable {host after : List Char}

theorem isNameLetter_apart {letter : Char} (name : isNameLetter letter = true) :
    letter ≠ ':' ∧ letter ≠ '[' ∧ letter ≠ ']' := by
  refine ⟨?_, ?_, ?_⟩
  · rintro rfl
    exact absurd name (by decide)
  · rintro rfl
    exact absurd name (by decide)
  · rintro rfl
    exact absurd name (by decide)

theorem read_append (valid : HostText host) (boundary : after = [] ∨ ∃ rest, after = ':' :: rest) :
    read (host ++ after) = readPort host after := by
  cases valid with
  | name _ nonempty letters =>
      obtain ⟨first, rest, rfl⟩ := List.exists_cons_of_ne_nil nonempty
      have start := (isNameLetter_apart (letters first List.mem_cons_self)).2.1
      have stops : after.takeWhile isNameLetter = [] ∧ after.dropWhile isNameLetter = after := by
        rcases boundary with rfl | ⟨rest, rfl⟩
        · exact ⟨rfl, rfl⟩
        · exact ⟨List.takeWhile_cons_of_neg (by decide), List.dropWhile_cons_of_neg (by decide)⟩
      unfold read
      split
      · rename_i shape
        cases shape
        exact absurd rfl start
      · simp only [List.takeWhile_append_of_pos letters, List.dropWhile_append_of_pos letters,
          stops.1, stops.2, List.append_nil, if_neg nonempty]
  | literal address letters valid =>
      have shape : '[' :: (address ++ [']']) ++ after = '[' :: (address ++ ']' :: after) := by simp
      rw [shape, read]
      simp only [List.takeWhile_append_of_pos letters, List.dropWhile_append_of_pos letters]
      rw [List.takeWhile_cons_of_neg (by decide), List.dropWhile_cons_of_neg (by decide),
        List.append_nil]
      simp only [valid, if_true]

theorem read_sound {text : List Char} {authority : Authority} (found : read text = some authority) :
    ∃ after, HostText authority.host ∧ text = authority.host ++ after ∧
      readPort authority.host after = some authority := by
  unfold read at found
  split at found
  · rename_i rest
    have letters : ∀ letter ∈ rest.takeWhile isLiteralLetter, isLiteralLetter letter = true :=
      fun letter member => List.mem_takeWhile_imp member
    have whole := List.takeWhile_append_dropWhile (p := isLiteralLetter) (l := rest)
    split at found
    · rename_i after shape
      dsimp only at found
      split at found
      · rename_i valid
        obtain ⟨same, _⟩ := readPort_cases found
        refine ⟨after, ?_, ?_, ?_⟩
        · rw [same]
          exact .literal _ letters valid
        · rw [same, List.cons_append, List.append_assoc, List.singleton_append, ← shape, whole]
        · rw [same]
          exact found
      · cases found
    · cases found
  · dsimp only at found
    split at found
    · cases found
    · rename_i nonempty
      obtain ⟨same, _⟩ := readPort_cases found
      refine ⟨text.dropWhile isNameLetter, ?_, ?_, ?_⟩
      · rw [same]
        exact .name _ nonempty fun letter member => List.mem_takeWhile_imp member
      · rw [same, List.takeWhile_append_dropWhile]
      · rw [same]
        exact found

theorem isEnd_cases {letter : Char} (stops : isEnd letter = true) :
    letter = '/' ∨ letter = '?' ∨ letter = '#' ∨ letter = '\x5c' := by
  simpa [isEnd] using stops

theorem HostText.plain (valid : HostText host) : ∀ letter ∈ host, isEnd letter = false := by
  have ends {letter : Char} (stops : isEnd letter = true) :
      isNameLetter letter = false ∧ isLiteralLetter letter = false ∧ letter ≠ '[' ∧ letter ≠ ']' := by
    rcases isEnd_cases stops with rfl | rfl | rfl | rfl <;> decide
  intro letter member
  by_contra stops
  obtain ⟨notName, notLiteral, notOpen, notClose⟩ := ends (Bool.not_eq_false _ ▸ stops)
  cases valid with
  | name _ _ letters =>
      rw [letters letter member] at notName
      cases notName
  | literal address letters _ =>
      simp only [List.mem_cons, List.mem_append, List.not_mem_nil, or_false] at member
      rcases member with same | inside | same
      · exact notOpen same
      · rw [letters letter inside] at notLiteral
        cases notLiteral
      · exact notClose same

theorem readPort_number (host : List Char) {digits : List Char} (nonempty : digits ≠ [])
    (decimals : ∀ digit ∈ digits, digit.isDigit = true)
    (small : Nat.ofDigitChars 10 digits 0 < 2 ^ 16) :
    readPort host (':' :: digits) = some ⟨host, some (Nat.ofDigitChars 10 digits 0)⟩ := by
  unfold readPort
  split
  · rename_i shape
    cases shape
  · rename_i shape
    cases shape
    exact absurd rfl nonempty
  · rename_i shape
    cases shape
    rw [if_pos]
    rw [Bool.and_eq_true, List.all_eq_true, decide_eq_true_eq]
    exact ⟨decimals, small⟩
  · rename_i other
    exact absurd rfl (other digits)

theorem readAfter_append (start : List Char) (valid : HostText host) {digits : List Char}
    (nonempty : digits ≠ []) (decimals : ∀ digit ∈ digits, digit.isDigit = true)
    (small : Nat.ofDigitChars 10 digits 0 < 2 ^ 16) (rest : List Char) :
    readAfter start (start ++ (host ++ ':' :: digits ++ '/' :: rest)) =
      some (⟨host, some (Nat.ofDigitChars 10 digits 0)⟩, '/' :: rest) := by
  have plain : ∀ letter ∈ host ++ ':' :: digits, (!isEnd letter) = true := by
    intro letter member
    rw [Bool.not_eq_true']
    rcases List.mem_append.mp member with member | member
    · exact valid.plain letter member
    · rcases List.mem_cons.mp member with rfl | member
      · decide
      · have digit := decimals letter member
        by_contra stops
        rcases isEnd_cases (Bool.not_eq_false _ ▸ stops) with rfl | rfl | rfl | rfl <;>
          exact absurd digit (by decide)
  rw [readAfter, Text.stripStart_append, Option.bind_some, List.takeWhile_append_of_pos plain,
    List.dropWhile_append_of_pos plain, List.takeWhile_cons_of_neg (by decide),
    List.dropWhile_cons_of_neg (by decide), List.append_nil, read_append valid (.inr ⟨_, rfl⟩),
    readPort_number host nonempty decimals small, Option.map_some]

/-- A bracket that is not closed makes no host. -/
theorem readAfter_unclosed (start : List Char) {text : List Char} (unclosed : ']' ∉ text) :
    readAfter start (start ++ '[' :: text) = none := by
  rw [readAfter, Text.stripStart_append, Option.bind_some, Option.map_eq_none_iff,
    List.takeWhile_cons_of_pos (by decide)]
  cases found : read ('[' :: text.takeWhile (!isEnd ·)) with
  | none => rfl
  | some authority =>
      obtain ⟨after, valid, shape, _⟩ := read_sound found
      have closed : ']' ∈ text.takeWhile (!isEnd ·) := by
        generalize authority.host = host at valid shape
        cases valid with
        | name _ nonempty letters =>
            cases host with
            | nil => exact absurd rfl nonempty
            | cons letter host =>
                rw [List.cons_append, List.cons_eq_cons] at shape
                exact absurd shape.1.symm (isNameLetter_apart (letters letter List.mem_cons_self)).2.1
        | literal address _ _ =>
            rw [List.cons_append, List.cons_eq_cons] at shape
            rw [shape.2]
            simp
      exact absurd (List.takeWhile_subset _ closed) unclosed

example : isIpv6 "2001:db8::8:800:200c:417a".toList = true := by decide
example : isIpv6 "::ffff:192.0.2.1".toList = true := by decide
example : isIpv6 "1:2:3:4:5:6:7".toList = false := by decide
example : isIpv6 "1:::2".toList = false := by decide

end Authority
