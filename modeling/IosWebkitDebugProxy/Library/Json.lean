import Mathlib.Data.List.Basic
import IosWebkitDebugProxy.Library.Text

/-! The part of JSON that arrays of flat objects need, whose values are strings.
Such an array is written without blanks, and what is written is read again. -/

namespace Json

abbrev Record := List (String × String)

def hexDigit (value : Nat) : Char :=
  if value < 10 then Char.ofNat (48 + value) else Char.ofNat (87 + value)

/-- The letters with a short escape, each with the letter after the backslash. -/
def shortEscapes : List (Char × Char) :=
  [('\x22', '\x22'), ('\x5c', '\x5c'), ('\x08', 'b'), ('\x0c', 'f'), ('\n', 'n'), ('\r', 'r'),
    ('\t', 't')]

def escape (letter : Char) : List Char :=
  match shortEscapes.lookup letter with
  | some code => ['\x5c', code]
  | none =>
      if letter.toNat < 32 then
        ['\x5c', 'u', '0', '0', hexDigit (letter.toNat / 16), hexDigit (letter.toNat % 16)]
      else [letter]

def unescape (code : Char) : Option Char :=
  if code = '/' then some '/'
  else (shortEscapes.find? fun escaped => escaped.2 == code).map Prod.fst

/-- One letter of a string, and the text after it. -/
def readLetter : List Char → Option (Char × List Char)
  | '\x5c' :: 'u' :: first :: second :: third :: fourth :: rest => do
      let first ← Text.hexValue first
      let second ← Text.hexValue second
      let third ← Text.hexValue third
      let fourth ← Text.hexValue fourth
      some (Char.ofNat (((first * 16 + second) * 16 + third) * 16 + fourth), rest)
  | '\x5c' :: code :: rest => (unescape code).map fun letter => (letter, rest)
  | letter :: rest => if letter.toNat < 32 ∨ letter = '\x5c' then none else some (letter, rest)
  | [] => none

def readLetters : Nat → List Char → Option (List Char × List Char)
  | 0, _ => none
  | fuel + 1, text =>
      if text.head? = some '\x22' then some ([], text.tail)
      else do
        let (letter, rest) ← readLetter text
        let (letters, rest) ← readLetters fuel rest
        some (letter :: letters, rest)

def writeString (text : String) : List Char := '\x22' :: (text.toList.flatMap escape ++ ['\x22'])

def readString : List Char → Option (String × List Char)
  | '\x22' :: rest =>
      (readLetters (rest.length + 1) rest).map fun (letters, rest) => (String.ofList letters, rest)
  | _ => none

section Lists

variable {Item : Type} (write : Item → List Char) (read : List Char → Option (Item × List Char))
  (first last : Char)

def writeList (items : List Item) : List Char :=
  first :: ([','].intercalate (items.map write) ++ [last])

def readItems : Nat → List Char → Option (List Item × List Char)
  | 0, _ => none
  | fuel + 1, text => do
      let (item, rest) ← read text
      match rest with
      | [] => none
      | letter :: rest =>
          if letter = last then some ([item], rest)
          else if letter = ',' then do
            let (items, rest) ← readItems fuel rest
            some (item :: items, rest)
          else none

def readList : List Char → Option (List Item × List Char)
  | letter :: next :: rest =>
      if letter ≠ first then none
      else if next = last then some ([], rest)
      else readItems read last (rest.length + 1) (next :: rest)
  | _ => none

end Lists

def writeField (field : String × String) : List Char :=
  writeString field.1 ++ ':' :: writeString field.2

def readField (text : List Char) : Option ((String × String) × List Char) := do
  let (name, rest) ← readString text
  match rest with
  | ':' :: rest => do
      let (value, rest) ← readString rest
      some ((name, value), rest)
  | _ => none

def writeRecord : Record → List Char := writeList writeField '\x7b' '\x7d'

def readRecord : List Char → Option (Record × List Char) := readList readField '\x7b' '\x7d'

def write (records : List Record) : String :=
  String.ofList (writeList writeRecord '[' ']' records)

def read (text : String) : Option (List Record) :=
  match readList readRecord '[' ']' text.toList with
  | some (records, []) => some records
  | _ => none

theorem hexValue_hexDigit : ∀ value < 16, Text.hexValue (hexDigit value) = some value := by decide

theorem shortEscapes_read : ∀ escaped ∈ shortEscapes, escaped.2 ≠ 'u' ∧
    unescape escaped.2 = some escaped.1 := by decide

theorem mem_of_lookup {letter code : Char} {table : List (Char × Char)}
    (found : table.lookup letter = some code) : (letter, code) ∈ table := by
  induction table with
  | nil => cases found
  | cons entry table ih =>
      obtain ⟨key, value⟩ := entry
      rw [List.lookup_cons] at found
      split at found
      · rename_i same
        cases found
        rw [beq_iff_eq.mp same]
        exact List.mem_cons_self
      · exact List.mem_cons_of_mem _ (ih found)

theorem readLetter_escape (letter : Char) (rest : List Char) :
    readLetter (escape letter ++ rest) = some (letter, rest) := by
  unfold escape
  split
  · rename_i code found
    obtain ⟨plain, back⟩ := shortEscapes_read _ (mem_of_lookup found)
    simp only [List.cons_append, List.nil_append]
    rw [readLetter, back, Option.map_some]
    rintro _ _ _ _ _ rfl
    exact absurd rfl plain
  · rename_i unescaped
    split
    · rename_i control
      have high := hexValue_hexDigit (letter.toNat / 16) (by omega)
      have low := hexValue_hexDigit (letter.toNat % 16) (by omega)
      have zero : Text.hexValue '0' = some 0 := by decide
      have whole : ((0 * 16 + 0) * 16 + letter.toNat / 16) * 16 + letter.toNat % 16 =
          letter.toNat := by omega
      simp only [List.cons_append, List.nil_append, readLetter, zero, high, low, Option.bind_eq_bind,
        Option.bind_some, whole, Char.ofNat_toNat]
    · rename_i plain
      have notBackslash : letter ≠ '\x5c' := by
        rintro rfl
        cases unescaped
      rw [List.cons_append, List.nil_append, readLetter]
      · rw [if_neg (by simp [plain, notBackslash])]
      · rintro _ _ _ _ _ rfl
        exact absurd rfl notBackslash
      · rintro _ _ rfl
        exact absurd rfl notBackslash

theorem escape_head (letter : Char) (rest : List Char) :
    ∃ head tail, escape letter ++ rest = head :: tail ∧ head ≠ '\x22' := by
  unfold escape
  split
  · exact ⟨_, _, rfl, by decide⟩
  · rename_i unescaped
    split
    · exact ⟨_, _, rfl, by decide⟩
    · refine ⟨letter, _, rfl, ?_⟩
      rintro rfl
      cases unescaped

theorem readLetters_escape (text rest : List Char) {fuel : Nat} (enough : text.length < fuel) :
    readLetters fuel (text.flatMap escape ++ '\x22' :: rest) = some (text, rest) := by
  induction text generalizing fuel with
  | nil =>
      obtain ⟨fuel, rfl⟩ := Nat.exists_eq_succ_of_ne_zero (Nat.ne_of_gt enough)
      rfl
  | cons letter text ih =>
      obtain ⟨fuel, rfl⟩ := Nat.exists_eq_succ_of_ne_zero (Nat.ne_of_gt (Nat.zero_lt_of_lt enough))
      rw [List.length_cons] at enough
      rw [List.flatMap_cons, List.append_assoc]
      obtain ⟨head, tail, shape, differs⟩ :=
        escape_head letter (text.flatMap escape ++ '\x22' :: rest)
      have letterRead := readLetter_escape letter (text.flatMap escape ++ '\x22' :: rest)
      rw [shape] at letterRead ⊢
      have later := ih (Nat.lt_of_succ_lt_succ enough)
      have opens : ¬(head :: tail).head? = some '\x22' := by
        rw [List.head?_cons, Option.some.injEq]
        exact differs
      rw [readLetters, if_neg opens, letterRead]
      simp only [Option.bind_eq_bind, Option.bind_some, later]

theorem length_le_escape (text : List Char) : text.length ≤ (text.flatMap escape).length := by
  induction text with
  | nil => exact Nat.le_refl 0
  | cons letter text ih =>
      obtain ⟨head, tail, shape, _⟩ := escape_head letter []
      rw [List.append_nil] at shape
      rw [List.flatMap_cons, shape, List.length_append, List.length_cons, List.length_cons]
      omega

theorem readString_write (text : String) (rest : List Char) :
    readString (writeString text ++ rest) = some (text, rest) := by
  have size := length_le_escape text.toList
  rw [writeString, List.cons_append, List.append_assoc, List.singleton_append, readString,
    readLetters_escape _ _ (by rw [List.length_append]; omega), Option.map_some]
  simp only [String.ofList_toList]

section Lists

variable {Item : Type} {write : Item → List Char} {read : List Char → Option (Item × List Char)}
  {first last : Char}

theorem readItems_write (apart : last ≠ ',') {items : List Item} (some' : items ≠ [])
    (inverse : ∀ item ∈ items, ∀ rest, read (write item ++ rest) = some (item, rest))
    (rest : List Char) {fuel : Nat} (enough : items.length ≤ fuel) :
    readItems read last fuel ([','].intercalate (items.map write) ++ last :: rest) =
      some (items, rest) := by
  induction items generalizing fuel with
  | nil => exact absurd rfl some'
  | cons item items ih =>
      rw [List.length_cons] at enough
      obtain ⟨fuel, rfl⟩ := Nat.exists_eq_succ_of_ne_zero (Nat.ne_of_gt (Nat.zero_lt_of_lt enough))
      have itemRead := inverse item List.mem_cons_self
      cases items with
      | nil =>
          simp only [List.map_cons, List.map_nil, List.intercalate_singleton, readItems, itemRead,
            Option.bind_eq_bind, Option.bind_some, if_true]
      | cons next items =>
          have later : readItems read last fuel
              ([','].intercalate ((next :: items).map write) ++ last :: rest) =
                some (next :: items, rest) :=
            ih (List.cons_ne_nil _ _)
              (fun other member => inverse other (List.mem_cons_of_mem _ member)) (by omega)
          simp only [List.map_cons, List.intercalate_cons_cons, List.append_assoc,
            List.cons_append, List.nil_append, readItems, itemRead, Option.bind_eq_bind,
            Option.bind_some, apart.symm, if_false, if_true]
          simp only [List.map_cons] at later
          rw [later, Option.bind_some]

theorem length_le_items {items : List Item}
    (begins : ∀ item ∈ items, ∃ head tail, write item = head :: tail ∧ head ≠ last) :
    items.length ≤ ([','].intercalate (items.map write)).length := by
  induction items with
  | nil => exact Nat.zero_le _
  | cons item items ih =>
      have rest := ih fun other member => begins other (List.mem_cons_of_mem _ member)
      obtain ⟨head, tail, shape, _⟩ := begins item List.mem_cons_self
      cases items with
      | nil => simp [shape]
      | cons next items =>
          simp only [List.map_cons, List.intercalate_cons_cons, List.length_append, shape,
            List.length_cons] at rest ⊢
          omega

/-- What is written for an item tells it from the end of the list. -/
theorem readList_write (apart : last ≠ ',') {items : List Item}
    (inverse : ∀ item ∈ items, ∀ rest, read (write item ++ rest) = some (item, rest))
    (begins : ∀ item ∈ items, ∃ head tail, write item = head :: tail ∧ head ≠ last)
    (rest : List Char) :
    readList read first last (writeList write first last items ++ rest) = some (items, rest) := by
  rw [writeList, List.cons_append, List.append_assoc, List.singleton_append]
  cases items with
  | nil => simp only [List.map_nil, List.intercalate_nil, List.nil_append, readList, ne_eq,
      not_true_eq_false, if_false, if_true]
  | cons item items =>
      have enough := length_le_items begins
      have whole : readItems read last
          ([','].intercalate ((item :: items).map write) ++ last :: rest).length
          ([','].intercalate ((item :: items).map write) ++ last :: rest) =
            some (item :: items, rest) :=
        readItems_write apart (List.cons_ne_nil item items) inverse rest
          (by rw [List.length_append]; omega)
      obtain ⟨head, tail, shape, differs⟩ := begins item List.mem_cons_self
      obtain ⟨more, text⟩ : ∃ more, [','].intercalate ((item :: items).map write) ++ last :: rest =
          head :: more := by
        cases items with
        | nil => exact ⟨_, by rw [List.map_cons, List.map_nil, List.intercalate_singleton, shape]; rfl⟩
        | cons next items =>
            exact ⟨_, by
              rw [List.map_cons, List.map_cons, List.intercalate_cons_cons, shape]
              rfl⟩
      rw [text] at whole ⊢
      rw [readList, if_neg (not_not_intro rfl), if_neg differs]
      exact whole

end Lists

theorem readField_write (field : String × String) (rest : List Char) :
    readField (writeField field ++ rest) = some (field, rest) := by
  unfold readField writeField
  simp only [List.append_assoc, List.cons_append, readString_write, Option.bind_eq_bind,
    Option.bind_some]

theorem readRecord_write (record : Record) (rest : List Char) :
    readRecord (writeRecord record ++ rest) = some (record, rest) :=
  readList_write (by decide) (fun field _ => readField_write field)
    (fun _ _ => ⟨_, _, rfl, by decide⟩) rest

/-- What is written is read again. -/
theorem read_write (records : List Record) : read (write records) = some records := by
  have whole : readList readRecord '[' ']' (writeList writeRecord '[' ']' records ++ []) =
      some (records, []) :=
    readList_write (by decide) (fun record _ => readRecord_write record)
      (fun _ _ => ⟨_, _, rfl, by decide⟩) []
  rw [List.append_nil] at whole
  rw [read, write, String.toList_ofList, whole]

end Json
