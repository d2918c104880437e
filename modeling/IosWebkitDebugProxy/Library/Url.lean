import Mathlib.Data.List.Basic
import IosWebkitDebugProxy.Library.Text

/-! The URLs of the web schemes, and how the URL standard reads and settles their
paths: a segment of one dot is left out, one of two dots takes the segment before
it away, and what a path cannot hold is percent-encoded. -/

/-- Letters that a path holds percent-encoded only. -/
def Url.pathSet (letter : Char) : Bool :=
  letter.toNat ≤ 0x20 || 0x7e < letter.toNat ||
    ['\x22', '#', '<', '>', '?', '\x60', '\x7b', '\x7d'].contains letter

def Url.separates (letter : Char) : Bool := letter == '/' || letter == '\x5c'

/-- The number of dots that a segment consists of, each written out or encoded. -/
def Url.dots : List Char → Option Nat
  | [] => some 0
  | '.' :: rest => (dots rest).map (· + 1)
  | '%' :: '2' :: letter :: rest =>
      if letter = 'e' ∨ letter = 'E' then (dots rest).map (· + 1) else none
  | _ => none

/-- A segment as it stands in a path that is settled. -/
structure Url.Settled (segment : List Char) : Prop where
  letters : ∀ letter ∈ segment, Url.pathSet letter = false ∧ Url.separates letter = false
  notSingle : Url.dots segment ≠ some 1
  notDouble : Url.dots segment ≠ some 2

structure Url where
  scheme : String
  username : String
  password : String
  host : String
  port : Option Nat
  path : List (List Char)
  query : Option String
  fragment : Option String
  nonempty : path ≠ []
  settled : ∀ segment ∈ path, Url.Settled segment

namespace Url

def hexDigit (value : Nat) : Char :=
  if value < 10 then Char.ofNat (48 + value) else Char.ofNat (55 + value)

def encodeByte (byte : UInt8) : List Char :=
  ['%', hexDigit (byte.toNat / 16), hexDigit (byte.toNat % 16)]

def encodeLetter (letter : Char) : List Char :=
  if pathSet letter then (String.utf8EncodeChar letter).flatMap encodeByte else [letter]

def encode (segment : List Char) : List Char := segment.flatMap encodeLetter

/-- Decoding, with each byte taken for a letter of its own. -/
def decode : List Char → List Char
  | '%' :: high :: low :: rest =>
      match Text.hexValue high, Text.hexValue low with
      | some high, some low => Char.ofNat (high * 16 + low) :: decode rest
      | _, _ => '%' :: decode (high :: low :: rest)
  | letter :: rest => letter :: decode rest
  | [] => []

theorem decode_eq {text : List Char} (plain : '%' ∉ text) : decode text = text := by
  induction text with
  | nil => rfl
  | cons letter text ih =>
      rw [List.mem_cons, not_or] at plain
      rw [decode, ih plain.2]
      rintro _ _ _ rfl
      exact absurd rfl plain.1

/-- The last segment leaves an empty one where it is not kept. -/
def leaves (rest : List (List Char)) : List (List Char) := if rest = [] then [[]] else []

/-- The segments of a path, taken over one after another. -/
def settle (done : List (List Char)) : List (List Char) → List (List Char)
  | [] => done
  | segment :: rest =>
      if dots (encode segment) = some 2 then settle (done.dropLast ++ leaves rest) rest
      else if dots (encode segment) = some 1 then settle (done ++ leaves rest) rest
      else settle (done ++ [encode segment]) rest

def segmentsOf (text : List Char) : List (List Char) :=
  (if text.head?.any separates then text.tail else text).splitOnP separates

def readPath (text : List Char) : List (List Char) := settle [] (segmentsOf text)

def pathText (path : List (List Char)) : List Char := path.flatMap ('/' :: ·)

theorem splitOnP_mem {test : Char → Bool} {text segment : List Char}
    (member : segment ∈ text.splitOnP test) :
    segment <:+: text ∧ ∀ letter ∈ segment, test letter = false := by
  induction length : text.length using Nat.strongRecOn generalizing text with
  | ind size ih =>
      have kept : ∀ letter ∈ text.takeWhile (!test ·), test letter = false := by
        intro letter inside
        have passed := List.mem_takeWhile_imp inside
        rwa [Bool.not_eq_true'] at passed
      have whole := List.takeWhile_append_dropWhile (p := (!test ·)) (l := text)
      cases rest : text.dropWhile (!test ·) with
      | nil =>
          rw [rest, List.append_nil] at whole
          rw [whole] at kept
          rw [List.splitOnP_eq_singleton kept, List.mem_singleton] at member
          rw [member]
          exact ⟨List.infix_rfl, kept⟩
      | cons separator later =>
          have separates : test separator = true := by
            have stops := List.head_dropWhile_not (!test ·) (l := text) (by rw [rest]; simp)
            simpa [rest] using stops
          rw [rest] at whole
          rw [← whole, List.splitOnP_append_cons_of_forall_mem kept _ separates,
            List.mem_cons] at member
          rcases member with rfl | member
          · exact ⟨⟨[], separator :: later, by rw [List.nil_append, whole]⟩, kept⟩
          · have shorter : later.length < size := by
              rw [← length, ← whole, List.length_append, List.length_cons]
              omega
            obtain ⟨inside, apart⟩ := ih later.length shorter member rfl
            refine ⟨inside.trans ⟨text.takeWhile (!test ·) ++ [separator], [], ?_⟩, apart⟩
            rw [List.append_nil, List.append_assoc, List.singleton_append, whole]

theorem segmentsOf_separate {text segment : List Char} (member : segment ∈ segmentsOf text) :
    ∀ letter ∈ segment, separates letter = false :=
  (splitOnP_mem member).2

theorem hexDigit_plain : ∀ value < 16,
    pathSet (hexDigit value) = false ∧ separates (hexDigit value) = false := by decide

theorem encode_plain {segment : List Char}
    (separate : ∀ letter ∈ segment, separates letter = false) :
    ∀ letter ∈ encode segment, pathSet letter = false ∧ separates letter = false := by
  intro letter member
  obtain ⟨original, inside, member⟩ := List.mem_flatMap.mp member
  unfold encodeLetter at member
  split at member
  · obtain ⟨byte, _, member⟩ := List.mem_flatMap.mp member
    have size := byte.toNat_lt
    simp only [encodeByte, List.mem_cons, List.not_mem_nil, or_false] at member
    rcases member with rfl | rfl | rfl
    · decide
    · exact hexDigit_plain _ (by omega)
    · exact hexDigit_plain _ (by omega)
  · rename_i plain
    cases List.mem_singleton.mp member
    exact ⟨Bool.not_eq_true _ ▸ plain, separate letter inside⟩

theorem encode_eq {segment : List Char} (plain : ∀ letter ∈ segment, pathSet letter = false) :
    encode segment = segment := by
  induction segment with
  | nil => rfl
  | cons letter segment ih =>
      have first : encodeLetter letter = [letter] :=
        if_neg (by rw [plain letter List.mem_cons_self]; exact Bool.false_ne_true)
      rw [encode, List.flatMap_cons, first, List.singleton_append]
      exact congrArg _ (ih fun other member => plain other (List.mem_cons_of_mem _ member))

theorem Settled.encode {segment : List Char} (settled : Settled segment) : Url.encode segment = segment :=
  encode_eq fun letter member => (settled.letters letter member).1

theorem settled_nil : Settled [] :=
  ⟨fun _ member => absurd member List.not_mem_nil, by decide, by decide⟩

theorem settle_settled {segments done : List (List Char)}
    (separate : ∀ segment ∈ segments, ∀ letter ∈ segment, separates letter = false)
    (before : ∀ segment ∈ done, Settled segment) :
    ∀ segment ∈ settle done segments, Settled segment := by
  induction segments generalizing done with
  | nil => exact before
  | cons segment segments ih =>
      have rest := fun other member => separate other (List.mem_cons_of_mem _ member)
      have left : ∀ other ∈ leaves segments, Settled other := by
        intro other member
        unfold leaves at member
        split at member
        · cases List.mem_singleton.mp member
          exact settled_nil
        · cases member
      have joined {front back : List (List Char)} (front' : ∀ other ∈ front, Settled other)
          (back' : ∀ other ∈ back, Settled other) : ∀ other ∈ front ++ back, Settled other :=
        fun other member => (List.mem_append.mp member).elim (front' other) (back' other)
      unfold settle
      split
      · exact ih rest (joined (fun other member => before other (List.dropLast_subset _ member))
          left)
      · rename_i notDouble
        split
        · exact ih rest (joined before left)
        · rename_i notSingle
          refine ih rest (joined before fun other member => ?_)
          cases List.mem_singleton.mp member
          exact ⟨encode_plain (separate segment List.mem_cons_self), notSingle, notDouble⟩

theorem settle_nonempty {segments : List (List Char)} (done : List (List Char))
    (some : segments ≠ []) : settle done segments ≠ [] := by
  induction segments generalizing done with
  | nil => exact absurd rfl some
  | cons segment segments ih =>
      unfold settle
      by_cases last : segments = []
      · subst last
        simp only [settle, leaves, if_true]
        split
        · simp
        · split <;> simp
      · split
        · exact ih _ last
        · split <;> exact ih _ last

def setPath (text : List Char) (url : Url) : Url :=
  { url with
    path := readPath text
    nonempty := settle_nonempty [] (List.splitOnP_ne_nil _ _)
    settled := settle_settled (fun _ member => segmentsOf_separate member)
      fun _ member => absurd member List.not_mem_nil }

variable {init segments rest : List (List Char)}

theorem settle_append (settled : ∀ segment ∈ init, Settled segment) (done : List (List Char)) :
    settle done (init ++ rest) = settle (done ++ init) rest := by
  induction init generalizing done with
  | nil => rw [List.nil_append, List.append_nil]
  | cons segment init ih =>
      have first := settled segment List.mem_cons_self
      rw [List.cons_append, settle, first.encode, if_neg first.notDouble, if_neg first.notSingle,
        ih (fun other member => settled other (List.mem_cons_of_mem _ member)), List.append_assoc,
        List.singleton_append]

/-- Where no segment takes another one away, what was there before stays. -/
theorem settle_done (apart : ∀ segment ∈ segments, dots (encode segment) ≠ some 2)
    (done : List (List Char)) : settle done segments = done ++ settle [] segments := by
  induction segments generalizing done with
  | nil => rw [settle, settle, List.append_nil]
  | cons segment segments ih =>
      have later := ih fun other member => apart other (List.mem_cons_of_mem _ member)
      have first := apart segment List.mem_cons_self
      rw [settle, settle, if_neg first, if_neg first]
      split
      · rw [later, later ([] ++ _), List.nil_append, List.append_assoc]
      · rw [later, later ([] ++ _), List.nil_append, List.append_assoc]

theorem segmentsOf_pathText (settled : ∀ segment ∈ init, Settled segment) (text : List Char) :
    segmentsOf (pathText init ++ '/' :: text) = init ++ text.splitOnP separates := by
  have split (text' : List Char) (segments : List (List Char))
      (all : ∀ segment ∈ segments, Settled segment) :
      (pathText segments ++ '/' :: text').tail.splitOnP separates =
        segments ++ text'.splitOnP separates := by
    induction segments with
    | nil => rfl
    | cons segment segments ih =>
        obtain ⟨more, shape⟩ : ∃ more, pathText segments ++ '/' :: text' = '/' :: more := by
          cases segments <;> exact ⟨_, rfl⟩
        have later := ih fun other member => all other (List.mem_cons_of_mem _ member)
        rw [shape, List.tail_cons] at later
        rw [pathText, List.flatMap_cons, List.append_assoc, ← pathText, shape, List.cons_append,
          List.tail_cons, List.splitOnP_append_cons_of_forall_mem
            (fun letter member => ((all segment List.mem_cons_self).letters letter member).2)
            _ (by decide), later, List.cons_append]
  have begins : (pathText init ++ '/' :: text).head?.any separates = true := by
    cases init <;> rfl
  rw [segmentsOf, if_pos begins, split text init settled]

theorem readPath_append (settled : ∀ segment ∈ init, Settled segment) (text : List Char) :
    readPath (pathText init ++ '/' :: text) = settle init (text.splitOnP separates) := by
  rw [readPath, segmentsOf_pathText settled, settle_append settled, List.nil_append]

theorem Settled.splitOnP {segment : List Char} (settled : Settled segment) :
    segment.splitOnP separates = [segment] :=
  List.splitOnP_eq_singleton fun letter member => (settled.letters letter member).2

theorem pathText_append (front back : List (List Char)) :
    pathText (front ++ back) = pathText front ++ pathText back :=
  List.flatMap_append

theorem pathText_concat (front : List (List Char)) (segment : List Char) :
    pathText (front ++ [segment]) = pathText front ++ '/' :: segment := by
  rw [pathText_append, pathText, pathText, List.flatMap_singleton]

/-- A path that is settled is read as it stands. -/
theorem readPath_pathText {path : List (List Char)} (some : path ≠ [])
    (settled : ∀ segment ∈ path, Settled segment) : readPath (pathText path) = path := by
  obtain ⟨init, last, rfl⟩ := (List.eq_nil_or_concat' path).resolve_left some
  have lastSettled := settled last (List.mem_append_right _ (List.mem_singleton_self last))
  rw [pathText_concat, readPath_append fun other member =>
    settled other (List.mem_append_left _ member), lastSettled.splitOnP, settle,
    lastSettled.encode, if_neg lastSettled.notDouble, if_neg lastSettled.notSingle, settle]

/-- The path of a request target and its query. A fragment is not sent. -/
def cutTarget (text : List Char) : List Char × List Char :=
  let path := text.takeWhile fun letter => letter != '?' && letter != '#'
  match text.dropWhile fun letter => letter != '?' && letter != '#' with
  | '?' :: rest => (path, rest.takeWhile (· != '#'))
  | _ => (path, [])

def readPlus (text : List Char) : List Char :=
  text.map fun letter => if letter = '+' then ' ' else letter

def readParam (part : List Char) : List Char × List Char :=
  (decode (readPlus (part.takeWhile (· != '='))), decode (readPlus (part.dropWhile (· != '=')).tail))

def params (query : List Char) : List (List Char × List Char) :=
  (query.splitOn '&').map readParam

theorem cutTarget_append {front : List Char} (clean : '?' ∉ front ∧ '#' ∉ front)
    {separator : Char} (rest : List Char) (stops : separator = '?' ∨ separator = '#') :
    cutTarget (front ++ separator :: rest) =
      (front, if separator = '?' then rest.takeWhile (· != '#') else []) := by
  have inside : ∀ letter ∈ front, (letter != '?' && letter != '#') = true := by
    intro letter member
    rw [Bool.and_eq_true, bne_iff_ne, bne_iff_ne]
    exact ⟨fun same => clean.1 (same ▸ member), fun same => clean.2 (same ▸ member)⟩
  unfold cutTarget
  rw [List.takeWhile_append_of_pos inside, List.dropWhile_append_of_pos inside]
  rcases stops with rfl | rfl
  · rw [List.takeWhile_cons_of_neg (by decide), List.dropWhile_cons_of_neg (by decide),
      List.append_nil, if_pos rfl]
    rfl
  · rw [List.takeWhile_cons_of_neg (by decide), List.dropWhile_cons_of_neg (by decide),
      List.append_nil, if_neg (by decide)]
    rfl

theorem cutTarget_of_clean {text : List Char} (clean : '?' ∉ text ∧ '#' ∉ text) :
    cutTarget text = (text, []) := by
  have inside : ∀ letter ∈ text, (letter != '?' && letter != '#') = true := by
    intro letter member
    rw [Bool.and_eq_true, bne_iff_ne, bne_iff_ne]
    exact ⟨fun same => clean.1 (same ▸ member), fun same => clean.2 (same ▸ member)⟩
  unfold cutTarget
  rw [List.takeWhile_eq_self_iff.mpr inside, List.dropWhile_eq_nil_iff.mpr inside]

theorem cutTarget_cases (text : List Char) :
    ('?' ∉ text ∧ '#' ∉ text) ∨ ∃ front separator rest, text = front ++ separator :: rest ∧
      ('?' ∉ front ∧ '#' ∉ front) ∧ (separator = '?' ∨ separator = '#') := by
  have whole := List.takeWhile_append_dropWhile
    (p := fun letter => letter != '?' && letter != '#') (l := text)
  have clean {letter : Char} (inside : letter ∈ text.takeWhile fun letter =>
      letter != '?' && letter != '#') : letter ≠ '?' ∧ letter ≠ '#' := by
    have kept := List.mem_takeWhile_imp inside
    rwa [Bool.and_eq_true, bne_iff_ne, bne_iff_ne] at kept
  cases shape : text.dropWhile fun letter => letter != '?' && letter != '#' with
  | nil =>
      rw [shape, List.append_nil] at whole
      rw [whole] at clean
      exact .inl ⟨fun member => (clean member).1 rfl, fun member => (clean member).2 rfl⟩
  | cons separator rest =>
      have stops := List.head_dropWhile_not (fun letter => letter != '?' && letter != '#')
        (l := text) (by rw [shape]; simp)
      have stop : separator = '?' ∨ separator = '#' := by
        have implied : ¬separator = '?' → separator = '#' := by simpa [shape] using stops
        exact or_iff_not_imp_left.mpr implied
      rw [shape] at whole
      exact .inr ⟨_, separator, rest, whole.symm,
        ⟨fun member => (clean member).1 rfl, fun member => (clean member).2 rfl⟩, stop⟩

theorem notMem_marks {front text : List Char} (before : '?' ∉ front ∧ '#' ∉ front)
    (after : '?' ∉ text ∧ '#' ∉ text) : '?' ∉ front ++ text ∧ '#' ∉ front ++ text := by
  simp only [List.mem_append, not_or]
  exact ⟨⟨before.1, after.1⟩, before.2, after.2⟩

theorem cutTarget_front {front : List Char} (clean : '?' ∉ front ∧ '#' ∉ front)
    (text : List Char) :
    cutTarget (front ++ text) = (front ++ (cutTarget text).1, (cutTarget text).2) := by
  rcases cutTarget_cases text with after | ⟨middle, separator, rest, rfl, after, stops⟩
  · rw [cutTarget_of_clean after, cutTarget_of_clean (notMem_marks clean after)]
  · rw [← List.append_assoc, cutTarget_append (notMem_marks clean after) rest stops,
      cutTarget_append after rest stops]

theorem params_append (front back : List Char) :
    params (front ++ '&' :: back) = params front ++ params back := by
  rw [params, List.splitOn_append_cons_self, List.map_append]
  rfl

theorem params_of_notMem {query : List Char} (one : '&' ∉ query) :
    params query = [readParam query] := by
  rw [params, List.splitOn_eq_singleton one]
  rfl

theorem readPlus_eq {text : List Char} (plain : '+' ∉ text) : readPlus text = text := by
  refine (List.map_congr_left fun letter member => ?_).trans (List.map_id text)
  have apart : letter ≠ '+' := fun same => plain (same ▸ member)
  rw [if_neg apart, id]

theorem readParam_append {name value : List Char} (apart : '=' ∉ name)
    (plain : ∀ text ∈ [name, value], '%' ∉ text ∧ '+' ∉ text) :
    readParam (name ++ '=' :: value) = (name, value) := by
  have inside : ∀ letter ∈ name, (letter != '=') = true := by
    intro letter inside
    rw [bne_iff_ne]
    exact fun same => apart (same ▸ inside)
  have name' := plain name (by simp)
  have value' := plain value (by simp)
  unfold readParam
  rw [List.takeWhile_append_of_pos inside, List.dropWhile_append_of_pos inside,
    List.takeWhile_cons_of_neg (by decide), List.dropWhile_cons_of_neg (by decide),
    List.append_nil, List.tail_cons, readPlus_eq name'.2, readPlus_eq value'.2,
    decode_eq name'.1, decode_eq value'.1]

/-- A question mark is left by decoding, as it is no digit. -/
theorem mark_decode {text : List Char} (member : '?' ∈ text) : '?' ∈ decode text := by
  induction text using decode.induct with
  | case1 high low rest first second firstRead secondRead ih =>
      rw [decode, firstRead, secondRead]
      have digit {letter : Char} {value : Nat} (read : Text.hexValue letter = some value) :
          '?' ≠ letter := by
        rintro rfl
        have none : Text.hexValue '?' = none := by decide
        rw [none] at read
        cases read
      have inside : '?' ∈ rest := by
        simpa [digit firstRead, digit secondRead] using member
      exact List.mem_cons_of_mem _ (ih inside)
  | case2 high low rest unread ih =>
      rw [decode]
      split
      · rename_i firstRead secondRead
        exact absurd secondRead (unread _ _ firstRead)
      · rcases List.mem_cons.mp member with same | member
        · cases same
        · exact List.mem_cons_of_mem _ (ih member)
  | case3 letter rest other ih =>
      rw [decode]
      · rcases List.mem_cons.mp member with rfl | member
        · exact List.mem_cons_self
        · exact List.mem_cons_of_mem _ (ih member)
      · exact other
  | case4 => cases member

theorem mark_readPlus {text : List Char} (member : '?' ∈ text) : '?' ∈ readPlus text :=
  List.mem_map.mpr ⟨'?', member, rfl⟩

theorem mark_readParam {part : List Char} (member : '?' ∈ part) :
    '?' ∈ (readParam part).1 ∨ '?' ∈ (readParam part).2 := by
  rw [← List.takeWhile_append_dropWhile (p := (· != '=')) (l := part), List.mem_append] at member
  rcases member with member | member
  · exact .inl (mark_decode (mark_readPlus member))
  · cases shape : part.dropWhile (· != '=') with
    | nil =>
        rw [shape] at member
        cases member
    | cons letter rest =>
        have stops := List.head_dropWhile_not (· != '=') (l := part) (by rw [shape]; simp)
        have equals : letter = '=' := by simpa [shape] using stops
        rw [shape, equals, List.mem_cons] at member
        have inside : '?' ∈ rest := member.resolve_left (by decide)
        right
        rw [readParam, shape]
        exact mark_decode (mark_readPlus inside)

theorem Settled.slash_notMem {segment : List Char} (settled : Settled segment) : '/' ∉ segment := by
  intro member
  exact absurd (settled.letters '/' member).2 (by decide)

end Url
