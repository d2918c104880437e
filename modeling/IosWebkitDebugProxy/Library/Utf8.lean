import Mathlib.Data.List.Basic

/-! Text scanned byte by byte. A test of bytes that only tells ASCII characters
apart stops in the encoding of a text just where the test of characters stops in
the text. -/

namespace Utf8

def encode (text : List Char) : List UInt8 := text.flatMap String.utf8EncodeChar

@[simp] theorem encode_nil : encode [] = [] := rfl

@[simp] theorem encode_cons (letter : Char) (text : List Char) :
    encode (letter :: text) = String.utf8EncodeChar letter ++ encode text := rfl

theorem encode_append (front rest : List Char) :
    encode (front ++ rest) = encode front ++ encode rest :=
  List.flatMap_append

theorem large_or (first : UInt8) {second : UInt8} (large : 128 ≤ second) :
    128 ≤ first ||| second := by
  rw [UInt8.le_iff_toNat_le] at large ⊢
  rw [UInt8.toNat_or]
  exact Nat.le_trans large Nat.right_le_or

theorem utf8EncodeChar_large {letter : Char} (wide : letter.utf8Size ≠ 1) {byte : UInt8}
    (member : byte ∈ String.utf8EncodeChar letter) : 128 ≤ byte := by
  rcases letter.utf8Size_eq with one | two | three | four
  · exact absurd one wide
  · rw [String.utf8EncodeChar_eq_cons_cons two] at member
    simp only [List.mem_cons, List.not_mem_nil, or_false] at member
    rcases member with rfl | rfl <;> exact large_or _ (by decide)
  · rw [String.utf8EncodeChar_eq_cons_cons_cons three] at member
    simp only [List.mem_cons, List.not_mem_nil, or_false] at member
    rcases member with rfl | rfl | rfl <;> exact large_or _ (by decide)
  · rw [String.utf8EncodeChar_eq_cons_cons_cons_cons four] at member
    simp only [List.mem_cons, List.not_mem_nil, or_false] at member
    rcases member with rfl | rfl | rfl | rfl <;> exact large_or _ (by decide)

theorem val_of_narrow {letter : Char} (narrow : letter.utf8Size = 1) :
    letter.val.toNat < 128 := by
  have bound := UInt32.le_iff_toNat_le.mp (Char.utf8Size_eq_one_iff.mp narrow)
  exact Nat.lt_succ_of_le bound

/-- A test of bytes that agrees with a test of characters, and does not tell the
bytes of other than ASCII characters apart. -/
structure Agree (bytewise : UInt8 → Bool) (accepts : Char → Bool) : Prop where
  ascii : ∀ letter : Char, letter.utf8Size = 1 →
    bytewise letter.val.toUInt8 = accepts letter
  large : ∃ answer, (∀ byte, 128 ≤ byte → bytewise byte = answer) ∧
    ∀ letter : Char, letter.utf8Size ≠ 1 → accepts letter = answer

namespace Agree

variable {bytewise bytewise' : UInt8 → Bool} {accepts accepts' : Char → Bool}

theorem not (agree : Agree bytewise accepts) :
    Agree (fun byte => !bytewise byte) fun letter => !accepts letter := by
  obtain ⟨answer, bytes, letters⟩ := agree.large
  refine ⟨fun letter narrow => by rw [agree.ascii letter narrow], !answer, ?_, ?_⟩
  · intro byte large
    rw [bytes byte large]
  · intro letter wide
    rw [letters letter wide]

theorem combine (agree : Agree bytewise accepts) (agree' : Agree bytewise' accepts')
    (join : Bool → Bool → Bool) :
    Agree (fun byte => join (bytewise byte) (bytewise' byte))
      fun letter => join (accepts letter) (accepts' letter) := by
  obtain ⟨answer, bytes, letters⟩ := agree.large
  obtain ⟨answer', bytes', letters'⟩ := agree'.large
  refine ⟨fun letter narrow => by rw [agree.ascii letter narrow, agree'.ascii letter narrow],
    join answer answer', ?_, ?_⟩
  · intro byte large
    rw [bytes byte large, bytes' byte large]
  · intro letter wide
    rw [letters letter wide, letters' letter wide]

theorem single (wanted : Char) (narrow : wanted.utf8Size = 1) :
    Agree (· == wanted.val.toUInt8) (· == wanted) := by
  refine ⟨?_, false, ?_, ?_⟩
  · intro letter single
    rw [Bool.eq_iff_iff, beq_iff_eq, beq_iff_eq]
    constructor
    · intro same
      have small := val_of_narrow narrow
      have small' := val_of_narrow single
      have value := congrArg UInt8.toNat same
      rw [UInt32.toNat_toUInt8, UInt32.toNat_toUInt8, Nat.mod_eq_of_lt (by omega),
        Nat.mod_eq_of_lt (by omega)] at value
      exact Char.ext (UInt32.toNat_inj.mp value)
    · rintro rfl
      rfl
  · intro byte large
    rw [beq_eq_false_iff_ne]
    rintro rfl
    have small := val_of_narrow narrow
    rw [UInt8.le_iff_toNat_le, UInt32.toNat_toUInt8, Nat.mod_eq_of_lt (by omega)] at large
    exact absurd small (Nat.not_lt.mpr large)
  · intro letter wide
    rw [beq_eq_false_iff_ne]
    rintro rfl
    exact wide narrow

/-- Both tests stop at the same place. -/
theorem takeWhile (agree : Agree bytewise accepts) (text : List Char) :
    (encode text).takeWhile bytewise = encode (text.takeWhile accepts) := by
  induction text with
  | nil => rfl
  | cons letter text ih =>
      rw [encode_cons]
      by_cases narrow : letter.utf8Size = 1
      · rw [String.utf8EncodeChar_eq_singleton narrow, List.singleton_append, List.takeWhile_cons,
          List.takeWhile_cons, agree.ascii letter narrow]
        split
        · rw [ih, encode_cons, String.utf8EncodeChar_eq_singleton narrow, List.singleton_append]
        · rfl
      · obtain ⟨answer, bytes, letters⟩ := agree.large
        have all (byte : UInt8) (member : byte ∈ String.utf8EncodeChar letter) :
            bytewise byte = answer := bytes byte (utf8EncodeChar_large narrow member)
        cases answer with
        | true =>
            rw [List.takeWhile_append_of_pos all, List.takeWhile_cons_of_pos (letters letter narrow),
              encode_cons, ih]
        | false =>
            rw [List.takeWhile_cons_of_neg (by simp [letters letter narrow])]
            cases shape : String.utf8EncodeChar letter with
            | nil => exact absurd shape String.utf8EncodeChar_ne_nil
            | cons first more =>
                rw [shape] at all
                rw [List.cons_append, List.takeWhile_cons_of_neg (by simp [all first])]
                rfl

theorem head?_eq_some {Item : Type} [BEq Item] [LawfulBEq Item] (items : List Item)
    (wanted : Item) : items.head? = some wanted ↔ items.takeWhile (· == wanted) ≠ [] := by
  cases items with
  | nil => simp
  | cons item items =>
      by_cases same : item = wanted <;> simp [same]

/-- A text begins with an ASCII character just where its bytes do. -/
theorem head?_encode (wanted : Char) (narrow : wanted.utf8Size = 1) (text : List Char) :
    (encode text).head? = some wanted.val.toUInt8 ↔ text.head? = some wanted := by
  rw [head?_eq_some, head?_eq_some, (Agree.single wanted narrow).takeWhile]
  cases text.takeWhile (· == wanted) with
  | nil => simp
  | cons letter later => simp [String.utf8EncodeChar_ne_nil]

end Agree

end Utf8
