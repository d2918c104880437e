import Mathlib.Algebra.Order.Ring.Nat
import IosWebkitDebugProxy.Library.Utf8
import IosWebkitDebugProxy.ListenerFrames
import IosWebkitDebugProxy.ConfigLines

/-! The scanner of a line at the level of bytes, as the source has it. It panics
where it would cut a line inside a character, and it never does. -/

namespace IosWebkitDebugProxy

namespace PortConfig

def isBlankByte (byte : UInt8) : Bool := byte == 0x20 || byte == 0x09

def inSegmentByte (byte : UInt8) : Bool :=
  byte != 0 && byte != 0x0a && byte != 0x23 && byte != 0x2c

def skipWhile (accepts : UInt8 → Bool) (bytes : List UInt8) (curr : Nat) : Nat :=
  if curr < bytes.length ∧ bytes[curr]?.any accepts then skipWhile accepts bytes (curr + 1)
  else curr
termination_by bytes.length - curr

def sliceBytes (line : String) (curr last : Nat) : Option (List Char) :=
  (splitAtByte curr line.toList).bind fun (_, rest) =>
    (splitAtByte (last - curr) rest).map fun (segment, _) => segment

theorem skipWhile_eq (accepts : UInt8 → Bool) (bytes : List UInt8) (curr : Nat) :
    skipWhile accepts bytes curr = curr + ((bytes.drop curr).takeWhile accepts).length := by
  fun_induction skipWhile accepts bytes curr with
  | case1 curr goes ih =>
      obtain ⟨inside, accepted⟩ := goes
      rw [List.getElem?_eq_getElem inside, Option.any_some] at accepted
      rw [ih, List.drop_eq_getElem_cons inside, List.takeWhile_cons_of_pos accepted,
        List.length_cons]
      omega
  | case2 curr stops =>
      by_cases inside : curr < bytes.length
      · have refused : ¬accepts bytes[curr] = true := by
          intro accepted
          exact stops ⟨inside, by rwa [List.getElem?_eq_getElem inside, Option.any_some]⟩
        rw [List.drop_eq_getElem_cons inside, List.takeWhile_cons_of_neg refused]
        rfl
      · rw [List.drop_eq_nil_of_le (Nat.le_of_not_lt inside)]
        rfl

theorem le_skipWhile (accepts : UInt8 → Bool) (bytes : List UInt8) (curr : Nat) :
    curr ≤ skipWhile accepts bytes curr := by
  rw [skipWhile_eq]
  exact Nat.le_add_right _ _

/-- The scan of a line from a byte on. There is no result where the source panics. -/
def scanLine (line : String) (curr : Nat) (config : PortConfig) :
    Option (PortConfig × Option Nat) :=
  let bytes := line.toUTF8.data.toList
  if curr < bytes.length then
    let first := skipWhile isBlankByte bytes curr
    let last := skipWhile inSegmentByte bytes first
    let added := if first < last then (sliceBytes line first last).map fun segment =>
        config.addSegment segment
      else some (some config)
    match added with
    | none => none
    | some none => some (config, some first)
    | some (some config) =>
        if bytes.length ≤ last ∨ bytes[last]? ≠ some 0x2c then some (config, none)
        else scanLine line (last + 1) config
  else some (config, none)
termination_by line.toUTF8.data.toList.length - curr
decreasing_by
  have blanks := le_skipWhile isBlankByte bytes curr
  have segment := le_skipWhile inSegmentByte bytes first
  change bytes.length - (last + 1) < bytes.length - curr
  omega

def addLineBytes (line : String) (config : PortConfig) : Option (PortConfig × Option Nat) :=
  scanLine line 0 config

theorem bytes_eq (line : String) : line.toUTF8.data.toList = Utf8.encode line.toList := by
  rw [String.toUTF8_eq_toByteArray, ← String.utf8Encode_toList, List.utf8Encode,
    List.data_toByteArray]
  rfl

theorem utf8Length_eq (text : List Char) : (Utf8.encode text).length = utf8Length text := by
  induction text with
  | nil => rfl
  | cons letter text ih =>
      rw [Utf8.encode_cons, List.length_append, ih, String.length_utf8EncodeChar]
      rfl

theorem isBlankByte_agrees : Utf8.Agree isBlankByte isBlank :=
  (Utf8.Agree.single ' ' (by decide)).combine (Utf8.Agree.single '\t' (by decide)) or

theorem inSegmentByte_agrees : Utf8.Agree inSegmentByte inSegment :=
  (((Utf8.Agree.single '\x00' (by decide)).not.combine
    (Utf8.Agree.single '\n' (by decide)).not and).combine
      (Utf8.Agree.single '#' (by decide)).not and).combine
        (Utf8.Agree.single ',' (by decide)).not and

theorem splitAtByte_append (front rest : List Char) :
    splitAtByte (utf8Length front) (front ++ rest) = some (front, rest) := by
  induction front with
  | nil => simp [splitAtByte, utf8Length]
  | cons letter front ih =>
      have size : utf8Length (letter :: front) = letter.utf8Size + utf8Length front := rfl
      obtain ⟨more, shape⟩ : ∃ more, letter.utf8Size + utf8Length front = more + 1 :=
        ⟨letter.utf8Size + utf8Length front - 1, by
          have positive := letter.utf8Size_pos
          omega⟩
      have fits : letter.utf8Size ≤ more + 1 := by omega
      have left : more + 1 - letter.utf8Size = utf8Length front := by omega
      rw [size, shape, List.cons_append, splitAtByte, if_pos fits, left, ih]
      rfl

/-- A test of bytes stops where the test of characters stops. -/
theorem skipWhile_agrees {bytewise : UInt8 → Bool} {accepts : Char → Bool}
    (agree : Utf8.Agree bytewise accepts) {line : String} {front rest : List Char}
    (shape : line.toList = front ++ rest) :
    skipWhile bytewise line.toUTF8.data.toList (utf8Length front) =
      utf8Length front + utf8Length (rest.takeWhile accepts) := by
  rw [skipWhile_eq, bytes_eq, shape, Utf8.encode_append, ← utf8Length_eq front, List.drop_left,
    agree.takeWhile, utf8Length_eq, utf8Length_eq]

theorem sliceBytes_append {line : String} {front segment rest : List Char}
    (shape : line.toList = front ++ (segment ++ rest)) :
    sliceBytes line (utf8Length front) (utf8Length front + utf8Length segment) = some segment := by
  simp only [sliceBytes, shape, splitAtByte_append, Option.bind_some, Nat.add_sub_cancel_left,
    Option.map_some]

theorem utf8Length_pos {text : List Char} : 0 < utf8Length text ↔ text ≠ [] := by
  cases text with
  | nil => simp [utf8Length]
  | cons letter text =>
      have positive := letter.utf8Size_pos
      simp [utf8Length, positive]

theorem byte_comma {line : String} {front rest : List Char}
    (shape : line.toList = front ++ rest) :
    line.toUTF8.data.toList[utf8Length front]? = some 0x2c ↔ ∃ later, rest = ',' :: later := by
  have head : line.toUTF8.data.toList[utf8Length front]? = (Utf8.encode rest).head? := by
    rw [bytes_eq, shape, Utf8.encode_append, ← utf8Length_eq,
      List.getElem?_append_right (Nat.le_refl _), Nat.sub_self, List.head?_eq_getElem?]
  rw [head]
  exact (Utf8.Agree.head?_encode ',' (by decide) rest).trans List.head?_eq_some_iff

theorem scanLine_end {line : String} {curr : Nat}
    (stops : ¬curr < line.toUTF8.data.toList.length) (config : PortConfig) :
    scanLine line curr config = some (config, none) := by
  rw [scanLine]
  simp only [stops, if_false]

/-- One turn of the scanner, from a place between characters. -/
theorem scanLine_turn {line : String} {front blanks segment rest : List Char}
    (shape : line.toList = front ++ (blanks ++ (segment ++ rest)))
    (more : blanks ++ (segment ++ rest) ≠ [])
    (blank : (blanks ++ (segment ++ rest)).takeWhile isBlank = blanks)
    (inside : (segment ++ rest).takeWhile inSegment = segment) (config : PortConfig) :
    scanLine line (utf8Length front) config =
      match if segment = [] then some config else config.addSegment segment with
      | none => some (config, some (utf8Length (front ++ blanks)))
      | some config =>
          if rest.head? = some ',' then
            scanLine line (utf8Length (front ++ blanks) + utf8Length segment + 1) config
          else some (config, none) := by
  have shape' : line.toList = (front ++ blanks) ++ (segment ++ rest) := by
    rw [shape, List.append_assoc]
  have shape'' : line.toList = (front ++ blanks ++ segment) ++ rest := by
    rw [shape', ← List.append_assoc]
  have length : line.toUTF8.data.toList.length =
      utf8Length (front ++ blanks) + utf8Length segment + utf8Length rest := by
    rw [bytes_eq, utf8Length_eq, shape'', utf8Length_append, utf8Length_append]
  have goes : utf8Length front < line.toUTF8.data.toList.length := by
    rw [bytes_eq, utf8Length_eq, shape, utf8Length_append]
    exact Nat.lt_add_of_pos_right (utf8Length_pos.mpr more)
  have first := skipWhile_agrees isBlankByte_agrees shape
  have last := skipWhile_agrees inSegmentByte_agrees shape'
  rw [blank, ← utf8Length_append] at first
  rw [inside] at last
  have comma := byte_comma shape''
  rw [utf8Length_append, ← List.head?_eq_some_iff] at comma
  have added : (if utf8Length (front ++ blanks) < utf8Length (front ++ blanks) +
        utf8Length segment then
      (sliceBytes line (utf8Length (front ++ blanks))
        (utf8Length (front ++ blanks) + utf8Length segment)).map fun segment =>
          config.addSegment segment
      else some (some config)) =
      some (if segment = [] then some config else config.addSegment segment) := by
    by_cases none : segment = []
    · simp [none, utf8Length]
    · rw [if_pos (Nat.lt_add_of_pos_right (utf8Length_pos.mpr none)), sliceBytes_append shape',
        if_neg none]
      rfl
  rw [scanLine]
  simp only [goes, if_true, first, last, added]
  cases if segment = [] then some config else config.addSegment segment with
  | none => rfl
  | some config =>
      simp only
      by_cases later : rest.head? = some ','
      · have room : ¬line.toUTF8.data.toList.length ≤
            utf8Length (front ++ blanks) + utf8Length segment := by
          have filled : rest ≠ [] := by
            rintro rfl
            cases later
          have positive := utf8Length_pos.mpr filled
          omega
        rw [if_pos later, if_neg]
        rintro (stops | other)
        · exact room stops
        · exact other (comma.mpr later)
      · rw [if_neg later, if_pos (.inr fun found => later (comma.mp found))]

/-- The scanner never panics, and reads what the line has character by character. -/
theorem scanLine_eq {line : String} {front rest : List Char}
    (shape : line.toList = front ++ rest) (config : PortConfig) :
    scanLine line (utf8Length front) config =
      some (addLineFrom (utf8Length front) rest config) := by
  induction count : rest.length using Nat.strongRecOn generalizing front rest config with
  | _ count ih =>
      by_cases empty : rest = []
      · subst empty
        have stops : ¬utf8Length front < line.toUTF8.data.toList.length := by
          rw [bytes_eq, utf8Length_eq, shape, List.append_nil]
          exact Nat.lt_irrefl _
        rw [scanLine_end stops, addLineFrom]
        rfl
      · have pieces : rest.takeWhile isBlank ++ ((rest.dropWhile isBlank).takeWhile inSegment ++
            (rest.dropWhile isBlank).dropWhile inSegment) = rest := by
          rw [List.takeWhile_append_dropWhile, List.takeWhile_append_dropWhile]
        have shape' := shape
        rw [← pieces] at shape'
        have blanks : utf8Length (front ++ rest.takeWhile isBlank) =
            utf8Length front + (rest.takeWhile isBlank).length := by
          rw [utf8Length_append, utf8Length_blanks (blanks_takeWhile rest)]
        rw [scanLine_turn shape' (by rwa [pieces]) (by rw [pieces])
          (by rw [List.takeWhile_append_dropWhile]), addLineFrom, if_neg empty, blanks]
        simp only
        cases added : (if (rest.dropWhile isBlank).takeWhile inSegment = [] then some config
          else config.addSegment ((rest.dropWhile isBlank).takeWhile inSegment)) with
        | none => rfl
        | some config' =>
            simp only
            split
            · rename_i comma
              obtain ⟨later, after⟩ := List.head?_eq_some_iff.mp comma
              have shape'' : line.toList = (front ++ rest.takeWhile isBlank ++
                  (rest.dropWhile isBlank).takeWhile inSegment ++ [',']) ++ later := by
                rw [shape', after]
                simp only [List.append_assoc, List.singleton_append]
              have position : utf8Length (front ++ rest.takeWhile isBlank ++
                  (rest.dropWhile isBlank).takeWhile inSegment ++ [',']) =
                  utf8Length front + (rest.takeWhile isBlank).length +
                    utf8Length ((rest.dropWhile isBlank).takeWhile inSegment) + 1 := by
                rw [utf8Length_append, utf8Length_append, blanks]
                rfl
              have shorter : later.length < rest.length := by
                have whole := congrArg List.length pieces
                rw [after, List.length_append, List.length_append, List.length_cons] at whole
                omega
              have rest' := ih later.length (count ▸ shorter) shape'' config' rfl
              rw [position] at rest'
              rw [rest']
              split
              · rename_i later' after'
                rw [after] at after'
                cases after'
                rfl
              · rename_i other
                exact absurd after (other later)
            · rename_i other
              split
              · rename_i later after
                rw [after] at other
                exact absurd rfl other
              · rfl

theorem addLineBytes_eq (line : String) (config : PortConfig) :
    config.addLineBytes line = some (config.addLine line) :=
  scanLine_eq (List.nil_append _).symm config

end PortConfig

/-! Rules written out and read again. -/

/-- An entry that can be written as a rule of its own. -/
structure WrittenRule where
  entry : PortConfigEntry
  named : ∀ deviceId, entry.deviceId = some deviceId → deviceId = "*" ∨
    25 ≤ deviceId.toList.length ∧ ∀ letter ∈ deviceId.toList, isUdidLetter letter = true
  minPort : 0 ≤ entry.minPort ∧ entry.minPort ≤ 65535
  maxPort : 0 ≤ entry.maxPort ∧ entry.maxPort ≤ 65535

namespace WrittenRule

def device (rule : WrittenRule) : List Char :=
  match rule.entry.deviceId with
  | none => "null".toList
  | some deviceId => deviceId.toList

def digits (port : Int) : List Char := Nat.toDigits 10 port.toNat

def text (rule : WrittenRule) : List Char :=
  rule.device ++ ':' :: (digits rule.entry.minPort ++ '-' :: digits rule.entry.maxPort)

def line (rules : List WrittenRule) : String :=
  String.ofList ([','].intercalate (rules.map text))

theorem deviceText (rule : WrittenRule) : DeviceText rule.device := by
  unfold device
  split
  · exact .null rfl
  · rename_i deviceId found
    rcases rule.named deviceId found with rfl | ⟨enough, letters⟩
    · exact .wildcard
    · exact .udid enough letters

theorem digits_number (port : Int) : Digits (digits port) :=
  ⟨Nat.toDigits_ne_nil, fun _ member =>
    Nat.isDigit_of_mem_toDigits (by decide) (Nat.le_refl 10) member⟩

theorem parseDigits_toDigits (number : Nat) :
    parseDigits (Nat.toDigits 10 number) = some number := by
  rw [parseDigits_eq Nat.toDigits_ne_nil fun _ member =>
    Nat.isDigit_of_mem_toDigits (by decide) (Nat.le_refl 10) member, Nat.ofDigitChars_ten_toDigits]

theorem parseI32_digits {port : Int} (positive : 0 ≤ port) (small : port ≤ 65535) :
    parseI32 (digits port) = some port := by
  have parsed : (parseDigits (digits port)).map Int.ofNat = some port := by
    rw [digits, parseDigits_toDigits, Option.map_some, Int.ofNat_eq_natCast,
      Int.toNat_of_nonneg positive]
  obtain ⟨digit, later, shape, first⟩ := (digits_number port).exists_cons
  unfold parseI32
  split
  · rename_i sign
    rw [shape] at sign
    cases sign
    exact absurd first (by decide)
  · rename_i sign
    rw [shape] at sign
    cases sign
    exact absurd first (by decide)
  · rw [parsed, Option.filter_some, if_pos]
    simp only [decide_eq_true_eq]
    omega

theorem portsText (first last : Int) :
    PortsText (digits first ++ '-' :: digits last) (some (digits first), some (digits last)) := by
  have none : Blanks [] := fun letter member => absurd member List.not_mem_nil
  have ends := LastText.present none none (digits_number last) none
  have whole := PortsText.present (.inl rfl) (digits_number first) ends
  simpa using whole

theorem readRule_text (rule : WrittenRule) :
    readRule rule.text = some (some rule.device, some (digits rule.entry.minPort),
      some (digits rule.entry.maxPort)) := by
  have none : Blanks [] := fun letter member => absurd member List.not_mem_nil
  have ends := portsText rule.entry.minPort rule.entry.maxPort
  have gap := readGap_of_portsText none (.inr rfl) none ends
  obtain ⟨ports, read, present⟩ := readPorts_of_portsText ends
  rw [present (Option.some_ne_none _)] at read
  obtain ⟨more, rest, letters, shape, found⟩ := readDevice_of_deviceText rule.deviceText
    (':' :: (digits rule.entry.minPort ++ '-' :: digits rule.entry.maxPort))
  have stops : more = [] := by
    cases more with
    | nil => rfl
    | cons letter more =>
        rw [List.cons_append, List.cons.injEq] at shape
        have named := letters letter List.mem_cons_self
        rw [← shape.1] at named
        exact absurd named (by decide)
  rw [stops, List.nil_append] at shape
  rw [stops, List.append_nil, ← shape] at found
  simp only [List.nil_append, List.singleton_append] at gap
  rw [readRule, text, rule.deviceText.dropWhile_blank, found]
  simp only [gap, read, Option.map_some]

theorem entryOf_text (rule : WrittenRule) :
    PortConfig.entryOf (some rule.device, some (digits rule.entry.minPort),
      some (digits rule.entry.maxPort)) = rule.entry := by
  have first := parseI32_digits rule.minPort.1 rule.minPort.2
  have last := parseI32_digits rule.maxPort.1 rule.maxPort.2
  have named : (if eqIgnoreAsciiCase (String.ofList rule.device) "null" then none
      else some (String.ofList rule.device)) = rule.entry.deviceId := by
    unfold device
    cases found : rule.entry.deviceId with
    | none => rfl
    | some deviceId =>
        have other : eqIgnoreAsciiCase deviceId "null" = false := by
          rcases rule.named deviceId found with rfl | ⟨enough, _⟩
          · rfl
          · rw [eqIgnoreAsciiCase, beq_eq_false_iff_ne]
            intro same
            have lengths := congrArg List.length same
            rw [List.length_map, List.length_map] at lengths
            have four : "null".toList.length = 4 := rfl
            omega
        rw [String.ofList_toList, other]
        rfl
  unfold PortConfig.entryOf
  simp only [Option.bind_some, first, last, Option.getD_some, named]

theorem inSegment_of_udidLetter {letter : Char} (named : isUdidLetter letter = true) :
    PortConfig.inSegment letter = true := by
  have apart (other : Char) (unnamed : isUdidLetter other = false) : (letter != other) = true := by
    rw [bne_iff_ne]
    rintro rfl
    rw [named] at unnamed
    cases unnamed
  simp only [PortConfig.inSegment, apart '\x00' (by decide), apart '\n' (by decide),
    apart '#' (by decide), apart ',' (by decide), Bool.and_self]

theorem inSegment_device (rule : WrittenRule) {letter : Char} (member : letter ∈ rule.device) :
    PortConfig.inSegment letter = true := by
  unfold device at member
  split at member
  · exact List.all_eq_true.mp (show "null".toList.all PortConfig.inSegment = true from rfl) letter
      member
  · rename_i deviceId found
    rcases rule.named deviceId found with rfl | ⟨_, letters⟩
    · exact List.all_eq_true.mp (show "*".toList.all PortConfig.inSegment = true from rfl) letter
        member
    · exact inSegment_of_udidLetter (letters letter member)

theorem inSegment_text (rule : WrittenRule) {letter : Char} (member : letter ∈ rule.text) :
    PortConfig.inSegment letter = true := by
  have digit {port : Int} (member : letter ∈ digits port) : PortConfig.inSegment letter = true :=
    inSegment_of_udidLetter (PortConfig.isUdidLetter_digit ((digits_number port).2 letter member))
  rw [text, List.mem_append, List.mem_cons, List.mem_append, List.mem_cons] at member
  rcases member with inside | rfl | inside | rfl | inside
  · exact rule.inSegment_device inside
  · decide
  · exact digit inside
  · decide
  · exact digit inside

theorem inLine_of_inSegment {letter : Char} (inside : PortConfig.inSegment letter = true) :
    inLine letter = true ∧ letter ≠ ',' := by
  rw [PortConfig.inSegment_eq, Bool.and_eq_true, bne_iff_ne] at inside
  exact inside

theorem inLine_line (rules : List WrittenRule) {letter : Char}
    (member : letter ∈ [','].intercalate (rules.map text)) : inLine letter = true := by
  induction rules with
  | nil => cases member
  | cons rule rules ih =>
      cases rules with
      | nil =>
          rw [List.map_singleton, List.intercalate_singleton] at member
          exact (inLine_of_inSegment (rule.inSegment_text member)).1
      | cons other rules =>
          rw [List.map_cons, List.map_cons, List.intercalate_cons_cons, List.mem_append,
            List.mem_append, List.mem_singleton, ← List.map_cons] at member
          rcases member with (inside | rfl) | later
          · exact (inLine_of_inSegment (rule.inSegment_text inside)).1
          · rfl
          · exact ih later

theorem lineItems_line (rules : List WrittenRule) (some : rules ≠ []) :
    lineItems (line rules).toList = rules.map text := by
  have whole : ∀ letter ∈ [','].intercalate (rules.map text), inLine letter = true :=
    fun letter member => inLine_line rules member
  rw [lineItems, line, String.toList_ofList, List.takeWhile_eq_self_iff.mpr whole,
    List.splitOn_intercalate ',' _ (by simpa using some)]
  intro item member comma
  obtain ⟨rule, _, rfl⟩ := List.mem_map.mp member
  exact (inLine_of_inSegment (rule.inSegment_text comma)).2 rfl

/-- Rules that are written in a line are the rules read from it. -/
theorem addLine_line (rules : List WrittenRule) :
    PortConfig.new.addLine (line rules) = (⟨rules.map entry⟩, none) := by
  by_cases none : rules = []
  · rw [none, PortConfig.addLine, PortConfig.addLineFrom_eq]
    rfl
  · have outcome := PortConfig.addLine_outcome (line rules) PortConfig.new
    rw [lineItems_line rules none] at outcome
    have entries : PortConfig.itemEntries (rules.map text) = rules.map entry := by
      simp [PortConfig.itemEntries, List.filterMap_map, readRule_text, entryOf_text]
    revert outcome
    generalize PortConfig.new.addLine (line rules) = result
    intro outcome
    cases outcome with
    | accepted fits =>
        rw [entries]
        rfl
    | @rejected before after item shape fits fails =>
        have member : item ∈ rules.map text := by
          rw [shape]
          exact List.mem_append_right _ List.mem_cons_self
        obtain ⟨rule, _, rfl⟩ := List.mem_map.mp member
        exact absurd (.inr ⟨_, ruleText_of_readRule rule.readRule_text⟩) fails

end WrittenRule

namespace PortConfig

theorem intercalate_append_cons (before : List (List Char)) (item : List Char)
    (after : List (List Char)) :
    [','].intercalate (before ++ item :: after) =
      (before.flatMap fun earlier => earlier ++ [',']) ++ [','].intercalate (item :: after) := by
  induction before with
  | nil => rfl
  | cons earlier before ih =>
      rw [List.cons_append, List.intercalate_cons_of_ne_nil (by simp), ih, List.flatMap_cons,
        List.append_assoc, List.append_assoc, List.append_assoc]

/-- What comes before the first letter of an item is what the line begins with. -/
theorem frontOf_prefix {line item : List Char} {before after : List (List Char)}
    (shape : lineItems line = before ++ item :: after) : frontOf before item <+: line := by
  have whole : [','].intercalate (lineItems line) = line.takeWhile inLine :=
    List.intercalate_splitOn ','
  rw [shape, intercalate_append_cons] at whole
  have first : item <+: [','].intercalate (item :: after) := by
    cases after with
    | nil =>
        rw [List.intercalate_singleton]
    | cons next after =>
        rw [List.intercalate_cons_cons, List.append_assoc]
        exact List.prefix_append _ _
  refine List.IsPrefix.trans ?_ (List.takeWhile_prefix inLine)
  rw [← whole]
  exact (List.prefix_append_right_inj _).mpr ((List.takeWhile_prefix isBlank).trans first)

theorem preferred_rules {items : List (List Char)} (fits : ∀ item ∈ items, Fits item) :
    ∃ rules, List.Forall₂ Preferred (items.filter isSolid) rules ∧
      itemEntries items = rules.map entryOf := by
  induction items with
  | nil => exact ⟨[], .nil, rfl⟩
  | cons item items ih =>
      obtain ⟨rules, preferred, entries⟩ := ih fun later member =>
        fits later (List.mem_cons_of_mem _ member)
      rcases fits item List.mem_cons_self with blanks | rule
      · have blank : ¬isSolid item = true := fun solid => (isSolid_iff item).mp solid blanks
        refine ⟨rules, by rwa [List.filter_cons_of_neg blank], ?_⟩
        rw [itemEntries_cons, entries]
        simp [itemEntries, readRule_of_blanks blanks]
      · obtain ⟨rule, read⟩ := Option.isSome_iff_exists.mp ((readRule_isSome_iff item).mpr rule)
        have solid : isSolid item = true := by
          rw [isSolid_iff]
          intro blanks
          rw [readRule_of_blanks blanks] at read
          cases read
        refine ⟨rule :: rules, ?_, ?_⟩
        · rw [List.filter_cons_of_pos solid]
          exact .cons (preferred_of_readRule read) preferred
        · rw [itemEntries_cons, entries]
          simp [itemEntries, read]

/-- The scanner accepts the lines of rules and adds their entries in order, points
to the first item of any other line that is no rule, and reads back the rules that
are written out. -/
theorem addLineBytes_parses :
    (∀ (line : String) (config : PortConfig), ∃ result, config.addLineBytes line = some result ∧
      (result.2 = none ↔
        ∀ item ∈ lineItems line.toList, ¬Blanks item → ∃ rule, RuleText item rule) ∧
      (result.2 = none → ∃ rules,
        List.Forall₂ Preferred ((lineItems line.toList).filter isSolid) rules ∧
          result.1.entries = config.entries ++ rules.map entryOf) ∧
      ∀ position, result.2 = some position → ∃ before item after,
        lineItems line.toList = before ++ item :: after ∧
          (∀ earlier ∈ before, ¬Blanks earlier → ∃ rule, RuleText earlier rule) ∧
          ¬Blanks item ∧ (∀ rule, ¬RuleText item rule) ∧
          frontOf before item <+: line.toList ∧ position = utf8Length (frontOf before item)) ∧
    ∀ rules : List WrittenRule, PortConfig.new.addLineBytes (WrittenRule.line rules) =
      some (⟨rules.map WrittenRule.entry⟩, none) := by
  refine ⟨?_, fun rules => by rw [addLineBytes_eq, WrittenRule.addLine_line]⟩
  intro line config
  refine ⟨config.addLine line, addLineBytes_eq line config, ?_⟩
  have fits_iff (items : List (List Char)) : (∀ item ∈ items, Fits item) ↔
      ∀ item ∈ items, ¬Blanks item → ∃ rule, RuleText item rule :=
    forall₂_congr fun _ _ => or_iff_not_imp_left
  have outcome := addLine_outcome line config
  revert outcome
  generalize config.addLine line = result
  intro outcome
  cases outcome with
  | accepted fits =>
      refine ⟨iff_of_true rfl ((fits_iff _).mp fits), fun _ => ?_, fun position none => ?_⟩
      · obtain ⟨rules, preferred, entries⟩ := preferred_rules fits
        exact ⟨rules, preferred, by rw [entries]⟩
      · cases none
  | @rejected before after item shape fits fails =>
      rw [Fits, not_or] at fails
      refine ⟨iff_of_false (Option.some_ne_none _) ?_, fun none => ?_, fun position found => ?_⟩
      · rw [← fits_iff, shape]
        intro all
        have fits' := all item (List.mem_append_right _ List.mem_cons_self)
        exact fits'.elim fails.1 fails.2
      · cases none
      · cases found
        exact ⟨before, item, after, shape, (fits_iff before).mp fits, fails.1,
          fun rule reads => fails.2 ⟨rule, reads⟩, frontOf_prefix shape, Nat.zero_add _⟩

end PortConfig

end IosWebkitDebugProxy
