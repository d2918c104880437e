import IosWebkitDebugProxy.ConfigPattern

/-! The grammar of the port rules. What the pattern takes from a rule is one of the
ways to read it in the grammar: the one with the longest device, and with a first
port if it can have one. -/

namespace IosWebkitDebugProxy

def Blanks (text : List Char) : Prop := ∀ letter ∈ text, isBlank letter = true

def Digits (text : List Char) : Prop := text ≠ [] ∧ ∀ letter ∈ text, letter.isDigit = true

inductive DeviceText : List Char → Prop where
  | udid {letters : List Char} (enough : 25 ≤ letters.length)
      (named : ∀ letter ∈ letters, isUdidLetter letter = true) : DeviceText letters
  | wildcard : DeviceText ['*']
  | null {letters : List Char} (same : letters.map Char.toLower = ['n', 'u', 'l', 'l']) :
      DeviceText letters

inductive LastText : List Char → Option (List Char) → Prop where
  | missing {text : List Char} (blanks : Blanks text) : LastText text none
  | present {before after digits trailing : List Char} (blanks : Blanks before)
      (blanks' : Blanks after) (number : Digits digits) (blanks'' : Blanks trailing) :
      LastText (before ++ '-' :: (after ++ (digits ++ trailing))) (some digits)

inductive PortsText : List Char → Option (List Char) × Option (List Char) → Prop where
  | missing {text : List Char} {last : Option (List Char)} (ends : LastText text last) :
      PortsText text (none, last)
  | present {sign digits text : List Char} {last : Option (List Char)}
      (signs : sign = [] ∨ sign = ['-']) (number : Digits digits) (ends : LastText text last) :
      PortsText (sign ++ (digits ++ text)) (some (sign ++ digits), last)

/-- The ways to read a rule. -/
inductive RuleText : List Char → RuleParts → Prop where
  | device {leading device before colon after text : List Char}
      {ports : Option (List Char) × Option (List Char)} (blanks : Blanks leading)
      (named : DeviceText device) (blanks' : Blanks before) (colons : colon = [] ∨ colon = [':'])
      (blanks'' : Blanks after) (ends : PortsText text ports) :
      RuleText (leading ++ (device ++ (before ++ (colon ++ (after ++ text))))) (some device, ports)
  | colon {leading after text : List Char} {ports : Option (List Char) × Option (List Char)}
      (blanks : Blanks leading) (blanks' : Blanks after) (ends : PortsText text ports) :
      RuleText (leading ++ ':' :: (after ++ text)) (none, ports)

theorem blanks_takeWhile (text : List Char) : Blanks (text.takeWhile isBlank) :=
  List.all_eq_true.mp List.all_takeWhile

theorem blanks_split (text : List Char) :
    ∃ blanks, Blanks blanks ∧ text = blanks ++ text.dropWhile isBlank :=
  ⟨text.takeWhile isBlank, blanks_takeWhile text, List.takeWhile_append_dropWhile.symm⟩

theorem digits_split {text : List Char} (number : text.takeWhile Char.isDigit ≠ []) :
    Digits (text.takeWhile Char.isDigit) :=
  ⟨number, List.all_eq_true.mp List.all_takeWhile⟩

theorem lastText_of_readLast {text : List Char} {last : Option (List Char)}
    (read : readLast text = some last) : LastText text last := by
  obtain ⟨before, blanks, whole⟩ := blanks_split text
  rw [readLast] at read
  cases rest : text.dropWhile isBlank with
  | nil =>
      rw [rest] at read whole
      cases read
      rw [List.append_nil] at whole
      rw [whole]
      exact .missing blanks
  | cons letter later =>
      rw [rest] at read whole
      simp only at read
      split at read
      · rename_i found
        obtain ⟨rfl, number, trailing⟩ := found
        cases read
        obtain ⟨after, blanks', whole'⟩ := blanks_split later
        have shape : text = before ++ '-' :: (after ++
            ((later.dropWhile isBlank).takeWhile Char.isDigit ++
              (later.dropWhile isBlank).dropWhile Char.isDigit)) := by
          rw [List.takeWhile_append_dropWhile, ← whole', ← whole]
        rw [shape]
        exact .present blanks blanks' (digits_split number) (List.all_eq_true.mp trailing)
      · cases read

theorem portsText_of_readPorts {text : List Char} {ports : Option (List Char) × Option (List Char)}
    (read : readPorts text = some ports) : PortsText text ports := by
  rw [readPorts] at read
  split at read
  · obtain ⟨last, ends, rfl⟩ := Option.map_eq_some_iff.mp read
    exact .missing (lastText_of_readLast ends)
  · rename_i number
    obtain ⟨last, ends, rfl⟩ := Option.map_eq_some_iff.mp read
    have signs : text = signOf text ++ text.drop (signOf text).length := by
      unfold signOf
      cases text with
      | nil => rfl
      | cons letter later =>
          by_cases dash : letter = '-' <;> simp [dash]
    have shape : text = signOf text ++ (numberOf text ++
        (text.drop (signOf text).length).dropWhile Char.isDigit) := by
      rw [numberOf, List.takeWhile_append_dropWhile]
      exact signs
    have sign : signOf text = [] ∨ signOf text = ['-'] := by
      unfold signOf
      split
      · exact .inr rfl
      · exact .inl rfl
    have whole : PortsText (signOf text ++ (numberOf text ++
        (text.drop (signOf text).length).dropWhile Char.isDigit))
        (some (signOf text ++ numberOf text), last) :=
      .present sign (digits_split number) (lastText_of_readLast ends)
    rwa [← shape] at whole

theorem deviceText_of_readDevice {text device rest : List Char}
    (read : readDevice text = some (device, rest)) : DeviceText device ∧ text = device ++ rest := by
  rw [readDevice] at read
  split at read
  · rename_i enough
    cases read
    exact ⟨.udid enough (List.all_eq_true.mp List.all_takeWhile),
      List.takeWhile_append_dropWhile.symm⟩
  · split at read
    · rename_i star
      cases read
      refine ⟨.wildcard, ?_⟩
      cases text with
      | nil => cases star
      | cons letter later =>
          cases star
          rfl
    · split at read
      · rename_i null
        cases read
        exact ⟨.null null, (List.take_append_drop 4 text).symm⟩
      · cases read

theorem readGap_split (text : List Char) :
    ∃ before colon after, Blanks before ∧ (colon = [] ∨ colon = [':']) ∧ Blanks after ∧
      text = before ++ (colon ++ (after ++ readGap text)) := by
  obtain ⟨before, blanks, whole⟩ := blanks_split text
  have none : Blanks [] := fun letter member => absurd member List.not_mem_nil
  rw [readGap]
  cases rest : text.dropWhile isBlank with
  | nil =>
      rw [rest] at whole
      exact ⟨before, [], [], blanks, .inl rfl, none, whole⟩
  | cons letter later =>
      rw [rest] at whole
      by_cases colon : letter = ':'
      · obtain ⟨after, blanks', whole'⟩ := blanks_split later
        refine ⟨before, [':'], after, blanks, .inr rfl, blanks', ?_⟩
        simp only [colon, if_true]
        rw [whole, colon, List.singleton_append, ← whole']
      · have solid := List.head?_dropWhile_not isBlank text
        rw [rest] at solid
        refine ⟨before, [], [], blanks, .inl rfl, none, ?_⟩
        simp only [colon, if_false, List.nil_append]
        rw [List.dropWhile_cons_of_neg (by simpa using solid)]
        exact whole

theorem ruleText_of_readRule {text : List Char} {rule : RuleParts}
    (read : readRule text = some rule) : RuleText text rule := by
  obtain ⟨leading, blanks, whole⟩ := blanks_split text
  rw [readRule] at read
  split at read
  · rename_i device rest found
    obtain ⟨ports, ends, rfl⟩ := Option.map_eq_some_iff.mp read
    obtain ⟨named, shape⟩ := deviceText_of_readDevice found
    obtain ⟨before, colon, after, blanks', colons, blanks'', gap⟩ := readGap_split rest
    have full := RuleText.device blanks named blanks' colons blanks'' (portsText_of_readPorts ends)
    rwa [← gap, ← shape, ← whole] at full
  · split at read
    · rename_i colon
      obtain ⟨ports, ends, rfl⟩ := Option.map_eq_some_iff.mp read
      obtain ⟨later, shape⟩ : ∃ later, text.dropWhile isBlank = ':' :: later := by
        cases rest : text.dropWhile isBlank with
        | nil =>
            rw [rest] at colon
            cases colon
        | cons letter later =>
            rw [rest] at colon
            cases colon
            exact ⟨later, rfl⟩
      rw [shape, List.drop_succ_cons, List.drop_zero] at ends
      obtain ⟨after, blanks', whole'⟩ := blanks_split later
      have full := RuleText.colon blanks blanks' (portsText_of_readPorts ends)
      rwa [← whole', ← shape, ← whole] at full
    · cases read

open PortConfig

theorem Digits.exists_cons {digits : List Char} (number : Digits digits) :
    ∃ digit later, digits = digit :: later ∧ digit.isDigit = true := by
  obtain ⟨digit, later, rfl⟩ := List.exists_cons_of_ne_nil number.1
  exact ⟨digit, later, rfl, number.2 digit List.mem_cons_self⟩

theorem Digits.dropWhile_blank {digits : List Char} (number : Digits digits) (rest : List Char) :
    (digits ++ rest).dropWhile isBlank = digits ++ rest := by
  obtain ⟨digit, later, rfl, first⟩ := number.exists_cons
  rw [List.cons_append, List.dropWhile_cons_of_neg (by simp [(isDigit_apart first).1])]

theorem readLast_stops {text : List Char} (ends : (readLast text).isSome) :
    text.takeWhile Char.isDigit = [] ∧ text.dropWhile Char.isDigit = text := by
  cases text with
  | nil => exact ⟨rfl, rfl⟩
  | cons letter later =>
      have other : ¬letter.isDigit = true := by
        intro digit
        rw [readLast_digit digit] at ends
        cases ends
      exact ⟨List.takeWhile_cons_of_neg other, List.dropWhile_cons_of_neg other⟩

theorem Blanks.stops {text : List Char} (blanks : Blanks text) :
    text.takeWhile Char.isDigit = [] ∧ text.dropWhile Char.isDigit = text := by
  refine readLast_stops ?_
  rw [readLast, List.dropWhile_eq_nil_iff.mpr blanks]
  rfl

theorem readLast_of_lastText {text : List Char} {last : Option (List Char)}
    (ends : LastText text last) : readLast text = some last := by
  cases ends with
  | missing blanks => rw [readLast, List.dropWhile_eq_nil_iff.mpr blanks]
  | present blanks blanks' number blanks'' =>
      have solid : isBlank '-' = false := rfl
      rw [readLast, dropWhile_blanks blanks, List.dropWhile_cons_of_neg (by simp [solid])]
      simp only [dropWhile_blanks blanks', number.dropWhile_blank,
        List.takeWhile_append_of_pos number.2, List.dropWhile_append_of_pos number.2,
        blanks''.stops, List.append_nil]
      rw [if_pos ⟨trivial, number.1, List.all_eq_true.mpr blanks''⟩]

theorem readLast_dropWhile (text : List Char) :
    readLast (text.dropWhile isBlank) = readLast text := by
  rw [readLast, readLast, List.dropWhile_idempotent]

theorem readPorts_number {sign digits text : List Char} {last : Option (List Char)}
    (signs : sign = [] ∨ sign = ['-']) (number : Digits digits) (ends : LastText text last) :
    readPorts (sign ++ (digits ++ text)) = some (some (sign ++ digits), last) := by
  have read := readLast_of_lastText ends
  have stops := readLast_stops (by rw [read]; rfl)
  have same : signOf (sign ++ (digits ++ text)) = sign := by
    rcases signs with rfl | rfl
    · obtain ⟨digit, later, rfl, first⟩ := number.exists_cons
      rw [List.nil_append, List.cons_append, signOf_cons, if_neg (isDigit_apart first).2.1]
    · rfl
  have digitsOf : numberOf (sign ++ (digits ++ text)) = digits := by
    rw [numberOf, same, List.drop_left, List.takeWhile_append_of_pos number.2, stops.1,
      List.append_nil]
  rw [readPorts, digitsOf, same, if_neg number.1, List.drop_left,
    List.dropWhile_append_of_pos number.2, stops.2, read]
  rfl

theorem readPorts_of_portsText {text : List Char}
    {ports : Option (List Char) × Option (List Char)} (ends : PortsText text ports) :
    ∃ ports', readPorts (text.dropWhile isBlank) = some ports' ∧
      (ports.1 ≠ none → ports' = ports) := by
  cases ends with
  | missing ends =>
      have read := readLast_of_lastText ends
      rw [← readLast_dropWhile] at read
      have reads := readPorts_isSome_of_readLast (by rw [read]; rfl)
      obtain ⟨ports', same⟩ := Option.isSome_iff_exists.mp reads
      exact ⟨ports', same, fun first => absurd rfl first⟩
  | @present sign digits text last signs number ends =>
      have solid : (sign ++ (digits ++ text)).dropWhile isBlank = sign ++ (digits ++ text) := by
        rcases signs with rfl | rfl
        · exact number.dropWhile_blank text
        · rfl
      rw [solid]
      exact ⟨_, readPorts_number signs number ends, fun _ => rfl⟩

theorem readGap_of_portsText {before colon after text : List Char}
    {ports : Option (List Char) × Option (List Char)} (blanks : Blanks before)
    (colons : colon = [] ∨ colon = [':']) (blanks' : Blanks after) (ends : PortsText text ports) :
    readGap (before ++ (colon ++ (after ++ text))) = text.dropWhile isBlank := by
  rw [readGap_blanks blanks]
  rcases colons with rfl | rfl
  · rw [List.nil_append, readGap_blanks blanks', ← readGap_dropWhile]
    obtain ⟨ports', read, _⟩ := readPorts_of_portsText ends
    have solid := List.head?_dropWhile_not isBlank text
    cases rest : text.dropWhile isBlank with
    | nil => rfl
    | cons letter later =>
        rw [rest] at read solid
        refine readGap_cons (by simpa using solid) ?_ later
        rintro rfl
        rw [readPorts_colon] at read
        cases read
  · have solid : isBlank ':' = false := rfl
    rw [List.singleton_append, readGap, List.dropWhile_cons_of_neg (by simp [solid])]
    simp only [if_true]
    exact dropWhile_blanks blanks' text

theorem exists_null {letters : List Char} (same : letters.map Char.toLower = ['n', 'u', 'l', 'l']) :
    ∃ letter later, letters = letter :: later ∧ letter.toLower = 'n' ∧ letters.length = 4 := by
  have count : letters.length = 4 := by
    rw [← List.length_map Char.toLower, same]
    rfl
  cases letters with
  | nil => cases same
  | cons letter later =>
      rw [List.map_cons, List.cons.injEq] at same
      exact ⟨letter, later, rfl, same.1, count⟩

theorem isBlank_udidLetter {letter : Char} (named : isUdidLetter letter = true) :
    isBlank letter = false := by
  rw [← Bool.not_eq_true]
  intro blank
  rw [(isBlank_apart blank).2.2.2] at named
  cases named

theorem DeviceText.dropWhile_blank {device : List Char} (named : DeviceText device)
    (rest : List Char) : (device ++ rest).dropWhile isBlank = device ++ rest := by
  cases named with
  | udid enough named =>
      cases device with
      | nil => simp at enough
      | cons letter later =>
          have solid := isBlank_udidLetter (named letter List.mem_cons_self)
          rw [List.cons_append, List.dropWhile_cons_of_neg (by simp [solid])]
  | wildcard => rfl
  | null same =>
      obtain ⟨letter, later, rfl, first, _⟩ := exists_null same
      rcases eq_of_toLower_n first with rfl | rfl <;> rfl

/-- A device takes the letters that come after it, too, if it has letters. -/
theorem readDevice_of_deviceText {device : List Char} (named : DeviceText device)
    (rest : List Char) : ∃ more rest', (∀ letter ∈ more, isUdidLetter letter = true) ∧
      rest = more ++ rest' ∧ readDevice (device ++ rest) = some (device ++ more, rest') := by
  cases named with
  | udid enough named =>
      refine ⟨rest.takeWhile isUdidLetter, rest.dropWhile isUdidLetter,
        List.all_eq_true.mp List.all_takeWhile, List.takeWhile_append_dropWhile.symm, ?_⟩
      rw [readDevice, List.takeWhile_append_of_pos named, List.dropWhile_append_of_pos named,
        if_pos]
      rw [List.length_append]
      exact Nat.le_trans enough (Nat.le_add_right _ _)
  | wildcard =>
      have other : isUdidLetter '*' = false := by decide
      refine ⟨[], rest, fun letter member => absurd member List.not_mem_nil, rfl, ?_⟩
      simp [readDevice, other]
  | null same =>
      obtain ⟨letter, later, rfl, first, count⟩ := exists_null same
      have other : isUdidLetter letter = false := by
        rcases eq_of_toLower_n first with rfl | rfl <;> decide
      have star : letter ≠ '*' := by
        rcases eq_of_toLower_n first with rfl | rfl <;> decide
      have front : (letter :: later ++ rest).take 4 = letter :: later := by
        rw [← count, List.take_left]
      have back : (letter :: later ++ rest).drop 4 = rest := by
        rw [← count, List.drop_left]
      refine ⟨[], rest, fun letter member => absurd member List.not_mem_nil, rfl, ?_⟩
      rw [readDevice, front, back, same]
      simp [other, star]

def deviceLength (rule : RuleParts) : Nat := (rule.1.getD []).length

/-- The reading of a rule with the longest device, and with a first port if it can
have one. -/
structure Preferred (text : List Char) (rule : RuleParts) : Prop where
  reads : RuleText text rule
  longest : ∀ other, RuleText text other → deviceLength other ≤ deviceLength rule
  first : ∀ other, RuleText text other → other.1 = rule.1 → other.2.1 ≠ none → other = rule

theorem readRule_of_ruleText {text : List Char} {other : RuleParts} (reads : RuleText text other) :
    ∃ rule, readRule text = some rule ∧ deviceLength other ≤ deviceLength rule ∧
      (other.1 = rule.1 → other.2.1 ≠ none → other = rule) := by
  cases reads with
  | @device leading device before colon after text ports blanks named blanks' colons blanks'' ends =>
      obtain ⟨more, rest', letters, shape, found⟩ :=
        readDevice_of_deviceText named (before ++ (colon ++ (after ++ text)))
      obtain ⟨ports', read, first⟩ := readPorts_of_portsText ends
      have whole := readGap_of_portsText blanks' colons blanks'' ends
      have reads : (readPorts (readGap rest')).isSome := by
        refine readGap_isSome_of_append letters ?_
        rw [← shape, whole, read]
        rfl
      obtain ⟨ports'', read'⟩ := Option.isSome_iff_exists.mp reads
      refine ⟨(some (device ++ more), ports''), ?_, ?_, ?_⟩
      · rw [readRule, dropWhile_blanks blanks, named.dropWhile_blank, found]
        simp only [read', Option.map_some]
      · simp [deviceLength]
      · intro same present
        have none : more = [] := by simpa using same
        rw [none, List.nil_append] at shape
        rw [← shape, whole, read] at read'
        cases read'
        rw [none, List.append_nil, first present]
  | @colon leading after text ports blanks blanks' ends =>
      obtain ⟨ports', read, first⟩ := readPorts_of_portsText ends
      have solid : isBlank ':' = false := rfl
      refine ⟨(none, ports'), ?_, le_refl _, ?_⟩
      · rw [readRule, dropWhile_blanks blanks, List.dropWhile_cons_of_neg (by simp [solid]),
          readDevice_colon]
        simp only [List.head?_cons, if_true, List.drop_succ_cons, List.drop_zero,
          dropWhile_blanks blanks', read, Option.map_some]
      · intro _ present
        rw [first present]

theorem readRule_isSome_iff (text : List Char) :
    (readRule text).isSome ↔ ∃ rule, RuleText text rule := by
  constructor
  · intro reads
    obtain ⟨rule, read⟩ := Option.isSome_iff_exists.mp reads
    exact ⟨rule, ruleText_of_readRule read⟩
  · intro ⟨rule, reads⟩
    obtain ⟨rule', read, _⟩ := readRule_of_ruleText reads
    rw [read]
    rfl

theorem preferred_of_readRule {text : List Char} {rule : RuleParts}
    (read : readRule text = some rule) : Preferred text rule := by
  refine ⟨ruleText_of_readRule read, ?_, ?_⟩
  · intro other reads
    obtain ⟨rule', read', longer, _⟩ := readRule_of_ruleText reads
    rw [read] at read'
    cases read'
    exact longer
  · intro other reads same present
    obtain ⟨rule', read', _, first⟩ := readRule_of_ruleText reads
    rw [read] at read'
    cases read'
    exact first same present

end IosWebkitDebugProxy
