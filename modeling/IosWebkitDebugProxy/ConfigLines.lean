import Mathlib.Data.List.Flatten
import IosWebkitDebugProxy.ConfigGrammar

/-! Whole lines of port rules. A line is scanned item by item, and what an item
adds stays when a later item is no rule. -/

namespace IosWebkitDebugProxy

def inLine (letter : Char) : Bool := letter != '\x00' && letter != '\n' && letter != '#'

/-- The pieces between commas of what comes before a comment or an end of line. -/
def lineItems (line : List Char) : List (List Char) := (line.takeWhile inLine).splitOn ','

namespace PortConfig

/-- The scan of a line, told by its items. -/
def addItems (curr : Nat) : List (List Char) → PortConfig → PortConfig × Option Nat
  | [], config => (config, none)
  | item :: items, config =>
      if item.dropWhile isBlank = [] then addItems (curr + utf8Length item + 1) items config
      else
        match config.addSegment (item.dropWhile isBlank) with
        | none => (config, some (curr + (item.takeWhile isBlank).length))
        | some config => addItems (curr + utf8Length item + 1) items config

theorem inSegment_eq (letter : Char) : inSegment letter = (inLine letter && letter != ',') := rfl

theorem inSegment_of_blank {letter : Char} (blank : isBlank letter = true) :
    inSegment letter = true := by
  rcases isBlank_cases blank with rfl | rfl <;> decide

theorem takeWhile_inLine (line : List Char) :
    line.takeWhile inLine = line.takeWhile inSegment ++
      (line.dropWhile inSegment).takeWhile inLine := by
  induction line with
  | nil => rfl
  | cons letter line ih =>
      by_cases inside : inSegment letter = true
      · have early : inLine letter = true := by
          rw [inSegment_eq, Bool.and_eq_true] at inside
          exact inside.1
        rw [List.takeWhile_cons_of_pos early, List.takeWhile_cons_of_pos inside,
          List.dropWhile_cons_of_pos inside, ih, List.cons_append]
      · rw [List.takeWhile_cons_of_neg (p := inSegment) inside, List.dropWhile_cons_of_neg inside,
          List.nil_append]

theorem lineItems_comma {line later : List Char} (rest : line.dropWhile inSegment = ',' :: later) :
    lineItems line = line.takeWhile inSegment :: lineItems later := by
  have early : inLine ',' = true := rfl
  have apart : ',' ∉ line.takeWhile inSegment := by
    intro member
    have inside := List.all_eq_true.mp List.all_takeWhile _ member
    exact absurd inside (by decide)
  rw [lineItems, takeWhile_inLine, rest, List.takeWhile_cons_of_pos early,
    List.splitOn_append_cons_self_of_not_mem apart, lineItems]

theorem lineItems_last {line : List Char}
    (rest : ∀ later, line.dropWhile inSegment ≠ ',' :: later) :
    lineItems line = [line.takeWhile inSegment] := by
  have apart : ',' ∉ line.takeWhile inSegment := by
    intro member
    have inside := List.all_eq_true.mp List.all_takeWhile _ member
    exact absurd inside (by decide)
  have none : (line.dropWhile inSegment).takeWhile inLine = [] := by
    have stops := List.head?_dropWhile_not inSegment line
    cases shape : line.dropWhile inSegment with
    | nil => rfl
    | cons letter later =>
        rw [shape] at stops
        refine List.takeWhile_cons_of_neg ?_
        intro early
        have comma : letter = ',' := by simpa [inSegment_eq, early] using stops
        rw [comma] at shape
        exact rest later shape
  rw [lineItems, takeWhile_inLine, none, List.append_nil, List.splitOn_eq_singleton apart]

theorem takeWhile_inSegment (line : List Char) :
    line.takeWhile inSegment = line.takeWhile isBlank ++
      (line.dropWhile isBlank).takeWhile inSegment := by
  have whole : (line.takeWhile isBlank ++ line.dropWhile isBlank).takeWhile inSegment =
      line.takeWhile isBlank ++ (line.dropWhile isBlank).takeWhile inSegment :=
    List.takeWhile_append_of_pos fun letter member =>
      inSegment_of_blank (blanks_takeWhile line letter member)
  rwa [List.takeWhile_append_dropWhile] at whole

theorem dropWhile_inSegment (line : List Char) :
    (line.dropWhile isBlank).dropWhile inSegment = line.dropWhile inSegment := by
  have whole : (line.takeWhile isBlank ++ line.dropWhile isBlank).dropWhile inSegment =
      (line.dropWhile isBlank).dropWhile inSegment :=
    List.dropWhile_append_of_pos fun letter member =>
      inSegment_of_blank (blanks_takeWhile line letter member)
  rw [List.takeWhile_append_dropWhile] at whole
  exact whole.symm

theorem segment_split (line : List Char) :
    (line.takeWhile inSegment).takeWhile isBlank = line.takeWhile isBlank ∧
      (line.takeWhile inSegment).dropWhile isBlank =
        (line.dropWhile isBlank).takeWhile inSegment := by
  have solid := List.head?_dropWhile_not isBlank line
  have stops : ((line.dropWhile isBlank).takeWhile inSegment).takeWhile isBlank = [] ∧
      ((line.dropWhile isBlank).takeWhile inSegment).dropWhile isBlank =
        (line.dropWhile isBlank).takeWhile inSegment := by
    cases shape : line.dropWhile isBlank with
    | nil => exact ⟨rfl, rfl⟩
    | cons letter later =>
        rw [shape] at solid
        have other : ¬isBlank letter = true := by simpa using solid
        rw [List.takeWhile_cons]
        split
        · exact ⟨List.takeWhile_cons_of_neg other, List.dropWhile_cons_of_neg other⟩
        · exact ⟨rfl, rfl⟩
  have blanks := blanks_takeWhile line
  constructor
  · rw [takeWhile_inSegment, List.takeWhile_append_of_pos blanks, stops.1, List.append_nil]
  · rw [takeWhile_inSegment, List.dropWhile_append_of_pos blanks, stops.2]

theorem utf8Length_append (front rest : List Char) :
    utf8Length (front ++ rest) = utf8Length front + utf8Length rest := by
  simp [utf8Length]

theorem utf8Length_blanks {text : List Char} (blanks : Blanks text) :
    utf8Length text = text.length := by
  induction text with
  | nil => rfl
  | cons letter text ih =>
      have narrow : letter.utf8Size = 1 := by
        rcases isBlank_cases (blanks letter List.mem_cons_self) with rfl | rfl <;> rfl
      have later := ih fun other member => blanks other (List.mem_cons_of_mem _ member)
      simp only [utf8Length, List.map_cons, List.sum_cons, narrow, List.length_cons] at later ⊢
      rw [later, Nat.add_comm]

theorem addItems_segment (curr : Nat) (line : List Char) (items : List (List Char))
    (config : PortConfig) :
    addItems curr (line.takeWhile inSegment :: items) config =
      match if (line.dropWhile isBlank).takeWhile inSegment = [] then some config
        else config.addSegment ((line.dropWhile isBlank).takeWhile inSegment) with
      | none => (config, some (curr + (line.takeWhile isBlank).length))
      | some config =>
          addItems (curr + (line.takeWhile isBlank).length +
            utf8Length ((line.dropWhile isBlank).takeWhile inSegment) + 1) items config := by
  have size : utf8Length (line.takeWhile inSegment) = (line.takeWhile isBlank).length +
      utf8Length ((line.dropWhile isBlank).takeWhile inSegment) := by
    rw [takeWhile_inSegment, utf8Length_append, utf8Length_blanks (blanks_takeWhile line)]
  rw [addItems, (segment_split line).1, (segment_split line).2, size, ← Nat.add_assoc]
  split <;> rfl

theorem addLineFrom_eq (curr : Nat) (line : List Char) (config : PortConfig) :
    addLineFrom curr line config = addItems curr (lineItems line) config := by
  induction count : line.length using Nat.strongRecOn generalizing curr line config with
  | _ count ih =>
      rw [addLineFrom]
      split
      · rename_i empty
        rw [empty]
        rfl
      · obtain ⟨items, shape⟩ : ∃ items, lineItems line = line.takeWhile inSegment :: items := by
          by_cases comma : ∃ later, line.dropWhile inSegment = ',' :: later
          · obtain ⟨later, rest⟩ := comma
            exact ⟨_, lineItems_comma rest⟩
          · exact ⟨[], lineItems_last fun later rest => comma ⟨later, rest⟩⟩
        rw [shape, addItems_segment]
        simp only
        cases added : (if (line.dropWhile isBlank).takeWhile inSegment = [] then some config
          else config.addSegment ((line.dropWhile isBlank).takeWhile inSegment)) with
        | none => rfl
        | some config' =>
            simp only
            split
            · rename_i later rest
              rw [dropWhile_inSegment] at rest
              have whole := lineItems_comma rest
              rw [shape, List.cons.injEq] at whole
              have shorter := (List.dropWhile_suffix inSegment (l := line)).length_le
              rw [rest, List.length_cons] at shorter
              rw [whole.2]
              exact ih later.length (by omega) _ later config' rfl
            · rename_i other
              have last : lineItems line = [line.takeWhile inSegment] :=
                lineItems_last fun later rest => other later ((dropWhile_inSegment line).trans rest)
              rw [shape, List.cons.injEq] at last
              rw [last.2]
              rfl

def Fits (item : List Char) : Prop := Blanks item ∨ ∃ rule, RuleText item rule

def itemEntries (items : List (List Char)) : List PortConfigEntry :=
  items.filterMap fun item => (readRule item).map entryOf

def frontOf (before : List (List Char)) (item : List Char) : List Char :=
  (before.flatMap fun earlier => earlier ++ [',']) ++ item.takeWhile isBlank

theorem readRule_dropWhile (text : List Char) :
    readRule (text.dropWhile isBlank) = readRule text := by
  rw [readRule, readRule, List.dropWhile_idempotent]

theorem blanks_iff (text : List Char) : Blanks text ↔ text.dropWhile isBlank = [] :=
  List.dropWhile_eq_nil_iff.symm

theorem readRule_of_blanks {text : List Char} (blanks : Blanks text) : readRule text = none := by
  rw [readRule, (blanks_iff text).mp blanks]
  rfl

theorem utf8Length_frontOf_cons (earlier : List Char) (before : List (List Char))
    (item : List Char) :
    utf8Length (frontOf (earlier :: before) item) =
      utf8Length earlier + 1 + utf8Length (frontOf before item) := by
  have comma : utf8Length [','] = 1 := rfl
  simp only [frontOf, List.flatMap_cons, utf8Length_append, comma, Nat.add_assoc]

/-- Either all items fit and every rule adds its entry, or the items before the
first one that does not fit have added theirs. -/
inductive Outcome (curr : Nat) (config : PortConfig) (items : List (List Char)) :
    PortConfig × Option Nat → Prop where
  | accepted (fits : ∀ item ∈ items, Fits item) :
      Outcome curr config items (⟨config.entries ++ itemEntries items⟩, none)
  | rejected {before after : List (List Char)} {item : List Char}
      (shape : items = before ++ item :: after) (fits : ∀ earlier ∈ before, Fits earlier)
      (fails : ¬Fits item) :
      Outcome curr config items
        (⟨config.entries ++ itemEntries before⟩, some (curr + utf8Length (frontOf before item)))

theorem itemEntries_cons (item : List Char) (items : List (List Char)) :
    itemEntries (item :: items) = itemEntries [item] ++ itemEntries items := by
  rw [← List.singleton_append, itemEntries, List.filterMap_append]
  rfl

theorem Outcome.cons {curr : Nat} {config : PortConfig} {item : List Char}
    {items : List (List Char)} {result : PortConfig × Option Nat} (fits : Fits item)
    (outcome : Outcome (curr + utf8Length item + 1) ⟨config.entries ++ itemEntries [item]⟩ items
      result) : Outcome curr config (item :: items) result := by
  cases outcome with
  | accepted later =>
      have whole : Outcome curr config (item :: items)
          (⟨config.entries ++ itemEntries (item :: items)⟩, none) :=
        .accepted (List.forall_mem_cons.mpr ⟨fits, later⟩)
      rwa [itemEntries_cons, ← List.append_assoc] at whole
  | @rejected before after other shape earlier fails =>
      have whole : Outcome curr config (item :: items)
          (⟨config.entries ++ itemEntries (item :: before)⟩,
            some (curr + utf8Length (frontOf (item :: before) other))) :=
        .rejected (by rw [shape, List.cons_append]) (List.forall_mem_cons.mpr ⟨fits, earlier⟩) fails
      rwa [itemEntries_cons, ← List.append_assoc, utf8Length_frontOf_cons, ← Nat.add_assoc,
        ← Nat.add_assoc] at whole

theorem addItems_outcome (curr : Nat) (items : List (List Char)) (config : PortConfig) :
    Outcome curr config items (addItems curr items config) := by
  induction items generalizing curr config with
  | nil =>
      have none : Outcome curr config [] (⟨config.entries ++ itemEntries []⟩, none) :=
        .accepted fun item member => absurd member List.not_mem_nil
      rwa [itemEntries, List.filterMap_nil, List.append_nil] at none
  | cons item items ih =>
      rw [addItems]
      split
      · rename_i blank
        have blanks := (blanks_iff item).mpr blank
        have entries : itemEntries [item] = [] := by
          simp [itemEntries, readRule_of_blanks blanks]
        refine Outcome.cons (.inl blanks) ?_
        rw [entries, List.append_nil]
        exact ih _ config
      · rename_i solid
        rw [addSegment_eq, readRule_dropWhile]
        cases read : readRule item with
        | none =>
            have fails : ¬Fits item := by
              rintro (blanks | rule)
              · exact solid ((blanks_iff item).mp blanks)
              · have reads := (readRule_isSome_iff item).mpr rule
                rw [read] at reads
                cases reads
            have front : utf8Length (frontOf [] item) = (item.takeWhile isBlank).length := by
              rw [frontOf, List.flatMap_nil, List.nil_append,
                utf8Length_blanks (blanks_takeWhile item)]
            have refused : Outcome curr config (item :: items)
                (⟨config.entries ++ itemEntries []⟩, some (curr + utf8Length (frontOf [] item))) :=
              .rejected rfl (fun earlier member => absurd member List.not_mem_nil) fails
            rwa [itemEntries, List.filterMap_nil, List.append_nil, front] at refused
        | some rule =>
            have entries : itemEntries [item] = [entryOf rule] := by
              simp [itemEntries, read]
            refine Outcome.cons (.inr ⟨rule, ruleText_of_readRule read⟩) ?_
            rw [entries]
            exact ih _ ⟨config.entries ++ [entryOf rule]⟩

theorem addLine_outcome (line : String) (config : PortConfig) :
    Outcome 0 config (lineItems line.toList) (config.addLine line) := by
  rw [addLine, addLineFrom_eq]
  exact addItems_outcome 0 _ config

def isSolid (item : List Char) : Bool := !item.all isBlank

theorem isSolid_iff (item : List Char) : isSolid item = true ↔ ¬Blanks item := by
  rw [isSolid, Bool.not_eq_true', ← Bool.not_eq_true, List.all_eq_true]
  rfl

/-- A line has only rules, or the first of its items that is not blank is no rule. -/
def Atomic (line : String) : Prop :=
  (∀ item ∈ lineItems line.toList, Fits item) ∨
    ∃ item, (lineItems line.toList).find? isSolid = some item ∧ ∀ rule, ¬RuleText item rule

theorem itemEntries_eq_nil_iff {items : List (List Char)} (fits : ∀ item ∈ items, Fits item) :
    itemEntries items = [] ↔ ∀ item ∈ items, Blanks item := by
  simp only [itemEntries, List.filterMap_eq_nil_iff, Option.map_eq_none_iff]
  constructor
  · intro unread item member
    rcases fits item member with blanks | rule
    · exact blanks
    · have reads := (readRule_isSome_iff item).mpr rule
      rw [unread item member] at reads
      cases reads
  · intro blanks item member
    exact readRule_of_blanks (blanks item member)

/-- A line that is rejected leaves the rules as they were just when no rule comes
before the item that is at fault. -/
theorem addLine_unchanged_iff (line : String) (config : PortConfig) :
    ((config.addLine line).2 ≠ none → (config.addLine line).1 = config) ↔ Atomic line := by
  have outcome := addLine_outcome line config
  revert outcome
  generalize config.addLine line = result
  intro outcome
  cases outcome with
  | accepted fits => exact iff_of_true (fun rejected => absurd rfl rejected) (.inl fits)
  | @rejected before after item shape fits fails =>
      have solid : isSolid item = true := (isSolid_iff item).mpr fun blanks => fails (.inl blanks)
      have entries : (⟨config.entries ++ itemEntries before⟩ : PortConfig) = config ↔
          ∀ earlier ∈ before, Blanks earlier := by
        rw [← itemEntries_eq_nil_iff fits]
        constructor
        · intro same
          exact List.append_right_eq_self.mp (congrArg PortConfig.entries same)
        · intro none
          rw [none, List.append_nil]
      rw [Atomic, shape, List.find?_append]
      constructor
      · intro unchanged
        have blanks := entries.mp (unchanged (Option.some_ne_none _))
        have none : before.find? isSolid = none := by
          rw [List.find?_eq_none]
          intro earlier member found
          exact (isSolid_iff earlier).mp found (blanks earlier member)
        refine .inr ⟨item, ?_, fun rule reads => fails (.inr ⟨rule, reads⟩)⟩
        rw [none, Option.none_or, List.find?_cons_of_pos solid]
      · intro atomic _
        rw [entries]
        intro earlier member
        rcases atomic with fits' | ⟨first, found, unread⟩
        · exact absurd (fits' item (List.mem_append_right _ List.mem_cons_self)) fails
        · cases before' : before.find? isSolid with
          | none =>
              rw [List.find?_eq_none] at before'
              by_contra other
              exact before' earlier member ((isSolid_iff earlier).mpr other)
          | some first' =>
              rw [before', Option.some_or] at found
              cases found
              have solid' := (isSolid_iff first).mp (List.find?_some before')
              rcases fits first (List.mem_of_find?_eq_some before') with blanks | ⟨rule, reads⟩
              · exact absurd blanks solid'
              · exact absurd reads (unread rule)

/-! The lines of a file: what a line adds does not depend on the lines before it. -/

theorem addItems_added (curr : Nat) (items : List (List Char)) (config : PortConfig) :
    addItems curr items config =
      (⟨config.entries ++ (addItems curr items new).1.entries⟩, (addItems curr items new).2) := by
  have empty (entries : List PortConfigEntry) : entries ++ new.entries = entries :=
    List.append_nil entries
  induction items generalizing curr config with
  | nil => rw [addItems, addItems, empty]
  | cons item items ih =>
      rw [addItems, addItems]
      split
      · exact ih _ config
      · rw [addSegment_eq, addSegment_eq]
        cases readRule (item.dropWhile isBlank) with
        | none =>
            simp only [Option.map_none]
            rw [empty]
        | some rule =>
            simp only [Option.map_some]
            rw [ih _ ⟨config.entries ++ [entryOf rule]⟩, ih _ ⟨new.entries ++ [entryOf rule]⟩,
              List.append_assoc]
            rfl

def addedBy (line : String) : List PortConfigEntry := (new.addLine line).1.entries

def isAccepted (line : String) : Bool := (new.addLine line).2.isNone

theorem addLine_added (line : String) (config : PortConfig) :
    (config.addLine line).1 = ⟨config.entries ++ addedBy line⟩ := by
  rw [addedBy, addLine, addLine, addLineFrom_eq, addLineFrom_eq, addItems_added]

/-- The lines of a file before the first one that cannot be read. -/
def readLines : List (Except String String) → List String
  | .ok line :: lines => line :: readLines lines
  | _ => []

theorem addLines_added (lines : List (Except String String)) (config : PortConfig) :
    (config.addLines lines).1.entries =
      config.entries ++ (readLines lines).flatMap addedBy := by
  induction lines generalizing config with
  | nil => exact (List.append_nil _).symm
  | cons line lines ih =>
      cases line with
      | error error => exact (List.append_nil _).symm
      | ok line =>
          rw [addLines, ih, addLine_added, readLines, List.flatMap_cons, List.append_assoc]

theorem flatMap_filter_eq_iff {Item Other : Type} (keeps : Item → Bool)
    (others : Item → List Other) (items : List Item) :
    items.flatMap others = (items.filter keeps).flatMap others ↔
      ∀ item ∈ items, keeps item = false → others item = [] := by
  induction items with
  | nil => simp
  | cons item items ih =>
      rw [List.forall_mem_cons, ← ih, List.flatMap_cons, List.filter_cons]
      cases kept : keeps item with
      | true => simp
      | false =>
          have shorter := ((List.filter_sublist (l := items) (p := keeps)).flatMap others).length_le
          simp only [Bool.false_eq_true, if_false, true_implies]
          constructor
          · intro same
            have lengths := congrArg List.length same
            rw [List.length_append] at lengths
            have none : others item = [] := List.length_eq_zero_iff.mp (by omega)
            rw [none, List.nil_append] at same
            exact ⟨none, same⟩
          · rintro ⟨none, same⟩
            rw [none, List.nil_append, same]

theorem addedBy_rejected_iff (line : String) :
    (isAccepted line = false → addedBy line = []) ↔ Atomic line := by
  rw [← addLine_unchanged_iff line new, isAccepted, addedBy, Option.isNone_eq_false_iff,
    Option.isSome_iff_ne_none]
  refine imp_congr_right fun _ => ⟨fun none => ?_, fun same => by rw [same]; rfl⟩
  exact congrArg PortConfig.mk none

/-- What is rejected adds nothing just where no rule comes before the item at fault:
of a line by itself, and of the lines of a file. -/
theorem rejected_adds_nothing_iff (line : String) (lines : List (Except String String))
    (config : PortConfig) :
    (((config.addLine line).2 ≠ none → (config.addLine line).1 = config) ↔ Atomic line) ∧
      ((config.addLines lines).1.entries =
          config.entries ++ ((readLines lines).filter isAccepted).flatMap addedBy ↔
        ∀ line ∈ readLines lines, Atomic line) := by
  refine ⟨addLine_unchanged_iff line config, ?_⟩
  rw [addLines_added, List.append_cancel_left_eq, flatMap_filter_eq_iff]
  exact forall₂_congr fun line _ => addedBy_rejected_iff line

theorem rule_before_fault_is_kept :
    PortConfig.new.addLine ":9222,bad" = (⟨[⟨some "*", 9222, 9222⟩]⟩, some 6) ∧
      ¬((PortConfig.new.addLine ":9222,bad").2 ≠ none →
        (PortConfig.new.addLine ":9222,bad").1 = PortConfig.new) := by
  have items : lineItems ":9222,bad".toList = [":9222".toList, "bad".toList] := by decide
  rw [addLine, addLineFrom_eq, items]
  decide

end PortConfig

end IosWebkitDebugProxy
