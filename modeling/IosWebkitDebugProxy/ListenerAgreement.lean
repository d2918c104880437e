import IosWebkitDebugProxy.ListenerCore

/-! What a consumer of device events holds attached, compared with what the
parser knows. The two agree after every message exactly when no message breaks
the agreement where it is parsed. -/

namespace IosWebkitDebugProxy

open Plist DeviceListenerParser

inductive UsbmuxdReport where
  | attached (num : Nat) (deviceId : String)
  | detached (num : Nat)
  deriving DecidableEq, Repr

def report (message : Value) : Option UsbmuxdReport :=
  message.asDictionary.bind fun dict =>
    match messageType dict with
    | "Attached" =>
        ((dict.get "Properties").bind Value.asDictionary).bind fun props =>
          (attachedId props).map (.attached (attachedNum props))
    | "Detached" => ((dict.get "DeviceID").bind Value.asUnsignedInteger).map .detached
    | _ => none

inductive Parses (parser : DeviceListenerParser) :
    Option UsbmuxdReport → DeviceListenerParser → List DeviceEvent → Prop
  | attached (num deviceId) : Parses parser (some (.attached num deviceId))
      { parser with deviceNumToId := parser.deviceNumToId.assign num deviceId }
      [.attached deviceId (asI32 num)]
  | detached (num deviceId) : parser.deviceNumToId.lookup num = some deviceId →
      Parses parser (some (.detached num))
        { parser with deviceNumToId := parser.deviceNumToId.erase num }
        [.detached deviceId (asI32 num)]
  | unknown (num) : parser.deviceNumToId.lookup num = none →
      Parses parser (some (.detached num)) parser []
  | silent : Parses parser none parser []

theorem parseAttached_parses {parser after : DeviceListenerParser} {dict : Dictionary}
    {result : Except Error (Option DeviceEvent)}
    (parsed : parser.parseAttached dict = some (after, result)) :
    Parses parser (((dict.get "Properties").bind Value.asDictionary).bind fun props =>
      (attachedId props).map (.attached (attachedNum props))) after (sentEvents result) := by
  unfold parseAttached at parsed
  cases properties : (dict.get "Properties").bind Value.asDictionary with
  | none =>
      rw [properties] at parsed
      cases parsed
      exact .silent
  | some props =>
      rw [properties] at parsed
      simp only [Option.map_eq_some_iff] at parsed
      obtain ⟨deviceId, identified, same⟩ := parsed
      cases same
      simp only [Option.bind_some, identified, Option.map_some]
      exact .attached _ _

theorem parseDetached_parses (parser : DeviceListenerParser) (dict : Dictionary) :
    Parses parser (((dict.get "DeviceID").bind Value.asUnsignedInteger).map .detached)
      (parser.parseDetached dict).1 (sentEvents (parser.parseDetached dict).2) := by
  unfold parseDetached
  cases (dict.get "DeviceID").bind Value.asUnsignedInteger with
  | none => exact .silent
  | some num =>
      cases known : parser.deviceNumToId.lookup num with
      | none =>
          simp only [known]
          exact .unknown num known
      | some deviceId =>
          simp only [known]
          exact .detached num deviceId known

theorem parseResult_silent (parser : DeviceListenerParser) (dict : Dictionary) :
    (parser.parseResult dict).1 = parser ∧ sentEvents (parser.parseResult dict).2 = [] := by
  unfold parseResult
  split
  · split <;> exact ⟨rfl, rfl⟩
  · exact ⟨rfl, rfl⟩

theorem parseMessage_parses {parser after : DeviceListenerParser} {message : Value}
    {result : Except Error (Option DeviceEvent)}
    (parsed : parser.parseMessage message = some (after, result)) :
    Parses parser (report message) after (sentEvents result) := by
  unfold parseMessage at parsed
  unfold report
  cases shape : message.asDictionary with
  | none =>
      simp only [shape, Option.some.injEq, Prod.mk.injEq] at parsed
      obtain ⟨rfl, rfl⟩ := parsed
      exact .silent
  | some dict =>
      simp only [shape] at parsed
      simp only [Option.bind_some]
      split at parsed
      · rename_i isResult
        obtain ⟨same, quiet⟩ := parseResult_silent parser dict
        simp only [Option.some.injEq] at parsed
        rw [parsed] at same quiet
        simp only at same quiet
        rw [isResult, same, quiet]
        exact .silent
      · rename_i isAttached
        simp only [isAttached]
        exact parseAttached_parses parsed
      · rename_i isDetached
        have parses := parseDetached_parses parser dict
        simp only [Option.some.injEq] at parsed
        rw [parsed] at parses
        simpa only [isDetached] using parses
      · rename_i _ notAttached notDetached
        simp only [Option.some.injEq, Prod.mk.injEq] at parsed
        obtain ⟨rfl, rfl⟩ := parsed
        split
        · rename_i isAttached
          exact absurd isAttached notAttached
        · rename_i isDetached
          exact absurd isDetached notDetached
        · exact .silent

theorem mem_knownDevices {parser : DeviceListenerParser} {deviceId : String} :
    deviceId ∈ parser.knownDevices ↔ ∃ num, parser.deviceNumToId.lookup num = some deviceId := by
  simp [knownDevices, Table.mem_values]

theorem attachedDevices_append (earlier later : List DeviceEvent) :
    attachedDevices (earlier ++ later) = later.foldl trackDevice (attachedDevices earlier) :=
  List.foldl_append

/-- A message that keeps consumer and parser in agreement: a number is not given
to another device while it is the only number of the device it had, and a device
is detached only with its last number. -/
def KeepsAgreement (parser : DeviceListenerParser) (message : Value) : Prop :=
  match report message with
  | some (.attached num deviceId) =>
      ∀ old, parser.deviceNumToId.lookup num = some old →
        old = deviceId ∨ ∃ other, other ≠ num ∧ parser.deviceNumToId.lookup other = some old
  | some (.detached num) =>
      ∀ deviceId, parser.deviceNumToId.lookup num = some deviceId →
        ∀ other, parser.deviceNumToId.lookup other = some deviceId → other = num
  | none => True

theorem agreement_step {parser after : DeviceListenerParser} {message : Value}
    {sent : List DeviceEvent} (parses : Parses parser (report message) after sent) :
    sent.foldl trackDevice parser.knownDevices = after.knownDevices ↔
      KeepsAgreement parser message := by
  unfold KeepsAgreement
  generalize report message = reported at parses
  cases parses with
  | silent => simp
  | unknown num absent => simp [absent]
  | attached num deviceId =>
      simp only [List.foldl_cons, List.foldl_nil, trackDevice, Finset.ext_iff, Finset.mem_insert,
        mem_knownDevices, Table.lookup_assign]
      constructor
      · intro agrees old stored
        obtain ⟨other, found⟩ := (agrees old).mp (Or.inr ⟨num, stored⟩)
        split at found
        · exact Or.inl (Option.some.inj found).symm
        · rename_i apart
          exact Or.inr ⟨other, apart, found⟩
      · intro keeps device
        constructor
        · rintro (rfl | ⟨other, found⟩)
          · exact ⟨num, by simp⟩
          · by_cases same : other = num
            · subst same
              rcases keeps device found with rfl | ⟨spare, apart, kept⟩
              · exact ⟨other, by simp⟩
              · exact ⟨spare, by simpa [apart] using kept⟩
            · exact ⟨other, by simpa [same] using found⟩
        · rintro ⟨other, found⟩
          split at found
          · exact Or.inl (Option.some.inj found).symm
          · exact Or.inr ⟨other, found⟩
  | detached num deviceId stored =>
      simp only [List.foldl_cons, List.foldl_nil, trackDevice, Finset.ext_iff, Finset.mem_erase,
        mem_knownDevices]
      constructor
      · intro agrees known found other shared
        rw [stored] at found
        cases found
        by_contra apart
        have gone := (agrees deviceId).mpr
          ⟨other, by rw [AList.lookup_erase_ne apart]; exact shared⟩
        exact gone.1 rfl
      · intro last device
        constructor
        · rintro ⟨different, other, found⟩
          have apart : other ≠ num := by
            rintro rfl
            rw [stored] at found
            exact different (Option.some.inj found).symm
          exact ⟨other, by rw [AList.lookup_erase_ne apart]; exact found⟩
        · rintro ⟨other, found⟩
          have apart : other ≠ num := by
            rintro rfl
            rw [AList.lookup_erase] at found
            cases found
          rw [AList.lookup_erase_ne apart] at found
          refine ⟨?_, other, found⟩
          rintro rfl
          exact apart (last device stored other found)

theorem processAll_snoc (parser : DeviceListenerParser) (before : List Value) (message : Value) :
    parser.processAll (before ++ [message]) =
      match parser.processAll before with
      | none => none
      | some (middle, events) =>
          (middle.parseMessage message).map fun (after, result) =>
            (after, events ++ sentEvents result) := by
  induction before generalizing parser with
  | nil =>
      simp only [List.nil_append, processAll]
      cases parser.parseMessage message <;> simp
  | cons first rest ih =>
      simp only [List.cons_append, processAll]
      cases parser.parseMessage first with
      | none => rfl
      | some parsed =>
          obtain ⟨next, result⟩ := parsed
          simp only [ih]
          cases next.processAll rest with
          | none => rfl
          | some done =>
              obtain ⟨middle, events⟩ := done
              simp only [Option.map_some]
              cases middle.parseMessage message <;> simp

theorem processAll_snoc_some {parser after : DeviceListenerParser} {before : List Value}
    {message : Value} {events : List DeviceEvent}
    (processed : parser.processAll (before ++ [message]) = some (after, events)) :
    ∃ middle earlier sent, parser.processAll before = some (middle, earlier) ∧
      events = earlier ++ sent ∧ Parses middle (report message) after sent := by
  rw [processAll_snoc] at processed
  cases start : parser.processAll before with
  | none => simp [start] at processed
  | some reached =>
      obtain ⟨middle, earlier⟩ := reached
      simp only [start, Option.map_eq_some_iff] at processed
      obtain ⟨⟨next, result⟩, parsed, same⟩ := processed
      simp only [Prod.mk.injEq] at same
      obtain ⟨rfl, rfl⟩ := same
      exact ⟨middle, earlier, sentEvents result, rfl, rfl, parseMessage_parses parsed⟩

/-- After every message the consumer holds attached the devices that the parser
knows, exactly when every message that is parsed keeps the agreement. -/
theorem attachedDevices_eq_knownDevices_iff (messages : List Value) :
    (∀ before parser events, before <+: messages →
        DeviceListenerParser.new.processAll before = some (parser, events) →
        attachedDevices events = parser.knownDevices) ↔
      ∀ before message parser events, before ++ [message] <+: messages →
        DeviceListenerParser.new.processAll before = some (parser, events) →
        parser.parseMessage message ≠ none → KeepsAgreement parser message := by
  constructor
  · intro agrees before message parser events initial processed parsed
    obtain ⟨⟨after, result⟩, parsed⟩ := Option.ne_none_iff_exists'.mp parsed
    have next : DeviceListenerParser.new.processAll (before ++ [message]) =
        some (after, events ++ sentEvents result) := by
      rw [processAll_snoc, processed]
      simp [parsed]
    have start := agrees before parser events ((List.prefix_append _ _).trans initial) processed
    have finish := agrees _ after _ initial next
    rw [attachedDevices_append, start] at finish
    exact (agreement_step (parseMessage_parses parsed)).mp finish
  · intro keeps before
    induction before using List.reverseRecOn with
    | nil =>
        intro parser events _ processed
        cases processed
        rfl
    | append_singleton before message ih =>
        intro after events initial processed
        have processedAll := processed
        rw [processAll_snoc] at processedAll
        obtain ⟨parser, earlier, sent, started, rfl, parses⟩ := processAll_snoc_some processed
        have start := ih parser earlier ((List.prefix_append _ _).trans initial) started
        have parsed : parser.parseMessage message ≠ none := by
          intro panics
          simp [started, panics] at processedAll
        rw [attachedDevices_append, start]
        exact (agreement_step parses).mpr (keeps before message parser earlier initial started parsed)

def attachedMessage (num : Int) (serial : String) : Value :=
  .dictionary [("MessageType", .string "Attached"), ("DeviceID", .integer num),
    ("Properties", .dictionary [("DeviceID", .integer num), ("SerialNumber", .string serial)])]

def detachedMessage (num : Int) : Value :=
  .dictionary [("MessageType", .string "Detached"), ("DeviceID", .integer num)]

def listenResult : Value :=
  .dictionary [("MessageType", .string "Result"), ("Number", .integer 0)]

/-- A device on the cable and on the network is reported gone with the first of
its two numbers. -/
theorem attachedDevices_ne_knownDevices :
    ¬∀ messages parser events, DeviceListenerParser.new.processAll messages = some (parser, events) →
      attachedDevices events = parser.knownDevices := by
  intro agrees
  have same := agrees
    [attachedMessage 3 "00008030001A2B3C4D5E802E", attachedMessage 7 "00008030001A2B3C4D5E802E",
      detachedMessage 3] _ _ rfl
  revert same
  decide

/-! Connections that are lost and made again. The consumer keeps its devices,
while the new parser knows none of them. -/

/-- The device that a number was last reported to be, unless it was detached since. -/
def noteReport (num : Nat) (current : Option String) (message : Value) : Option String :=
  match report message with
  | some (.attached reported deviceId) => if reported = num then some deviceId else current
  | some (.detached reported) => if reported = num then none else current
  | none => current

def lastReported (messages : List Value) (num : Nat) : Option String :=
  messages.foldl (noteReport num) none

def sessionDevices (messages : List Value) : Set String :=
  {deviceId | ∃ num, lastReported messages num = some deviceId}

def OneNumberPerSerial (messages : List Value) : Prop :=
  ∀ first ∈ messages, ∀ second ∈ messages, ∀ firstNum secondNum deviceId,
    report first = some (.attached firstNum deviceId) →
    report second = some (.attached secondNum deviceId) → firstNum = secondNum

theorem lastReported_snoc (before : List Value) (message : Value) (num : Nat) :
    lastReported (before ++ [message]) num = noteReport num (lastReported before num) message := by
  simp [lastReported]

theorem lastReported_mem {messages : List Value} {num : Nat} {deviceId : String}
    (reported : lastReported messages num = some deviceId) :
    ∃ message ∈ messages, report message = some (.attached num deviceId) := by
  induction messages using List.reverseRecOn with
  | nil => cases reported
  | append_singleton before message ih =>
      have earlier (found : lastReported before num = some deviceId) :
          ∃ member ∈ before ++ [message], report member = some (.attached num deviceId) := by
        obtain ⟨member, inside, said⟩ := ih found
        exact ⟨member, by simp [inside], said⟩
      rw [lastReported_snoc, noteReport] at reported
      split at reported
      · rename_i said
        split at reported
        · rename_i same
          cases reported
          subst same
          exact ⟨message, by simp, said⟩
        · exact earlier reported
      · split at reported
        · cases reported
        · exact earlier reported
      · exact earlier reported

theorem parses_lookup {parser after : DeviceListenerParser} {message : Value}
    {sent : List DeviceEvent} (parses : Parses parser (report message) after sent) (num : Nat) :
    after.deviceNumToId.lookup num =
      noteReport num (parser.deviceNumToId.lookup num) message := by
  unfold noteReport
  generalize report message = reported at parses
  cases parses with
  | silent => rfl
  | unknown reported absent =>
      by_cases same : reported = num
      · subst same
        simpa using absent
      · simp [same]
  | attached reported deviceId =>
      simp only [Table.lookup_assign]
      by_cases same : reported = num
      · simp [same]
      · simp [same, Ne.symm same]
  | detached reported deviceId stored =>
      by_cases same : reported = num
      · simp [same]
      · simp only [same, if_false]
        exact AList.lookup_erase_ne (Ne.symm same)

theorem processAll_lookup {messages : List Value} {parser : DeviceListenerParser}
    {events : List DeviceEvent}
    (processed : DeviceListenerParser.new.processAll messages = some (parser, events)) (num : Nat) :
    parser.deviceNumToId.lookup num = lastReported messages num := by
  induction messages using List.reverseRecOn generalizing parser events with
  | nil =>
      cases processed
      rfl
  | append_singleton before message ih =>
      obtain ⟨middle, earlier, sent, started, rfl, parses⟩ := processAll_snoc_some processed
      rw [parses_lookup parses, ih started, lastReported_snoc]

theorem sessionDevices_eq {messages : List Value} {parser : DeviceListenerParser}
    {events : List DeviceEvent}
    (processed : DeviceListenerParser.new.processAll messages = some (parser, events)) :
    sessionDevices messages = ↑parser.knownDevices := by
  ext deviceId
  simp only [sessionDevices, Set.mem_ofPred_eq, Finset.mem_coe, mem_knownDevices,
    processAll_lookup processed]

theorem processAll_of_prefix {before messages : List Value} {final : DeviceListenerParser × _}
    (initial : before <+: messages)
    (processed : DeviceListenerParser.new.processAll messages = some final) :
    ∃ parser events, DeviceListenerParser.new.processAll before = some (parser, events) := by
  obtain ⟨rest, rfl⟩ := initial
  induction rest using List.reverseRecOn generalizing final with
  | nil => exact ⟨_, _, by simpa using processed⟩
  | append_singleton rest message ih =>
      obtain ⟨after, events⟩ := final
      rw [← List.append_assoc] at processed
      obtain ⟨middle, earlier, _, started, _⟩ := processAll_snoc_some processed
      exact ih started

/-- The devices that the last connection with any message left attached. -/
def leftBehind (sessions : List (List Value)) : Set String :=
  sessions.foldl (fun devices session => if session = [] then devices else sessionDevices session) ∅

/-- Every device that was left attached is the one that the first message attaches. -/
def NoGhosts (leftOver : Set String) (session : List Value) : Prop :=
  ∀ first rest, session = first :: rest →
    ∀ ghost ∈ leftOver, ∃ num, report first = some (.attached num ghost)

def NumbersKept (session : List Value) : Prop :=
  ∀ before message, before ++ [message] <+: session → ∀ num deviceId old,
    report message = some (.attached num deviceId) → lastReported before num = some old →
    old = deviceId

theorem quiet_first_agrees_iff {leftOver : Finset String} {reported : Option UsbmuxdReport}
    (quiet : ∀ num ghost, reported ≠ some (.attached num ghost)) :
    leftOver = DeviceListenerParser.new.knownDevices ↔
      ∀ ghost ∈ leftOver, ∃ num, reported = some (.attached num ghost) := by
  constructor
  · rintro rfl ghost member
    simp [mem_knownDevices, DeviceListenerParser.new] at member
  · intro named
    apply Finset.eq_empty_of_forall_notMem
    intro ghost member
    obtain ⟨num, said⟩ := named ghost member
    exact quiet num ghost said

theorem first_message_agrees_iff {leftOver : Finset String} {first : Value}
    {after : DeviceListenerParser} {sent : List DeviceEvent}
    (parses : Parses DeviceListenerParser.new (report first) after sent) :
    sent.foldl trackDevice leftOver = after.knownDevices ↔
      ∀ ghost ∈ leftOver, ∃ num, report first = some (.attached num ghost) := by
  generalize report first = reported at parses
  cases parses with
  | detached num deviceId stored => cases stored
  | attached num deviceId =>
      simp only [List.foldl_cons, List.foldl_nil, trackDevice, Finset.ext_iff, Finset.mem_insert,
        mem_knownDevices, Table.lookup_assign]
      constructor
      · intro agrees ghost member
        obtain ⟨other, found⟩ := (agrees ghost).mp (Or.inr member)
        split at found
        · cases found
          exact ⟨num, rfl⟩
        · cases found
      · intro named device
        constructor
        · rintro (rfl | member)
          · exact ⟨num, by simp⟩
          · obtain ⟨_, same⟩ := named device member
            cases same
            exact ⟨num, by simp⟩
        · rintro ⟨other, found⟩
          split at found
          · exact Or.inl (Option.some.inj found).symm
          · cases found
  | unknown num absent => exact quiet_first_agrees_iff (by simp)
  | silent => exact quiet_first_agrees_iff (by simp)

theorem keepsAgreement_iff {session before : List Value} {message : Value}
    {parser : DeviceListenerParser} {events : List DeviceEvent}
    (single : OneNumberPerSerial session) (initial : before ++ [message] <+: session)
    (processed : DeviceListenerParser.new.processAll before = some (parser, events)) :
    KeepsAgreement parser message ↔ ∀ num deviceId old,
      report message = some (.attached num deviceId) → lastReported before num = some old →
      old = deviceId := by
  have inside : ∀ member ∈ before, member ∈ session := fun member found =>
    initial.subset (List.mem_append_left _ found)
  have sameNumber {num other : Nat} {deviceId : String}
      (first : parser.deviceNumToId.lookup num = some deviceId)
      (second : parser.deviceNumToId.lookup other = some deviceId) : other = num := by
    rw [processAll_lookup processed] at first second
    obtain ⟨left, leftInside, leftSaid⟩ := lastReported_mem first
    obtain ⟨right, rightInside, rightSaid⟩ := lastReported_mem second
    exact single right (inside _ rightInside) left (inside _ leftInside) _ _ _ rightSaid leftSaid
  unfold KeepsAgreement
  cases said : report message with
  | none => simp
  | some reported =>
      cases reported with
      | detached num =>
          simp only [Option.some.injEq, reduceCtorEq, false_implies, implies_true, iff_true]
          intro deviceId stored other shared
          exact sameNumber stored shared
      | attached num deviceId =>
          simp only [Option.some.injEq, UsbmuxdReport.attached.injEq, ← processAll_lookup processed]
          constructor
          · rintro keeps _ _ old ⟨rfl, rfl⟩ stored
            rcases keeps old stored with same | ⟨other, apart, shared⟩
            · exact same
            · exact absurd (sameNumber stored shared) apart
          · intro kept old stored
            exact Or.inl (kept num deviceId old ⟨rfl, rfl⟩ stored)

/-- After every message of a connection, the consumer holds attached the devices
that this connection has reported. -/
def AgreesThroughout (pastEvents : List DeviceEvent) (session : List Value) : Prop :=
  ∀ before parser events, before ≠ [] → before <+: session →
    DeviceListenerParser.new.processAll before = some (parser, events) →
    ↑(attachedDevices (pastEvents ++ events)) = sessionDevices before

theorem agreesThroughout_iff (pastEvents : List DeviceEvent) {session : List Value}
    {final : DeviceListenerParser × List DeviceEvent}
    (processed : DeviceListenerParser.new.processAll session = some final)
    (single : OneNumberPerSerial session) :
    AgreesThroughout pastEvents session ↔
      NoGhosts ↑(attachedDevices pastEvents) session ∧ NumbersKept session := by
  constructor
  · intro agrees
    refine ⟨?_, ?_⟩
    · rintro first rest rfl
      have initial : [] ++ [first] <+: first :: rest := ⟨rest, rfl⟩
      obtain ⟨after, events, started⟩ := processAll_of_prefix initial processed
      obtain ⟨middle, none, sent, empty, rfl, parses⟩ := processAll_snoc_some started
      cases empty
      have same := agrees _ after _ (by simp) initial started
      rw [sessionDevices_eq started, Finset.coe_inj, attachedDevices_append] at same
      exact (first_message_agrees_iff parses).mp same
    · intro before message initial
      obtain ⟨after, events, started⟩ := processAll_of_prefix initial processed
      obtain ⟨middle, prior, sent, reached, rfl, parses⟩ := processAll_snoc_some started
      by_cases nonempty : before = []
      · subst nonempty
        intro num deviceId old _ impossible
        cases impossible
      · have start := agrees before middle prior nonempty
          ((List.prefix_append _ _).trans initial) reached
        have finish := agrees _ after _ (by simp) initial started
        rw [sessionDevices_eq reached, Finset.coe_inj] at start
        rw [sessionDevices_eq started, Finset.coe_inj, ← List.append_assoc, attachedDevices_append,
          start] at finish
        exact (keepsAgreement_iff single initial reached).mp ((agreement_step parses).mp finish)
  · rintro ⟨noGhosts, kept⟩ before
    induction before using List.reverseRecOn with
    | nil => intro _ _ absurdity; exact absurd rfl absurdity
    | append_singleton before message ih =>
        intro after events _ initial started
        obtain ⟨middle, prior, sent, reached, rfl, parses⟩ := processAll_snoc_some started
        rw [sessionDevices_eq started, Finset.coe_inj]
        by_cases nonempty : before = []
        · subst nonempty
          cases reached
          obtain ⟨rest, rfl⟩ := initial
          rw [List.nil_append, attachedDevices_append]
          exact (first_message_agrees_iff parses).mpr (noGhosts message rest rfl)
        · have start := ih middle prior nonempty ((List.prefix_append _ _).trans initial) reached
          rw [sessionDevices_eq reached, Finset.coe_inj] at start
          rw [← List.append_assoc, attachedDevices_append, start]
          exact (agreement_step parses).mpr
            ((keepsAgreement_iff single initial reached).mpr (kept before message initial))

theorem spawnDeviceListener_append (past later : List (List Value)) :
    spawnDeviceListener (past ++ later) =
      match spawnDeviceListener past, spawnDeviceListener later with
      | some pastEvents, some laterEvents => some (pastEvents ++ laterEvents)
      | _, _ => none := by
  induction past with
  | nil =>
      simp only [List.nil_append, spawnDeviceListener]
      cases spawnDeviceListener later <;> rfl
  | cons first rest ih =>
      simp only [List.cons_append, spawnDeviceListener, ih]
      cases DeviceListenerParser.new.processAll first with
      | none => rfl
      | some _ =>
          cases spawnDeviceListener rest <;> cases spawnDeviceListener later <;> simp

theorem spawnDeviceListener_split {past later : List (List Value)} {session : List Value}
    {events : List DeviceEvent}
    (ran : spawnDeviceListener (past ++ session :: later) = some events) :
    ∃ pastEvents final, spawnDeviceListener past = some pastEvents ∧
      DeviceListenerParser.new.processAll session = some final := by
  rw [spawnDeviceListener_append] at ran
  split at ran
  · rename_i pastEvents laterEvents pastRan laterRan
    refine ⟨pastEvents, ?_⟩
    rw [spawnDeviceListener] at laterRan
    split at laterRan
    · rename_i processed _
      exact ⟨_, pastRan, processed⟩
    · cases laterRan
  · cases ran

theorem attachedDevices_eq_leftBehind {sessions : List (List Value)} {events : List DeviceEvent}
    (ran : spawnDeviceListener sessions = some events)
    (agrees : ∀ past session later pastEvents, sessions = past ++ session :: later →
      spawnDeviceListener past = some pastEvents → AgreesThroughout pastEvents session) :
    ↑(attachedDevices events) = leftBehind sessions := by
  induction sessions using List.reverseRecOn generalizing events with
  | nil =>
      cases ran
      simp [attachedDevices, leftBehind]
  | append_singleton past session ih =>
      obtain ⟨pastEvents, ⟨parser, sent⟩, pastRan, processed⟩ := spawnDeviceListener_split ran
      have shape : events = pastEvents ++ sent := by
        simpa [spawnDeviceListener_append, pastRan, spawnDeviceListener, processed] using ran.symm
      have earlier := ih pastRan fun before earlier later beforeEvents split =>
        agrees before earlier (later ++ [session]) beforeEvents (by simp [split])
      rw [leftBehind, List.foldl_append, List.foldl_cons, List.foldl_nil, ← leftBehind, shape]
      by_cases quiet : session = []
      · subst quiet
        cases processed
        rw [if_pos rfl, List.append_nil]
        exact earlier
      · rw [if_neg quiet]
        exact agrees past session [] pastEvents rfl pastRan session parser sent quiet
          List.prefix_rfl processed

/-- A run over any number of connections keeps the consumer's devices equal to
those that the connection at hand has reported, after every message of it,
exactly when no connection finds a device left behind by the one before it,
apart from the one its first message attaches, and no number changes its device. -/
theorem run_agreesThroughout_iff {sessions : List (List Value)} {events : List DeviceEvent}
    (ran : spawnDeviceListener sessions = some events)
    (single : ∀ session ∈ sessions, OneNumberPerSerial session) :
    (∀ past session later pastEvents, sessions = past ++ session :: later →
        spawnDeviceListener past = some pastEvents → AgreesThroughout pastEvents session) ↔
      ∀ past session later, sessions = past ++ session :: later →
        NoGhosts (leftBehind past) session ∧ NumbersKept session := by
  have each {past later : List (List Value)} {session : List Value}
      {pastEvents : List DeviceEvent} (shape : sessions = past ++ session :: later)
      (pastRan : spawnDeviceListener past = some pastEvents)
      (agrees : ∀ before session later beforeEvents, past = before ++ session :: later →
        spawnDeviceListener before = some beforeEvents → AgreesThroughout beforeEvents session) :
      AgreesThroughout pastEvents session ↔
        NoGhosts (leftBehind past) session ∧ NumbersKept session := by
    subst shape
    obtain ⟨_, final, _, processed⟩ := spawnDeviceListener_split ran
    rw [← attachedDevices_eq_leftBehind pastRan agrees]
    exact agreesThroughout_iff pastEvents processed (single session (by simp))
  constructor
  · rintro agrees past session later rfl
    obtain ⟨pastEvents, _, pastRan, _⟩ := spawnDeviceListener_split ran
    apply (each rfl pastRan _).mp (agrees past session later pastEvents rfl pastRan)
    rintro before earlier between beforeEvents rfl beforeRan
    exact agrees before earlier (between ++ session :: later) beforeEvents (by simp) beforeRan
  · intro kept past session later pastEvents shape pastRan
    induction length : past.length using Nat.strong_induction_on
      generalizing past session later pastEvents with
    | _ count ih =>
        apply (each shape pastRan _).mpr (kept past session later shape)
        rintro before earlier between beforeEvents rfl beforeRan
        refine ih before.length ?_ before earlier (between ++ session :: later) beforeEvents
          (by simp [shape]) beforeRan rfl
        simp only [List.length_append, List.length_cons] at length
        omega

def pluggedDevice : Value := attachedMessage 3 "00008030001A2B3C4D5E802E"

theorem oneNumberPerSerial_singleton (message : Value) : OneNumberPerSerial [message] := by
  intro first firstInside second secondInside firstNum secondNum deviceId firstSaid secondSaid
  simp only [List.mem_singleton] at firstInside secondInside
  subst firstInside secondInside
  rw [firstSaid] at secondSaid
  cases secondSaid
  rfl

theorem run_agreesThroughout_iff_replugged :
    (∀ past session later pastEvents,
        [[pluggedDevice], [pluggedDevice]] = past ++ session :: later →
        spawnDeviceListener past = some pastEvents → AgreesThroughout pastEvents session) ↔
      ∀ past session later, [[pluggedDevice], [pluggedDevice]] = past ++ session :: later →
        NoGhosts (leftBehind past) session ∧ NumbersKept session := by
  have ran : spawnDeviceListener [[pluggedDevice], [pluggedDevice]] =
      some [.attached "00008030-001A2B3C4D5E802E" 3,
        .attached "00008030-001A2B3C4D5E802E" 3] := by decide
  refine run_agreesThroughout_iff ran ?_
  intro session member
  simp only [List.mem_cons, List.not_mem_nil, or_false, or_self] at member
  subst member
  exact oneNumberPerSerial_singleton _

/-- A device unplugged while the connection was down stays attached. -/
theorem ghost_stays_attached :
    ¬∀ sessions events, spawnDeviceListener sessions = some events →
      (∀ session ∈ sessions, OneNumberPerSerial session) →
      ∀ past session later pastEvents, sessions = past ++ session :: later →
        spawnDeviceListener past = some pastEvents → AgreesThroughout pastEvents session := by
  intro agrees
  have ran : spawnDeviceListener [[pluggedDevice], [listenResult]] =
      some [.attached "00008030-001A2B3C4D5E802E" 3] := by decide
  have before : spawnDeviceListener [[pluggedDevice]] =
      some [.attached "00008030-001A2B3C4D5E802E" 3] := by decide
  have listening : DeviceListenerParser.new.processAll [listenResult] =
      some (DeviceListenerParser.new, []) := rfl
  have single : ∀ session ∈ [[pluggedDevice], [listenResult]], OneNumberPerSerial session := by
    intro session member
    simp only [List.mem_cons, List.not_mem_nil, or_false] at member
    rcases member with rfl | rfl <;> exact oneNumberPerSerial_singleton _
  have same := agrees _ _ ran single [[pluggedDevice]] [listenResult] [] _ rfl before
    [listenResult] _ _ (by simp) (List.prefix_refl _) listening
  rw [sessionDevices_eq listening, Finset.coe_inj] at same
  revert same
  decide

end IosWebkitDebugProxy
