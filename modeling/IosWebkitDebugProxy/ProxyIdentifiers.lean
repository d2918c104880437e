import IosWebkitDebugProxy.ProxyAttached
import IosWebkitDebugProxy.ProxyPublished

/-! Page identifiers on their way from a listing of the device to the commands that
messages of clients build. The device gives them as integers of 64 bits, and the
parser of listings narrows them to 32. -/

namespace IosWebkitDebugProxy

open Transition Plist

def identifierOf (page : Dictionary) : Option Nat :=
  (page.get "WIRPageIdentifierKey").bind Value.asUnsignedInteger

def givenIdentifiers (rpcDict : Value) : List Nat :=
  let args := (rpcDict.asDictionary.bind fun dict => dict.get "__argument").bind Value.asDictionary
  let listing := (args.bind fun args => args.get "WIRListingKey").bind Value.asDictionary
  (listing.getD []).filterMap fun (_, value) => value.asDictionary.bind identifierOf

def builtIdentifier (message : Value) : Option Nat :=
  ((message.asDictionary.bind fun dict => dict.get "__argument").bind Value.asDictionary).bind
    identifierOf

theorem okOr_eq_ok {Item : Type} {error : Error} {found : Option Item} {item : Item}
    (taken : okOr error found = .ok item) : found = some item := by
  cases found with
  | none => cases taken
  | some other =>
      cases taken
      rfl

theorem bind_eq_ok {Given Item : Type} {first : Except Error Given} {rest : Given → Except Error Item}
    {item : Item} (taken : first >>= rest = .ok item) :
    ∃ given, first = .ok given ∧ rest given = .ok item := by
  cases first with
  | error error => cases taken
  | ok given => exact ⟨given, rfl, taken⟩

theorem parsePage_identifier {page : Dictionary} {item : RpcPage}
    (parsed : parsePage page = .ok item) :
    ∃ identifier, identifierOf page = some identifier ∧ item.pageId = identifier % 2 ^ 32 := by
  obtain ⟨identifier, taken, made⟩ := bind_eq_ok parsed
  cases made
  exact ⟨identifier, okOr_eq_ok taken, rfl⟩

theorem parsePages_identifiers {pages : List Dictionary} {items : List RpcPage}
    (parsed : pages.mapM parsePage = .ok items) :
    items.map RpcPage.pageId = (pages.filterMap identifierOf).map (· % 2 ^ 32) := by
  induction pages generalizing items with
  | nil =>
      cases parsed
      rfl
  | cons page pages ih =>
      rw [List.mapM_cons] at parsed
      obtain ⟨item, first, parsed⟩ := bind_eq_ok parsed
      obtain ⟨later, rest, parsed⟩ := bind_eq_ok parsed
      cases parsed
      obtain ⟨identifier, given, narrowed⟩ := parsePage_identifier first
      rw [List.map_cons, List.filterMap_cons_some given, List.map_cons, ih rest, narrowed]

theorem parseRpcMessage_identifiers {rpcDict : Value} {appId : String} {items : List RpcPage}
    (parsed : parseRpcMessage rpcDict = .ok (.applicationSentListing appId items)) :
    items.map RpcPage.pageId = (givenIdentifiers rpcDict).map (· % 2 ^ 32) := by
  obtain ⟨dict, isDict, parsed⟩ := bind_eq_ok parsed
  obtain ⟨selector, isSelector, parsed⟩ := bind_eq_ok parsed
  obtain ⟨args, isArgs, parsed⟩ := bind_eq_ok parsed
  have given : givenIdentifiers rpcDict =
      (((args.get "WIRListingKey").bind Value.asDictionary).getD []).filterMap fun (_, value) =>
        value.asDictionary.bind identifierOf := by
    rw [givenIdentifiers, okOr_eq_ok isDict, Option.bind_some, okOr_eq_ok isArgs, Option.bind_some]
  rw [given]
  split at parsed
  · cases parsed
  · obtain ⟨apps, _, parsed⟩ := bind_eq_ok parsed
    cases parsed
  · obtain ⟨app, _, parsed⟩ := bind_eq_ok parsed
    cases parsed
  · obtain ⟨app, _, parsed⟩ := bind_eq_ok parsed
    cases parsed
  · obtain ⟨app, _, parsed⟩ := bind_eq_ok parsed
    split at parsed
    · rename_i listing found
      obtain ⟨pages, read, parsed⟩ := bind_eq_ok parsed
      cases parsed
      obtain ⟨entries, isEntries, read⟩ := bind_eq_ok read
      rw [found, Option.bind_some, okOr_eq_ok isEntries, Option.getD_some, parsePages_identifiers read,
        List.filterMap_filterMap]
    · rename_i missing
      cases parsed
      rw [missing]
      rfl
  · obtain ⟨app, _, parsed⟩ := bind_eq_ok parsed
    obtain ⟨destination, _, parsed⟩ := bind_eq_ok parsed
    obtain ⟨data, _, parsed⟩ := bind_eq_ok parsed
    cases parsed
  · obtain ⟨app, _, parsed⟩ := bind_eq_ok parsed
    obtain ⟨destination, _, parsed⟩ := bind_eq_ok parsed
    cases parsed
  · cases parsed

theorem get_insert (dict : Dictionary) (key other : String) (value : Value) :
    Dictionary.get other (Dictionary.insert key value dict) =
      if other = key then some value else Dictionary.get other dict := by
  induction dict with
  | nil =>
      rw [Dictionary.insert, Dictionary.get, List.lookup_cons]
      by_cases same : other = key
      · rw [if_pos same, beq_iff_eq.mpr same]
      · rw [if_neg same, beq_false_of_ne same]
        rfl
  | cons entry dict ih =>
      obtain ⟨first, old⟩ := entry
      simp only [Dictionary.get] at ih ⊢
      unfold Dictionary.insert
      by_cases here : first = key
      · subst here
        rw [if_pos rfl, List.lookup_cons, List.lookup_cons]
        by_cases same : other = first
        · rw [if_pos same, beq_iff_eq.mpr same]
        · rw [if_neg same, beq_false_of_ne same]
      · rw [if_neg here, List.lookup_cons, List.lookup_cons, ih]
        by_cases same : other = first
        · have apart : other ≠ key := same ▸ here
          simp only [beq_iff_eq.mpr same, if_neg apart]
        · rw [beq_false_of_ne same]

theorem get_insert_self (dict : Dictionary) (key : String) (value : Value) :
    Dictionary.get key (Dictionary.insert key value dict) = some value := by
  rw [get_insert, if_pos rfl]

theorem get_insert_of_ne (dict : Dictionary) {key other : String} (apart : other ≠ key)
    (value : Value) :
    Dictionary.get other (Dictionary.insert key value dict) = Dictionary.get other dict := by
  rw [get_insert, if_neg apart]

theorem builtIdentifier_buildMessage (selector : String) (args : Dictionary) :
    builtIdentifier (RpcSender.buildMessage selector args) = identifierOf args := by
  rw [RpcSender.buildMessage, builtIdentifier, Value.asDictionary, Option.bind_some,
    get_insert_self]
  rfl

theorem asUnsignedInteger_natCast (number : Nat) : (Value.integer number).asUnsignedInteger =
    if number < 2 ^ 64 then some number else none := by
  have same : (0 ≤ (number : Int) ∧ (number : Int) < 2 ^ 64) ↔ number < 2 ^ 64 := by omega
  simp only [Value.asUnsignedInteger, same, Int.toNat_natCast]

theorem builtIdentifier_build (sender : RpcSender) {command : RpcCommand} {target : String × Nat}
    (named : command.target = some target) :
    builtIdentifier (sender.build command) = if target.2 < 2 ^ 64 then some target.2 else none := by
  cases command with
  | reportIdentifier => cases named
  | forwardGetListing appId => cases named
  | forwardSocketSetup appId pageId senderId =>
      cases named
      rw [RpcSender.build, RpcSender.buildForwardSocketSetup, builtIdentifier_buildMessage,
        identifierOf, get_insert_of_ne _ (by decide), get_insert_self, Option.bind_some,
        asUnsignedInteger_natCast]
  | forwardSocketData appId pageId senderId data =>
      cases named
      rw [RpcSender.build, RpcSender.buildForwardSocketData, builtIdentifier_buildMessage,
        identifierOf, get_insert_of_ne _ (by decide), get_insert_of_ne _ (by decide),
        get_insert_self, Option.bind_some, asUnsignedInteger_natCast]
  | forwardDidClose appId pageId senderId =>
      cases named
      rw [RpcSender.build, RpcSender.buildForwardDidClose, builtIdentifier_buildMessage,
        identifierOf, get_insert_of_ne _ (by decide), get_insert_self, Option.bind_some,
        asUnsignedInteger_natCast]

namespace DeviceRuntime

variable {runtime : DeviceRuntime} {num pageId identifier : Nat} {appId : String}

def HasEntry (runtime : DeviceRuntime) (num : Nat) (appId : String) (pageId : Nat) : Prop :=
  ∃ page, runtime.pages.lookup num = some page ∧ page.appId = appId ∧ page.pageId = pageId

/-- The same pages with a write queue that takes whatever is built. -/
def openQueue (sender : RpcSender) (codec : WebInspectorCodec) (runtime : DeviceRuntime) :
    DeviceRuntime :=
  { runtime with wiHandle := some ⟨[], none⟩, wiCodec := some codec, rpcSender := some sender }

/-- The entry under a number is of the application, and whatever the messages of
clients build for it names the page by this identifier. -/
structure Carries (runtime : DeviceRuntime) (num : Nat) (appId : String) (identifier : Nat) :
    Prop where
  entry : ∃ page, runtime.pages.lookup num = some page ∧ page.appId = appId
  built : ∀ sender codec message command target, message.pageNum = num →
    command ∈ (runtime.openQueue sender codec).sentBy (.wsMessage message) →
    command.target = some target → builtIdentifier (sender.build command) = some identifier

theorem carries_iff (valid : PageTable runtime.pages) :
    Carries runtime num appId identifier ↔
      HasEntry runtime num appId identifier ∧ identifier < 2 ^ 64 := by
  constructor
  · rintro ⟨⟨page, found, app⟩, built⟩
    have sent : RpcCommand.forwardSocketData page.appId page.pageId (page.senderId.getD "") [0] ∈
        (runtime.openQueue ⟨""⟩ (.new false false)).sentBy (.wsMessage ⟨num, "", [0], false⟩) := by
      have ready : (runtime.openQueue ⟨""⟩ (.new false false)).canSend = true := rfl
      have here : (runtime.openQueue ⟨""⟩ (.new false false)).pages.lookup num = some page := found
      have table : PageTable (runtime.openQueue ⟨""⟩ (.new false false)).pages := valid
      have sends := @DeviceRuntime.sentBy_data _ table ⟨num, "", [0], false⟩ rfl
        (List.cons_ne_nil _ _)
      rw [sends, here]
      simp only [ready, if_true, List.mem_singleton]
    have named := built ⟨""⟩ (.new false false) ⟨num, "", [0], false⟩ _ (page.appId, page.pageId)
      rfl sent rfl
    rw [builtIdentifier_build _ rfl] at named
    split at named
    · rename_i small
      cases named
      exact ⟨⟨page, found, app, rfl⟩, small⟩
    · cases named
  · rintro ⟨⟨page, found, app, rfl⟩, small⟩
    refine ⟨⟨page, found, app⟩, ?_⟩
    rintro sender codec message command target rfl sent named
    have table : PageTable (runtime.openQueue sender codec).pages := valid
    obtain ⟨place, known, here, stored, rfl⟩ :=
      (handleWsMessage_moves table message).sends.drop command sent target named
    rw [here] at stored
    have same : page = known := Option.some.inj (found.symm.trans stored)
    rw [builtIdentifier_build sender named, ← same, if_pos small]

theorem HasEntry.of_shown {after : DeviceRuntime} (valid : PageTable runtime.pages)
    (later : PageTable after.pages)
    (same : after.pages.values.map PageInfo.shown = runtime.pages.values.map PageInfo.shown)
    (has : HasEntry runtime num appId pageId) : HasEntry after num appId pageId := by
  obtain ⟨page, found, rfl, rfl⟩ := has
  have listed : page.shown ∈ after.pages.values.map PageInfo.shown := by
    rw [same]
    exact List.mem_map_of_mem (Table.mem_values.mpr ⟨num, found⟩)
  obtain ⟨other, member, shown⟩ := List.mem_map.mp listed
  obtain ⟨place, stored⟩ := Table.mem_values.mp member
  simp only [PageInfo.shown, Prod.mk.injEq] at shown
  refine ⟨other, ?_, shown.2.1, shown.2.2.1⟩
  rw [← valid.numbered num page found, ← shown.1, later.numbered place other stored]
  exact stored

theorem handle_shown {event : RuntimeEvent}
    (noListing : ∀ appId items, event ≠ .rpc (.applicationSentListing appId items))
    (noEnd : ∀ app, event ≠ .rpc (.applicationDisconnected app)) :
    (runtime.handle event).pages.values.map PageInfo.shown =
      runtime.pages.values.map PageInfo.shown := by
  cases event with
  | wsMessage message => exact (handleWsMessage_sameView runtime message).shown
  | registration registration => rfl
  | rpc message =>
      cases message with
      | reportConnectedApplicationList apps =>
          refine (addListedApps_sameView apps _).shown.trans ?_
          split <;> rfl
      | applicationConnected app => exact (addAppId_sameView _ app.appId).shown
      | applicationDisconnected app => exact absurd rfl (noEnd app)
      | applicationSentListing appId items => exact absurd rfl (noListing appId items)
      | applicationSentData appId destination data =>
          exact (handleAppData_sameView runtime destination data).shown
      | applicationUpdated appId destination => exact (addAppId_sameView runtime destination).shown
      | _ => rfl

theorem removeAppId_hasEntry (ended : String) :
    HasEntry (runtime.removeAppId ended) num appId pageId ↔
      HasEntry runtime num appId pageId ∧ appId ≠ ended := by
  have after : (runtime.removeAppId ended).pages.lookup num =
      if num ∈ runtime.pages.keysWhere (fun page => page.appId == ended) then none
      else runtime.pages.lookup num := Table.lookup_eraseAll _ _ _
  have removed {page : PageInfo} (found : runtime.pages.lookup num = some page) :
      num ∈ runtime.pages.keysWhere (fun page => page.appId == ended) ↔ page.appId = ended := by
    rw [Table.mem_keysWhere]
    constructor
    · rintro ⟨other, stored, same⟩
      rw [found] at stored
      cases stored
      exact beq_iff_eq.mp same
    · exact fun same => ⟨page, found, beq_iff_eq.mpr same⟩
  constructor
  · rintro ⟨page, found, rfl, rfl⟩
    rw [after] at found
    split at found
    · cases found
    · rename_i stays
      exact ⟨⟨page, found, rfl, rfl⟩, fun same => stays ((removed found).mpr same)⟩
  · rintro ⟨⟨page, found, rfl, rfl⟩, apart⟩
    refine ⟨page, ?_, rfl, rfl⟩
    rw [after, if_neg fun inside => apart ((removed found).mp inside), found]

/-- A listing leaves the pages of other applications, as far as their numbers are not
given away. -/
theorem listPages_others (valid : PageTable runtime.pages) (listed : String)
    (items : List RpcPage) {page : PageInfo}
    (found : (items.foldl (listPage listed) runtime).pages.lookup num = some page)
    (apart : page.appId ≠ listed) : runtime.pages.lookup num = some page := by
  induction items generalizing runtime with
  | nil => exact found
  | cons item items ih =>
      have stored := ih (listPage_table valid listed item) found
      rcases listPage_news valid listed item with ⟨other, known, here, app, _, shape⟩ | ⟨_, shape⟩
      · rw [shape] at stored
        rcases Table.lookup_of_modify stored with ⟨rfl, old, before, rfl⟩ | ⟨_, before⟩
        · rw [here] at before
          cases before
          exact absurd app apart
        · exact before
      · rw [shape, Table.lookup_assign] at stored
        split at stored
        · cases stored
          exact absurd rfl apart
        · exact stored

end DeviceRuntime

inductive DeviceInput where
  | plist (rpcDict : Value)
  | wsMessage (message : WsToWiMessage)
  | registration (registration : WiToWsRegistration)

def DeviceInput.event : DeviceInput → Option RuntimeEvent
  | .plist rpcDict => (parseRpcMessage rpcDict).toOption.map .rpc
  | .wsMessage message => some (.wsMessage message)
  | .registration client => some (.registration client)

/-- The device takes the page off the list: its application has ended, or a listing of
the application leaves it out. -/
inductive Removes (appId : String) (identifier : Nat) : DeviceInput → Prop
  | ended (rpcDict app) : parseRpcMessage rpcDict = .ok (.applicationDisconnected app) →
      app.appId = appId → Removes appId identifier (.plist rpcDict)
  | unlisted (rpcDict items) :
      parseRpcMessage rpcDict = .ok (.applicationSentListing appId items) →
      identifier ∉ givenIdentifiers rpcDict → Removes appId identifier (.plist rpcDict)

namespace DeviceRuntime

variable {runtime : DeviceRuntime} {num identifier : Nat} {appId : String}

def take (runtime : DeviceRuntime) (input : DeviceInput) : DeviceRuntime :=
  match input.event with
  | some event => runtime.handle event
  | none => runtime

theorem take_paged (valid : Paged runtime) (input : DeviceInput) : Paged (runtime.take input) := by
  unfold take
  split
  · exact handle_paged valid _
  · exact valid

theorem run_take_paged (valid : Paged runtime) (inputs : List DeviceInput) :
    Paged (run take runtime inputs) :=
  run_invariant Paged valid (fun _ input held => take_paged held input) inputs

/-- Every identifier of a listing has an entry of its own, and until the device takes
the page off the list, whatever is built for the entry has the identifier. -/
def IdentifiersKept (start : DeviceRuntime) (inputs : List DeviceInput) : Prop :=
  ∀ past rpcDict rest appId items, inputs = past ++ .plist rpcDict :: rest →
    parseRpcMessage rpcDict = .ok (.applicationSentListing appId items) →
    ∃ place : Nat → Nat, Set.InjOn place { identifier | identifier ∈ givenIdentifiers rpcDict } ∧
      ∀ identifier ∈ givenIdentifiers rpcDict, ∀ later, later <+: rest →
        (∀ input ∈ later, ¬Removes appId identifier input) →
        Carries (run take start (past ++ .plist rpcDict :: later)) (place identifier) appId
          identifier

/-- A listing has identifiers of 32 bits only, and there are free numbers for the pages
that it adds. -/
def IdentifiersFit (runtime : DeviceRuntime) (input : DeviceInput) : Prop :=
  ∀ rpcDict appId items, input = .plist rpcDict →
    parseRpcMessage rpcDict = .ok (.applicationSentListing appId items) →
    (∀ identifier ∈ givenIdentifiers rpcDict, identifier < 2 ^ 32) ∧ RoomFor appId items runtime

theorem take_cases (runtime : DeviceRuntime) (input : DeviceInput) :
    (∃ rpcDict appId items, input = .plist rpcDict ∧
      parseRpcMessage rpcDict = .ok (.applicationSentListing appId items) ∧
      runtime.take input = runtime.handlePageListing appId items) ∨
    (∃ rpcDict app, input = .plist rpcDict ∧
      parseRpcMessage rpcDict = .ok (.applicationDisconnected app) ∧
      runtime.take input = runtime.removeAppId app.appId) ∨
    (∀ appId identifier, ¬Removes appId identifier input) ∧
      (runtime.take input).pages.values.map PageInfo.shown =
        runtime.pages.values.map PageInfo.shown := by
  cases input with
  | wsMessage message =>
      refine .inr (.inr ⟨fun appId identifier removes => ?_, ?_⟩)
      · cases removes
      · exact (handleWsMessage_sameView runtime message).shown
  | registration client =>
      refine .inr (.inr ⟨fun appId identifier removes => ?_, rfl⟩)
      cases removes
  | plist rpcDict =>
      cases parsed : parseRpcMessage rpcDict with
      | error error =>
          refine .inr (.inr ⟨fun appId identifier removes => ?_, ?_⟩)
          · cases removes with
            | ended _ app given => simp [parsed] at given
            | unlisted _ items given => simp [parsed] at given
          · simp [take, DeviceInput.event, parsed, Except.toOption]
      | ok message =>
          have taken : runtime.take (.plist rpcDict) = runtime.handle (.rpc message) := by
            simp [take, DeviceInput.event, parsed, Except.toOption]
          by_cases listing : ∃ appId items, message = .applicationSentListing appId items
          · obtain ⟨appId, items, rfl⟩ := listing
            exact .inl ⟨rpcDict, appId, items, rfl, parsed, taken⟩
          by_cases ending : ∃ app, message = .applicationDisconnected app
          · obtain ⟨app, rfl⟩ := ending
            exact .inr (.inl ⟨rpcDict, app, rfl, parsed, taken⟩)
          refine .inr (.inr ⟨fun appId identifier removes => ?_, ?_⟩)
          · cases removes with
            | ended _ app given =>
                rw [parsed] at given
                cases given
                exact ending ⟨app, rfl⟩
            | unlisted _ items given =>
                rw [parsed] at given
                cases given
                exact listing ⟨appId, items, rfl⟩
          · rw [taken]
            refine handle_shown (fun appId items same => ?_) (fun app same => ?_)
            · cases same
              exact listing ⟨appId, items, rfl⟩
            · cases same
              exact ending ⟨app, rfl⟩

variable {rpcDict : Value} {items : List RpcPage}

theorem listed_small (parsed : parseRpcMessage rpcDict = .ok (.applicationSentListing appId items))
    {item : RpcPage} (member : item ∈ items) : item.pageId < 2 ^ 32 := by
  have inside := List.mem_map_of_mem (f := RpcPage.pageId) member
  rw [parseRpcMessage_identifiers parsed] at inside
  obtain ⟨identifier, _, same⟩ := List.mem_map.mp inside
  rw [← same]
  exact Nat.mod_lt _ (by decide)

theorem listed_iff (parsed : parseRpcMessage rpcDict = .ok (.applicationSentListing appId items))
    (small : ∀ identifier ∈ givenIdentifiers rpcDict, identifier < 2 ^ 32) :
    (∃ item ∈ items, item.pageId = identifier) ↔ identifier ∈ givenIdentifiers rpcDict := by
  have narrowed : (givenIdentifiers rpcDict).map (· % 2 ^ 32) = givenIdentifiers rpcDict := by
    refine (List.map_congr_left fun value member => ?_).trans (List.map_id _)
    exact Nat.mod_eq_of_lt (small value member)
  rw [← List.mem_map (f := RpcPage.pageId), parseRpcMessage_identifiers parsed, narrowed]

theorem take_keeps (valid : Paged runtime) {input : DeviceInput}
    (fits : IdentifiersFit runtime input) (stays : ¬Removes appId identifier input)
    (has : HasEntry runtime num appId identifier) :
    HasEntry (runtime.take input) num appId identifier := by
  rcases take_cases runtime input with
    ⟨rpcDict, listed, items, rfl, parsed, taken⟩ | ⟨rpcDict, app, rfl, parsed, taken⟩ |
      ⟨_, same⟩
  · obtain ⟨small, room⟩ := fits rpcDict listed items rfl parsed
    obtain ⟨page, found, rfl, rfl⟩ := has
    have wanted : Wanted listed items page := by
      rintro rfl
      refine (listed_iff parsed small).mpr ?_
      by_contra missing
      exact stays (.unlisted rpcDict items parsed missing)
    obtain ⟨later, stored, same, _⟩ := (listPages_listed room (List.nil_append items) valid.table
      (Listed.begin listed items runtime)).kept num page found wanted
    rw [taken]
    refine ⟨later, (handlePageListing_lookup _ _ _ _ _).mpr ⟨stored, ?_⟩, same.appId, same.pageId⟩
    rw [Wanted, same.appId, same.pageId]
    exact wanted
  · rw [taken]
    exact (removeAppId_hasEntry app.appId).mpr
      ⟨has, fun ended => stays (.ended rpcDict app parsed ended.symm)⟩
  · exact has.of_shown valid.table (take_paged valid input).table same

theorem run_keeps (valid : Paged runtime) {later : List DeviceInput}
    (fits : Throughout take runtime later IdentifiersFit)
    (stays : ∀ input ∈ later, ¬Removes appId identifier input)
    (has : HasEntry runtime num appId identifier) :
    HasEntry (run take runtime later) num appId identifier := by
  induction later using List.reverseRecOn with
  | nil => exact has
  | append_singleton later input ih =>
      obtain ⟨before, last⟩ := throughout_concat.mp fits
      have earlier := ih before fun other member => stays other (List.mem_append_left _ member)
      rw [run_concat]
      exact take_keeps (run_take_paged valid later) last (stays input (by simp)) earlier

theorem take_places (valid : Paged runtime)
    (fits : IdentifiersFit runtime (.plist rpcDict))
    (parsed : parseRpcMessage rpcDict = .ok (.applicationSentListing appId items))
    (given : identifier ∈ givenIdentifiers rpcDict) :
    ∃ num, HasEntry (runtime.take (.plist rpcDict)) num appId identifier := by
  obtain ⟨small, room⟩ := fits rpcDict appId items rfl parsed
  obtain ⟨item, member, rfl⟩ := (listed_iff parsed small).mpr given
  obtain ⟨num, page, found, app, same⟩ := (hasPage_iff _ _ _).mp
    ((listPages_listed room (List.nil_append items) valid.table
      (Listed.begin appId items runtime)).shown item member)
  have taken : runtime.take (.plist rpcDict) = runtime.handlePageListing appId items := by
    simp [take, DeviceInput.event, parsed, Except.toOption, handle, handleRpcMessage]
  rw [taken]
  exact ⟨num, page, (handlePageListing_lookup _ _ _ _ _).mpr
    ⟨found, fun _ => ⟨item, member, same.symm⟩⟩, app, same⟩

theorem identifiersKept_of_fits (valid : Paged runtime) {inputs : List DeviceInput}
    (fits : Throughout take runtime inputs IdentifiersFit) : IdentifiersKept runtime inputs := by
  intro past rpcDict rest appId items shape parsed
  rw [shape] at fits
  obtain ⟨_, after⟩ := throughout_append.mp fits
  have paged := run_take_paged valid past
  have here : IdentifiersFit (run take runtime past) (.plist rpcDict) := after [] _ rest rfl
  have places : ∀ identifier, ∃ num, identifier ∈ givenIdentifiers rpcDict →
      HasEntry ((run take runtime past).take (.plist rpcDict)) num appId identifier := by
    intro identifier
    by_cases given : identifier ∈ givenIdentifiers rpcDict
    · obtain ⟨num, has⟩ := take_places paged here parsed given
      exact ⟨num, fun _ => has⟩
    · exact ⟨0, fun inside => absurd inside given⟩
  choose place placed using places
  refine ⟨place, ?_, ?_⟩
  · intro first member second member' same
    obtain ⟨page, found, _, identifier⟩ := placed first member
    obtain ⟨page', found', _, identifier'⟩ := placed second member'
    rw [same, found'] at found
    cases found
    exact identifier.symm.trans identifier'
  · rintro identifier given later ⟨more, rfl⟩ stays
    have small := (here rpcDict appId items rfl parsed).1 identifier given
    have split : Throughout take (run take runtime past)
        ([.plist rpcDict] ++ (later ++ more)) IdentifiersFit := after
    have steps : Throughout take ((run take runtime past).take (.plist rpcDict)) later
        IdentifiersFit :=
      (throughout_append.mp (throughout_append.mp split).2).1
    have has := run_keeps (take_paged paged _) steps stays (placed identifier given)
    rw [run_append]
    exact (carries_iff (run_take_paged (take_paged paged _) later).table).mpr
      ⟨has, by omega⟩

/-- An entry comes from a listing that names its page, and since then the device has
not taken the page off the list. -/
theorem run_origin (empty : runtime.pages = ∅) (valid : Paged runtime) {inputs : List DeviceInput}
    (small : ∀ past rpcDict rest appId items, inputs = past ++ .plist rpcDict :: rest →
      parseRpcMessage rpcDict = .ok (.applicationSentListing appId items) →
      ∀ identifier ∈ givenIdentifiers rpcDict, identifier < 2 ^ 32)
    (has : HasEntry (run take runtime inputs) num appId identifier) :
    ∃ past rpcDict later items, inputs = past ++ .plist rpcDict :: later ∧
      parseRpcMessage rpcDict = .ok (.applicationSentListing appId items) ∧
      identifier ∈ givenIdentifiers rpcDict ∧ ∀ input ∈ later, ¬Removes appId identifier input := by
  induction inputs using List.reverseRecOn generalizing num with
  | nil =>
      obtain ⟨page, found, _⟩ := has
      rw [run, List.foldl_nil, empty] at found
      cases found
  | append_singleton inputs input ih =>
      have earlier : ∀ past rpcDict rest appId items, inputs = past ++ .plist rpcDict :: rest →
          parseRpcMessage rpcDict = .ok (.applicationSentListing appId items) →
          ∀ identifier ∈ givenIdentifiers rpcDict, identifier < 2 ^ 32 := by
        intro past rpcDict rest appId items shape
        exact small past rpcDict (rest ++ [input]) appId items (by rw [shape]; simp)
      -- What was there before the last input has its origin before it.
      have before {place : Nat} (there : HasEntry (run take runtime inputs) place appId identifier)
          (stays : ¬Removes appId identifier input) :
          ∃ past rpcDict later items, inputs ++ [input] = past ++ .plist rpcDict :: later ∧
            parseRpcMessage rpcDict = .ok (.applicationSentListing appId items) ∧
            identifier ∈ givenIdentifiers rpcDict ∧
            ∀ input ∈ later, ¬Removes appId identifier input := by
        obtain ⟨past, rpcDict, later, items, rfl, parsed, given, since⟩ := ih earlier there
        refine ⟨past, rpcDict, later ++ [input], items, by simp, parsed, given, ?_⟩
        intro other member
        rcases List.mem_append.mp member with member | member
        · exact since other member
        · cases List.mem_singleton.mp member
          exact stays
      have paged := run_take_paged valid inputs
      rw [run_concat] at has
      rcases take_cases (run take runtime inputs) input with
        ⟨rpcDict, listed, items, rfl, parsed, taken⟩ | ⟨rpcDict, app, rfl, parsed, taken⟩ |
          ⟨quiet, same⟩
      · rw [taken] at has
        obtain ⟨page, found, rfl, rfl⟩ := has
        obtain ⟨stored, wanted⟩ := (handlePageListing_lookup _ _ _ _ _).mp found
        by_cases own : page.appId = listed
        · have given := (listed_iff parsed (small inputs rpcDict [] listed items rfl parsed)).mp
            (wanted own)
          subst own
          exact ⟨inputs, rpcDict, [], items, rfl, parsed, given,
            fun _ member => absurd member List.not_mem_nil⟩
        · refine before ⟨page, listPages_others paged.table listed items stored own, rfl, rfl⟩ ?_
          intro removes
          cases removes with
          | ended _ app other =>
              rw [parsed] at other
              cases other
          | unlisted _ items' other =>
              rw [parsed] at other
              cases other
              exact own rfl
      · rw [taken] at has
        obtain ⟨there, apart⟩ := (removeAppId_hasEntry app.appId).mp has
        refine before there fun removes => ?_
        cases removes with
        | ended _ app' other same =>
            rw [parsed] at other
            cases other
            exact apart same.symm
        | unlisted _ items other =>
            rw [parsed] at other
            cases other
      · exact before (has.of_shown (take_paged paged input).table paged.table same.symm)
          (quiet appId identifier)

theorem fits_of_identifiersKept (empty : runtime.pages = ∅) (valid : Paged runtime)
    {inputs : List DeviceInput} (kept : IdentifiersKept runtime inputs) :
    Throughout take runtime inputs IdentifiersFit := by
  have taken {before : DeviceRuntime} {rpcDict : Value} {appId : String} {items : List RpcPage}
      (parsed : parseRpcMessage rpcDict = .ok (.applicationSentListing appId items)) :
      before.take (.plist rpcDict) = before.handlePageListing appId items := by
    simp [take, DeviceInput.event, parsed, Except.toOption, handle, handleRpcMessage]
  -- What an entry carries was narrowed on the way, so it is small.
  have small : ∀ past rpcDict rest appId items, inputs = past ++ .plist rpcDict :: rest →
      parseRpcMessage rpcDict = .ok (.applicationSentListing appId items) →
      ∀ identifier ∈ givenIdentifiers rpcDict, identifier < 2 ^ 32 := by
    intro past rpcDict rest appId items shape parsed identifier given
    obtain ⟨place, _, carries⟩ := kept past rpcDict rest appId items shape parsed
    have here := carries identifier given [] (List.nil_prefix) (by simp)
    rw [run_concat, taken parsed] at here
    have paged := handlePageListing_paged (run_take_paged valid past) appId items
    obtain ⟨⟨page, found, app, rfl⟩, _⟩ := (carries_iff paged.table).mp here
    obtain ⟨item, member, same⟩ := ((handlePageListing_lookup _ _ _ _ _).mp found).2 app
    rw [← same]
    exact listed_small parsed member
  rintro past input rest shape rpcDict appId items rfl parsed
  refine ⟨small past rpcDict rest appId items shape parsed, ?_⟩
  have paged := run_take_paged valid past
  have few : (listedIds items).card ≤ 2 ^ 32 := by
    have inside : listedIds items ⊆ Finset.range (2 ^ 32) := by
      intro pageId listed
      obtain ⟨item, member, rfl⟩ := mem_listedIds.mp listed
      exact Finset.mem_range.mpr (listed_small parsed member)
    have count := Finset.card_le_card inside
    rwa [Finset.card_range] at count
  rcases listPages_cases few (List.nil_append items) paged.table
    (.inl (Listed.begin appId items _)) with listed | ⟨slot, lost, filled, clobbered⟩
  · exact ⟨newIds_subset.trans few, listed.room⟩
  · -- The page that lost its number came from a listing, which promised the number to it.
    exfalso
    have small' : ∀ before rpcDict after appId items, past = before ++ .plist rpcDict :: after →
        parseRpcMessage rpcDict = .ok (.applicationSentListing appId items) →
        ∀ identifier ∈ givenIdentifiers rpcDict, identifier < 2 ^ 32 := by
      intro before other after app items' split
      exact small before other (after ++ .plist rpcDict :: rest) app items' (by rw [shape, split]; simp)
    obtain ⟨before, origin, between, items', rfl, parsed', given, since⟩ :=
      run_origin empty valid small' ⟨lost, clobbered.stored, rfl, rfl⟩
    rw [List.append_assoc, List.cons_append] at shape
    obtain ⟨place, _, carries⟩ := kept before origin _ lost.appId items' shape parsed'
    have stays : ¬Removes lost.appId lost.pageId (.plist rpcDict) := by
      intro removes
      cases removes with
      | ended _ app other =>
          rw [parsed] at other
          cases other
      | unlisted _ items'' other missing =>
          rw [parsed] at other
          obtain ⟨own, rfl⟩ := RpcMessage.applicationSentListing.inj (Except.ok.inj other)
          exact missing ((listed_iff parsed
            (small (before ++ .plist origin :: between) rpcDict rest appId items
              (by rw [shape]; simp) parsed)).mp (clobbered.wanted own.symm))
    have atFirst := carries lost.pageId given between (List.prefix_append _ _) since
    obtain ⟨⟨page, found, app, identifier⟩, _⟩ := (carries_iff paged.table).mp atFirst
    have same : place lost.pageId = slot :=
      paged.table.distinct _ _ page lost found clobbered.stored app identifier
    have later := carries lost.pageId given (between ++ [.plist rpcDict])
      ⟨rest, by simp⟩ (by
        intro input member
        rcases List.mem_append.mp member with member | member
        · exact since input member
        · cases List.mem_singleton.mp member
          exact stays)
    rw [← List.cons_append, ← List.append_assoc, run_concat, taken parsed, same] at later
    obtain ⟨⟨page', found', app', identifier'⟩, _⟩ :=
      (carries_iff (handlePageListing_paged paged appId items).table).mp later
    obtain ⟨taker, held, takerApp, takerId⟩ := clobbered.taken
    have stored := ((handlePageListing_lookup _ _ _ _ _).mp found').1
    rw [held] at stored
    cases stored
    exact takerId (app'.symm.trans takerApp) identifier'

end DeviceRuntime

/-- Identifiers are kept over a run just where every listing fits. -/
theorem run_identifiersKept_iff (bridge : ProxyBridge) (environment : ConnectEnvironment)
    (deviceId : String) (port : Nat) (connection : DeviceConnection) (codec : WebInspectorCodec)
    (inputs : List DeviceInput) :
    DeviceRuntime.IdentifiersKept
        (bridge.newRuntime environment deviceId port connection codec) inputs ↔
      Throughout DeviceRuntime.take
        (bridge.newRuntime environment deviceId port connection codec) inputs
        DeviceRuntime.IdentifiersFit := by
  have paged := newRuntime_paged bridge environment deviceId port connection codec
  have empty := (newRuntime_pages bridge environment deviceId port connection codec).1
  exact ⟨DeviceRuntime.fits_of_identifiersKept empty paged,
    DeviceRuntime.identifiersKept_of_fits paged⟩

def listedPagePlist (identifier : Nat) : Value :=
  .dictionary [("WIRPageIdentifierKey", .integer identifier)]

/-- A listing of two pages, whose identifiers are the same in 32 bits. -/
def wideListingPlist : Value :=
  .dictionary [("__selector", .string "_rpc_applicationSentListing:"),
    ("__argument", .dictionary [("WIRApplicationIdentifierKey", .string "PID:1"),
      ("WIRListingKey", .dictionary [("first", listedPagePlist 1),
        ("second", listedPagePlist 4294967297)])])]

theorem wide_identifier_merged : givenIdentifiers wideListingPlist = [1, 4294967297] ∧
    (phoneRuntime.take (.plist wideListingPlist)).pages.values.map PageInfo.pageId = [1] ∧
    ¬DeviceRuntime.IdentifiersKept phoneRuntime [.plist wideListingPlist] := by
  have given : givenIdentifiers wideListingPlist = [1, 4294967297] := by decide
  have parsed : parseRpcMessage wideListingPlist = .ok (.applicationSentListing "PID:1"
      [⟨1, .unknown, none, none, none⟩, ⟨1, .unknown, none, none, none⟩]) := rfl
  refine ⟨given, by decide, fun kept => ?_⟩
  have paged := newRuntime_paged plainBridge phoneEnvironment "UDID" 49152 phoneConnection
    (.new false false)
  have fits := DeviceRuntime.fits_of_identifiersKept rfl paged kept [] _ [] rfl wideListingPlist
    "PID:1" _ rfl parsed
  have small := fits.1 4294967297 (by rw [given]; simp)
  exact absurd small (by decide)

end IosWebkitDebugProxy
