import Mathlib.Data.Finset.Card
import Mathlib.Data.Finset.Insert
import IosWebkitDebugProxy.ProxyNumbers

/-! The pages of an application after a listing, compared with the listing. The
numbers of new pages come from a counter that wraps, so a new page can take the
place of another one. -/

namespace IosWebkitDebugProxy

namespace DeviceRuntime

variable {appId : String} {items seen : List RpcPage} {start now : DeviceRuntime}

def hasPage (appId : String) (pageId : Nat) (runtime : DeviceRuntime) : Bool :=
  (runtime.pages.findValue fun known => known.appId == appId && known.pageId == pageId).isSome

/-- A page of another application, or one that the listing names. -/
def Wanted (appId : String) (items : List RpcPage) (page : PageInfo) : Prop :=
  page.appId = appId → ∃ item ∈ items, item.pageId = page.pageId

/-- The application's pages are those of the listing, each as its last item has
it. Pages from before keep their numbers and sessions, and no other application
notices. -/
structure MatchesListing (appId : String) (items : List RpcPage) (before after : DeviceRuntime) :
    Prop where
  listed : ∀ pageId, (∃ num page, after.pages.lookup num = some page ∧ page.appId = appId ∧
    page.pageId = pageId) ↔ ∃ item ∈ items, item.pageId = pageId
  current : ∀ num page item, after.pages.lookup num = some page → page.appId = appId →
    lastListed items page.pageId = some item → page.pageType = item.pageType ∧
      page.title = item.title ∧ page.url = item.url ∧ page.connectionId = item.connectionId
  kept : ∀ num page, before.pages.lookup num = some page → page.appId = appId →
    (∃ item ∈ items, item.pageId = page.pageId) →
      ∃ later, after.pages.lookup num = some later ∧ page.SameEntry later
  others : ∀ num page, page.appId ≠ appId →
    (after.pages.lookup num = some page ↔ before.pages.lookup num = some page)

def newIds (appId : String) (items : List RpcPage) (runtime : DeviceRuntime) : Finset Nat :=
  (items.map RpcPage.pageId).toFinset.filter fun pageId => runtime.hasPage appId pageId = false

/-- The number that a listing gives to a new page after so many others. -/
def newNum (runtime : DeviceRuntime) (later : Nat) : Nat :=
  (runtime.maxPageNum + 1 + later) % 2 ^ 32

/-- There are numbers for all new pages, and none of them belongs to a page that
stays. -/
def RoomFor (appId : String) (items : List RpcPage) (runtime : DeviceRuntime) : Prop :=
  (runtime.newIds appId items).card ≤ 2 ^ 32 ∧
    ∀ later < (runtime.newIds appId items).card, ∀ page,
      runtime.pages.lookup (runtime.newNum later) = some page → ¬Wanted appId items page

/-- The type that a page has after a listing. It is never updated. -/
def shownType (appId : String) (items : List RpcPage) (runtime : DeviceRuntime) (pageId : Nat) :
    Option PageType :=
  match runtime.pages.findValue fun known => known.appId == appId && known.pageId == pageId with
  | some page => some page.pageType
  | none => (items.find? fun item => item.pageId == pageId).map RpcPage.pageType

def TypesCurrent (appId : String) (items : List RpcPage) (runtime : DeviceRuntime) : Prop :=
  ∀ pageId item, lastListed items pageId = some item →
    runtime.shownType appId items pageId = some item.pageType

theorem hasPage_iff (runtime : DeviceRuntime) (appId : String) (pageId : Nat) :
    runtime.hasPage appId pageId = true ↔ ∃ num page, runtime.pages.lookup num = some page ∧
      page.appId = appId ∧ page.pageId = pageId :=
  findValue_isSome_iff runtime appId pageId

theorem mem_newIds {pageId : Nat} : pageId ∈ start.newIds appId items ↔
    (∃ item ∈ items, item.pageId = pageId) ∧ start.hasPage appId pageId = false := by
  simp [newIds]

theorem newIds_append_known {item : RpcPage}
    (known : start.hasPage appId item.pageId = true ∨ ∃ other ∈ seen, other.pageId = item.pageId) :
    start.newIds appId (seen ++ [item]) = start.newIds appId seen := by
  ext pageId
  rw [mem_newIds, mem_newIds]
  refine and_congr_left fun unknown => ⟨?_, ?_⟩
  · rintro ⟨other, member, rfl⟩
    rcases List.mem_append.mp member with earlier | last
    · exact ⟨other, earlier, rfl⟩
    · cases List.mem_singleton.mp last
      rcases known with has | listed
      · rw [has] at unknown
        cases unknown
      · exact listed
  · rintro ⟨other, member, rfl⟩
    exact ⟨other, List.mem_append_left _ member, rfl⟩

theorem card_newIds_append_new {item : RpcPage}
    (unknown : start.hasPage appId item.pageId = false)
    (unlisted : ∀ other ∈ seen, other.pageId ≠ item.pageId) :
    (start.newIds appId (seen ++ [item])).card = (start.newIds appId seen).card + 1 := by
  have shape : start.newIds appId (seen ++ [item]) =
      insert item.pageId (start.newIds appId seen) := by
    ext pageId
    rw [Finset.mem_insert, mem_newIds, mem_newIds]
    constructor
    · rintro ⟨⟨other, member, rfl⟩, missing⟩
      rcases List.mem_append.mp member with earlier | last
      · exact .inr ⟨⟨other, earlier, rfl⟩, missing⟩
      · cases List.mem_singleton.mp last
        exact .inl rfl
    · rintro (rfl | ⟨⟨other, member, rfl⟩, missing⟩)
      · exact ⟨⟨item, List.mem_append_right _ (List.mem_singleton_self item), rfl⟩, unknown⟩
      · exact ⟨⟨other, List.mem_append_left _ member, rfl⟩, missing⟩
  rw [shape, Finset.card_insert_of_notMem]
  rw [mem_newIds]
  rintro ⟨⟨other, member, same⟩, _⟩
  exact unlisted other member same

theorem newIds_mono (appId : String) (start : DeviceRuntime) {fewer more : List RpcPage}
    (inside : ∀ item ∈ fewer, item ∈ more) :
    (start.newIds appId fewer).card ≤ (start.newIds appId more).card := by
  refine Finset.card_le_card ?_
  intro pageId
  rw [mem_newIds, mem_newIds]
  rintro ⟨⟨item, member, same⟩, missing⟩
  exact ⟨⟨item, inside item member, same⟩, missing⟩

def newPage (appId : String) (item : RpcPage) (pageNum : Nat) : PageInfo :=
  ⟨pageNum, item.pageType, appId, item.pageId, item.connectionId, item.title, item.url, none, none⟩

theorem listPage_news (valid : PageTable now.pages) (appId : String) (item : RpcPage) :
    (∃ num page, now.pages.lookup num = some page ∧ page.appId = appId ∧
        page.pageId = item.pageId ∧ now.listPage appId item =
          { now with pages := now.pages.modify num (PageInfo.list item) }) ∨
      now.hasPage appId item.pageId = false ∧ now.listPage appId item =
        { now with
          maxPageNum := now.newNum 0
          pages := now.pages.assign (now.newNum 0) (newPage appId item (now.newNum 0)) } := by
  unfold listPage hasPage
  split
  · rename_i existing found
    have same := List.find?_some found
    obtain ⟨num, stored⟩ := Table.mem_values.mp (List.mem_of_find?_eq_some found)
    simp only [Bool.and_eq_true, beq_iff_eq] at same
    rw [valid.numbered num existing stored]
    exact .inl ⟨num, existing, stored, same.1, same.2, rfl⟩
  · rename_i missing
    exact .inr ⟨by rw [missing]; rfl, rfl⟩

/-- What has become of the pages after some of the items, as long as no new page
took the place of a page that stays. -/
structure Listed (appId : String) (items : List RpcPage) (start : DeviceRuntime)
    (seen : List RpcPage) (now : DeviceRuntime) : Prop where
  counter : now.newNum 0 = start.newNum (start.newIds appId seen).card
  room : ∀ later < (start.newIds appId seen).card, ∀ page,
    start.pages.lookup (start.newNum later) = some page → ¬Wanted appId items page
  kept : ∀ num page, start.pages.lookup num = some page → Wanted appId items page →
    ∃ later, now.pages.lookup num = some later ∧ page.SameEntry later ∧
      (page.appId ≠ appId → later = page)
  origin : ∀ num page, now.pages.lookup num = some page →
    (∃ old, start.pages.lookup num = some old ∧ old.SameEntry page ∧
      old.pageType = page.pageType ∧ (old.appId ≠ appId → page = old)) ∨
    page.appId = appId ∧ start.hasPage appId page.pageId = false ∧
      (seen.find? fun item => item.pageId == page.pageId).map RpcPage.pageType =
        some page.pageType ∧
      ∃ later < (start.newIds appId seen).card, num = start.newNum later
  shown : ∀ item ∈ seen, now.hasPage appId item.pageId = true
  current : ∀ num page item, now.pages.lookup num = some page → page.appId = appId →
    lastListed seen page.pageId = some item → page.title = item.title ∧ page.url = item.url ∧
      page.connectionId = item.connectionId

theorem Listed.begin (appId : String) (items : List RpcPage) (start : DeviceRuntime) :
    Listed appId items start [] start := by
  refine ⟨rfl, ?_, ?_, ?_, ?_, ?_⟩
  · intro later none
    exact absurd none (Nat.not_lt_zero later)
  · intro num page found _
    exact ⟨page, found, .refl page, fun _ => rfl⟩
  · intro num page found
    exact .inl ⟨page, found, .refl page, rfl, fun _ => rfl⟩
  · intro item member
    cases member
  · intro num page item _ _ last
    cases last

theorem find?_append_of_isSome {pageId : Nat} {pageType : PageType} (item : RpcPage)
    (found : (seen.find? fun item => item.pageId == pageId).map RpcPage.pageType = some pageType) :
    ((seen ++ [item]).find? fun item => item.pageId == pageId).map RpcPage.pageType =
      some pageType := by
  obtain ⟨first, here, _⟩ := Option.map_eq_some_iff.mp found
  rw [List.find?_append, here]
  rw [here] at found
  exact found

theorem Listed.update (listed : Listed appId items start seen now)
    (valid : PageTable now.pages) {item : RpcPage} {num : Nat} {page : PageInfo}
    (found : now.pages.lookup num = some page) (app : page.appId = appId)
    (identifier : page.pageId = item.pageId) :
    Listed appId items start (seen ++ [item])
      { now with pages := now.pages.modify num (PageInfo.list item) } := by
  have known : start.hasPage appId item.pageId = true ∨
      ∃ other ∈ seen, other.pageId = item.pageId := by
    rcases listed.origin num page found with ⟨old, stored, same, _⟩ | ⟨_, _, first, _⟩
    · exact .inl ((hasPage_iff _ _ _).mpr
        ⟨num, old, stored, same.appId.symm.trans app, same.pageId.symm.trans identifier⟩)
    · obtain ⟨other, here, _⟩ := Option.map_eq_some_iff.mp first
      have named := List.find?_some here
      rw [beq_iff_eq, identifier] at named
      exact .inr ⟨other, List.mem_of_find?_eq_some here, named⟩
  have ids := newIds_append_known known
  have stored (other : Nat) (later : PageInfo)
      (here : (now.pages.modify num (PageInfo.list item)).lookup other = some later) :
      other = num ∧ later = page.list item ∨ other ≠ num ∧ now.pages.lookup other = some later := by
    rcases Table.lookup_of_modify here with ⟨rfl, old, before, rfl⟩ | ⟨apart, before⟩
    · rw [found] at before
      cases before
      exact .inl ⟨rfl, rfl⟩
    · exact .inr ⟨apart, before⟩
  refine ⟨?_, ?_, ?_, ?_, ?_, ?_⟩
  · rw [ids]
    exact listed.counter
  · rw [ids]
    exact listed.room
  · intro other old before wanted
    obtain ⟨later, after, same, others⟩ := listed.kept other old before wanted
    rw [Table.lookup_modify]
    split
    · rename_i here
      rw [here, found] at after
      cases after
      refine ⟨page.list item, by rw [here, found]; rfl, ?_, ?_⟩
      · exact same.trans ⟨rfl, rfl, rfl, rfl, rfl⟩
      · intro apart
        exact absurd (same.appId.symm.trans app) apart
    · exact ⟨later, after, same, others⟩
  · intro other later here
    rw [ids]
    rcases stored other later here with ⟨rfl, rfl⟩ | ⟨_, before⟩
    · rcases listed.origin other page found with
        ⟨old, before, same, type, _⟩ | ⟨_, new, first, given⟩
      · refine .inl ⟨old, before, same.trans ⟨rfl, rfl, rfl, rfl, rfl⟩, type, ?_⟩
        intro apart
        exact absurd (same.appId.symm.trans app) apart
      · exact .inr ⟨app, new, find?_append_of_isSome item first, given⟩
    · rcases listed.origin other later before with old | ⟨app', new, first, given⟩
      · exact .inl old
      · exact .inr ⟨app', new, find?_append_of_isSome item first, given⟩
  · intro other member
    rw [hasPage_iff]
    have has : now.hasPage appId other.pageId = true := by
      rcases List.mem_append.mp member with earlier | last
      · exact listed.shown other earlier
      · cases List.mem_singleton.mp last
        exact (hasPage_iff _ _ _).mpr ⟨num, page, found, app, identifier⟩
    obtain ⟨place, shown, before, app', identifier'⟩ := (hasPage_iff _ _ _).mp has
    refine ⟨place, ?_⟩
    rw [Table.lookup_modify]
    split
    · exact ⟨shown.list item, by rw [before]; rfl, app', identifier'⟩
    · exact ⟨shown, before, app', identifier'⟩
  · intro other later last here app' newest
    rw [lastListed_append] at newest
    rcases stored other later here with ⟨rfl, rfl⟩ | ⟨apart, before⟩
    · have named : item.pageId = (page.list item).pageId := identifier.symm
      rw [if_pos named] at newest
      cases newest
      exact ⟨rfl, rfl, rfl⟩
    · have named : item.pageId ≠ later.pageId := by
        intro same
        exact apart (valid.distinct other num later page before found (app'.trans app.symm)
          (same.symm.trans identifier.symm))
      rw [if_neg named] at newest
      exact listed.current other later last before app' newest

theorem hasPage_false {pageId : Nat} (missing : now.hasPage appId pageId = false) {num : Nat}
    {page : PageInfo} (found : now.pages.lookup num = some page) (app : page.appId = appId) :
    page.pageId ≠ pageId := by
  intro identifier
  have has := (hasPage_iff now appId pageId).mpr ⟨num, page, found, app, identifier⟩
  rw [missing] at has
  cases has

theorem Listed.unknown (listed : Listed appId items start seen now) {item : RpcPage}
    (member : item ∈ items) (missing : now.hasPage appId item.pageId = false) :
    start.hasPage appId item.pageId = false ∧ ∀ other ∈ seen, other.pageId ≠ item.pageId := by
  constructor
  · rw [← Bool.not_eq_true, hasPage_iff]
    rintro ⟨num, page, found, app, identifier⟩
    obtain ⟨later, stored, same, _⟩ := listed.kept num page found
      fun _ => ⟨item, member, identifier.symm⟩
    exact hasPage_false missing stored (same.appId.trans app) (same.pageId.trans identifier)
  · intro other earlier same
    have has := listed.shown other earlier
    rw [same, missing] at has
    cases has

theorem newNum_succ (start : DeviceRuntime) (later : Nat) :
    (start.newNum later + 1 + 0) % 2 ^ 32 = start.newNum (later + 1) := by
  unfold newNum
  omega

theorem newNum_injective {first second : Nat} (ordered : first < second)
    (near : second - first < 2 ^ 32) : start.newNum first ≠ start.newNum second := by
  unfold newNum
  omega

theorem Listed.create (listed : Listed appId items start seen now) {item : RpcPage}
    (inside : ∀ other ∈ seen ++ [item], other ∈ items)
    (missing : now.hasPage appId item.pageId = false)
    (few : (start.newIds appId items).card ≤ 2 ^ 32)
    (free : ∀ page, start.pages.lookup (start.newNum (start.newIds appId seen).card) = some page →
      ¬Wanted appId items page) :
    Listed appId items start (seen ++ [item])
      { now with
        maxPageNum := now.newNum 0
        pages := now.pages.assign (now.newNum 0) (newPage appId item (now.newNum 0)) } := by
  have member : item ∈ items := inside item (List.mem_append_right _ (List.mem_singleton_self item))
  obtain ⟨unknown, unlisted⟩ := listed.unknown member missing
  have count := card_newIds_append_new unknown unlisted
  have bound := newIds_mono appId start inside
  rw [count] at bound
  have number := listed.counter
  have vacant (page : PageInfo) (found : now.pages.lookup (now.newNum 0) = some page) :
      ¬Wanted appId items page := by
    intro wanted
    rcases listed.origin _ page found with ⟨old, stored, same, _⟩ | ⟨_, _, _, later, less, given⟩
    · rw [number] at stored
      refine free old stored fun app => ?_
      rw [← same.pageId]
      exact wanted (same.appId.trans app)
    · rw [number] at given
      exact newNum_injective less (by omega) given.symm
  refine ⟨?_, ?_, ?_, ?_, ?_, ?_⟩
  · rw [count, ← newNum_succ, ← number]
    rfl
  · rw [count]
    intro later less page found
    rcases Nat.lt_succ_iff_lt_or_eq.mp less with earlier | rfl
    · exact listed.room later earlier page found
    · exact free page found
  · intro num page found wanted
    obtain ⟨later, stored, same, others⟩ := listed.kept num page found wanted
    have apart : num ≠ now.newNum 0 := by
      rintro rfl
      rw [number] at found
      exact free page found wanted
    refine ⟨later, ?_, same, others⟩
    rw [Table.lookup_assign, if_neg apart]
    exact stored
  · intro num page found
    rw [Table.lookup_assign] at found
    rw [count]
    split at found
    · rename_i here
      cases found
      refine .inr ⟨rfl, unknown, ?_, (start.newIds appId seen).card, Nat.lt_succ_self _,
        here.trans number⟩
      have earlier : (seen.find? fun other => other.pageId == item.pageId) = none := by
        simpa using unlisted
      change (List.find? (fun other => other.pageId == item.pageId) _).map RpcPage.pageType =
        some item.pageType
      rw [List.find?_append, earlier, Option.none_or]
      simp
    · rcases listed.origin num page found with old | ⟨app, new, first, later, less, given⟩
      · exact .inl old
      · exact .inr ⟨app, new, find?_append_of_isSome item first, later, Nat.lt_succ_of_lt less,
          given⟩
  · intro other listed'
    rw [hasPage_iff]
    rcases List.mem_append.mp listed' with earlier | last
    · obtain ⟨num, page, found, app, identifier⟩ :=
        (hasPage_iff _ _ _).mp (listed.shown other earlier)
      have apart : num ≠ now.newNum 0 := by
        rintro rfl
        exact vacant page found fun _ => ⟨other, inside other listed', identifier.symm⟩
      refine ⟨num, page, ?_, app, identifier⟩
      rw [Table.lookup_assign, if_neg apart]
      exact found
    · cases List.mem_singleton.mp last
      exact ⟨now.newNum 0, newPage appId item (now.newNum 0), by rw [Table.lookup_assign, if_pos rfl],
        rfl, rfl⟩
  · intro num page last found app newest
    rw [Table.lookup_assign] at found
    rw [lastListed_append] at newest
    split at found
    · cases found
      have named : item.pageId = (newPage appId item (now.newNum 0)).pageId := rfl
      rw [if_pos named] at newest
      cases newest
      exact ⟨rfl, rfl, rfl⟩
    · rw [if_neg (hasPage_false missing found app).symm] at newest
      exact listed.current num page last found app newest

/-- A new page took the place of a page that stays, and since then as many numbers
were given to new pages. -/
structure Clobbered (appId : String) (items : List RpcPage) (start now : DeviceRuntime)
    (slot : Nat) (lost : PageInfo) (filled : Nat) : Prop where
  stored : start.pages.lookup slot = some lost
  wanted : Wanted appId items lost
  word : slot < 2 ^ 32
  counter : now.newNum 0 = (slot + filled + 1) % 2 ^ 32
  around : filled < 2 ^ 32
  taken : ∃ page, now.pages.lookup slot = some page ∧ page.appId = appId ∧
    (lost.appId = appId → page.pageId ≠ lost.pageId)
  given : ∀ later ≤ filled, ∃ page, now.pages.lookup ((slot + later) % 2 ^ 32) = some page ∧
    page.appId = appId ∧ ∃ item ∈ items, item.pageId = page.pageId

def listedIds (items : List RpcPage) : Finset Nat := (items.map RpcPage.pageId).toFinset

theorem mem_listedIds {pageId : Nat} :
    pageId ∈ listedIds items ↔ ∃ item ∈ items, item.pageId = pageId := by
  simp [listedIds]

theorem newIds_subset : (start.newIds appId items).card ≤ (listedIds items).card :=
  Finset.card_le_card (Finset.filter_subset _ _)

theorem Listed.clobber (listed : Listed appId items start seen now) {item : RpcPage}
    (member : item ∈ items) (missing : now.hasPage appId item.pageId = false) {lost : PageInfo}
    (stored : start.pages.lookup (start.newNum (start.newIds appId seen).card) = some lost)
    (wanted : Wanted appId items lost) :
    Clobbered appId items start
      { now with
        maxPageNum := now.newNum 0
        pages := now.pages.assign (now.newNum 0) (newPage appId item (now.newNum 0)) }
      (now.newNum 0) lost 0 := by
  have unknown := (listed.unknown member missing).1
  have number := listed.counter
  have word : now.newNum 0 < 2 ^ 32 := Nat.mod_lt _ (by decide)
  have here : (now.pages.assign (now.newNum 0) (newPage appId item (now.newNum 0))).lookup
      (now.newNum 0) = some (newPage appId item (now.newNum 0)) := by
    rw [Table.lookup_assign, if_pos rfl]
  refine ⟨by rw [number]; exact stored, wanted, word, rfl, by decide, ?_, ?_⟩
  · refine ⟨_, here, rfl, fun app same => ?_⟩
    exact hasPage_false unknown stored app same.symm
  · intro later none
    rw [Nat.le_zero.mp none, Nat.add_zero, Nat.mod_eq_of_lt word]
    exact ⟨_, here, rfl, item, member, rfl⟩

/-- With no more pages than numbers, the numbers do not come around before the
listing ends. -/
theorem Clobbered.room {slot filled : Nat} {lost : PageInfo}
    (clobbered : Clobbered appId items start now slot lost filled) (valid : PageTable now.pages)
    (few : (listedIds items).card ≤ 2 ^ 32) {item : RpcPage} (member : item ∈ items)
    (missing : now.hasPage appId item.pageId = false) : filled + 1 < 2 ^ 32 := by
  by_contra full
  have around := clobbered.around
  let identifier (later : Nat) : Nat :=
    ((now.pages.lookup ((slot + later) % 2 ^ 32)).map PageInfo.pageId).getD 0
  have maps : ∀ later ∈ Finset.range (filled + 1),
      identifier later ∈ (listedIds items).erase item.pageId := by
    intro later inside
    obtain ⟨page, found, app, listed⟩ :=
      clobbered.given later (Nat.lt_succ_iff.mp (Finset.mem_range.mp inside))
    have same : identifier later = page.pageId := by
      simp only [identifier, found, Option.map_some, Option.getD_some]
    rw [same, Finset.mem_erase, mem_listedIds]
    exact ⟨hasPage_false missing found app, listed⟩
  have injective : Set.InjOn identifier (Finset.range (filled + 1)) := by
    intro first inside second inside' same
    rw [Finset.coe_range, Set.mem_Iio] at inside inside'
    obtain ⟨page, found, app, _⟩ := clobbered.given first (Nat.lt_succ_iff.mp inside)
    obtain ⟨page', found', app', _⟩ := clobbered.given second (Nat.lt_succ_iff.mp inside')
    simp only [identifier, found, found', Option.map_some, Option.getD_some] at same
    have slots := valid.distinct _ _ page page' found found' (app.trans app'.symm) same
    omega
  have count := Finset.card_le_card_of_injOn identifier maps injective
  rw [Finset.card_range, Finset.card_erase_of_mem (mem_listedIds.mpr ⟨item, member, rfl⟩)] at count
  omega

theorem Clobbered.step {slot filled : Nat} {lost : PageInfo}
    (clobbered : Clobbered appId items start now slot lost filled) (valid : PageTable now.pages)
    (few : (listedIds items).card ≤ 2 ^ 32) {item : RpcPage} (member : item ∈ items) :
    ∃ filled, Clobbered appId items start (now.listPage appId item) slot lost filled := by
  obtain ⟨other, held, app', named⟩ := clobbered.taken
  rcases listPage_news valid appId item with
    ⟨num, page, found, app, identifier, shape⟩ | ⟨missing, shape⟩
  · have stays (place : Nat) (entry : PageInfo) (here : now.pages.lookup place = some entry) :
        ∃ later, (now.pages.modify num (PageInfo.list item)).lookup place = some later ∧
          later.appId = entry.appId ∧ later.pageId = entry.pageId := by
      rw [Table.lookup_modify, here]
      split
      · exact ⟨entry.list item, rfl, rfl, rfl⟩
      · exact ⟨entry, rfl, rfl, rfl⟩
    rw [shape]
    refine ⟨filled, clobbered.stored, clobbered.wanted, clobbered.word, clobbered.counter,
      clobbered.around, ?_, ?_⟩
    · obtain ⟨later, after, same, same'⟩ := stays slot other held
      exact ⟨later, after, same.trans app', fun lostApp => by rw [same']; exact named lostApp⟩
    · intro later less
      obtain ⟨entry, here, entryApp, listed, inside, same⟩ := clobbered.given later less
      obtain ⟨after, stored, sameApp, sameId⟩ := stays _ entry here
      exact ⟨after, stored, sameApp.trans entryApp, listed, inside, same.trans sameId.symm⟩
  · have more := clobbered.room valid few member missing
    have number := clobbered.counter
    have word := clobbered.word
    rw [shape]
    refine ⟨filled + 1, clobbered.stored, clobbered.wanted, word, ?_, more, ?_, ?_⟩
    · change (now.newNum 0 + 1 + 0) % 2 ^ 32 = _
      omega
    · refine ⟨other, ?_, app', named⟩
      rw [Table.lookup_assign, if_neg (by omega)]
      exact held
    · intro later less
      rw [Table.lookup_assign]
      split
      · exact ⟨_, rfl, rfl, item, member, rfl⟩
      · refine clobbered.given later ?_
        rename_i apart
        by_contra beyond
        have last : later = filled + 1 := by omega
        rw [last, ← Nat.add_assoc] at apart
        exact apart number.symm

theorem listPage_table (valid : PageTable now.pages) (appId : String) (item : RpcPage) :
    PageTable (now.listPage appId item).pages := by
  rcases listPage_news valid appId item with ⟨num, _, _, _, _, shape⟩ | ⟨missing, shape⟩
  · rw [shape]
    exact valid.modify num (PageInfo.list item) fun _ => ⟨rfl, rfl, rfl⟩
  · rw [shape]
    refine valid.assign (newPage appId item (now.newNum 0)) ?_
    rintro num known found ⟨app, identifier⟩
    exact hasPage_false missing found app identifier

theorem listPages_listed (room : RoomFor appId items start) {later : List RpcPage}
    (whole : seen ++ later = items) (valid : PageTable now.pages)
    (listed : Listed appId items start seen now) :
    Listed appId items start items (later.foldl (listPage appId) now) := by
  induction later generalizing seen now with
  | nil =>
      rw [List.append_nil] at whole
      subst whole
      exact listed
  | cons item later ih =>
      have split : seen ++ [item] ++ later = items := by
        rw [List.append_assoc, List.singleton_append, whole]
      have inside : ∀ other ∈ seen ++ [item], other ∈ items := by
        intro other member
        rw [← split]
        exact List.mem_append_left _ member
      refine ih split (listPage_table valid appId item) ?_
      rcases listPage_news valid appId item with
        ⟨num, page, found, app, identifier, shape⟩ | ⟨missing, shape⟩
      · rw [shape]
        exact listed.update valid found app identifier
      · have member := inside item (List.mem_append_right _ (List.mem_singleton_self item))
        obtain ⟨unknown, unlisted⟩ := listed.unknown member missing
        have bound := newIds_mono appId start inside
        rw [card_newIds_append_new unknown unlisted] at bound
        rw [shape]
        exact listed.create inside missing room.1 fun page found => room.2 _ bound page found

theorem listPages_cases (few : (listedIds items).card ≤ 2 ^ 32) {later : List RpcPage}
    (whole : seen ++ later = items) (valid : PageTable now.pages)
    (listed : Listed appId items start seen now ∨
      ∃ slot lost filled, Clobbered appId items start now slot lost filled) :
    Listed appId items start items (later.foldl (listPage appId) now) ∨
      ∃ slot lost filled,
        Clobbered appId items start (later.foldl (listPage appId) now) slot lost filled := by
  induction later generalizing seen now with
  | nil =>
      rw [List.append_nil] at whole
      subst whole
      exact listed
  | cons item later ih =>
      have split : seen ++ [item] ++ later = items := by
        rw [List.append_assoc, List.singleton_append, whole]
      have inside : ∀ other ∈ seen ++ [item], other ∈ items := by
        intro other member
        rw [← split]
        exact List.mem_append_left _ member
      have member := inside item (List.mem_append_right _ (List.mem_singleton_self item))
      refine ih split (listPage_table valid appId item) ?_
      rcases listed with listed | ⟨slot, lost, filled, clobbered⟩
      · rcases listPage_news valid appId item with
          ⟨num, page, found, app, identifier, shape⟩ | ⟨missing, shape⟩
        · rw [shape]
          exact .inl (listed.update valid found app identifier)
        · rw [shape]
          by_cases free : ∀ page,
              start.pages.lookup (start.newNum (start.newIds appId seen).card) = some page →
                ¬Wanted appId items page
          · exact .inl (listed.create inside missing (newIds_subset.trans few) free)
          · simp only [not_forall, not_not] at free
            obtain ⟨lost, stored, wanted⟩ := free
            exact .inr ⟨_, lost, 0, listed.clobber member missing stored wanted⟩
      · obtain ⟨filled', later'⟩ := clobbered.step valid few member
        exact .inr ⟨slot, lost, filled', later'⟩

theorem handlePageListing_lookup (runtime : DeviceRuntime) (appId : String)
    (items : List RpcPage) (num : Nat) (page : PageInfo) :
    (runtime.handlePageListing appId items).pages.lookup num = some page ↔
      (items.foldl (listPage appId) runtime).pages.lookup num = some page ∧
        Wanted appId items page := by
  have listed (found : (items.foldl (listPage appId) runtime).pages.lookup num = some page) :
      num ∈ (items.foldl (listPage appId) runtime).unlistedPages appId items ↔
        ¬Wanted appId items page := by
    rw [mem_unlistedPages]
    simp only [lastListed, List.find?_eq_none, List.mem_reverse, beq_iff_eq, Wanted]
    constructor
    · rintro ⟨other, stored, app, none⟩ wanted
      rw [found] at stored
      cases stored
      obtain ⟨item, member, same⟩ := wanted app
      exact none item member same
    · intro unwanted
      simp only [not_forall, not_exists, not_and] at unwanted
      obtain ⟨app, none⟩ := unwanted
      exact ⟨page, found, app, none⟩
  simp only [handlePageListing, syncPages, Table.lookup_eraseAll]
  split
  · rename_i unlisted
    constructor
    · intro none
      cases none
    · rintro ⟨found, wanted⟩
      exact absurd wanted ((listed found).mp unlisted)
  · rename_i stays
    refine ⟨fun found => ⟨found, ?_⟩, And.left⟩
    by_contra unwanted
    exact stays ((listed found).mpr unwanted)

def Words (runtime : DeviceRuntime) : Prop :=
  ∀ num page, runtime.pages.lookup num = some page → num < 2 ^ 32

theorem listPage_words (valid : PageTable now.pages) (words : now.Words) (appId : String)
    (item : RpcPage) : (now.listPage appId item).Words := by
  intro place entry found
  rcases listPage_news valid appId item with ⟨num, _, _, _, _, shape⟩ | ⟨_, shape⟩
  · rw [shape] at found
    rcases Table.lookup_of_modify found with ⟨_, old, before, _⟩ | ⟨_, before⟩
    · exact words place old before
    · exact words place entry before
  · rw [shape, Table.lookup_assign] at found
    split at found
    · rename_i here
      rw [here]
      exact Nat.mod_lt _ (by decide)
    · exact words place entry found

theorem listPages_words (valid : PageTable now.pages) (words : now.Words) (appId : String)
    (items : List RpcPage) : (items.foldl (listPage appId) now).Words := by
  induction items generalizing now with
  | nil => exact words
  | cons item items ih =>
      exact ih (listPage_table valid appId item) (listPage_words valid words appId item)

theorem MatchesListing.few {before after : DeviceRuntime}
    (matching : MatchesListing appId items before after) (words : after.Words) :
    (listedIds items).card ≤ 2 ^ 32 := by
  have places : ∀ pageId, ∃ num, pageId ∈ listedIds items → ∃ page,
      after.pages.lookup num = some page ∧ page.pageId = pageId := by
    intro pageId
    by_cases member : pageId ∈ listedIds items
    · obtain ⟨num, page, found, _, same⟩ :=
        (matching.listed pageId).mpr (mem_listedIds.mp member)
      exact ⟨num, fun _ => ⟨page, found, same⟩⟩
    · exact ⟨0, fun inside => absurd inside member⟩
  choose place placed using places
  have maps : ∀ pageId ∈ listedIds items, place pageId ∈ Finset.range (2 ^ 32) := by
    intro pageId member
    obtain ⟨page, found, _⟩ := placed pageId member
    exact Finset.mem_range.mpr (words _ page found)
  have injective : Set.InjOn place (listedIds items) := by
    intro first member second member' same
    obtain ⟨page, found, identifier⟩ := placed first member
    obtain ⟨page', found', identifier'⟩ := placed second member'
    rw [same, found'] at found
    cases found
    exact identifier.symm.trans identifier'
  have count := Finset.card_le_card_of_injOn place maps injective
  rwa [Finset.card_range] at count

theorem Clobbered.not_matches {slot filled : Nat} {lost : PageInfo}
    (clobbered : Clobbered appId items start (items.foldl (listPage appId) start) slot lost filled) :
    ¬MatchesListing appId items start (start.handlePageListing appId items) := by
  intro matching
  obtain ⟨page, held, app, named⟩ := clobbered.taken
  by_cases lostApp : lost.appId = appId
  · obtain ⟨later, found, same⟩ :=
      matching.kept slot lost clobbered.stored lostApp (clobbered.wanted lostApp)
    have before := ((handlePageListing_lookup start appId items slot later).mp found).1
    rw [held] at before
    cases before
    exact named lostApp same.pageId
  · have found := (matching.others slot lost lostApp).mpr clobbered.stored
    have before := ((handlePageListing_lookup start appId items slot lost).mp found).1
    rw [held] at before
    cases before
    exact lostApp app

theorem Listed.type (listed : Listed appId items start items now) (valid : PageTable start.pages)
    {num : Nat} {page : PageInfo} (found : now.pages.lookup num = some page)
    (app : page.appId = appId) :
    start.shownType appId items page.pageId = some page.pageType := by
  unfold shownType
  rcases listed.origin num page found with ⟨old, stored, same, type, _⟩ | ⟨_, new, first, _⟩
  · rw [Table.findValue_eq_lookup (valid.identity_eq_iff stored
      ⟨same.appId.symm.trans app, same.pageId.symm⟩), stored]
    exact congrArg some type
  · rw [hasPage, Option.isSome_eq_false_iff, Option.isNone_iff_eq_none] at new
    rw [new]
    exact first

/-- Without a clash of numbers, the listing is taken over but for the types. -/
theorem Listed.matches_iff
    (listed : Listed appId items start items (items.foldl (listPage appId) start))
    (valid : PageTable start.pages) :
    MatchesListing appId items start (start.handlePageListing appId items) ↔
      TypesCurrent appId items start := by
  have after := handlePageListing_lookup start appId items
  have shown (pageId : Nat) (named : ∃ item ∈ items, item.pageId = pageId) :
      ∃ num page, (start.handlePageListing appId items).pages.lookup num = some page ∧
        page.appId = appId ∧ page.pageId = pageId := by
    obtain ⟨item, member, same⟩ := named
    obtain ⟨num, page, found, app, identifier⟩ :=
      (hasPage_iff _ _ _).mp (listed.shown item member)
    exact ⟨num, page, (after num page).mpr ⟨found, fun _ => ⟨item, member, identifier.symm⟩⟩, app,
      identifier.trans same⟩
  constructor
  · intro matching pageId item last
    have named : ∃ item ∈ items, item.pageId = pageId := by
      have same := List.find?_some last
      rw [beq_iff_eq] at same
      exact ⟨item, List.mem_reverse.mp (List.mem_of_find?_eq_some last), same⟩
    obtain ⟨num, page, found, app, rfl⟩ := shown pageId named
    rw [listed.type valid ((after num page).mp found).1 app,
      (matching.current num page item found app last).1]
  · intro types
    refine ⟨fun pageId => ⟨?_, shown pageId⟩, ?_, ?_, ?_⟩
    · rintro ⟨num, page, found, app, rfl⟩
      exact ((after num page).mp found).2 app
    · intro num page item found app last
      have before := ((after num page).mp found).1
      have type := types page.pageId item last
      rw [listed.type valid before app] at type
      exact ⟨Option.some.inj type, listed.current num page item before app last⟩
    · intro num page found app named
      obtain ⟨later, stored, same, _⟩ := listed.kept num page found fun _ => named
      refine ⟨later, (after num later).mpr ⟨stored, fun _ => ?_⟩, same⟩
      rw [same.pageId]
      exact named
    · intro num page apart
      constructor
      · intro found
        rcases listed.origin num page ((after num page).mp found).1 with
          ⟨old, stored, same, _, others⟩ | ⟨app, _⟩
        · rw [others fun app => apart (same.appId.trans app)]
          exact stored
        · exact absurd app apart
      · intro found
        obtain ⟨later, stored, _, others⟩ := listed.kept num page found fun app => absurd app apart
        rw [others apart] at stored
        exact (after num page).mpr ⟨stored, fun app => absurd app apart⟩

/-- A listing is taken over just when the pages it names have their types already
and there are free numbers for those it adds. -/
theorem handlePageListing_matches_iff (runtime : DeviceRuntime) (valid : PageTable runtime.pages)
    (words : runtime.Words) (appId : String) (items : List RpcPage) :
    MatchesListing appId items runtime (runtime.handlePageListing appId items) ↔
      RoomFor appId items runtime ∧ TypesCurrent appId items runtime := by
  constructor
  · intro matching
    have few : (listedIds items).card ≤ 2 ^ 32 := by
      refine matching.few fun num page found => ?_
      exact listPages_words valid words appId items num page
        ((handlePageListing_lookup runtime appId items num page).mp found).1
    rcases listPages_cases few (List.nil_append items) valid
      (.inl (Listed.begin appId items runtime)) with listed | ⟨slot, lost, filled, clobbered⟩
    · exact ⟨⟨newIds_subset.trans few, listed.room⟩, (listed.matches_iff valid).mp matching⟩
    · exact absurd matching clobbered.not_matches
  · rintro ⟨room, types⟩
    have listed := listPages_listed room (List.nil_append items) valid
      (Listed.begin appId items runtime)
    exact (listed.matches_iff valid).mpr types

end DeviceRuntime

/-- The phone with a web page listed. -/
def listedPhone : DeviceRuntime :=
  phoneRuntime.handlePageListing "PID:1" [⟨1, .webPage, none, none, none⟩]

theorem listedPhone_table : PageTable listedPhone.pages :=
  (DeviceRuntime.handlePageListing_paged (newRuntime_paged plainBridge phoneEnvironment "UDID" 49152
    phoneConnection (.new false false)) "PID:1" _).table

theorem listedPhone_words : listedPhone.Words := by
  have fresh : phoneRuntime.Words := by
    intro num page found
    cases found
  intro num page found
  exact DeviceRuntime.listPages_words PageTable.empty fresh "PID:1" _ num page
    ((DeviceRuntime.handlePageListing_lookup _ _ _ num page).mp found).1

theorem handlePageListing_matches_iff_phone :
    DeviceRuntime.MatchesListing "PID:1" [⟨1, .webPage, none, some "Again", none⟩] listedPhone
        (listedPhone.handlePageListing "PID:1" [⟨1, .webPage, none, some "Again", none⟩]) ↔
      DeviceRuntime.RoomFor "PID:1" [⟨1, .webPage, none, some "Again", none⟩] listedPhone ∧
        DeviceRuntime.TypesCurrent "PID:1" [⟨1, .webPage, none, some "Again", none⟩]
          listedPhone :=
  DeviceRuntime.handlePageListing_matches_iff listedPhone listedPhone_table listedPhone_words
    "PID:1" _

/-- A page that is listed again with another type keeps the one it had. -/
theorem relisted_page_keeps_type :
    PageTable listedPhone.pages ∧ listedPhone.Words ∧
      ¬DeviceRuntime.MatchesListing "PID:1" [⟨1, .javaScript, none, none, none⟩] listedPhone
        (listedPhone.handlePageListing "PID:1" [⟨1, .javaScript, none, none, none⟩]) := by
  refine ⟨listedPhone_table, listedPhone_words, fun matching => ?_⟩
  have current := matching.current 1 ⟨1, .webPage, "PID:1", 1, none, none, none, none, none⟩
    ⟨1, .javaScript, none, none, none⟩ (by decide) rfl rfl
  exact absurd current.1 (by decide)

end IosWebkitDebugProxy
