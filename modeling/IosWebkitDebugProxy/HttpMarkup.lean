import IosWebkitDebugProxy.HttpLinks
import IosWebkitDebugProxy.Library.HtmlPages

/-! The pages as a browser reads them. What a device or a page gives as its name, title or
URL is put into them as it is. -/

namespace IosWebkitDebugProxy

open Html

def startTag (name : String) (attributes : List String) : Token :=
  .tag ⟨false, name.toList, attributes.map String.toList⟩

def linkTag : Tag := ⟨false, "a".toList, ["href".toList]⟩

def endTag (name : String) : Token := .tag ⟨true, name.toList, []⟩

def shownName (state : DevicePortState) : List Char := (state.deviceName.getD "Unknown").toList

def shownTitle (page : PageEntry) : List Char := (page.title.getD "?").toList

def shownUrl (page : PageEntry) : List Char := (page.url.getD "?").toList

def lineBreak : Piece := .shown ['\n']

def pageOpening (number : Nat) : List Char :=
  "<li value=\"".toList ++ ((toString number).toList ++ "\"><a href=\"".toList)

def pageParts (state : DevicePortState) (page : PageEntry) : List Piece :=
  [.quoted (pageOpening page.pageNum) (generateFrontendUrl state page.pageNum).toList
      [startTag "li" ["value"]] linkTag,
    .shown (shownTitle page),
    .shown " - ".toList,
    .shown (shownUrl page),
    ⟨"</a></li>".toList, [endTag "a", endTag "li"]⟩]

def titlePart : Piece :=
  ⟨"<html><head><title>".toList, [startTag "html" [], startTag "head" [], startTag "title" []]⟩

def bodyPart : Piece :=
  ⟨"</title></head><body>Inspectable pages for ".toList,
    [endTag "title", endTag "head", startTag "body" []] ++
      letters "Inspectable pages for ".toList⟩

def listPart : Piece :=
  ⟨":<p><ol>".toList, letters [':'] ++ [startTag "p" [], startTag "ol" []]⟩

def lastPart : Piece :=
  ⟨"</ol></body></html>".toList, [endTag "ol", endTag "body", endTag "html"]⟩

def listParts (state : DevicePortState) : List Piece :=
  [titlePart, .shown (shownName state), bodyPart, .shown (shownName state), listPart] ++
    ([lineBreak].intercalate (state.pages.map (pageParts state)) ++ [lastPart])

theorem textOf_pageParts (state : DevicePortState) (page : PageEntry) :
    textOf (pageParts state page) = (pageItem state page).toList := by
  have opened : "\">".toList = ['\x22', '>'] := by decide
  have joined : textOf (pageParts state page) =
      (pageOpening page.pageNum ++
        ((generateFrontendUrl state page.pageNum).toList ++ ['\x22', '>'])) ++
        (shownTitle page ++ (" - ".toList ++ (shownUrl page ++ "</a></li>".toList))) := by
    simp only [pageParts, textOf_cons, Piece.shown, Piece.quoted]
    rfl
  rw [joined]
  unfold pageItem pageOpening shownTitle shownUrl
  simp only [-String.reduceToList, String.toList_append, List.append_assoc, opened]

theorem textOf_listParts (state : DevicePortState) :
    textOf (listParts state) = (buildPagesHtml state).toList := by
  have items : textOf ([lineBreak].intercalate (state.pages.map (pageParts state))) =
      ("\n".intercalate (state.pages.map (pageItem state))).toList := by
    rw [textOf_joined, String.toList_intercalate, List.map_map]
    simp only [textOf_pageParts]
    rfl
  have joined : textOf (listParts state) =
      "<html><head><title>".toList ++ (shownName state ++
        ("</title></head><body>Inspectable pages for ".toList ++ (shownName state ++
          (":<p><ol>".toList ++
            (("\n".intercalate (state.pages.map (pageItem state))).toList ++
              "</ol></body></html>".toList))))) := by
    simp only [listParts, textOf_append, items, textOf_cons, Piece.shown, List.append_assoc]
    rfl
  rw [joined]
  unfold buildPagesHtml shownName
  simp only [-String.reduceToList, String.toList_append, List.append_assoc]

theorem run_pageOpening (number : Nat) :
    run (.text none) (pageOpening number) =
      (.tag linkTag (.quoted '\x22'), [startTag "li" ["value"]]) := by
  have digits : '\x22' ∉ (toString number).toList := notMem_toString (by decide) number
  unfold pageOpening
  rw [run_append, run_append]
  have first : run (.text none) "<li value=\"".toList =
      (.tag ⟨false, "li".toList, ["value".toList]⟩ (.quoted '\x22'), []) := by decide
  have second : run (.tag ⟨false, "li".toList, ["value".toList]⟩ (.quoted '\x22'))
      "\"><a href=\"".toList =
      (.tag linkTag (.quoted '\x22'), [startTag "li" ["value"]]) := by decide
  rw [first, run_quoted _ digits, second]
  rfl

theorem reads_titlePart : Reads none titlePart (some "title".toList) := by decide

theorem follows_bodyPart : Follows (some "title".toList) bodyPart none :=
  ⟨by decide, '<', rfl, by decide, by decide⟩

theorem follows_listPart : Follows none listPart none := ⟨by decide, ':', rfl, by decide, by decide⟩

theorem reads_lastPart : Reads none lastPart none := by decide

theorem reads_lineBreak : Reads none lineBreak none := by decide

theorem follows_dash : Follows none (.shown " - ".toList) none :=
  ⟨by decide, ' ', rfl, by decide, by decide⟩

theorem follows_itemEnd : Follows none ⟨"</a></li>".toList, [endTag "a", endTag "li"]⟩ none :=
  ⟨by decide, '<', rfl, by decide, by decide⟩

structure PageFits (state : DevicePortState) (page : PageEntry) : Prop where
  link : '\x22' ∉ (generateFrontendUrl state page.pageNum).toList
  title : Quiet (shownTitle page)
  url : Quiet (shownUrl page)

theorem inPlace_pageParts (state : DevicePortState) (page : PageEntry) (pieces : List Piece) :
    InPlace (.text none) (pageParts state page ++ pieces) ↔
      PageFits state page ∧ InPlace (.text none) pieces := by
  have opened : (emitTag linkTag).1 = .text none := by decide
  unfold pageParts
  simp only [List.cons_append, List.nil_append]
  rw [inPlace_quoted (run_pageOpening page.pageNum) opened, inPlace_shown follows_dash,
    inPlace_shown follows_itemEnd]
  constructor
  · rintro ⟨link, title, url, rest⟩
    exact ⟨⟨link, title, url⟩, rest⟩
  · rintro ⟨⟨link, title, url⟩, rest⟩
    exact ⟨link, title, url, rest⟩

theorem places_listParts (state : DevicePortState) :
    Places (listParts state) ↔
      Quiet (shownName state) ∧ ∀ page ∈ state.pages, PageFits state page := by
  have items : InPlace (.text none)
      ([lineBreak].intercalate (state.pages.map (pageParts state)) ++ [lastPart]) ↔
        ∀ page ∈ state.pages, PageFits state page := by
    rw [inPlace_joined reads_lineBreak (inPlace_pageParts state), inPlace_reads reads_lastPart]
    exact and_iff_left trivial
  have body : InPlace (.text none) (.shown (shownName state) :: listPart ::
      ([lineBreak].intercalate (state.pages.map (pageParts state)) ++ [lastPart])) ↔
        Quiet (shownName state) ∧ ∀ page ∈ state.pages, PageFits state page := by
    rw [inPlace_shown follows_listPart, items]
  rw [places_iff, listParts]
  simp only [List.cons_append, List.nil_append]
  rw [inPlace_reads reads_titlePart, ← body]
  constructor
  · intro inPlace
    exact inPlace_raw follows_bodyPart rfl inPlace
  · intro inPlace
    exact (inPlace_quiet (body.mp inPlace).1 follows_bodyPart).mpr inPlace

def itemTags : List Token :=
  [startTag "li" ["value"], startTag "a" ["href"], endTag "a", endTag "li"]

/-- The tags that the list of pages is meant to have. -/
def listTags (count : Nat) : List Token :=
  [startTag "html" [], startTag "head" [], startTag "title" [], endTag "title", endTag "head",
    startTag "body" [], startTag "p" [], startTag "ol" []] ++
    ((List.replicate count itemTags).flatten ++ [endTag "ol", endTag "body", endTag "html"])

def itemText (page : PageEntry) : List Char :=
  shownTitle page ++ (" - ".toList ++ shownUrl page)

theorem markup_pageParts (state : DevicePortState) (page : PageEntry) :
    (tokensOf (pageParts state page)).filter Token.isMarkup = itemTags := by
  simp only [pageParts, tokensOf_cons, Piece.shown, Piece.quoted, List.filter_append,
    filter_letters]
  decide

theorem markup_listParts (state : DevicePortState) :
    (tokensOf (listParts state)).filter Token.isMarkup = listTags state.pages.length := by
  have items : (tokensOf ([lineBreak].intercalate (state.pages.map (pageParts state)))).filter
      Token.isMarkup = (List.replicate state.pages.length itemTags).flatten :=
    markup_joined (filter_letters _) (markup_pageParts state) state.pages
  simp only [listParts, tokensOf_append, tokensOf_cons, Piece.shown, List.filter_append, items,
    filter_letters, listTags]
  rfl

theorem readItems_pageParts (references : References) (state : DevicePortState)
    (page : PageEntry) (back : List Token) :
    readItems references none (tokensOf (pageParts state page) ++ back) =
      readText references (itemText page) :: readItems references none back := by
  have shape : tokensOf (pageParts state page) ++ back =
      startTag "li" ["value"] :: .tag linkTag :: (letters (shownTitle page) ++
        (letters " - ".toList ++ (letters (shownUrl page) ++
          (endTag "a" :: endTag "li" :: back)))) := by
    simp [pageParts, Piece.shown, Piece.quoted, tokensOf]
  have opened (rest : List Token) :
      readItems references none (startTag "li" ["value"] :: .tag linkTag :: rest) =
        readItems references (some ([] ++ readText references [], [])) rest := rfl
  have closed (text : List Char) :
      readItems references (some ([], text)) (endTag "a" :: endTag "li" :: back) =
        (([] ++ readText references text) ++ readText references []) ::
          readItems references none back := rfl
  rw [shape, opened, readText_nil, List.append_nil, readItems_letters, readItems_letters,
    readItems_letters, closed, readText_nil, List.append_nil, List.nil_append, List.nil_append,
    List.append_assoc, itemText]

theorem readItems_listParts (references : References) (state : DevicePortState) :
    readItems references none (tokensOf (listParts state)) =
      state.pages.map fun page => readText references (itemText page) := by
  have front : ∀ token ∈ tokensOf [titlePart, .shown (shownName state), bodyPart,
      .shown (shownName state), listPart], token.isItem false = false := by
    simp only [tokensOf_cons, List.forall_mem_append]
    exact ⟨by decide, noItem_letters false _, by decide, noItem_letters false _, by decide,
      by decide⟩
  have last : readItems references none (tokensOf [lastPart]) = [] := rfl
  rw [listParts, tokensOf_append, readItems_outside front, tokensOf_append,
    readItems_joined (noItem_letters false _) (readItems_pageParts references state), last, List.append_nil]

theorem quote_notMem_link (state : DevicePortState) (pageNum : Nat) :
    '\x22' ∉ (generateFrontendUrl state pageNum).toList ↔
      ∀ feUrl ∈ state.frontend, '\x22' ∉ Text.afterLast '/' feUrl.toList := by
  cases frontend : state.frontend with
  | none =>
      unfold generateFrontendUrl
      rw [frontend]
      simp
  | some feUrl =>
      have address : '\x22' ∉ socketAddress state pageNum :=
        socketAddress_notMem (by decide) (by decide)
      have front : '\x22' ∉ "/devtools/".toList := by decide
      have query : '\x22' ∉ '?' :: ("ws".toList ++ '=' :: socketAddress state pageNum) := by
        simp [address]
      rw [generateFrontendUrl_toList frontend, List.mem_append, List.mem_append]
      simp only [front, query, false_or, or_false, Option.mem_some_iff, forall_eq']

/-- What a browser is meant to make of the list of pages: the tags of the template, items
that read as title and URL, and no text that opens or closes anything. A comment counts
as a tag, and what stands for a title or a URL that is missing counts as one. -/
structure PagesServed (references : References) (state : DevicePortState) : Prop where
  tags : markup (handleIndex .get state).body.toList = listTags state.pages.length
  items : itemTexts references (handleIndex .get state).body.toList = state.pages.map itemText
  places : Places (listParts state)

/-- The texts of the pages that are read as they are written. -/
structure PagesLiteral (references : References) (state : DevicePortState) : Prop where
  name : Quiet (shownName state)
  titles : ∀ page ∈ state.pages, Quiet (shownTitle page)
  urls : ∀ page ∈ state.pages, Quiet (shownUrl page)
  plain : ∀ page ∈ state.pages, Plain references (itemText page)
  link : state.pages ≠ [] → ∀ feUrl ∈ state.frontend, '\x22' ∉ Text.afterLast '/' feUrl.toList

theorem pagesServed_iff (references : References) (state : DevicePortState) :
    PagesServed references state ↔ PagesLiteral references state := by
  have plain_iff : (state.pages.map fun page => readText references (itemText page)) =
      state.pages.map itemText ↔ ∀ page ∈ state.pages, Plain references (itemText page) := by
    rw [List.map_inj_left]
    exact forall₂_congr fun page _ => readText_iff (itemText page)
  have body : (handleIndex .get state).body = buildPagesHtml state := rfl
  have read (places : Places (listParts state)) :
      tokens (handleIndex .get state).body.toList = tokensOf (listParts state) := by
    rw [body, ← textOf_listParts]
    exact tokens_of_places places
  constructor
  · rintro ⟨-, items, places⟩
    have fits := (places_listParts state).mp places
    rw [itemTexts, read places, readItems_listParts, plain_iff] at items
    refine ⟨fits.1, fun page member => (fits.2 page member).title,
      fun page member => (fits.2 page member).url, items, ?_⟩
    intro some'
    obtain ⟨page, member⟩ := List.exists_mem_of_ne_nil _ some'
    exact (quote_notMem_link state page.pageNum).mp (fits.2 page member).link
  · intro literal
    have places := (places_listParts state).mpr ⟨literal.name, fun page member =>
      ⟨(quote_notMem_link state page.pageNum).mpr (literal.link (List.ne_nil_of_mem member)),
        literal.titles page member, literal.urls page member⟩⟩
    refine ⟨?_, ?_, places⟩
    · rw [markup, read places, markup_listParts]
    · rw [itemTexts, read places, readItems_listParts, plain_iff]
      exact literal.plain

/-! The list of devices. -/

def headPart : Piece :=
  ⟨"<html><head><title>iOS Devices</title></head><body>iOS Devices:<p><ol>".toList,
    [startTag "html" [], startTag "head" [], startTag "title" []] ++
      (letters "iOS Devices".toList ++ ([endTag "title", endTag "head", startTag "body" []] ++
        (letters "iOS Devices:".toList ++ [startTag "p" [], startTag "ol" []])))⟩

def deviceAddress (device : DeviceInfo) : List Char :=
  "http://localhost:".toList ++ ((toString device.port).toList ++ ['/'])

def deviceParts (device : DeviceInfo) : List Piece :=
  [.quoted "<li><a href=\"".toList (deviceAddress device) [startTag "li" []] linkTag,
    .shown device.deviceName.toList,
    ⟨"</a> - ".toList, endTag "a" :: letters " - ".toList⟩,
    .shown device.deviceId.toList,
    ⟨"</li>".toList, [endTag "li"]⟩]

def deviceListParts (state : DeviceListState) : List Piece :=
  headPart :: ([lineBreak].intercalate (state.devices.map deviceParts) ++ [lastPart])

theorem textOf_deviceParts (device : DeviceInfo) :
    textOf (deviceParts device) = (deviceItem device).toList := by
  have opened : "/\">".toList = ['/', '\x22', '>'] := by decide
  have start : "<li><a href=\"http://localhost:".toList =
      "<li><a href=\"".toList ++ "http://localhost:".toList := by decide
  have joined : textOf (deviceParts device) =
      ("<li><a href=\"".toList ++ (deviceAddress device ++ ['\x22', '>'])) ++
        (device.deviceName.toList ++ ("</a> - ".toList ++
          (device.deviceId.toList ++ "</li>".toList))) := by
    simp only [deviceParts, textOf_cons, Piece.shown, Piece.quoted]
    rfl
  rw [joined]
  unfold deviceItem deviceAddress
  simp only [-String.reduceToList, String.toList_append, List.append_assoc, opened, start,
    List.cons_append, List.nil_append]

theorem textOf_deviceListParts (state : DeviceListState) :
    textOf (deviceListParts state) = (deviceListHtml state).toList := by
  have items : textOf ([lineBreak].intercalate (state.devices.map deviceParts)) =
      ("\n".intercalate (state.devices.map deviceItem)).toList := by
    rw [textOf_joined, String.toList_intercalate, List.map_map]
    simp only [textOf_deviceParts]
    rfl
  have joined : textOf (deviceListParts state) =
      "<html><head><title>iOS Devices</title></head><body>iOS Devices:<p><ol>".toList ++
        (("\n".intercalate (state.devices.map deviceItem)).toList ++
          "</ol></body></html>".toList) := by
    rw [deviceListParts, textOf_cons, textOf_append, items]
    rfl
  rw [joined]
  unfold deviceListHtml
  simp only [-String.reduceToList, String.toList_append, List.append_assoc]

theorem reads_headPart : Reads none headPart none := by decide

theorem follows_linkEnd :
    Follows none ⟨"</a> - ".toList, endTag "a" :: letters " - ".toList⟩ none :=
  ⟨by decide, '<', rfl, by decide, by decide⟩

theorem follows_deviceEnd : Follows none ⟨"</li>".toList, [endTag "li"]⟩ none :=
  ⟨by decide, '<', rfl, by decide, by decide⟩

theorem inPlace_deviceParts (device : DeviceInfo) (pieces : List Piece) :
    InPlace (.text none) (deviceParts device ++ pieces) ↔
      (Quiet device.deviceName.toList ∧ Quiet device.deviceId.toList) ∧
        InPlace (.text none) pieces := by
  have opening : run (.text none) "<li><a href=\"".toList =
      (.tag linkTag (.quoted '\x22'), [startTag "li" []]) := by decide
  have opened : (emitTag linkTag).1 = .text none := by decide
  have address : '\x22' ∉ deviceAddress device := by
    have digits : '\x22' ∉ (toString device.port).toList := notMem_toString (by decide) _
    unfold deviceAddress
    rw [List.mem_append, List.mem_append, not_or, not_or]
    exact ⟨by decide, digits, by decide⟩
  unfold deviceParts
  simp only [List.cons_append, List.nil_append]
  rw [inPlace_quoted opening opened, inPlace_shown follows_linkEnd,
    inPlace_shown follows_deviceEnd, and_assoc]
  exact and_iff_right address

theorem places_deviceListParts (state : DeviceListState) :
    Places (deviceListParts state) ↔ ∀ device ∈ state.devices,
      Quiet device.deviceName.toList ∧ Quiet device.deviceId.toList := by
  rw [places_iff, deviceListParts, inPlace_reads reads_headPart,
    inPlace_joined reads_lineBreak inPlace_deviceParts, inPlace_reads reads_lastPart]
  exact and_iff_left trivial

def deviceTags : List Token :=
  [startTag "li" [], startTag "a" ["href"], endTag "a", endTag "li"]

def deviceListTags (count : Nat) : List Token :=
  [startTag "html" [], startTag "head" [], startTag "title" [], endTag "title", endTag "head",
    startTag "body" [], startTag "p" [], startTag "ol" []] ++
    ((List.replicate count deviceTags).flatten ++ [endTag "ol", endTag "body", endTag "html"])

theorem markup_deviceParts (device : DeviceInfo) :
    (tokensOf (deviceParts device)).filter Token.isMarkup = deviceTags := by
  simp only [deviceParts, tokensOf_cons, Piece.shown, Piece.quoted, List.filter_append,
    filter_letters]
  decide

theorem markup_deviceListParts (state : DeviceListState) :
    (tokensOf (deviceListParts state)).filter Token.isMarkup =
      deviceListTags state.devices.length := by
  have items : (tokensOf ([lineBreak].intercalate (state.devices.map deviceParts))).filter
      Token.isMarkup = (List.replicate state.devices.length deviceTags).flatten :=
    markup_joined (filter_letters _) markup_deviceParts state.devices
  rw [deviceListParts, tokensOf_cons, tokensOf_append, List.filter_append, List.filter_append,
    items]
  rfl

def DevicesLiteral (state : DeviceListState) : Prop :=
  ∀ device ∈ state.devices, Quiet device.deviceName.toList ∧ Quiet device.deviceId.toList

structure DevicesServed (state : DeviceListState) : Prop where
  tags : markup (handleDeviceListHtml .get state).body.toList =
    deviceListTags state.devices.length
  places : Places (deviceListParts state)

theorem devicesServed_iff (state : DeviceListState) :
    DevicesServed state ↔ DevicesLiteral state := by
  rw [DevicesLiteral, ← places_deviceListParts]
  constructor
  · intro served
    exact served.places
  · intro places
    refine ⟨?_, places⟩
    have body : (handleDeviceListHtml .get state).body = deviceListHtml state := rfl
    rw [body, ← textOf_deviceListParts, markup, tokens_of_places places, markup_deviceListParts]

/-- The lists are served as they are meant to be just when nothing in them begins a tag,
and two lists of as many entries then have the same tags. -/
theorem html_served_iff (references : References) :
    (∀ state, PagesServed references state ↔ PagesLiteral references state) ∧
    (∀ state, DevicesServed state ↔ DevicesLiteral state) ∧
    (∀ first second : DevicePortState,
      first.pages.map PageEntry.pageNum = second.pages.map PageEntry.pageNum →
      PagesLiteral references first → PagesLiteral references second →
      markup (handleIndex .get first).body.toList = markup (handleIndex .get second).body.toList) ∧
    ∀ first second : DeviceListState,
      first.devices.map DeviceInfo.port = second.devices.map DeviceInfo.port →
      DevicesLiteral first → DevicesLiteral second →
      markup (handleDeviceListHtml .get first).body.toList =
        markup (handleDeviceListHtml .get second).body.toList := by
  refine ⟨pagesServed_iff references, devicesServed_iff, ?_, ?_⟩
  · intro first second numbers firstLiteral secondLiteral
    have length := congrArg List.length numbers
    rw [List.length_map, List.length_map] at length
    rw [((pagesServed_iff references first).mpr firstLiteral).tags, length,
      ((pagesServed_iff references second).mpr secondLiteral).tags]
  · intro first second ports firstLiteral secondLiteral
    have length := congrArg List.length ports
    rw [List.length_map, List.length_map] at length
    rw [((devicesServed_iff first).mpr firstLiteral).tags, length,
      ((devicesServed_iff second).mpr secondLiteral).tags]

def titledPage (title : String) : DevicePortState :=
  { port := 9222, deviceId := some "UDID", deviceName := some "iPhone", deviceOsVersion := 0,
    connected := true, pages := [⟨1, "PID:1", 1, some title, some "http://a/", none⟩],
    frontend := none }

/-- Some of the references of the standard. -/
def someReferences : References :=
  .ofTable [("amp;".toList, ['&']), ("lt;".toList, ['<']), ("gt;".toList, ['>']),
    ("quot;".toList, ['\x22'])] (by decide)

/-- An ampersand by itself is read as it is, but not one that begins a reference. -/
theorem html_served_iff_titles :
    PagesServed someReferences (titledPage "a & b") ∧
      ¬PagesServed someReferences (titledPage "a &amp; b") := by
  obtain ⟨pages, -⟩ := html_served_iff someReferences
  constructor
  · exact (pages _).mpr ⟨by decide, by decide, by decide, by decide, fun _ _ => nofun⟩
  · intro served
    exact absurd (((pages _).mp served).plain _ List.mem_cons_self) (by decide)

theorem titled_page_alters_tags : ¬ ∀ first second : DevicePortState,
    first.port = second.port → first.frontend = second.frontend →
    first.pages.map PageEntry.pageNum = second.pages.map PageEntry.pageNum →
    markup (handleIndex .get first).body.toList = markup (handleIndex .get second).body.toList := by
  intro same
  have body (state : DevicePortState) : (handleIndex .get state).body = buildPagesHtml state := rfl
  have tags := same (titledPage "a") (titledPage "<script>") rfl rfl rfl
  rw [body, body, ← textOf_listParts, ← textOf_listParts] at tags
  exact absurd tags (by decide)

end IosWebkitDebugProxy
