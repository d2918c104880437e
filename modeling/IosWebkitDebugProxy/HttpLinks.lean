import IosWebkitDebugProxy.HttpStatic

/-! The link of a page, which should open the frontend. The link holds what follows
the last slash of the frontend as it was given. Its request is answered from the
path of the URL that the frontend is. -/

namespace IosWebkitDebugProxy

open Url

/-- The socket of a page, as the query of a link names it. -/
def socketAddress (state : DevicePortState) (pageNum : Nat) : List Char :=
  "localhost:".toList ++ ((toString state.port).toList ++ ("/devtools/page/".toList ++
    (toString pageNum).toList))

theorem socketAddress_notMem {state : DevicePortState} {pageNum : Nat} {letter : Char}
    (apart : letter ∉ "localhost:/devtools/page/".toList) (other : letter.isDigit = false) :
    letter ∉ socketAddress state pageNum := by
  have digits := notMem_toString other
  have joined : "localhost:/devtools/page/".toList =
      "localhost:".toList ++ "/devtools/page/".toList := by decide
  rw [joined, List.mem_append, not_or] at apart
  unfold socketAddress
  rw [List.mem_append, List.mem_append, List.mem_append, not_or, not_or, not_or]
  exact ⟨apart.1, digits _, apart.2, digits _⟩

def socketParam (state : DevicePortState) (pageNum : Nat) : List Char × List Char :=
  ("ws".toList, socketAddress state pageNum)

theorem generateFrontendUrl_toList {state : DevicePortState} {feUrl : String}
    (frontend : state.frontend = some feUrl) (pageNum : Nat) :
    (generateFrontendUrl state pageNum).toList =
      "/devtools/".toList ++ (Text.afterLast '/' feUrl.toList ++
        '?' :: ("ws".toList ++ '=' :: socketAddress state pageNum)) := by
  have query : "?ws=localhost:".toList =
      '?' :: ("ws".toList ++ '=' :: "localhost:".toList) := by decide
  unfold generateFrontendUrl socketAddress
  rw [frontend]
  simp only [-String.reduceToList, String.toList_append, String.toList_ofList, query,
    List.append_assoc, List.cons_append]

/-- The path of a link, without what the frontend has for a query. -/
def linkFile (feUrl : String) : List Char := (cutTarget (Text.afterLast '/' feUrl.toList)).1

/-- The parameters that a link has from the frontend. The last one goes on into what
the link adds, unless a fragment cuts that off. -/
def linkParams (feUrl : String) : List (List Char × List Char) :=
  let given := Text.afterLast '/' feUrl.toList
  if '#' ∈ given then params (cutTarget given).2
  else match Text.cutLast '&' (cutTarget given).2 with
    | some (front, _) => params front
    | none => []

structure OpensFrontend (parse : String → Option Url) (state : DevicePortState) (parsed : Url)
    (pageNum : Nat) : Prop where
  routed : deviceRoute (cutTarget (generateFrontendUrl state pageNum).toList).1 = .devtoolsStatic
  proxied : ∃ request, handleDevtoolsStatic parse .get
      (cutTarget (generateFrontendUrl state pageNum).toList).1 state = .proxied request ∧
    pathText request.target.path = pathText parsed.path
  socket : socketParam state pageNum ∈
    params (cutTarget (generateFrontendUrl state pageNum).toList).2

/-- The last part of the frontend is the file that its URL names, and has no query
that takes the socket's parameter in. -/
structure NamesFile (state : DevicePortState) (feUrl : String) (parsed : Url) (pageNum : Nat) :
    Prop where
  http : isHttp feUrl = true
  safe : (linkFile feUrl).all isSafeLetter = true
  apart : hasDotDot (linkFile feUrl) = false
  last : linkFile feUrl = [] ∨ Text.afterLast '/' (pathText parsed.path) =
    if linkFile feUrl = ['.'] then [] else linkFile feUrl
  query : linkFile feUrl = Text.afterLast '/' feUrl.toList ∨
    socketParam state pageNum ∈ linkParams feUrl

theorem readParam_ne_socket {part : List Char} (marked : '?' ∈ part) (state : DevicePortState)
    (pageNum : Nat) : readParam part ≠ socketParam state pageNum := by
  intro same
  have apart : '?' ∉ socketAddress state pageNum :=
    socketAddress_notMem (by decide) (by decide)
  rcases mark_readParam marked with member | member
  · rw [same] at member
    exact absurd member (by decide : '?' ∉ "ws".toList)
  · rw [same] at member
    exact apart member

theorem params_socket (state : DevicePortState) (pageNum : Nat) :
    params ("ws".toList ++ '=' :: socketAddress state pageNum) = [socketParam state pageNum] := by
  have plain (letter : Char) (apart : letter ∉ "localhost:/devtools/page/".toList)
      (other : letter.isDigit = false) : letter ∉ socketAddress state pageNum :=
    socketAddress_notMem apart other
  rw [params_of_notMem, readParam_append, socketParam]
  · decide
  · intro text member
    rcases List.mem_cons.mp member with rfl | member
    · decide
    · cases List.mem_singleton.mp member
      exact ⟨plain '%' (by decide) (by decide), plain '+' (by decide) (by decide)⟩
  · rw [List.mem_append, List.mem_cons, not_or, not_or]
    exact ⟨by decide, by decide, plain '&' (by decide) (by decide)⟩

theorem socket_mem_glued (query : List Char) (state : DevicePortState) (pageNum : Nat)
    (added : List Char) (whole : '&' ∉ added) :
    socketParam state pageNum ∈ params (query ++ '?' :: added) ↔
      socketParam state pageNum ∈ match Text.cutLast '&' query with
        | some (front, _) => params front
        | none => [] := by
  have glued (part : List Char) (apart : '&' ∉ part) :
      socketParam state pageNum ∉ params (part ++ '?' :: added) := by
    rw [params_of_notMem, List.mem_singleton]
    · exact (readParam_ne_socket (by simp) state pageNum).symm
    · simp only [List.mem_append, List.mem_cons, not_or]
      exact ⟨apart, by decide, whole⟩
  by_cases separated : '&' ∈ query
  · obtain ⟨last, front, shape, apart⟩ :=
      List.eq_append_cons_of_mem (List.mem_reverse.mpr separated)
    have cut : query = front.reverse ++ '&' :: last.reverse := by
      rw [← List.reverse_reverse query, shape]
      simp
    have apart' : '&' ∉ last.reverse := fun member => apart (List.mem_reverse.mp member)
    rw [cut, Text.cutLast_append apart', List.append_assoc, List.cons_append, params_append,
      List.mem_append]
    exact or_iff_left (glued _ apart')
  · rw [Text.cutLast_of_notMem separated]
    exact iff_of_false (glued query separated) List.not_mem_nil

theorem deviceRoute_file {file : List Char} (apart : '/' ∉ file) :
    deviceRoute ("/devtools/".toList ++ file) = .devtoolsStatic := by
  have page : Text.stripStart "/devtools/page/".toList ("/devtools/".toList ++ file) = none := by
    rw [Text.stripStart, if_neg]
    intro start
    obtain ⟨rest, shape⟩ := List.isPrefixOf_iff_prefix.mp start
    have cut : "/devtools/page/".toList = "/devtools/".toList ++ ['p', 'a', 'g', 'e', '/'] := rfl
    rw [cut, List.append_assoc, List.append_cancel_left_eq] at shape
    rw [← shape] at apart
    simp at apart
  have other (path : String) (differs : ¬"/devtools/".toList <+: path.toList) :
      "/devtools/".toList ++ file ≠ path.toList :=
    fun same => differs ⟨file, same⟩
  rw [deviceRoute, if_neg (other "/" (by decide)),
    if_neg (not_or.mpr ⟨other "/json" (by decide), other "/json/list" (by decide)⟩),
    if_neg (other "/json/version" (by decide)), page, Text.stripStart_append]

theorem link_file {state : DevicePortState} {feUrl : String}
    (frontend : state.frontend = some feUrl) (pageNum : Nat) :
    (cutTarget (generateFrontendUrl state pageNum).toList).1 =
      "/devtools/".toList ++ linkFile feUrl := by
  rw [generateFrontendUrl_toList frontend, cutTarget_front (by decide), linkFile]
  rcases cutTarget_cases (Text.afterLast '/' feUrl.toList) with
    clean | ⟨front, separator, rest, shape, clean, stops⟩
  · rw [cutTarget_append clean _ (.inl rfl), cutTarget_of_clean clean]
  · rw [shape, List.append_assoc, List.cons_append, cutTarget_append clean _ stops,
      cutTarget_append clean _ stops]

theorem takeWhile_fragment {text : List Char} (clean : '#' ∉ text) (rest : List Char) :
    (text ++ '#' :: rest).takeWhile (· != '#') = text := by
  rw [List.takeWhile_append_of_pos, List.takeWhile_cons_of_neg (by decide), List.append_nil]
  intro letter member
  rw [bne_iff_ne]
  exact fun same => clean (same ▸ member)

theorem takeWhile_noFragment {text : List Char} (clean : '#' ∉ text) :
    text.takeWhile (· != '#') = text := by
  rw [List.takeWhile_eq_self_iff]
  intro letter member
  rw [bne_iff_ne]
  exact fun same => clean (same ▸ member)

theorem link_socket {state : DevicePortState} {feUrl : String}
    (frontend : state.frontend = some feUrl) (pageNum : Nat) :
    socketParam state pageNum ∈ params (cutTarget (generateFrontendUrl state pageNum).toList).2 ↔
      (linkFile feUrl = Text.afterLast '/' feUrl.toList ∨
        socketParam state pageNum ∈ linkParams feUrl) := by
  rw [generateFrontendUrl_toList frontend, cutTarget_front (by decide), linkFile, linkParams]
  have plain (letter : Char) (apart : letter ∉ "localhost:/devtools/page/".toList)
      (other : letter.isDigit = false) (name : letter ∉ "ws=".toList) :
      letter ∉ "ws".toList ++ '=' :: socketAddress state pageNum := by
    have joined : "ws=".toList = "ws".toList ++ ['='] := by decide
    rw [joined, List.mem_append, List.mem_singleton, not_or] at name
    rw [List.mem_append, List.mem_cons, not_or, not_or]
    exact ⟨name.1, name.2, socketAddress_notMem apart other⟩
  generalize Text.afterLast '/' feUrl.toList = given
  rcases cutTarget_cases given with clean | ⟨front, separator, rest, rfl, clean, stops⟩
  · rw [cutTarget_append clean _ (.inl rfl), cutTarget_of_clean clean, if_pos rfl,
      takeWhile_noFragment (plain '#' (by decide) (by decide) (by decide)), params_socket]
    exact iff_of_true (List.mem_singleton_self _) (.inl rfl)
  · have longer : front ≠ front ++ separator :: rest := by simp
    rw [List.append_assoc, List.cons_append, cutTarget_append clean _ stops,
      cutTarget_append clean _ stops, or_iff_right longer]
    rcases stops with rfl | rfl
    · rw [if_pos rfl, if_pos rfl]
      by_cases fragment : '#' ∈ rest
      · have inside : '#' ∈ front ++ '?' :: rest := by simp [fragment]
        obtain ⟨query, later, rfl, apart⟩ := List.eq_append_cons_of_mem fragment
        rw [if_pos inside, List.append_assoc, List.cons_append, takeWhile_fragment apart,
          takeWhile_fragment apart]
      · have added := plain '#' (by decide) (by decide) (by decide)
        have query : '#' ∉ rest ++ '?' :: ("ws".toList ++ '=' :: socketAddress state pageNum) := by
          rw [List.mem_append, List.mem_cons, not_or, not_or]
          exact ⟨fragment, by decide, added⟩
        have outside : '#' ∉ front ++ '?' :: rest := by
          rw [List.mem_append, List.mem_cons, not_or, not_or]
          exact ⟨clean.2, by decide, fragment⟩
        rw [if_neg outside, takeWhile_noFragment query, takeWhile_noFragment fragment]
        exact socket_mem_glued rest state pageNum _ (plain '&' (by decide) (by decide) (by decide))
    · have inside : '#' ∈ front ++ '#' :: rest := by simp
      rw [if_pos inside, if_neg (by decide)]
      exact Iff.rfl

theorem linkFile_slash_notMem (feUrl : String) : '/' ∉ linkFile feUrl := by
  have apart := Text.notMem_afterLast '/' feUrl.toList
  unfold linkFile
  rcases cutTarget_cases (Text.afterLast '/' feUrl.toList) with
    clean | ⟨front, separator, rest, shape, clean, stops⟩
  · rw [cutTarget_of_clean clean]
    exact apart
  · rw [shape] at apart ⊢
    rw [cutTarget_append clean _ stops]
    exact fun member => apart (List.mem_append_left _ member)

/-- Where a file with no letter that is refused leads to, in the directory of the
frontend. -/
theorem readPath_file {parsed : Url} {init : List (List Char)} {last : List Char}
    (shape : parsed.path = init ++ [last]) {file : List Char} (apart : '/' ∉ file)
    (safe : file.all isSafeLetter = true) (inside : hasDotDot file = false) :
    pathText (readPath (frontendPath parsed file)) = pathText parsed.path ↔
      (file = [] ∨ last = if file = ['.'] then [] else file) := by
  have initSettled : ∀ segment ∈ init, Settled segment := fun segment member =>
    parsed.settled segment (by rw [shape]; exact List.mem_append_left _ member)
  have lastSettled : Settled last := parsed.settled last (by rw [shape]; simp)
  have leads (segment : List Char) : pathText (init ++ [segment]) = pathText parsed.path ↔
      last = segment := by
    rw [shape, pathText_concat, pathText_concat, List.append_cancel_left_eq, List.cons_eq_cons,
      and_iff_right rfl, eq_comm]
  rw [(frontendPath_eq shape file).2.2, readPath_append initSettled]
  by_cases none : file = []
  · rw [if_pos none, lastSettled.splitOnP, settle, lastSettled.encode, if_neg lastSettled.notDouble,
      if_neg lastSettled.notSingle, settle, leads]
    exact iff_of_true rfl (.inl none)
  · have letters : ∀ letter ∈ file, isSafeLetter letter = true := List.all_eq_true.mp safe
    obtain ⟨encoded, plain⟩ := safe_encode letters
    have one : file.splitOnP separates = [file] :=
      List.splitOnP_eq_singleton fun letter member =>
        (isSafeLetter_plain (letters letter member)).2.2 fun same => apart (same ▸ member)
    rw [if_neg none, one, settle, if_neg (safe_apart safe inside List.infix_rfl), encoded,
      or_iff_right none]
    by_cases single : file = ['.']
    · rw [if_pos single, single, if_pos (by decide), settle, leaves, if_pos rfl, leads]
    · have other : dots file ≠ some 1 := fun counted => single (dots_eq plain counted)
      rw [if_neg single, if_neg other, settle, leads]

theorem link_proxied {parse : String → Option Url} {state : DevicePortState} {feUrl : String}
    {parsed : Url} (frontend : state.frontend = some feUrl) (found : parse feUrl = some parsed)
    (pageNum : Nat) :
    (∃ request, handleDevtoolsStatic parse .get
        (cutTarget (generateFrontendUrl state pageNum).toList).1 state = .proxied request ∧
      pathText request.target.path = pathText parsed.path) ↔
    isHttp feUrl = true ∧ (linkFile feUrl).all isSafeLetter = true ∧
      hasDotDot (linkFile feUrl) = false ∧ (linkFile feUrl = [] ∨
        Text.afterLast '/' (pathText parsed.path) =
          if linkFile feUrl = ['.'] then [] else linkFile feUrl) := by
  obtain ⟨init, last, shape⟩ := (List.eq_nil_or_concat' parsed.path).resolve_left parsed.nonempty
  have after := (frontendPath_eq shape []).2.1
  have slash := linkFile_slash_notMem feUrl
  simp only [handleDevtoolsStatic_proxied_iff, link_file frontend, Text.stripStart_append,
    Option.getD_some, after]
  constructor
  · rintro ⟨request, ⟨feUrl', parsed', frontend', http, apart, safe, found', rfl⟩, same⟩
    rw [frontend] at frontend'
    cases frontend'
    rw [found] at found'
    cases found'
    exact ⟨http, safe, apart, (readPath_file shape slash safe apart).mp same⟩
  · rintro ⟨http, safe, apart, leads⟩
    exact ⟨_, ⟨feUrl, parsed, frontend, http, apart, safe, found, rfl⟩,
      (readPath_file shape slash safe apart).mpr leads⟩

/-- The link of a page opens the frontend where the last part of the frontend, as it
was given, is the file that its URL names. -/
theorem generateFrontendUrl_opens_iff (parse : String → Option Url) (state : DevicePortState)
    (feUrl : String) (parsed : Url) (pageNum : Nat) (frontend : state.frontend = some feUrl)
    (found : parse feUrl = some parsed) :
    OpensFrontend parse state parsed pageNum ↔ NamesFile state feUrl parsed pageNum := by
  constructor
  · rintro ⟨_, proxied, socket⟩
    obtain ⟨http, safe, apart, last⟩ := (link_proxied frontend found pageNum).mp proxied
    exact ⟨http, safe, apart, last, (link_socket frontend pageNum).mp socket⟩
  · rintro ⟨http, safe, apart, last, query⟩
    refine ⟨?_, (link_proxied frontend found pageNum).mpr ⟨http, safe, apart, last⟩,
      (link_socket frontend pageNum).mpr query⟩
    rw [link_file frontend]
    exact deviceRoute_file (linkFile_slash_notMem feUrl)

theorem generateFrontendUrl_opens_iff_front :
    OpensFrontend parseFrontend (servedState "http://localhost:8080/front/devtools.html")
      (frontendUrl none) 1 :=
  (generateFrontendUrl_opens_iff parseFrontend
    (servedState "http://localhost:8080/front/devtools.html")
    "http://localhost:8080/front/devtools.html" (frontendUrl none) 1 rfl (if_pos rfl)).mpr
    ⟨by decide, by decide, by decide, .inr (by decide), .inl (by decide)⟩

/-- A query of the frontend's own takes the parameter of the socket in. -/
theorem queried_frontend_no_socket :
    ¬OpensFrontend parseFrontend
      (servedState "http://localhost:8080/front/devtools.html?experiments=true")
      (frontendUrl (some "experiments=true")) 1 := by
  intro opens
  have frontend : (servedState "http://localhost:8080/front/devtools.html?experiments=true").frontend =
      some "http://localhost:8080/front/devtools.html?experiments=true" := rfl
  rcases (link_socket frontend 1).mp opens.socket with whole | given
  · exact absurd whole (by decide)
  · exact absurd given (by decide)

end IosWebkitDebugProxy
