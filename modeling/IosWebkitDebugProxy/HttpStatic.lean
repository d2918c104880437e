import IosWebkitDebugProxy.HttpCore

/-! The proxy of the frontend stays in the directory of the frontend: the letters
it lets through make no segment that leads out of it. -/

namespace IosWebkitDebugProxy

open Url

theorem isSafeLetter_ascii {letter : Char} (safe : isSafeLetter letter = true) :
    letter.toNat < 128 := by
  unfold isSafeLetter Char.isAlphanum Char.isAlpha Char.isUpper Char.isLower Char.isDigit at safe
  simp only [Bool.or_eq_true, Bool.and_eq_true, decide_eq_true_eq, beq_iff_eq,
    UInt32.le_iff_toNat_le] at safe
  rcases safe with (((((safe | safe) | safe) | rfl) | rfl) | rfl) | rfl
  all_goals first
    | decide
    | (have bound := safe.2
       exact Nat.lt_of_le_of_lt bound (by decide))

theorem isSafeLetter_plain {letter : Char} (safe : isSafeLetter letter = true) :
    pathSet letter = false ∧ letter ≠ '%' ∧ (letter ≠ '/' → separates letter = false) := by
  have small : ∀ code < 128, isSafeLetter (Char.ofNat code) = true →
      pathSet (Char.ofNat code) = false ∧ Char.ofNat code ≠ '%' ∧
        (Char.ofNat code ≠ '/' → separates (Char.ofNat code) = false) := by decide
  have holds := small letter.toNat (isSafeLetter_ascii safe)
  rw [Char.ofNat_toNat] at holds
  exact holds safe

theorem hasDotDot_append (front rest : List Char) :
    hasDotDot (front ++ '.' :: '.' :: rest) = true := by
  induction front with
  | nil => rfl
  | cons letter front ih =>
      rw [List.cons_append]
      unfold hasDotDot
      split
      · rfl
      · rename_i shape
        cases shape
        exact ih
      · rename_i shape
        cases shape

theorem dots_eq {segment : List Char} (plain : '%' ∉ segment) {count : Nat}
    (counted : dots segment = some count) : segment = List.replicate count '.' := by
  induction segment generalizing count with
  | nil =>
      cases counted
      rfl
  | cons letter segment ih =>
      rw [List.mem_cons, not_or] at plain
      unfold dots at counted
      split at counted
      · rename_i shape
        cases shape
      · rename_i rest shape
        cases shape
        obtain ⟨fewer, rest, rfl⟩ := Option.map_eq_some_iff.mp counted
        rw [ih plain.2 rest, List.replicate_succ]
      · rename_i shape
        cases shape
        exact absurd rfl plain.1
      · cases counted

/-- What is let through is not encoded. -/
theorem safe_encode {segment : List Char} (safe : ∀ letter ∈ segment, isSafeLetter letter = true) :
    encode segment = segment ∧ '%' ∉ segment :=
  ⟨encode_eq fun letter member => (isSafeLetter_plain (safe letter member)).1,
    fun member => (isSafeLetter_plain (safe '%' member)).2.1 rfl⟩

theorem safe_apart {path segment : List Char} (safe : path.all isSafeLetter = true)
    (apart : hasDotDot path = false) (inside : segment <:+: path) :
    dots (encode segment) ≠ some 2 := by
  have letters : ∀ letter ∈ segment, isSafeLetter letter = true :=
    fun letter member => List.all_eq_true.mp safe letter (inside.subset member)
  obtain ⟨encoded, plain⟩ := safe_encode letters
  rw [encoded]
  intro double
  obtain ⟨front, back, rfl⟩ := inside
  have pair : List.replicate 2 '.' ++ back = '.' :: '.' :: back := rfl
  rw [dots_eq plain double, List.append_assoc, pair, hasDotDot_append] at apart
  cases apart

theorem handleDevtoolsStatic_proxied_iff {parse : String → Option Url} {method : Method}
    {resource : List Char} {state : DevicePortState} {request : ProxyRequest} :
    handleDevtoolsStatic parse method resource state = .proxied request ↔
      ∃ feUrl parsed, state.frontend = some feUrl ∧ isHttp feUrl = true ∧
        hasDotDot ((Text.stripStart "/devtools/".toList resource).getD []) = false ∧
        ((Text.stripStart "/devtools/".toList resource).getD []).all isSafeLetter = true ∧
        parse feUrl = some parsed ∧ request = ⟨method, parsed.setPath (frontendPath parsed
          ((Text.stripStart "/devtools/".toList resource).getD []))⟩ := by
  unfold handleDevtoolsStatic
  generalize (Text.stripStart "/devtools/".toList resource).getD [] = path
  constructor
  · intro sent
    cases frontend : state.frontend with
    | none => simp [frontend] at sent
    | some feUrl =>
        simp only [frontend] at sent
        split at sent
        · cases sent
        rename_i http
        split at sent
        · cases sent
        rename_i apart
        split at sent
        · cases sent
        rename_i safe
        cases parsed : parse feUrl with
        | none => simp [parsed] at sent
        | some url =>
            simp only [parsed] at sent
            cases sent
            refine ⟨feUrl, url, rfl, ?_, Bool.eq_false_iff.mpr apart, ?_, parsed, rfl⟩
            · simpa using http
            · cases path with
              | nil => rfl
              | cons letter path => simpa using safe
  · rintro ⟨feUrl, parsed, frontend, http, apart, safe, found, rfl⟩
    simp only [frontend, http, apart, safe, found, Bool.not_true, Bool.false_and,
      Bool.false_eq_true, if_false]

theorem frontendPath_eq {parsed : Url} {init : List (List Char)} {last : List Char}
    (shape : parsed.path = init ++ [last]) (path : List Char) :
    Text.throughLast '/' (pathText parsed.path) = pathText init ++ ['/'] ∧
      Text.afterLast '/' (pathText parsed.path) = last ∧
      frontendPath parsed path = pathText init ++ '/' :: (if path = [] then last else path) := by
  have apart : '/' ∉ last :=
    (parsed.settled last (by rw [shape]; simp)).slash_notMem
  have through : Text.throughLast '/' (pathText parsed.path) = pathText init ++ ['/'] := by
    rw [shape, pathText_concat, Text.throughLast_append apart]
  have after : Text.afterLast '/' (pathText parsed.path) = last := by
    rw [shape, pathText_concat, Text.afterLast_append apart]
  have some : '/' ∈ pathText parsed.path := by
    rw [shape, pathText_concat]
    simp
  refine ⟨through, after, ?_⟩
  unfold frontendPath
  simp only [some, if_true, through, after]
  split <;> rw [List.append_assoc, List.singleton_append]

/-- A request that goes where the frontend is, into its directory. -/
structure StaysInside (parsed target : Url) : Prop where
  scheme : target.scheme = parsed.scheme
  username : target.username = parsed.username
  password : target.password = parsed.password
  host : target.host = parsed.host
  port : target.port = parsed.port
  inside : Text.throughLast '/' (pathText parsed.path) <+:
    pathText (readPath (pathText target.path))

/-- Whatever path is asked for, the request that is sent on stays in the directory
of the frontend. -/
theorem handleDevtoolsStatic_inside (parse : String → Option Url) (method : Method)
    (resource : List Char) (state : DevicePortState) (request : ProxyRequest)
    (sent : handleDevtoolsStatic parse method resource state = .proxied request) :
    ∃ feUrl parsed, state.frontend = some feUrl ∧ parse feUrl = some parsed ∧
      StaysInside parsed request.target := by
  obtain ⟨feUrl, parsed, frontend, _, apart, safe, found, rfl⟩ :=
    handleDevtoolsStatic_proxied_iff.mp sent
  refine ⟨feUrl, parsed, frontend, found, rfl, rfl, rfl, rfl, rfl, ?_⟩
  obtain ⟨init, last, shape⟩ := (List.eq_nil_or_concat' parsed.path).resolve_left parsed.nonempty
  have initSettled : ∀ segment ∈ init, Settled segment := fun segment member =>
    parsed.settled segment (by rw [shape]; exact List.mem_append_left _ member)
  have lastSettled : Settled last := parsed.settled last (by rw [shape]; simp)
  obtain ⟨through, _, path⟩ :=
    frontendPath_eq shape ((Text.stripStart "/devtools/".toList resource).getD [])
  rw [readPath_pathText (Url.nonempty _) (Url.settled _), through]
  change _ <+: pathText (readPath (frontendPath parsed _))
  rw [path, readPath_append initSettled, settle_done]
  · obtain ⟨first, more, shape⟩ := List.exists_cons_of_ne_nil
      (settle_nonempty [] (List.splitOnP_ne_nil separates
        (if (Text.stripStart "/devtools/".toList resource).getD [] = [] then last
          else (Text.stripStart "/devtools/".toList resource).getD [])))
    rw [shape, pathText_append]
    exact ⟨first ++ pathText more, by rw [List.append_assoc]; rfl⟩
  · intro segment member
    split at member
    · rw [lastSettled.splitOnP, List.mem_singleton] at member
      rw [member, lastSettled.encode]
      exact lastSettled.notDouble
    · exact safe_apart safe apart (splitOnP_mem member).1

/-- A frontend on this machine. -/
def frontendUrl (query : Option String) : Url where
  scheme := "http"
  username := ""
  password := ""
  host := "localhost"
  port := some 8080
  path := ["front".toList, "devtools.html".toList]
  query := query
  fragment := none
  nonempty := List.cons_ne_nil _ _
  settled := by
    have plain : ∀ segment ∈ ["front".toList, "devtools.html".toList],
        (segment.all fun letter => !pathSet letter && !separates letter) = true ∧
          dots segment ≠ some 1 ∧ dots segment ≠ some 2 := by decide
    intro segment member
    obtain ⟨letters, single, double⟩ := plain segment member
    exact ⟨by simpa using letters, single, double⟩

def parseFrontend (text : String) : Option Url :=
  if text = "http://localhost:8080/front/devtools.html" then some (frontendUrl none)
  else if text = "http://localhost:8080/front/devtools.html?experiments=true" then
    some (frontendUrl (some "experiments=true"))
  else none

def servedState (frontend : String) : DevicePortState :=
  ⟨9222, some "UDID", some "Phone", 0x110400, true, [⟨1, "PID:1", 1, none, none, none⟩],
    some frontend⟩

theorem handleDevtoolsStatic_inside_front : ∃ feUrl parsed,
    (servedState "http://localhost:8080/front/devtools.html").frontend = some feUrl ∧
      parseFrontend feUrl = some parsed ∧
        StaysInside parsed ((frontendUrl none).setPath "/front/./js//inspector.js".toList) :=
  handleDevtoolsStatic_inside parseFrontend .get "/devtools/./js//inspector.js".toList
    (servedState "http://localhost:8080/front/devtools.html")
    ⟨.get, (frontendUrl none).setPath "/front/./js//inspector.js".toList⟩
    (handleDevtoolsStatic_proxied_iff.mpr ⟨_, frontendUrl none, rfl, by decide, by decide, by decide,
      if_pos rfl, rfl⟩)

end IosWebkitDebugProxy
