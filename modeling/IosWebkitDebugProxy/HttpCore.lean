import IosWebkitDebugProxy.Library.Json
import IosWebkitDebugProxy.Library.Text
import IosWebkitDebugProxy.Library.Url
import IosWebkitDebugProxy.ConfigCore

/-! The pages, lists and links that the HTTP servers answer with (`http_server.rs`),
and the request that the proxy of the frontend sends on. -/

namespace IosWebkitDebugProxy

inductive Method where
  | get
  | head
  deriving DecidableEq, Repr

structure Response where
  status : Nat
  headers : List (String × String)
  body : String
  deriving DecidableEq, Repr

def corsHeaders : List (String × String) :=
  [("Access-Control-Allow-Origin", "*"), ("Access-Control-Allow-Methods", "GET, HEAD")]

def jsonHeaders : List (String × String) :=
  corsHeaders ++ [("Content-Type", "application/json; charset=UTF-8")]

def htmlHeaders : List (String × String) :=
  corsHeaders ++ [("Content-Type", "text/html; charset=utf-8")]

/-- A body that is a plain text comes with its content type. -/
def textHeaders : List (String × String) :=
  corsHeaders ++ [("Content-Type", "text/plain; charset=utf-8")]

def Response.to (method : Method) (response : Response) : Response :=
  match method with
  | .get => response
  | .head => { response with body := "" }

/-- The last part of the frontend as it was given, whatever it is a part of. -/
def generateFrontendUrl (state : DevicePortState) (pageNum : Nat) : String :=
  match state.frontend with
  | some fe =>
      "/devtools/" ++ String.ofList (Text.afterLast '/' fe.toList) ++ "?ws=localhost:" ++
        toString state.port ++ "/devtools/page/" ++ toString pageNum
  | none => ""

def pageItem (state : DevicePortState) (page : PageEntry) : String :=
  "<li value=\"" ++ toString page.pageNum ++ "\"><a href=\"" ++
    generateFrontendUrl state page.pageNum ++ "\">" ++ page.title.getD "?" ++ " - " ++
    page.url.getD "?" ++ "</a></li>"

def buildPagesHtml (state : DevicePortState) : String :=
  let deviceName := state.deviceName.getD "Unknown"
  "<html><head><title>" ++ deviceName ++ "</title></head><body>Inspectable pages for " ++
    deviceName ++ ":<p><ol>" ++ "\n".intercalate (state.pages.map (pageItem state)) ++
    "</ol></body></html>"

/-- The keys of an object come out sorted. -/
def pageRecord (state : DevicePortState) (host : String) (page : PageEntry) : Json.Record :=
  [("appId", page.appId),
    ("devtoolsFrontendUrl", generateFrontendUrl state page.pageNum),
    ("faviconUrl", ""),
    ("thumbnailUrl", "/thumb/" ++ page.url.getD ""),
    ("title", page.title.getD ""),
    ("url", page.url.getD ""),
    ("webSocketDebuggerUrl", "ws://" ++ host ++ ":" ++ toString state.port ++ "/devtools/page/" ++
      toString page.pageNum)]

def buildPagesJson (state : DevicePortState) (host : String) : String :=
  Json.write (state.pages.map (pageRecord state host))

def handleIndex (method : Method) (state : DevicePortState) : Response :=
  Response.to method ⟨200, htmlHeaders, buildPagesHtml state⟩

/-- The host that a client has asked, without the port. -/
def requestHost (header : Option String) : String :=
  match header with
  | some host =>
      match Text.cutLast ':' host.toList with
      | some (front, _) => String.ofList front
      | none => host
  | none => "localhost"

/-- The header is the text of the Host header, if there is one of visible letters. -/
def handleJson (method : Method) (header : Option String) (state : DevicePortState) : Response :=
  Response.to method ⟨200, jsonHeaders, buildPagesJson state (requestHost header)⟩

structure DeviceListState where
  devices : List DeviceInfo
  deriving DecidableEq, Repr

def deviceItem (device : DeviceInfo) : String :=
  "<li><a href=\"http://localhost:" ++ toString device.port ++ "/\">" ++ device.deviceName ++
    "</a> - " ++ device.deviceId ++ "</li>"

def deviceListHtml (state : DeviceListState) : String :=
  "<html><head><title>iOS Devices</title></head><body>iOS Devices:<p><ol>" ++
    "\n".intercalate (state.devices.map deviceItem) ++ "</ol></body></html>"

def handleDeviceListHtml (method : Method) (state : DeviceListState) : Response :=
  Response.to method ⟨200, htmlHeaders, deviceListHtml state⟩

def deviceRecord (device : DeviceInfo) : Json.Record :=
  let osMajor := (device.deviceOsVersion >>> 16) &&& 0xFF
  let osMinor := (device.deviceOsVersion >>> 8) &&& 0xFF
  let osPatch := device.deviceOsVersion &&& 0xFF
  [("deviceId", device.deviceId),
    ("deviceName", device.deviceName),
    ("deviceOSVersion", toString osMajor ++ "." ++ toString osMinor ++ "." ++ toString osPatch),
    ("url", "localhost:" ++ toString device.port)]

def handleDeviceListJson (method : Method) (state : DeviceListState) : Response :=
  Response.to method ⟨200, jsonHeaders, Json.write (state.devices.map deviceRecord)⟩

/-- The handlers of the device port, with the parameter of the path. -/
inductive DeviceRoute where
  | index
  | json
  | jsonVersion
  | wsUpgrade (pageNum : List Char)
  | devtoolsStatic
  | notFound
  deriving DecidableEq, Repr

/-- A parameter is one segment that is not empty. What else begins like its route
goes to the route that takes any rest. -/
def deviceRoute (path : List Char) : DeviceRoute :=
  if path = "/".toList then .index
  else if path = "/json".toList ∨ path = "/json/list".toList then .json
  else if path = "/json/version".toList then .jsonVersion
  else
    match Text.stripStart "/devtools/page/".toList path with
    | some pageNum =>
        if pageNum ≠ [] ∧ '/' ∉ pageNum then .wsUpgrade pageNum else .devtoolsStatic
    | none =>
        match Text.stripStart "/devtools/".toList path with
        | some _ => .devtoolsStatic
        | none => .notFound

def parseU32 (text : List Char) : Option Nat :=
  let number := match text with
    | '+' :: digits => parseDigits digits
    | digits => parseDigits digits
  number.filter fun value => value < 2 ^ 32

theorem parseU32_eq {text : List Char} (some' : text ≠ [])
    (digits : ∀ letter ∈ text, letter.isDigit = true)
    (small : Nat.ofDigitChars 10 text 0 < 2 ^ 32) :
    parseU32 text = some (Nat.ofDigitChars 10 text 0) := by
  unfold parseU32
  split
  · exact absurd (digits '+' List.mem_cons_self) (by decide)
  · rw [parseDigits_eq some' digits, Option.filter_some_pos (by simpa using small)]

theorem toString_digits (number : Nat) :
    ∀ letter ∈ (toString number).toList, letter.isDigit = true := by
  intro letter member
  rw [show toString number = number.repr from rfl, Nat.toList_repr] at member
  exact Nat.isDigit_of_mem_toDigits (by decide) (Nat.le_refl 10) member

theorem notMem_toString {letter : Char} (other : letter.isDigit = false) (number : Nat) :
    letter ∉ (toString number).toList := by
  intro member
  rw [toString_digits number letter member] at other
  cases other

theorem toString_number (number : Nat) : (toString number).toList ≠ [] ∧
    Nat.ofDigitChars 10 (toString number).toList 0 = number := by
  rw [show toString number = number.repr from rfl, Nat.toList_repr]
  exact ⟨Nat.toDigits_ne_nil, Nat.ofDigitChars_ten_toDigits⟩

inductive UpgradeAnswer where
  | badRequest
  | notFound
  | upgraded (pageNum : Nat)
  deriving DecidableEq, Repr

/-- The parameter is decoded first. A digit is the only letter that makes a
difference to what is read. -/
def handleWsUpgrade (pageNum : List Char) (state : DevicePortState) : UpgradeAnswer :=
  match parseU32 (Url.decode pageNum) with
  | none => .badRequest
  | some pageNum =>
      if state.pages.any fun page => page.pageNum == pageNum then .upgraded pageNum else .notFound

/-- A request for the frontend's server. -/
structure ProxyRequest where
  method : Method
  target : Url

inductive StaticAnswer where
  | response (response : Response)
  | proxied (request : ProxyRequest)

def isSafeLetter (letter : Char) : Bool :=
  letter.isAlphanum || letter == '-' || letter == '.' || letter == '/' || letter == '_'

def hasDotDot : List Char → Bool
  | '.' :: '.' :: _ => true
  | _ :: rest => hasDotDot rest
  | [] => false

def isHttp (feUrl : String) : Bool :=
  "http://".toList.isPrefixOf feUrl.toList || "https://".toList.isPrefixOf feUrl.toList

/-- What the path of a request stands for on the frontend's server. -/
def frontendPath (parsed : Url) (path : List Char) : List Char :=
  let text := Url.pathText parsed.path
  let feDir := if '/' ∈ text then Text.throughLast '/' text else ['/']
  let feFile := Text.afterLast '/' text
  if path = [] then feDir ++ feFile else feDir ++ path

def handleDevtoolsStatic (parse : String → Option Url) (method : Method) (resource : List Char)
    (state : DevicePortState) : StaticAnswer :=
  let path := (Text.stripStart "/devtools/".toList resource).getD []
  match state.frontend with
  | none => .response ⟨404, textHeaders, "Frontend is disabled."⟩
  | some feUrl =>
      if !isHttp feUrl then
        .response ⟨404, textHeaders, "Frontend URL is not http(s)://, cannot proxy."⟩
      else if hasDotDot path then .response ⟨403, textHeaders, "Invalid path"⟩
      else if !path.all isSafeLetter && !path.isEmpty then
        .response ⟨403, textHeaders, "Invalid path"⟩
      else
        match parse feUrl with
        | none => .response ⟨502, textHeaders, "Invalid frontend URL"⟩
        | some parsed => .proxied ⟨method, parsed.setPath (frontendPath parsed path)⟩

end IosWebkitDebugProxy
