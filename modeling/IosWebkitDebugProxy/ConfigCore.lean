import Mathlib.Algebra.Ring.Nat
import Mathlib.Algebra.Ring.Int.Defs
import IosWebkitDebugProxy.Library.Regex
import IosWebkitDebugProxy.ProxyCore

/-! The port rules (`port_config.rs`) and what the program makes of them before
it starts the proxy (`main.rs`). A line of rules is a list of characters. The
bytes that the source looks for are ASCII, so it cuts a line between characters,
and positions count bytes. -/

namespace IosWebkitDebugProxy

structure PortConfigEntry where
  deviceId : Option String
  minPort : Int
  maxPort : Int
  deriving DecidableEq, Repr

structure PortConfig where
  entries : List PortConfigEntry
  deriving DecidableEq, Repr

structure PortSelection where
  currentPort : Int
  minPort : Int
  maxPort : Int
  deriving DecidableEq, Repr

/-- The lines of a file, as far as they can be read. -/
abbrev FileSystem := String → Except String (List (Except String String))

def eqIgnoreAsciiCase (first second : String) : Bool :=
  first.toList.map Char.toLower == second.toList.map Char.toLower

def parseDigits (text : List Char) : Option Nat :=
  if text ≠ [] ∧ text.all Char.isDigit then
    some (text.foldl (fun number digit => number * 10 + (digit.toNat - '0'.toNat)) 0)
  else none

theorem parseDigits_eq {text : List Char} (some' : text ≠ [])
    (digits : ∀ letter ∈ text, letter.isDigit = true) :
    parseDigits text = some (Nat.ofDigitChars 10 text 0) := by
  rw [parseDigits, if_pos ⟨some', List.all_eq_true.mpr digits⟩, Nat.ofDigitChars_eq_foldl]
  simp only [Nat.mul_comm]

def parseI32 (text : List Char) : Option Int :=
  let number : Option Int := match text with
    | '-' :: digits => (parseDigits digits).map fun value => -(value : Int)
    | '+' :: digits => (parseDigits digits).map Int.ofNat
    | digits => (parseDigits digits).map Int.ofNat
  number.filter fun value => decide (-2 ^ 31 ≤ value ∧ value < 2 ^ 31)

def isBlank (letter : Char) : Bool := letter == ' ' || letter == '\t'

def isUdidLetter (letter : Char) : Bool :=
  ('a' ≤ letter && letter ≤ 'f') || ('A' ≤ letter && letter ≤ 'F') || letter.isDigit ||
    letter == '-'

def utf8Length (text : List Char) : Nat := (text.map Char.utf8Size).sum

namespace PortConfig

open Regex in
/-- The rule with its device in group 2, its first port in group 3 and its last
in group 5. Ignoring case makes a difference to `null` only. -/
def re : Regex :=
  all [start, many isBlank 0,
    group 1 (either
      (all [group 2 (either (many isUdidLetter 25) (either (char (· == '*'))
          (literal (fun wanted letter => letter.toLower == wanted) "null"))),
        many isBlank 0, optional (char (· == ':'))])
      (char (· == ':'))),
    many isBlank 0,
    optional (group 3 (all [optional (char (· == '-')), many Char.isDigit 1])),
    optional (group 4 (all [many isBlank 0, char (· == '-'), many isBlank 0,
      group 5 (many Char.isDigit 1)])),
    many isBlank 0, stop]

def new : PortConfig := ⟨[]⟩

def clear (config : PortConfig) : PortConfig := { config with entries := [] }

def add (deviceId : Option String) (minPort maxPort : Int) (config : PortConfig) : PortConfig :=
  { config with entries := config.entries ++ [⟨deviceId, minPort, maxPort⟩] }

/-- A port that is left out or does not fit counts as 0, an end of the range as
its beginning. -/
def addSegment (segment : List Char) (config : PortConfig) : Option PortConfig :=
  (re.captures segment).map fun caps =>
    let deviceId := match caps.group 2 with
      | some value =>
          if eqIgnoreAsciiCase (String.ofList value) "null" then none
          else some (String.ofList value)
      | none => some "*"
    let minPort := ((caps.group 3).bind parseI32).getD 0
    let maxPort := ((caps.group 5).bind parseI32).getD minPort
    config.add deviceId minPort maxPort

def inSegment (letter : Char) : Bool :=
  letter != '\x00' && letter != '\n' && letter != '#' && letter != ','

/-- The rules of a line from a position on. A segment that is no rule ends the
parse with its position, and the rules before it stay. -/
def addLineFrom (curr : Nat) (line : List Char) (config : PortConfig) : PortConfig × Option Nat :=
  if line = [] then (config, none)
  else
    let curr := curr + (line.takeWhile isBlank).length
    let text := line.dropWhile isBlank
    let segment := text.takeWhile inSegment
    match if segment = [] then some config else config.addSegment segment with
    | none => (config, some curr)
    | some config =>
        match rest : text.dropWhile inSegment with
        | ',' :: later => addLineFrom (curr + utf8Length segment + 1) later config
        | _ => (config, none)
termination_by line.length
decreasing_by
  have whole := (List.dropWhile_suffix inSegment (l := line.dropWhile isBlank)).length_le
  have blanks := (List.dropWhile_suffix isBlank (l := line)).length_le
  rw [rest, List.length_cons] at whole
  omega

def addLine (line : String) (config : PortConfig) : PortConfig × Option Nat :=
  addLineFrom 0 line.toList config

def addLines : List (Except String String) → PortConfig → PortConfig × Except String Unit
  | [], config => (config, .ok ())
  | .error error :: _, config => (config, .error ("Failed to read file: " ++ error))
  | .ok line :: lines, config => addLines lines (config.addLine line).1

def addFile (files : FileSystem) (filename : String) (config : PortConfig) :
    PortConfig × Except String Unit :=
  match files filename with
  | .error error => (config, .error ("Cannot open file " ++ filename ++ ": " ++ error))
  | .ok lines => config.addLines lines

end PortConfig

def PortConfigEntry.applies (deviceId : Option String) (entry : PortConfigEntry) : Bool :=
  match entry.deviceId, deviceId with
  | some named, deviceId => named == "*" || deviceId.any (eqIgnoreAsciiCase named)
  | none, none => true
  | none, some _ => false

namespace PortConfig

def find (deviceId : Option String) (config : PortConfig) : Option PortConfigEntry :=
  config.entries.find? (PortConfigEntry.applies deviceId)

def selectPort (deviceId : Option String) (currentPort : Int) (config : PortConfig) :
    Except PortSelection PortSelection :=
  match config.find deviceId with
  | some entry =>
      let outside := currentPort < entry.minPort ∨ currentPort > entry.maxPort
      .ok ⟨if currentPort ≥ 0 ∧ outside then -1 else currentPort, entry.minPort, entry.maxPort⟩
  | none => .error ⟨-1, -1, -1⟩

end PortConfig

structure Args where
  udid : Option String
  config : Option String
  frontend : Option String
  noFrontend : Bool
  deriving DecidableEq, Repr

namespace Args

def defaultConfig : String := "null:9221,:9222-9322"

def defaultFrontend : String :=
  "http://chrome-devtools-frontend.appspot.com/static/27.0.1453.93/devtools.html"

open Regex in
def udidRe : Regex :=
  all [start, many isUdidLetter 25,
    optional (group 1 (all [char (· == ':'), many Char.isDigit 0,
      optional (group 2 (all [char (· == '-'), many Char.isDigit 1]))])),
    stop]

/-- The text of the port rules, or the exit code when the UDID is no UDID. -/
def configText (args : Args) : Except Nat String :=
  match args.udid with
  | some udid =>
      if udidRe.isMatch udid.toList then
        .ok (if udid.toList.contains ':' then udid else udid ++ ":")
      else .error 2
  | none => .ok (args.config.getD defaultConfig)

def frontendUrl (args : Args) : Option String :=
  if args.noFrontend then none else some (args.frontend.getD defaultFrontend)

/-- A text that is no line of rules names a file of them. -/
def readConfig (files : FileSystem) (text : String) : PortConfig :=
  let (config, invalid) := PortConfig.new.addLine text
  if invalid.isSome then (config.clear.addFile files text).1 else config

def portConfig (files : FileSystem) (args : Args) : Except Nat PortConfig :=
  args.configText.map (readConfig files)

end Args

def toU16 (value : Int) : Nat := (value % 2 ^ 16).toNat

namespace PortConfig

def listPort (config : PortConfig) : Int :=
  match config.selectPort none (-1) with
  | .ok selection =>
      if selection.currentPort < 0 ∧ selection.minPort > 0 then selection.minPort
      else selection.currentPort
  | .error selection => selection.currentPort

/-- The range of device ports. Its end is computed in 16 bits and wraps as in a
release build. -/
def devicePorts (config : PortConfig) : Option (Nat × Nat) :=
  let selection := match config.selectPort (some "*") (-1) with
    | .ok selection => selection
    | .error selection => selection
  if selection.minPort > 0 ∧ selection.maxPort ≥ selection.minPort then
    some (toU16 selection.minPort, (toU16 selection.maxPort + 1) % 2 ^ 16)
  else none

end PortConfig

def Args.httpServiceConfig (config : PortConfig) (args : Args) : Option HttpServiceConfig :=
  if config.listPort > 0 then some ⟨toU16 config.listPort, args.frontendUrl⟩ else none

/-- The proxy that the program runs, which has no listener, or its exit code. -/
def Args.main (files : FileSystem) (args : Args) : Except Nat ProxyBridge :=
  (args.portConfig files).map fun config =>
    ⟨config.devicePorts, args.httpServiceConfig config, false⟩

end IosWebkitDebugProxy
