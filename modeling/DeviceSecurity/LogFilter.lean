import DeviceSecurity.Configuration
import DeviceSecurity.Text.Basic
import DeviceSecurity.Text.Pattern

/-!
# Log filters

Which events are logged is told by directives, separated by commas. A directive has a level, which
a target may precede, joined by `=`; square brackets behind the target restrict it to what happens
within a span, to what has a field, written in braces, or both. The program opens no spans, so a
directive about a span, or about the value that a field has there, admits no event. Of the others
whose target begins the target of an event and whose field the event has, the one with the longest
target decides, and between two of them the one with a field. Directives come from the environment;
without any there, or with one that cannot be read, from the configuration.
-/

namespace DeviceSecurity

/-- How important an event is, and how important events must be to be logged. -/
inductive LogLevel where
  | off
  | error
  | warn
  | info
  | debug
  | trace
deriving DecidableEq, Repr

namespace LogLevel

/-- All levels; each admits its own events and those before it. -/
def all : List LogLevel := [off, error, warn, info, debug, trace]

/-- The name of a level. -/
def name : LogLevel → String
  | off => "off"
  | error => "error"
  | warn => "warn"
  | info => "info"
  | debug => "debug"
  | trace => "trace"

/-- The place of a level in the order of detail. -/
def rank (l : LogLevel) : Nat := l.ctorIdx

/-- The number that a text of digits, maybe after a plus sign, stands for. -/
def number? (s : List Char) : Option Nat :=
  let digits := match s with
    | '+' :: rest => rest
    | _ => s
  if digits ≠ [] ∧ digits.all Char.isDigit then
    some (digits.foldl (fun n c => n * 10 + (c.toNat - 48)) 0)
  else none

/-- Reads a level: a rank or a name in any letter case. -/
def ofText? (s : String) : Option LogLevel :=
  match number? s.toList with
  | some n => all[n]?
  | none => all.find? fun l => Text.sameLower s l.name

end LogLevel

/-- A field that a directive asks for, maybe with a value. -/
structure LogField where
  name : String
  value : Option String := none
deriving DecidableEq, Repr

namespace LogField

/-- Whether the value of a field is a number with a sign; others are patterns. -/
def isSigned : List Char → Bool
  | '+' :: s =>
    let (integer, s) := Json.spanDigits s
    let (fraction, s) := match s with
      | '.' :: s => Json.spanDigits s
      | s => ([], s)
    let isNumber := (integer ++ fraction ≠ []) ∧ (Json.exponent? s).any (·.2.isEmpty)
    let word := (integer ++ s).map Char.toLower
    isNumber || ["inf", "infinity", "nan"].any (·.toList == word)
  | _ => false

/-- Reads a name, or a name and a value joined by `=`. -/
def ofText? (s : String) : Option LogField :=
  match s.splitOn "=" with
  | name :: value :: _ =>
    if isSigned value.toList || Text.isPattern value.toList then some ⟨name, some value⟩ else none
  | _ => some ⟨s, none⟩

end LogField

/-- What is logged of the events of one part of the program, or of all. -/
structure LogDirective where
  target : Option String := none
  span : Option String := none
  field : Option LogField := none
  level : LogLevel := .trace
deriving DecidableEq, Repr

namespace LogDirective

/-- Whether a directive may begin with the character. -/
def startsTarget (c : Char) : Bool :=
  c == '-' || c == ':' || c == '_' || Text.isAlphanumeric c

/-- The number of bytes of characters. -/
def size (s : List Char) : Nat := (Bytes.ofText (String.ofList s)).length

/-- The part of a text that has the place which `part`, followed by `behind`, has in the text
without the blanks at its ends. -/
def partOf (s : String) (part behind : List Char) : Option String :=
  let trimmed := size (Text.trimBy Text.isBlank s.toList)
  let start := trimmed - size (part ++ behind)
  Bytes.toText? (((Bytes.ofText s).drop start).take (size part))

/-- The level that a text ends with, from the place that `level` has without blanks. Without any
text there it is the most detailed one. -/
def levelOf? (s : String) (level : List Char) : Option LogLevel := do
  let start := size (Text.trimBy Text.isBlank s.toList) - size level
  let text ← Bytes.toText? ((Bytes.ofText s).drop start)
  if text.isEmpty then return .trace else LogLevel.ofText? text

/-- Reads the level behind the brackets of a directive, if there is one. -/
def withLevel? (s : String) (behind : List Char) (d : LogDirective) : Option LogDirective :=
  match behind with
  | [] => some d
  | '=' :: level => (levelOf? s level).map fun level => { d with level := level }
  | _ => none

/-- Reads one directive. A target alone admits all its events. Blanks around a directive do not
count when its parts are told apart, but they do when these are taken from it. -/
def ofText? (s : String) : Option LogDirective := do
  let trimmed := Text.trimBy Text.isBlank s.toList
  let (target, behind) := Text.cut (fun c => c == '=' || c == '[') trimmed
  match target.head?, behind with
  | some c, _ => if !startsTarget c then none
  | none, '[' :: _ => pure ()
  | none, _ => none
  match behind with
  | '=' :: _ => withLevel? s behind { target := some (← partOf s target behind) }
  | '[' :: within =>
    let path ← partOf s target behind
    let named : LogDirective := { target := if target.isEmpty then none else some path }
    let (span, behind) := Text.cut (fun c => c == ']' || c == '\x7b') within
    let name ← partOf s span behind
    match behind with
    | ']' :: rest => withLevel? s rest { named with span := some name }
    | '\x7b' :: within =>
      let (field, behind) := Text.cut (· == '\x7d') within
      if field.isEmpty then none
      let field ← LogField.ofText? (← partOf s field behind)
      match behind with
      | '\x7d' :: ']' :: rest =>
        withLevel? s rest
          { named with span := if span.isEmpty then none else some name, field := some field }
      | _ => none
    | _ => none
  | _ =>
    match LogLevel.ofText? s with
    | some level => return { level }
    | none => return { target := some s }

/-- Whether a directive is about events as such, and not about a span or the values in it. -/
def isStatic (d : LogDirective) : Bool := d.span.isNone && (d.field.bind (·.value)).isNone

/-- How closely a directive names events: first by their target, then by a field. -/
def weight (d : LogDirective) : Nat :=
  2 * ((d.target.map fun target => target.utf8ByteSize + 1).getD 0) + d.field.toList.length

/-- Whether a directive is about the events of a target that have the given fields. -/
def covers (d : LogDirective) (target : String) (fields : List String) : Bool :=
  d.isStatic && (d.target.all fun start => target.startsWith start) &&
    d.field.all fun field => fields.contains field.name

end LogDirective

/-- The directives that decide what is logged. -/
abbrev LogFilter := List LogDirective

namespace LogFilter

/-- Reads directives. Without any, errors are logged. -/
def ofText? (s : String) : Option LogFilter := do
  let directives ← ((s.splitOn ",").filter (· ≠ "")).mapM LogDirective.ofText?
  return if directives.isEmpty then [{ level := .error }] else directives

/-- The fields that every event has. -/
def eventFields : List String := ["message"]

/-- The level that the events of a target are held to: that of the closest directive, and of the
last of several equally close ones. -/
def levelFor (filter : LogFilter) (target : String) : LogLevel :=
  match (filter.filter (·.covers target eventFields)).foldl (fun best d =>
      match best with
      | some b => if b.weight ≤ d.weight then some d else some b
      | none => some d) (none : Option LogDirective) with
  | some d => d.level
  | none => .off

/-- Whether an event of a level and target is logged. -/
def admits (filter : LogFilter) (level : LogLevel) (target : String) : Bool :=
  level.rank ≤ (filter.levelFor target).rank

/-- The filter of the environment's directives, if they are there and can be read, or of the
configuration. -/
def choose (environment : Option String) (c : Configuration) : LogFilter :=
  match environment.bind ofText? with
  | some filter => filter
  | none => (ofText? c.logFilter).getD []

end LogFilter

/-! ## Starting to log -/

/-- The version of the program. -/
def version : String := "0.1.0"

/-- The log of a process: nothing before it is started, then its filter. -/
structure Log where
  filter : Option LogFilter := none
  lines : List String := []

namespace Log

/-- The part of the program that starts the log. -/
def startTarget : String := "warden_core::logging"

/-- Starts the log and says so in it. A log that has been started stays as it is; the result tells
whether this call started it. -/
def start (log : Log) (environment : Option String) (c : Configuration) : Bool × Log :=
  match log.filter with
  | some _ => (false, log)
  | none =>
    let filter := LogFilter.choose environment c
    let line := "INFO " ++ startTarget ++ ": Warden Core v" ++ version ++ " logging initialized"
    (true, ⟨some filter, if filter.admits .info startTarget then [line] else []⟩)

end Log

end DeviceSecurity
