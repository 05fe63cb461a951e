import ModemLink.Console.FieldPattern

/-!
# Log filters

A filter is a list of directives, each a level, a target, or a target with its level. A directive
may be confined to spans of a name and to messages with a field. The longest target that begins the
target of a message decides, one with a field before one without; of two equal ones the later does.
-/

namespace ModemLink

inductive LogLevel where
  | off
  | error
  | warn
  | info
  | debug
  | trace
  deriving DecidableEq, Repr

namespace LogLevel

def verbosity : LogLevel → Nat
  | off => 0
  | error => 1
  | warn => 2
  | info => 3
  | debug => 4
  | trace => 5

def label : LogLevel → String
  | off => "OFF"
  | error => "ERROR"
  | warn => "WARN"
  | info => "INFO"
  | debug => "DEBUG"
  | trace => "TRACE"

def all : List LogLevel := [off, error, warn, info, debug, trace]

/-- A decimal number, which may have a plus sign. -/
def number? (text : String) : Option Nat :=
  let digits := match text.toList with
    | '+' :: cs => cs
    | cs => cs
  if digits.all Char.isDigit then (String.ofList digits).toNat? else none

/-- A level by its name in any case, or by its number. -/
def parse? (text : String) : Option LogLevel :=
  all.find? fun level => text.map Char.toUpper == level.label || number? text == some level.verbosity

end LogLevel

inductive FilterError where
  | directive
  | level
  | field (fault : FieldPattern.Fault)
  deriving DecidableEq, Repr

namespace FilterError

def message : FilterError → String
  | directive => "invalid filter directive"
  | level =>
      "error parsing level filter: expected one of \"off\", \"error\", \"warn\", \"info\", " ++
        "\"debug\", \"trace\", or a number 0-5"
  | field .malformed => "invalid field filter: error building NFA"
  | field .wordBoundary =>
      "invalid field filter: unsupported regex feature for DFAs: cannot build DFAs for regexes " ++
        "with Unicode word boundaries; switch to ASCII word boundaries, or heuristically enable " ++
        "Unicode word boundaries or use a different regex engine"

end FilterError

/-- A field that a message must have, by name, and possibly its value. -/
structure FieldFilter where
  name : String
  hasValue : Bool := false
  deriving DecidableEq, Repr

namespace FieldFilter

/-- The digits of a number after its sign, with a point and an exponent. -/
def isDecimal (cs : List Char) : Bool :=
  let (whole, rest) := cs.span Char.isDigit
  let (fraction, rest) := match rest with
    | '.' :: rest => rest.span Char.isDigit
    | rest => ([], rest)
  let exponent := match rest with
    | 'e' :: '+' :: rest | 'e' :: '-' :: rest | 'E' :: '+' :: rest | 'E' :: '-' :: rest => rest
    | 'e' :: rest | 'E' :: rest => rest
    | rest => rest
  !(whole ++ fraction).isEmpty && exponent.all Char.isDigit && (rest.isEmpty || !exponent.isEmpty)

/-- Numbers that no pattern spells: those with a plus sign. -/
def isPlusNumber : List Char → Bool
  | '+' :: cs =>
      isDecimal cs || ["inf", "infinity", "nan"].contains ((String.ofList cs).map Char.toLower)
  | _ => false

/-- A name, and after an equals sign a value: a number or a pattern. A second equals sign ends the
value. -/
def parse (text : List Char) : Except FilterError FieldFilter :=
  let (name, rest) := text.span (· != '=')
  let value := (rest.drop 1).takeWhile (· != '=')
  let field := { name := String.ofList name, hasValue := !rest.isEmpty }
  if text.isEmpty then .error .directive
  else if isPlusNumber value then .ok field
  else
    match FieldPattern.fault? value with
    | some fault => .error (.field fault)
    | none => .ok field

end FieldFilter

structure Directive where
  /-- `none` for every target. -/
  target : Option String := none
  level : LogLevel := .trace
  /-- The name of the span within which it applies. -/
  span : Option String := none
  field : Option FieldFilter := none
  deriving DecidableEq, Repr

namespace Directive

def startsWith (c : Char) : Bool := ['-', ':', '_', '['].contains c || Text.isAlphanumeric c

/-- The level at the end of a directive; without one it is the most verbose. -/
def levelOf : List Char → Except FilterError LogLevel
  | [] => .ok .trace
  | cs => (LogLevel.parse? (String.ofList cs)).elim (.error .level) .ok

/-- A directive, whose shape is that of the text without blanks around it. Its parts are the places
of that shape in the whole text, so that a blank in front moves them. -/
def parse (text : String) : Except FilterError Directive := do
  let whole := text.toList
  let shape := Text.trimBlank whole
  let onward (rest : List Char) := whole.drop (shape.length - rest.length)
  let between (start stop : List Char) := (onward start).take (start.length - stop.length)
  if !shape.head?.any startsWith then throw .directive
  let rest := shape.dropWhile fun c => c != '=' && c != '['
  let name := between shape rest
  let target := if name.isEmpty then none else some (String.ofList name)
  match rest with
  | '=' :: rest => return { target, level := ← levelOf (onward rest) }
  | '[' :: spanText =>
      let rest := spanText.dropWhile fun c => c != ']' && c != '\x7b'
      let span := String.ofList (between spanText rest)
      let (span, field, rest) ← match rest with
        | '\x7b' :: fieldText => do
            let rest := fieldText.dropWhile (· != '\x7d')
            if rest.isEmpty then throw .directive
            let field ← FieldFilter.parse (between fieldText rest)
            pure (if span.isEmpty then none else some span, some field, rest.drop 1)
        | rest => pure (some span, none, rest)
      match rest with
      | [']'] => return { target, span, field }
      | ']' :: '=' :: rest => return { target, span, field, level := ← levelOf (onward rest) }
      | _ => throw .directive
  | _ =>
      match LogLevel.parse? text with
      | some level => return { level }
      | none => return { target := some text }

/-- The one field of every message of the driver. -/
def messageField : String := "message"

/-- The length of the target, then the number of fields. -/
def specificity (directive : Directive) : Nat :=
  2 * directive.target.elim 0 (·.utf8ByteSize + 1) + if directive.field.isSome then 1 else 0

/-- Messages come from outside of all spans, and what a value of a field allows holds within spans
only. -/
def appliesTo (directive : Directive) (target : String) : Bool :=
  directive.span.isNone &&
    directive.field.all (fun field => field.name == messageField && !field.hasValue) &&
    directive.target.all fun name => name.toList.isPrefixOf target.toList

end Directive

structure LogFilter where
  directives : List Directive := []
  deriving DecidableEq, Repr

namespace LogFilter

/-- Directives between commas. Without any, only errors are logged. -/
def parse (text : String) : Except FilterError LogFilter := do
  let parts := (text.splitOn ",").filter fun part => !part.isEmpty
  let directives ← parts.mapM Directive.parse
  return ⟨if directives.isEmpty then [{ level := .error }] else directives⟩

/-- The directive that decides about messages of a target. -/
def deciding? (filter : LogFilter) (target : String) : Option Directive :=
  (filter.directives.filter (·.appliesTo target)).foldl (fun best directive =>
    match best with
    | some old => if directive.specificity < old.specificity then best else some directive
    | none => some directive) none

def allows (filter : LogFilter) (target : String) (level : LogLevel) : Bool :=
  (filter.deciding? target).any fun directive => level.verbosity ≤ directive.level.verbosity

end LogFilter

end ModemLink
