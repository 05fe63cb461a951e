import ModemLink.Bytes
import ModemLink.Text.Alphanumeric
import ModemLink.Text.Blank

/-!
# Patterns for field values

The regular expressions that a log filter may hold. They are checked only, since no message of the
driver is ever matched against one. Letters have no second case, and classes by property (`\d`) no
members, beyond ASCII: a pattern that asks for them is refused, unless its mode is that of octets.
Counted repetitions cannot occur, as a brace ends the field of a filter.
-/

namespace ModemLink.FieldPattern

inductive Fault where
  | malformed
  /-- The pattern asks where words begin or end, of letters beyond ASCII. -/
  | wordBoundary
  deriving DecidableEq, Repr

structure Modes where
  /-- Blanks and comments are passed over. -/
  spaced : Bool := false
  /-- A letter stands for both cases. -/
  caseless : Bool := false
  /-- Characters are matched, and not octets. -/
  wide : Bool := true
  deriving DecidableEq, Repr

namespace Modes

/-- Switches the mode of a letter. The others change what is matched but not what is accepted. -/
def set (modes : Modes) (on : Bool) : Char → Option Modes
  | 'x' => some { modes with spaced := on }
  | 'i' => some { modes with caseless := on }
  | 'u' => some { modes with wide := on }
  | 'm' | 's' | 'U' | 'R' => some modes
  | _ => none

/-- A comment goes from `#` to the end of the line. -/
def skipBlanks (comment : Bool) : List Char → List Char
  | [] => []
  | c :: cs =>
      if comment then skipBlanks (c != '\n') cs
      else if c = '#' then skipBlanks true cs
      else if Text.isBlank c then skipBlanks false cs
      else c :: cs

def skip (modes : Modes) (cs : List Char) : List Char :=
  if modes.spaced then skipBlanks false cs else cs

/-- Literal characters, and sets of them, need both cases of every letter where case is ignored. -/
def acceptsLetters (modes : Modes) : Bool := !(modes.wide && modes.caseless)

end Modes

/-! ## Escapes -/

inductive Atom where
  | literal (c : Char)
  | set
  | anchor
  | boundary
  deriving DecidableEq, Repr

/-- So many digits of a code. -/
def readDigits (modes : Modes) : Nat → List Char → Option (List Char × List Char)
  | 0, cs => some ([], cs)
  | n + 1, cs =>
      match modes.skip cs with
      | [] => none
      | c :: cs => do
          let (digits, cs) ← readDigits modes n cs
          return (c :: digits, cs)

def readCode (modes : Modes) (count : Nat) (cs : List Char) : Option (Char × List Char) := do
  let (digits, cs) ← readDigits modes count cs
  return (← codePoint? digits, cs)

/-- What follows a backslash. Two digits are an octet unless characters are matched. -/
def readEscape (modes : Modes) : List Char → Option (Atom × List Char)
  | [] => none
  | c :: cs =>
      match c with
      | 'x' => do
          let (c, cs) ← readCode modes 2 cs
          if modes.wide || c.toNat < 0x80 then some (.literal c, cs) else none
      | 'u' => do let (c, cs) ← readCode modes 4 cs; return (.literal c, cs)
      | 'U' => do let (c, cs) ← readCode modes 8 cs; return (.literal c, cs)
      | 'd' | 's' | 'w' => if modes.wide then none else some (.set, cs)
      | 'A' | 'z' => some (.anchor, cs)
      | 'b' | 'B' | '<' | '>' => some (.boundary, cs)
      | 'a' => some (.literal '\x07', cs)
      | 'f' => some (.literal '\x0c', cs)
      | 't' => some (.literal '\t', cs)
      | 'n' => some (.literal '\n', cs)
      | 'r' => some (.literal '\r', cs)
      | 'v' => some (.literal '\x0b', cs)
      | c => if c.toNat < 0x80 && !c.isAlphanum then some (.literal c, cs) else none

/-! ## Classes -/

def classNames : List String :=
  ["alnum", "alpha", "ascii", "blank", "cntrl", "digit", "graph", "lower", "print", "punct",
    "space", "upper", "word", "xdigit"]

/-- A named class after its bracket, and whether it is negated. -/
def namedClass? : List Char → Option (Bool × List Char)
  | ':' :: cs =>
      let (negated, cs) := match cs with
        | '^' :: cs => (true, cs)
        | cs => (false, cs)
      let (name, rest) := cs.span (· != ':')
      match rest with
      | ':' :: ']' :: rest =>
          if classNames.contains (String.ofList name) then some (negated, rest) else none
      | _ => none
  | _ => none

def readMember (modes : Modes) : List Char → Option (Atom × List Char)
  | [] => none
  | '\\' :: cs => readEscape modes cs
  | c :: cs => some (.literal c, cs)

/-- A set of octets has members of ASCII. -/
def isMember (modes : Modes) : Atom → Bool
  | .literal c => modes.wide || c.toNat < 0x80
  | .set => true
  | .anchor | .boundary => false

/-- A member or a range. A dash in front of a bracket or a dash makes no range. -/
def readRange (modes : Modes) (cs : List Char) : Option (List Char) := do
  let (low, cs) ← readMember modes cs
  let single := if isMember modes low then some cs else none
  match modes.skip cs with
  | '-' :: rest =>
      match modes.skip rest with
      | ']' :: _ | '-' :: _ => single
      | rest =>
          let (high, rest) ← readMember modes rest
          match low, high with
          | .literal a, .literal b =>
              if a ≤ b && isMember modes low && isMember modes high then some rest else none
          | _, _ => none
  | _ => single

inductive Place where
  /-- Right after the opening: a bracket is a member. -/
  | start
  /-- After dashes at the start, which are members. -/
  | dashes
  | inside
  deriving DecidableEq, Repr

/-- After the opening bracket. Without some octets a set of octets has others that are no text. -/
def openClass (modes : Modes) (cs : List Char) : Option (List Char) :=
  match modes.skip cs with
  | '^' :: cs => if modes.wide then some cs else none
  | cs => some cs

/-- The rest of a class within `depth` brackets. -/
def readClass (modes : Modes) : Nat → Place → Nat → List Char → Option (List Char)
  | 0, _, _, _ => none
  | fuel + 1, place, depth, cs =>
      match place, modes.skip cs with
      | _, [] => none
      | .start, '-' :: rest | .dashes, '-' :: rest => readClass modes fuel .dashes depth rest
      | .start, ']' :: rest => readClass modes fuel .inside depth rest
      | _, ']' :: rest =>
          if depth ≤ 1 then some rest else readClass modes fuel .inside (depth - 1) rest
      | _, '[' :: rest =>
          match namedClass? rest with
          | some (negated, rest) =>
              if negated && !modes.wide then none else readClass modes fuel .inside depth rest
          | none => do readClass modes fuel .start (depth + 1) (← openClass modes rest)
      | _, '&' :: '&' :: rest | _, '-' :: '-' :: rest | _, '~' :: '~' :: rest =>
          readClass modes fuel .inside depth rest
      | _, rest => do readClass modes fuel .inside depth (← readRange modes rest)

/-! ## Groups -/

/-- Modes up to a colon or a parenthesis, which is left. -/
def readModes (modes : Modes) (seen : List Char) : List Char → Option (Modes × List Char)
  | [] => none
  | c :: cs =>
      if c = ':' || c = ')' then if seen.head? = some '-' then none else some (modes, c :: cs)
      else if seen.contains c then none
      else if c = '-' then readModes modes (c :: seen) cs
      else do readModes (← modes.set (!seen.contains '-') c) (c :: seen) cs

def isNameStart (c : Char) : Bool := c = '_' || Text.isAlphabetic c

def isNameRest (c : Char) : Bool := ['_', '.', '[', ']'].contains c || Text.isAlphanumeric c

def readName (cs : List Char) : Option (List Char × List Char) :=
  match cs.span (· != '>') with
  | (c :: name, '>' :: rest) =>
      if isNameStart c && name.all isNameRest then some (c :: name, rest) else none
  | _ => none

/-! ## Patterns -/

structure Progress where
  modes : Modes := {}
  /-- The modes around the open groups, the innermost first. -/
  outer : List Modes := []
  /-- The last item can be repeated. -/
  repeatable : Bool := false
  names : List (List Char) := []
  boundaries : Bool := false

namespace Progress

def after (progress : Progress) : Progress := { progress with repeatable := true }

def enter (progress : Progress) (modes : Modes) : Progress :=
  { progress with modes, outer := progress.modes :: progress.outer, repeatable := false }

/-- After an opening parenthesis: a named group, a group with modes, modes alone, or a group. -/
def openGroup (progress : Progress) : List Char → Option (Progress × List Char)
  | '?' :: 'P' :: '<' :: cs | '?' :: '<' :: cs => do
      let (name, cs) ← readName cs
      if progress.names.contains name then none
      else some ({ progress.enter progress.modes with names := name :: progress.names }, cs)
  | '?' :: cs =>
      match readModes progress.modes [] cs with
      | some (modes, ':' :: rest) => some (progress.enter modes, rest)
      | some (modes, ')' :: rest) =>
          if cs.head? = some ')' then none
          else some ({ progress with modes, repeatable := false }, rest)
      | _ => none
  | cs => some (progress.enter progress.modes, cs)

def addAtom (progress : Progress) : Atom → Option Progress
  | .literal _ => if progress.modes.acceptsLetters then some progress.after else none
  | .set | .anchor => some progress.after
  | .boundary =>
      some { progress.after with boundaries := progress.boundaries || progress.modes.wide }

def step (progress : Progress) (c : Char) (rest : List Char) : Option (Progress × List Char) :=
  let modes := progress.modes
  match c with
  | '(' => progress.openGroup (modes.skip rest)
  | ')' =>
      match progress.outer with
      | [] => none
      | modes :: outer => some ({ progress.after with modes, outer }, rest)
  | '|' => some ({ progress with repeatable := false }, rest)
  | '[' => do
      if !modes.acceptsLetters then none
      let rest ← readClass modes (rest.length + 1) .start 1 (← openClass modes rest)
      return (progress.after, rest)
  | '?' | '*' | '+' =>
      if !progress.repeatable then none
      else
        match rest with
        | '?' :: rest => some (progress, rest)
        | rest => some (progress, rest)
  | '\x7b' => none
  | '.' => if modes.wide then some (progress.after, rest) else none
  | '^' | '$' => some (progress.after, rest)
  | '\\' => do
      let (atom, rest) ← readEscape modes rest
      return (← progress.addAtom atom, rest)
  | c => do return (← progress.addAtom (.literal c), rest)

/-- All items; at the end every group is closed. -/
def run : Nat → Progress → List Char → Option Progress
  | 0, _, _ => none
  | fuel + 1, progress, cs =>
      match progress.modes.skip cs with
      | [] => if progress.outer.isEmpty then some progress else none
      | c :: rest => do
          let (progress, rest) ← progress.step c rest
          run fuel progress rest

end Progress

/-- What is wrong with a pattern. -/
def fault? (pattern : List Char) : Option Fault :=
  match Progress.run (pattern.length + 1) {} pattern with
  | none => some .malformed
  | some progress => if progress.boundaries then some .wordBoundary else none

end ModemLink.FieldPattern
