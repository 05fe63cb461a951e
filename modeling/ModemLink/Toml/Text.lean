import ModemLink.Bytes

/-!
# TOML strings and keys as written

A string is written in the first of four forms that takes it as it is: between basic quotes,
between literal quotes, between three basic quotes, between three literal quotes. A string that no
form takes is escaped between basic quotes, three of them when it has a line break. A key of
letters, digits, `_` and `-` is written bare.
-/

namespace ModemLink.Toml

inductive Quotes where
  | basic
  | literal
  /-- Three basic quotes. -/
  | basicBlock
  /-- Three literal quotes. -/
  | literalBlock
  deriving DecidableEq, Repr

namespace Quotes

def isBlock : Quotes → Bool
  | basicBlock | literalBlock => true
  | basic | literal => false

def isLiteral : Quotes → Bool
  | literal | literalBlock => true
  | basic | basicBlock => false

def mark (quotes : Quotes) : List Char :=
  List.replicate (if quotes.isBlock then 3 else 1) (if quotes.isLiteral then '\'' else '"')

end Quotes

def isControl (c : Char) : Bool := c.toNat ≤ 0x1F || c.toNat == 0x7F

def longestRun (mark : Char) (cs : List Char) : Nat :=
  (cs.foldl (fun (run, longest) c =>
    let run := if c = mark then run + 1 else 0
    (run, Nat.max longest run)) (0, 0)).2

/-- Whether a form takes a string as it is. No form takes control characters other than tabs and
line breaks, basic forms take no backslash, and a run of quotes in a block stays below three. -/
def Quotes.takes (quotes : Quotes) (cs : List Char) : Bool :=
  !cs.any (fun c => isControl c && c != '\t' && c != '\n') &&
    (quotes.isLiteral || !cs.contains '\\') &&
    (quotes.isBlock || !cs.contains '\n') &&
    longestRun (if quotes.isLiteral then '\'' else '"') cs ≤ if quotes.isBlock then 2 else 0

def Quotes.of (cs : List Char) : Quotes :=
  ([basic, literal, basicBlock, literalBlock].find? (·.takes cs)).getD
    (if cs.contains '\n' then basicBlock else basic)

def escapeChar (c : Char) : List Char :=
  if c = '\x08' then ['\\', 'b']
  else if c = '\t' then ['\\', 't']
  else if c = '\n' then ['\\', 'n']
  else if c = '\x0c' then ['\\', 'f']
  else if c = '\r' then ['\\', 'r']
  else if c = '"' then ['\\', '"']
  else if c = '\\' then ['\\', '\\']
  else if isControl c then
    ['\\', 'u', '0', '0', Text.hexDigit true (c.toNat / 16), Text.hexDigit true (c.toNat % 16)]
  else [c]

/-- The characters of a block, after `run` quotes: line breaks stay, and only the third quote of a
run is escaped. -/
def escapeBlock (run : Nat) : List Char → List Char
  | [] => []
  | '\n' :: cs => '\n' :: escapeBlock 0 cs
  | '"' :: cs =>
      if run < 2 then '"' :: escapeBlock (run + 1) cs else '\\' :: '"' :: escapeBlock 0 cs
  | c :: cs => escapeChar c ++ escapeBlock 0 cs

/-- A string between the given quotes. A block that has a line break starts on a line of its own. -/
def quote (quotes : Quotes) (cs : List Char) : List Char :=
  let opening := if quotes.isBlock && cs.contains '\n' then ['\n'] else []
  let body := match quotes with
    | .basic => cs.flatMap escapeChar
    | .basicBlock => escapeBlock 0 cs
    | .literal | .literalBlock => cs
  quotes.mark ++ opening ++ body ++ quotes.mark

def writeString (s : String) : String := String.ofList (quote (Quotes.of s.toList) s.toList)

def isBareChar (c : Char) : Bool := c.isAlphanum || c == '_' || c == '-'

/-- A quoted key stands on one line; it is literal when that avoids escapes. -/
def keyIsLiteral (cs : List Char) : Bool :=
  cs.any (fun c => c == '\\' || c == '"') && !cs.any (fun c => (isControl c && c != '\t') || c == '\'')

def writeKey (key : String) : String :=
  let cs := key.toList
  if cs.all isBareChar && !cs.isEmpty then key
  else String.ofList (quote (if keyIsLiteral cs then .literal else .basic) cs)

end ModemLink.Toml
