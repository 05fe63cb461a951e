import ModemLink.Text.Blank
import ModemLink.Toml.Text
import ModemLink.Toml.Value

/-!
# Reading a TOML document

`Document.read?` is the root table of a text, none when the text is not TOML 1.0. Arrays and inline
tables nest up to `maxDepth`, and a dotted key has at most that many parts.
-/

namespace ModemLink.Toml

def maxDepth : Nat := 79

abbrev Reader := StateT (List Char) Option

namespace Reader

def peek? : Reader (Option Char) := return (← get).head?

def expect (text : String) : Reader Unit := fun cs =>
  if text.toList.isPrefixOf cs then some ((), cs.drop text.length) else none

/-- Whether the given text follows; it is then passed. -/
def accept (text : String) : Reader Bool := fun cs =>
  if text.toList.isPrefixOf cs then some (true, cs.drop text.length) else some (false, cs)

def takeWhile (p : Char → Bool) : Reader (List Char) := modifyGet (·.span p)

def one (p : Char → Bool) : Reader Char
  | c :: rest => if p c then some (c, rest) else none
  | [] => none

def exactly (n : Nat) (p : Char → Bool) : Reader (List Char) := (List.replicate n ()).mapM fun _ => one p

/-- Items with a separator between them, at most as many as the text has characters. -/
def separated {α : Type} (item : Reader α) (separator : String) : Reader (List α) := do
  let first ← item
  return first :: (← go (← get).length)
where
  go : Nat → Reader (List α)
    | 0 => return []
    | n + 1 => do
        if ← accept separator then return (← item) :: (← go n)
        return []

/-! ## Blanks and line ends -/

def blanks : Reader Unit := discard (takeWhile fun c => c == ' ' || c == '\t')

/-- No control character but the tab. -/
def isCommentChar (c : Char) : Bool := !isControl c || c == '\t'

def comment : Reader Unit := do
  if ← accept "#" then discard (takeWhile isCommentChar)

def newline : Reader Unit := expect "\n" <|> expect "\r\n"

/-- The rest of a line that has nothing more to say. -/
def lineEnd : Reader Unit := do
  blanks
  comment
  if (← get).isEmpty then return
  newline

/-- Blanks, comments and line breaks. -/
def filler : Reader Unit := do go (← get).length
where
  go : Nat → Reader Unit
    | 0 => return
    | n + 1 => do
        blanks
        match ← peek? with
        | some '#' => comment; newline; go n
        | some '\n' | some '\r' => newline; go n
        | _ => return

/-! ## Strings -/

def escaped? : Char → Option Char
  | 'b' => some '\x08'
  | 't' => some '\t'
  | 'n' => some '\n'
  | 'f' => some '\x0c'
  | 'r' => some '\r'
  | '"' => some '"'
  | '\\' => some '\\'
  | _ => none

/-- Where a multi-line string stands after a backslash. -/
inductive Gap where
  | none
  /-- Before the line break that must follow. -/
  | line
  /-- After it: line breaks and blanks are passed. -/
  | blank
  deriving DecidableEq

def basicRest : Reader (List Char)
  | '"' :: rest => some ([], rest)
  | '\\' :: 'u' :: a :: b :: c :: d :: rest => add (codePoint? [a, b, c, d]) (basicRest rest)
  | '\\' :: 'U' :: a :: b :: c :: d :: e :: f :: g :: h :: rest =>
      add (codePoint? [a, b, c, d, e, f, g, h]) (basicRest rest)
  | '\\' :: c :: rest => add (escaped? c) (basicRest rest)
  | c :: rest => if isCommentChar c then add (some c) (basicRest rest) else none
  | [] => none
where
  add (c : Option Char) (rest : Option (List Char × List Char)) : Option (List Char × List Char) := do
    let c ← c
    let (cs, after) ← rest
    return (c :: cs, after)

/-- The rest of a multi-line basic string. Up to two quotes may stand before the closing ones. -/
def multilineRest : Gap → List Char → Option (List Char × List Char)
  | .line, ' ' :: rest | .line, '\t' :: rest => multilineRest .line rest
  | .line, '\n' :: rest | .line, '\r' :: '\n' :: rest => multilineRest .blank rest
  | .line, _ => none
  | .blank, ' ' :: rest | .blank, '\t' :: rest | .blank, '\n' :: rest
  | .blank, '\r' :: '\n' :: rest => multilineRest .blank rest
  | _, '"' :: '"' :: '"' :: '"' :: '"' :: rest => some (['"', '"'], rest)
  | _, '"' :: '"' :: '"' :: '"' :: rest => some (['"'], rest)
  | _, '"' :: '"' :: '"' :: rest => some ([], rest)
  | _, '\\' :: 'u' :: a :: b :: c :: d :: rest =>
      basicRest.add (codePoint? [a, b, c, d]) (multilineRest .none rest)
  | _, '\\' :: 'U' :: a :: b :: c :: d :: e :: f :: g :: h :: rest =>
      basicRest.add (codePoint? [a, b, c, d, e, f, g, h]) (multilineRest .none rest)
  | _, '\\' :: ' ' :: rest | _, '\\' :: '\t' :: rest => multilineRest .line rest
  | _, '\\' :: '\n' :: rest | _, '\\' :: '\r' :: '\n' :: rest => multilineRest .blank rest
  | _, '\\' :: c :: rest => basicRest.add (escaped? c) (multilineRest .none rest)
  | _, '\n' :: rest | _, '\r' :: '\n' :: rest =>
      basicRest.add (some '\n') (multilineRest .none rest)
  | _, c :: rest =>
      if isCommentChar c then basicRest.add (some c) (multilineRest .none rest) else none
  | _, [] => none

def multilineLiteralRest : Reader (List Char)
  | '\'' :: '\'' :: '\'' :: '\'' :: '\'' :: rest => some (['\'', '\''], rest)
  | '\'' :: '\'' :: '\'' :: '\'' :: rest => some (['\''], rest)
  | '\'' :: '\'' :: '\'' :: rest => some ([], rest)
  | '\n' :: rest | '\r' :: '\n' :: rest => basicRest.add (some '\n') (multilineLiteralRest rest)
  | c :: rest =>
      if isCommentChar c then basicRest.add (some c) (multilineLiteralRest rest) else none
  | [] => none

def literalString : Reader String := do
  expect "'"
  let text ← takeWhile fun c => isCommentChar c && c != '\''
  expect "'"
  return String.ofList text

def basicString : Reader String := do
  expect "\""
  return String.ofList (← basicRest)

/-- A line break right after the opening quotes is not part of the string. -/
def string : Reader String := do
  if ← accept "\"\"\"" then
    newline <|> pure ()
    return String.ofList (← multilineRest .none)
  if ← accept "'''" then
    newline <|> pure ()
    return String.ofList (← multilineLiteralRest)
  basicString <|> literalString

/-! ## Keys -/

def keyPart : Reader String := do
  match ← peek? with
  | some '"' => basicString
  | some '\'' => literalString
  | _ =>
      let bare ← takeWhile isBareChar
      if bare.isEmpty then failure
      return String.ofList bare

/-- A key as the path to a table and a name in it. -/
def key : Reader (List String × String) := do
  let parts ← separated (do blanks; let part ← keyPart; blanks; return part) "."
  if maxDepth < parts.length then failure
  return (parts.dropLast, parts.getLastD "")

/-! ## Numbers and dates -/

/-- The rest of a run of digits, in which an underscore may stand between two digits. -/
def digitsRest (p : Char → Bool) : Reader (List Char)
  | '_' :: c :: rest => if p c then basicRest.add (some c) (digitsRest p rest) else none
  | c :: rest =>
      if c = '_' then none
      else if p c then basicRest.add (some c) (digitsRest p rest)
      else some ([], c :: rest)
  | [] => some ([], [])

def digits (p : Char → Bool) : Reader (List Char) := return (← one p) :: (← digitsRest p)

def numberOf (base : Nat) (digits : List Char) : Nat :=
  digits.foldl (fun n c => base * n + (hexValue? c).getD 0) 0

def bounded (value : Int) : Reader Value :=
  if -0x8000000000000000 ≤ value ∧ value < 0x8000000000000000 then return .integer value else failure

def based (base : Nat) (p : Char → Bool) : Reader Value := do
  bounded (numberOf base (← digits p))

/-- No zero leads a number of several digits. -/
def decimal : Reader (List Char) := do
  if ← accept "0" then return ['0']
  digits Char.isDigit

def sign : Reader Bool := do
  if ← accept "-" then return true
  discard (accept "+")
  return false

/-- From this value on a number is taken for infinite. -/
def overflow : Nat := Nat.pow 2 1024 - Nat.pow 2 970

/-- Whether `mantissa * 10 ^ exponent` is infinite as a 64-bit float. -/
def isInfinite (mantissa : Nat) (exponent : Int) : Bool :=
  if mantissa = 0 then false
  else
    let size := ((toString mantissa).length : Int) + exponent
    if size < 300 then false
    else if 320 < size then true
    else if 0 ≤ exponent then overflow ≤ mantissa * Nat.pow 10 exponent.toNat
    else overflow * Nat.pow 10 (-exponent).toNat ≤ mantissa

/-- What follows the integer part of a float. A positive number that is too large is refused. -/
def fraction (negative : Bool) (whole : List Char) : Reader Value := do
  let places ← if ← accept "." then digits Char.isDigit else pure []
  let exponent : Int ← (do
    discard (one fun c => c == 'e' || c == 'E')
    let down ← sign
    let n := numberOf 10 (← digits Char.isDigit)
    return if down then -(n : Int) else n) <|> return 0
  if !negative && isInfinite (numberOf 10 (whole ++ places)) (exponent - places.length) then failure
  return .float

def number : Reader Value := do
  if ← accept "0x" then based 16 fun c => (hexValue? c).isSome
  else if ← accept "0o" then based 8 fun c => '0' ≤ c && c ≤ '7'
  else if ← accept "0b" then based 2 fun c => c == '0' || c == '1'
  else
    let negative ← sign
    if (← accept "inf") then return .float
    if (← accept "nan") then return .float
    let whole ← decimal
    match ← peek? with
    | some '.' | some 'e' | some 'E' => fraction negative whole
    | _ =>
        let n : Int := numberOf 10 whole
        bounded (if negative then -n else n)

/-- A decimal field of fixed width and bounded value. -/
def field (width low high : Nat) : Reader Nat := do
  let n := numberOf 10 (← exactly width Char.isDigit)
  if low ≤ n ∧ n ≤ high then return n else failure

def isLeap (year : Nat) : Bool := year % 4 == 0 && (year % 100 != 0 || year % 400 == 0)

def daysIn (year month : Nat) : Nat :=
  if month = 2 then if isLeap year then 29 else 28
  else if month ∈ [4, 6, 9, 11] then 30
  else 31

def date : Reader Unit := do
  let year ← field 4 0 9999
  expect "-"
  let month ← field 2 1 12
  expect "-"
  discard (field 2 1 (daysIn year month))

def time : Reader Unit := do
  discard (field 2 0 23)
  expect ":"
  discard (field 2 0 59)
  expect ":"
  discard (field 2 0 60)
  if ← accept "." then
    discard (one Char.isDigit)
    discard (takeWhile Char.isDigit)

def zone : Reader Unit :=
  discard (one fun c => c == 'Z' || c == 'z') <|> do
    discard (one fun c => c == '+' || c == '-')
    discard (field 2 0 23)
    expect ":"
    discard (field 2 0 59)

def moment : Reader Value := do
  (do
    date
    (do
      discard (one fun c => c == 'T' || c == 't' || c == ' ')
      time
      zone <|> pure ()) <|> pure ()) <|> time
  return .moment

/-! ## Values -/

def scalar : Reader Value := do
  match ← peek? with
  | some '"' | some '\'' => .text <$> string
  | some 't' => expect "true"; return .boolean true
  | some 'f' => expect "false"; return .boolean false
  | _ => moment <|> number

def items (item : Reader Value) : Nat → Reader (List Value)
  | 0 => failure
  | n + 1 => do
      filler
      if ← accept "]" then return []
      let first ← item
      filler
      if ← accept "," then return first :: (← items item n)
      expect "]"
      return [first]

def pairs (item : Reader Value) : Reader Entries := do
  blanks
  if ← accept "\x7d" then return []
  let all ← separated (do
    let (path, name) ← key
    expect "="
    blanks
    let value ← item
    blanks
    return (path, name, value)) ","
  expect "\x7d"
  all.foldlM (fun entries (path, name, value) =>
    (entries.insertKey path name value .header : Option Entries)) []

/-- A value in which arrays and tables nest up to the given depth. -/
def value : Nat → Reader Value
  | 0 => scalar
  | depth + 1 => do
      if ← accept "[" then return .array .inline (← items (value depth) ((← get).length + 1))
      if ← accept "\x7b" then return .table .inline (← pairs (value depth))
      scalar

end Reader

structure Document where
  root : Entries := []
  /-- The table that keys go to. -/
  header : List String := []

namespace Document

open Reader

/-- A line with a header or a key. -/
def statement (document : Document) : Reader Document := do
  if ← accept "[[" then
    let (path, name) ← key
    expect "]]"
    lineEnd
    return { root := ← document.root.appendTable path name, header := path ++ [name] }
  if ← accept "[" then
    let (path, name) ← key
    expect "]"
    lineEnd
    return { root := ← document.root.defineTable path name, header := path ++ [name] }
  let (path, name) ← key
  expect "="
  blanks
  let value ← value maxDepth
  lineEnd
  return { document with root := ← document.root.insertAt document.header path name value }

def statements : Nat → Document → Reader Document
  | 0, document => return document
  | n + 1, document => do
      blanks
      match ← peek? with
      | none => return document
      | some '#' | some '\n' | some '\r' =>
          lineEnd
          statements n document
      | _ => statements n (← document.statement)

/-- The root table of a document, which may begin with a byte order mark. -/
def read? (text : String) : Option Entries := do
  let cs := text.toList
  let cs := if cs.head? = some (Char.ofNat 0xFEFF) then cs.tail else cs
  let (document, rest) ← (statements (cs.length + 1) {}).run cs
  if rest.isEmpty then return document.root else none

end Document

end ModemLink.Toml
