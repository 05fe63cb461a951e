/-!
# TOML values

Who may extend a table depends on how it came to be. A document grows by headers (`defineTable`,
`appendTable`) and keys (`insertAt`); all of them refuse to define a name twice.
-/

namespace ModemLink.Toml

/-- How a table or an array of tables came to be. -/
inductive Origin where
  /-- By its own header; the root of a document is taken for one. -/
  | header
  /-- As a parent named in a header. -/
  | implied
  /-- By dotted keys. -/
  | dotted
  /-- Written out as a value, which nothing extends. -/
  | inline
  deriving DecidableEq, Repr

inductive Value where
  | text (text : String)
  | integer (value : Int)
  | float
  | boolean (value : Bool)
  | moment
  /-- What a file cannot write: no value. -/
  | null
  | array (origin : Origin) (items : List Value)
  | table (origin : Origin) (entries : List (String × Value))
  deriving Repr, Inhabited

/-- The entries of a table, in the order of their definition. -/
abbrev Entries := List (String × Value)

namespace Entries

def replace (key : String) (value : Value) : Entries → Entries
  | [] => []
  | (k, v) :: rest => if k = key then (k, value) :: rest else (k, v) :: replace key value rest

/-- A table of the first origin is passed on the way to a name by steps of the second. -/
def passes : Origin → Origin → Bool
  | .inline, _ => false
  | .header, .dotted => false
  | _, _ => true

/-- Changes the table at the end of `path`, making those that are missing. An array of tables stands
for its last table. -/
def descend (step : Origin) (change : Origin → Entries → Option Entries) :
    List String → Origin → Entries → Option Entries
  | [], origin, entries => change origin entries
  | key :: path, _, entries =>
      match entries.lookup key with
      | none => do
          return entries ++ [(key, .table step (← descend step change path step []))]
      | some (.table origin inner) => do
          if !passes origin step then none
          return entries.replace key (.table origin (← descend step change path origin inner))
      | some (.array .header items) =>
          match items.getLast? with
          | some (.table origin inner) => do
              let last := Value.table origin (← descend step change path origin inner)
              return entries.replace key (.array .header (items.dropLast ++ [last]))
          | _ => none
      | some _ => none

/-- Defines a new name. A dotted key defines its last part in a table made by dotted keys only. -/
def define (dotted : Bool) (key : String) (value : Value) (origin : Origin) (entries : Entries) :
    Option Entries :=
  if dotted != (origin == .dotted) then none
  else if (entries.lookup key).isSome then none
  else some (entries ++ [(key, value)])

/-- Binds a dotted key within a table. -/
def insertKey (path : List String) (key : String) (value : Value) : Origin → Entries → Option Entries :=
  descend .dotted (define (!path.isEmpty) key value) path

/-- A `[header]`: names a new table, or one that was only implied. -/
def defineTable (path : List String) (key : String) : Entries → Option Entries :=
  descend .implied (fun _ entries =>
    match entries.lookup key with
    | none => some (entries ++ [(key, .table .header [])])
    | some (.table .implied inner) => some (entries.replace key (.table .header inner))
    | some _ => none) path .header

/-- A `[[header]]`: adds a table to an array of tables. -/
def appendTable (path : List String) (key : String) : Entries → Option Entries :=
  descend .implied (fun _ entries =>
    match entries.lookup key with
    | none => some (entries ++ [(key, .array .header [.table .header []])])
    | some (.array .header items) =>
        some (entries.replace key (.array .header (items ++ [.table .header []])))
    | some _ => none) path .header

/-- Binds a key in the table of the last header. -/
def insertAt (header path : List String) (key : String) (value : Value) : Entries → Option Entries :=
  descend .implied (insertKey path key value) header .header

end Entries

end ModemLink.Toml
