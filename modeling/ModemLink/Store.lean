import ModemLink.Error
import ModemLink.Toml.Reader

/-!
# Persistent store

A handful of typed values kept across restarts, in memory or in a file that is written anew on
every change.
-/

namespace ModemLink

inductive StoreKey where
  /-- Successful device starts. -/
  | deviceStamp
  | serialNumber
  | protocolId
  /-- Restarts of the device after it lost power. -/
  | ssrCounter
  | parentDeviceName
  | cid
  deriving DecidableEq, Repr

def StoreKey.name : StoreKey → String
  | deviceStamp => "device_stamp"
  | serialNumber => "serial_number"
  | protocolId => "protocol_id"
  | ssrCounter => "ssr_counter"
  | parentDeviceName => "parent_device_name"
  | cid => "cid"

inductive StoreValue where
  | number (value : UInt32)
  | text (value : String)
  deriving DecidableEq, Repr

namespace StoreValue

def number? : StoreValue → Option UInt32
  | number value => some value
  | text _ => none

/-- The counter after this value; a missing value and a text count as 0, and the count wraps. -/
def next (value : Option StoreValue) : UInt32 := ((value.bind number?).getD 0) + 1

def ofToml? : Toml.Value → Option StoreValue
  | .integer n => if 0 ≤ n ∧ n < 0x100000000 then some (number n.toNat.toUInt32) else none
  | .text s => some (text s)
  | _ => none

def render : StoreValue → String
  | number value => toString value.toNat
  | text value => Toml.writeString value

end StoreValue

/-- A flat table, its names in ascending order. -/
structure Table where
  entries : List (String × StoreValue) := []
  deriving DecidableEq, Repr

namespace Table

def get? (table : Table) (name : String) : Option StoreValue := table.entries.lookup name

def insertEntry (name : String) (value : StoreValue) :
    List (String × StoreValue) → List (String × StoreValue)
  | [] => [(name, value)]
  | (n, v) :: rest =>
      if name < n then (name, value) :: (n, v) :: rest
      else if name = n then (name, value) :: rest
      else (n, v) :: insertEntry name value rest

def insert (table : Table) (name : String) (value : StoreValue) : Table :=
  ⟨insertEntry name value table.entries⟩

def ofToml? (entries : Toml.Entries) : Option Table :=
  entries.foldlM (fun table (name, value) => return table.insert name (← StoreValue.ofToml? value)) {}

def render (table : Table) : String :=
  String.join (table.entries.map fun (name, value) =>
    Toml.writeKey name ++ " = " ++ value.render ++ "\n")

end Table

/-- How a table is kept as text. -/
class TableCodec where
  read? : String → Option Table
  render : Table → String

/-- The driver keeps its tables as TOML documents. -/
instance Table.document : TableCodec where
  read? text := Toml.Document.read? text >>= ofToml?
  render := render

structure Disk where
  content : Option Bytes := none
  /-- A directory in place of the file has no text. -/
  readable : Bool := true
  writable : Bool := true
  deriving DecidableEq, Repr

def Bytes.ofText (text : String) : Bytes := text.toUTF8.toList

namespace Disk

def text? (disk : Disk) : Option String :=
  if disk.readable then disk.content.bind fun content => String.fromUTF8? ⟨content.toArray⟩
  else none

def write (disk : Disk) (text : String) : Except DriverError Disk :=
  if disk.writable then .ok { disk with content := some (.ofText text) }
  else .error (.store "cannot be written")

end Disk

inductive Medium where
  | memory
  | file (disk : Disk)
  /-- Every access fails. -/
  | refusing (reason : String)
  deriving DecidableEq, Repr

structure Store where
  values : Table := {}
  medium : Medium := .memory
  deriving DecidableEq, Repr

namespace Store

variable [TableCodec]

/-- A store on a file. A missing file is an empty store; any other file holds a table. -/
def «open» (disk : Disk) : Except DriverError Store :=
  match disk.content with
  | none => .ok { medium := .file disk }
  | some _ =>
      match disk.text? >>= TableCodec.read? with
      | some values => .ok { values, medium := .file disk }
      | none => .error (.store "not a table of numbers and texts")

def disk? (store : Store) : Option Disk :=
  match store.medium with
  | .file disk => some disk
  | _ => none

def fileText? (store : Store) : Option String := store.disk?.bind Disk.text?

def get (store : Store) (key : StoreKey) : Except DriverError (Option StoreValue) :=
  match store.medium with
  | .refusing reason => .error (.store reason)
  | _ => .ok (store.values.get? key.name)

/-- Values change first; a file is then written, and its failure reported. -/
def set (store : Store) (key : StoreKey) (value : StoreValue) : Except DriverError Unit × Store :=
  let values := store.values.insert key.name value
  match store.medium with
  | .memory => (.ok (), { store with values })
  | .file disk =>
      match disk.write (TableCodec.render values) with
      | .ok disk => (.ok (), { values, medium := .file disk })
      | .error e => (.error e, { store with values })
  | .refusing reason => (.error (.store reason), store)

/-- Counts up; a missing or non-numeric value counts as 0. -/
def increment (store : Store) (key : StoreKey) : Except DriverError UInt32 × Store :=
  match store.get key with
  | .error e => (.error e, store)
  | .ok value =>
      match store.set key (.number (StoreValue.next value)) with
      | (.ok (), store) => (.ok (StoreValue.next value), store)
      | (.error e, store) => (.error e, store)

end Store

end ModemLink
