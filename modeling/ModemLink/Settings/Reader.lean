import ModemLink.Settings.Basic
import ModemLink.Toml.Reader

/-!
# Settings from a file

A section that is missing takes its defaults; one that is there names at least its required fields.
Unknown names are passed over. A section may also be an array of its fields in order, and the reader
chooses whether such an array may go on after the last field.
-/

namespace ModemLink.Settings

open Toml

/-- What becomes of the elements of an array beyond the fields of its section. -/
inductive Surplus where
  | ignored
  | refused
  deriving DecidableEq, Repr

/-- The fields of a section: by name, or in their order when written as an array. -/
inductive Fields where
  | named (entries : Entries)
  | listed (items : List Value)

namespace Fields

def ofValue? (surplus : Surplus) (count : Nat) : Value → Option Fields
  | .table _ entries => some (.named entries)
  | .array _ items =>
      if surplus = .refused ∧ count < items.length then none else some (.listed items)
  | .moment => some (.named [])
  | _ => none

def get? (fields : Fields) (name : String) (place : Nat) : Option Value :=
  match fields with
  | .named entries => entries.lookup name
  | .listed items => items[place]?

end Fields

def text? : Value → Option String
  | .text text => some text
  | _ => none

def boolean? : Value → Option Bool
  | .boolean value => some value
  | _ => none

def number? (bound : Nat) : Value → Option Nat
  | .integer n => if 0 ≤ n ∧ n < bound then some n.toNat else none
  | _ => none

def octet? (value : Value) : Option UInt8 := Nat.toUInt8 <$> number? 0x100 value

def count? (value : Value) : Option UInt64 := Nat.toUInt64 <$> number? 0x10000000000000000 value

/-- A field that may be missing but not wrong. -/
def orDefault {α : Type} (read : Value → Option α) (default : α) : Option Value → Option α
  | none => some default
  | some value => read value

def driverOf? (surplus : Surplus) (value : Value) : Option DriverSettings := do
  let fields ← Fields.ofValue? surplus 2 value
  return { logLevel := ← text? (← fields.get? "log_level" 0)
           portName := ← text? (← fields.get? "port_name" 1) }

def deviceOf? (surplus : Surplus) (value : Value) : Option DeviceSettings := do
  let fields ← Fields.ofValue? surplus 4 value
  return { vendorId := ← text? (← fields.get? "vendor_id" 0)
           productId := ← text? (← fields.get? "product_id" 1)
           interface := ← orDefault octet? 0 (fields.get? "interface_number" 2)
           physicalInterface := ← orDefault octet? 0 (fields.get? "physical_interface_number" 3) }

def muxOf? (surplus : Surplus) (value : Value) : Option MuxSettings := do
  let fields ← Fields.ofValue? surplus 3 value
  let defaults : MuxSettings := {}
  return { enabled := ← orDefault boolean? defaults.enabled (fields.get? "enabled" 0)
           controlDlci := ← orDefault octet? defaults.controlDlci (fields.get? "control_dlci" 1)
           dataDlci := ← orDefault octet? defaults.dataDlci (fields.get? "data_dlci" 2) }

def powerOf? (surplus : Surplus) (value : Value) : Option PowerSettings := do
  let fields ← Fields.ofValue? surplus 3 value
  let defaults : PowerSettings := {}
  return {
    selectiveSuspend :=
      ← orDefault boolean? defaults.selectiveSuspend (fields.get? "selective_suspend" 0)
    idleTimeout := ← orDefault count? defaults.idleTimeout (fields.get? "idle_timeout_secs" 1)
    requestPool := ← orDefault count? defaults.requestPool (fields.get? "power_request_pool" 2) }

/-- The one field that may be null. -/
def path? : Value → Option (Option String)
  | .null => some none
  | value => some <$> text? value

def storeOf? (surplus : Surplus) (value : Value) : Option StoreSettings := do
  let fields ← Fields.ofValue? surplus 1 value
  return { path := ← orDefault path? none (fields.get? "path" 0) }

def ofValue? (surplus : Surplus) (value : Value) : Option Settings := do
  let fields ← Fields.ofValue? surplus 5 value
  return { driver := ← orDefault (driverOf? surplus) {} (fields.get? "driver" 0)
           device := ← orDefault (deviceOf? surplus) {} (fields.get? "device" 1)
           mux := ← orDefault (muxOf? surplus) {} (fields.get? "mux" 2)
           power := ← orDefault (powerOf? surplus) {} (fields.get? "power" 3)
           store := ← orDefault (storeOf? surplus) {} (fields.get? "store" 4) }

/-- Why a file gives no settings. -/
inductive LoadError where
  /-- There is no such file, or it is not text. -/
  | unreadable
  /-- It is not TOML, or its values do not fit. -/
  | malformed
  | invalid (error : SettingsError)
  deriving DecidableEq, Repr

def load (content : Option Bytes) : Except LoadError Settings := do
  let some text := content.bind fun bytes => String.fromUTF8? ⟨bytes.toArray⟩ | throw .unreadable
  let some root := Document.read? text | throw .malformed
  let some settings := ofValue? .ignored (.table .header root) | throw .malformed
  match settings.validate with
  | .ok () => return settings
  | .error e => throw (.invalid e)

def loadOrDefault (content : Option Bytes) : Settings := (load content).toOption.getD {}

end ModemLink.Settings
