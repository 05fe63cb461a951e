import Mathlib.Logic.Function.Basic
import ModemLink.Proofs.Store.Lookup
import ModemLink.Proofs.Toml.RoundTrip
import ModemLink.Store.Run

/-!
# A store is a map

A store on a file that can be read and written answers as a map from names to values does, which
keeps what it has when it is opened anew. Where there is no file to begin with, a store in memory
answers the same.
-/

namespace ModemLink

/-! ## Maps -/

/-- A map, and where it keeps the values of the keys. -/
structure PlainMap (κ : Type) where
  locate : StoreKey → κ
  values : κ → Option StoreValue

namespace PlainMap

variable {κ ι : Type} [DecidableEq κ] [DecidableEq ι]

/-- One more than the number, modulo 2 ^ 32. -/
def successor : Option StoreValue → UInt32
  | some (.number n) => .ofNat ((n.toNat + 1) % UInt32.size)
  | some (.text _) | none => 1

def put (map : PlainMap κ) (key : StoreKey) (value : StoreValue) : PlainMap κ :=
  { map with values := Function.update map.values (map.locate key) (some value) }

def answer (map : PlainMap κ) : StoreRequest → StoreAnswer × PlainMap κ
  | .get key => (.found (map.values (map.locate key)), map)
  | .set key value => (.done, map.put key value)
  | .increment key =>
      let count := successor (map.values (map.locate key))
      (.counted count, map.put key (.number count))
  | .reopen => (.done, map)

def answers (map : PlainMap κ) : List StoreRequest → List StoreAnswer × PlainMap κ
  | [] => ([], map)
  | request :: requests =>
      let (answer, map) := map.answer request
      let (others, map) := map.answers requests
      (answer :: others, map)

def named (table : Table) : PlainMap String where
  locate := StoreKey.name
  values := table.get?

/-- A map from keys that has no value yet. -/
def keyed : PlainMap StoreKey where
  locate := id
  values := fun _ => none

theorem named_insert (table : Table) (key : StoreKey) (value : StoreValue) :
    named (table.insert key.name value) = (named table).put key value := by
  have values : (table.insert key.name value).get? =
      Function.update table.get? key.name (some value) := by
    funext name
    rw [Table.get?_insert, Function.update_apply]
  simp only [named, put, values]

section Other

variable {map : PlainMap κ} {place : κ} (foreign : ∀ key, map.locate key ≠ place)

include foreign

theorem answer_other (request : StoreRequest) :
    (map.answer request).2.values place = map.values place := by
  have put (key : StoreKey) (value : StoreValue) :
      (map.put key value).values place = map.values place :=
    Function.update_of_ne (foreign key).symm _ _
  cases request with
  | get | reopen => rfl
  | set key value => exact put key value
  | increment key => exact put key _

/-- What no key is located at stays as it is. -/
theorem answers_other (requests : List StoreRequest) :
    (map.answers requests).2.values place = map.values place := by
  induction requests generalizing map with
  | nil => rfl
  | cons request requests ih =>
      have same : (map.answer request).2.locate = map.locate := by cases request <;> rfl
      have still (key : StoreKey) : (map.answer request).2.locate key ≠ place := by
        rw [same]
        exact foreign key
      exact (ih still).trans (answer_other foreign request)

end Other

/-- Two maps have the same values for all keys, each of which has its own place. -/
structure Agrees (first : PlainMap κ) (second : PlainMap ι) : Prop where
  apart : Function.Injective first.locate
  apart' : Function.Injective second.locate
  values (key : StoreKey) : first.values (first.locate key) = second.values (second.locate key)

section Agrees

variable {first : PlainMap κ} {second : PlainMap ι} (agrees : first.Agrees second)

include agrees

theorem Agrees.put (key : StoreKey) (value : StoreValue) :
    (first.put key value).Agrees (second.put key value) where
  apart := agrees.apart
  apart' := agrees.apart'
  values other := by
    simp only [PlainMap.put, Function.update_apply, agrees.apart.eq_iff, agrees.apart'.eq_iff,
      agrees.values other]

theorem Agrees.answer (request : StoreRequest) :
    (first.answer request).1 = (second.answer request).1 ∧
      (first.answer request).2.Agrees (second.answer request).2 := by
  cases request with
  | get key => exact ⟨congrArg StoreAnswer.found (agrees.values key), agrees⟩
  | set key value => exact ⟨rfl, agrees.put key value⟩
  | increment key =>
      have same := agrees.values key
      refine ⟨by simp only [PlainMap.answer, same], ?_⟩
      simp only [PlainMap.answer, same]
      exact agrees.put key _
  | reopen => exact ⟨rfl, agrees⟩

theorem Agrees.answers (requests : List StoreRequest) :
    (first.answers requests).1 = (second.answers requests).1 := by
  induction requests generalizing first second with
  | nil => rfl
  | cons request requests ih =>
      obtain ⟨same, later⟩ := agrees.answer request
      exact congrArg₂ List.cons same (ih later)

end Agrees

end PlainMap

theorem StoreValue.next_eq_successor (value : Option StoreValue) :
    StoreValue.next value = PlainMap.successor value := by
  cases value with
  | none => rfl
  | some value =>
      cases value with
      | number n => simp [next, number?, PlainMap.successor, ← UInt32.toNat_inj]
      | text s => rfl

/-! ## Stores that answer as maps -/

/-- Every table in order is read back from its text, and only tables in order are read. -/
structure TableCodec.Faithful [TableCodec] : Prop where
  reads_back {table : Table} (ascending : table.Ascending) : read? (render table) = some table
  ascending {text : String} {table : Table} (read : read? text = some table) : table.Ascending

theorem Table.faithful_document : TableCodec.Faithful where
  reads_back := read_render
  ascending read := by
    obtain ⟨entries, -, read⟩ := Option.bind_eq_some_iff.mp read
    exact ascending_ofToml? read

namespace Store

variable [TableCodec]

/-- As long as `kept` holds of it, a store keeps what is set, and opening it anew, if that is done,
changes nothing. -/
structure Serves (kept : Store → Prop) (reopened : Prop) : Prop where
  gets {store : Store} (held : kept store) (key : StoreKey) :
    store.get key = .ok (store.values.get? key.name)
  sets {store : Store} (held : kept store) (key : StoreKey) (value : StoreValue) :
    ∃ after, store.set key value = (.ok (), after) ∧
      after.values = store.values.insert key.name value ∧ kept after
  reopens {store : Store} (held : kept store) (asked : reopened) : store.reopen = (.ok (), store)

variable {kept : Store → Prop} {reopened : Prop} {store : Store}

theorem Serves.answer (serves : Serves kept reopened) (held : kept store) (request : StoreRequest)
    (asked : request = .reopen → reopened) :
    (store.answer request).1 = .ok ((PlainMap.named store.values).answer request).1 ∧
      PlainMap.named (store.answer request).2.values =
        ((PlainMap.named store.values).answer request).2 ∧
      kept (store.answer request).2 := by
  cases request with
  | get key =>
      simp only [Store.answer, serves.gets held key]
      exact ⟨rfl, rfl, held⟩
  | set key value =>
      obtain ⟨after, set, values, keeps⟩ := serves.sets held key value
      simp only [Store.answer, set, values, PlainMap.named_insert]
      exact ⟨rfl, rfl, keeps⟩
  | increment key =>
      obtain ⟨after, set, values, keeps⟩ := serves.sets held key
        (.number (PlainMap.successor (store.values.get? key.name)))
      simp only [Store.answer, increment, serves.gets held key, StoreValue.next_eq_successor, set,
        values, PlainMap.named_insert]
      exact ⟨rfl, rfl, keeps⟩
  | reopen =>
      simp only [Store.answer, serves.reopens held (asked rfl)]
      exact ⟨rfl, rfl, held⟩

theorem Serves.answers (serves : Serves kept reopened) (held : kept store)
    (requests : List StoreRequest) (asked : .reopen ∈ requests → reopened) :
    (store.answers requests).1 =
        ((PlainMap.named store.values).answers requests).1.map .ok ∧
      PlainMap.named (store.answers requests).2.values =
        ((PlainMap.named store.values).answers requests).2 ∧
      kept (store.answers requests).2 := by
  induction requests generalizing store with
  | nil => exact ⟨rfl, rfl, held⟩
  | cons request requests ih =>
      obtain ⟨answered, values, keeps⟩ := serves.answer held request fun same =>
        asked (same ▸ List.mem_cons_self)
      obtain ⟨others, final, keeps⟩ := ih keeps fun member =>
        asked (List.mem_cons_of_mem _ member)
      rw [values] at others final
      refine ⟨?_, final, keeps⟩
      simp only [Store.answers, PlainMap.answers, List.map_cons]
      rw [answered, others]

theorem serves_memory : Serves (fun store => store.medium = .memory) False where
  gets := by
    intro store held key
    simp only [get, held]
  sets := by
    intro store held key value
    exact ⟨{ store with values := store.values.insert key.name value },
      by simp only [set, held], rfl, held⟩
  reopens := nofun

end Store

/-! ## Files -/

theorem toList_loop (bytes : ByteArray) (i : Nat) (read : List UInt8) :
    ByteArray.toList.loop bytes i read = read.reverse ++ bytes.data.toList.drop i := by
  induction left : bytes.size - i generalizing i read with
  | zero =>
      rw [ByteArray.toList.loop.eq_def, if_neg (by omega), List.drop_eq_nil_of_le, List.append_nil]
      change bytes.size ≤ i
      omega
  | succ n ih =>
      have inside : i < bytes.data.toList.length := by
        change i < bytes.size
        omega
      have next : bytes.get! i = bytes.data.toList[i] := by
        change bytes.data[i]! = _
        rw [getElem!_pos bytes.data i inside, Array.getElem_toList]
      rw [ByteArray.toList.loop.eq_def, if_pos (by omega), ih _ _ (by omega),
        List.drop_eq_getElem_cons inside, next]
      simp

theorem Bytes.fromUTF8?_ofText (text : String) :
    String.fromUTF8? ⟨(Bytes.ofText text).toArray⟩ = some text := by
  have same : (⟨(Bytes.ofText text).toArray⟩ : ByteArray) = text.toByteArray := by
    rw [ofText, ByteArray.toList, toList_loop]
    rfl
  rw [same, String.fromUTF8?, dif_pos text.isValidUTF8]
  rfl

namespace Disk

variable [TableCodec]

/-- The file holds the table, or there is none and the table is empty. -/
def Holds (disk : Disk) (table : Table) : Prop :=
  match disk.content with
  | none => table = {}
  | some _ => disk.text? >>= TableCodec.read? = some table

variable {disk : Disk} {table : Table}

theorem Holds.opens (holds : disk.Holds table) :
    Store.open disk = .ok { values := table, medium := .file disk } := by
  unfold Holds at holds
  unfold Store.open
  cases present : disk.content with
  | none =>
      rw [present] at holds
      obtain rfl : table = {} := holds
      rfl
  | some octets =>
      rw [present] at holds
      have read : disk.text? >>= TableCodec.read? = some table := holds
      simp only [read]

variable (faithful : TableCodec.Faithful)

include faithful

theorem Holds.ascending (holds : disk.Holds table) : table.Ascending := by
  unfold Holds at holds
  split at holds
  · subst holds
    exact List.Pairwise.nil
  · obtain ⟨text, -, read⟩ := Option.bind_eq_some_iff.mp holds
    exact faithful.ascending read

theorem holds_render (readable : disk.readable = true) (ascending : table.Ascending) :
    Holds { disk with content := some (.ofText (TableCodec.render table)) } table := by
  have text : text? { disk with content := some (.ofText (TableCodec.render table)) } =
      some (TableCodec.render table) := by
    simp only [text?, readable, if_true]
    exact Bytes.fromUTF8?_ofText _
  change text? _ >>= _ = _
  rw [text]
  exact faithful.reads_back ascending

end Disk

namespace Store

section Codec

variable [TableCodec]

/-- The values are those of a file that can be read and written. -/
def Persists (store : Store) : Prop :=
  ∃ disk, store.medium = .file disk ∧ disk.readable = true ∧ disk.writable = true ∧
    disk.Holds store.values

variable (faithful : TableCodec.Faithful)

include faithful

theorem serves_file : Serves Persists True where
  gets := by
    rintro store ⟨disk, medium, -⟩ key
    simp only [get, medium]
  sets := by
    rintro store ⟨disk, medium, readable, writable, holds⟩ key value
    let values := store.values.insert key.name value
    let written : Disk := { disk with content := some (.ofText (TableCodec.render values)) }
    have holds' : written.Holds values :=
      Disk.holds_render faithful readable ((holds.ascending faithful).insert key.name value)
    refine ⟨{ values, medium := .file written }, ?_, rfl, written, rfl, readable, writable, holds'⟩
    have saved : disk.write (TableCodec.render values) = .ok written := if_pos writable
    simp only [set, medium]
    rw [saved]
  reopens := by
    rintro store ⟨disk, medium, -, -, holds⟩ -
    simp only [reopen, medium, holds.opens]
    obtain ⟨values, medium'⟩ := store
    cases medium
    rfl

/-- However tables are kept as text, as long as they are read back, a store on a file is a map. -/
theorem refines_map_of_faithful (disk : Disk) (table : Table) (holds : disk.Holds table)
    (readable : disk.readable = true) (writable : disk.writable = true)
    (requests : List StoreRequest) :
    ∃ store, Store.open disk = .ok store ∧
      (store.answers requests).1 = ((PlainMap.named table).answers requests).1.map .ok ∧
      PlainMap.named (store.answers requests).2.values =
        ((PlainMap.named table).answers requests).2 ∧
      (store.answers requests).2.reopen = (.ok (), (store.answers requests).2) ∧
      (∀ name, (∀ key : StoreKey, key.name ≠ name) →
        (store.answers requests).2.values.get? name = table.get? name) ∧
      (disk.content = none → .reopen ∉ requests →
        (({} : Store).answers requests).1 = (store.answers requests).1 ∧
          (PlainMap.keyed.answers requests).1.map .ok = (store.answers requests).1) := by
  have opened : Persists { values := table, medium := .file disk } :=
    ⟨disk, rfl, readable, writable, holds⟩
  refine ⟨_, holds.opens, ?_⟩
  have serves := serves_file faithful
  obtain ⟨answered, values, persists⟩ := serves.answers opened requests fun _ => trivial
  refine ⟨answered, values, serves.reopens persists trivial, fun name foreign => ?_,
    fun missing unasked => ?_⟩
  · have final := congrFun (congrArg PlainMap.values values) name
    exact final.trans (PlainMap.answers_other foreign requests)
  · have empty : table = {} := by
      unfold Disk.Holds at holds
      rwa [missing] at holds
    subst empty
    have memory : ({} : Store).medium = .memory := rfl
    obtain ⟨remembered, -⟩ := serves_memory.answers memory requests unasked
    have agrees : PlainMap.keyed.Agrees (PlainMap.named {}) :=
      ⟨Function.injective_id, fun _ _ => StoreKey.name_injective, fun _ => rfl⟩
    exact ⟨remembered.trans answered.symm, by rw [agrees.answers, answered]⟩

end Codec

/-- A store on a file that can be read and written is a map, from the names of the keys, that starts
with the table of the file. Opening it anew at any point changes nothing, and what else the file
held stays. If there was no file, a store in memory that is not opened anew answers the same, and so
does a map from the keys themselves. -/
theorem refines_map (disk : Disk) (table : Table) (holds : disk.Holds table)
    (readable : disk.readable = true) (writable : disk.writable = true)
    (requests : List StoreRequest) :
    ∃ store, Store.open disk = .ok store ∧
      (store.answers requests).1 = ((PlainMap.named table).answers requests).1.map .ok ∧
      PlainMap.named (store.answers requests).2.values =
        ((PlainMap.named table).answers requests).2 ∧
      (store.answers requests).2.reopen = (.ok (), (store.answers requests).2) ∧
      (∀ name, (∀ key : StoreKey, key.name ≠ name) →
        (store.answers requests).2.values.get? name = table.get? name) ∧
      (disk.content = none → .reopen ∉ requests →
        (({} : Store).answers requests).1 = (store.answers requests).1 ∧
          (PlainMap.keyed.answers requests).1.map .ok = (store.answers requests).1) :=
  refines_map_of_faithful Table.faithful_document disk table holds readable writable requests

/-- A counter goes round across a new start, and an entry that the driver does not know survives. -/
theorem refines_map_across_restart :
    let table : Table := ⟨[("device_stamp", .number 0xffffffff), ("site name", .text "lab 'b'")]⟩
    let disk : Disk := { content := some (.ofText table.render) }
    let requests : List StoreRequest :=
      [.increment .deviceStamp, .reopen, .get .deviceStamp, .increment .cid]
    ∃ store, Store.open disk = .ok store ∧
      (store.answers requests).1 =
        [.ok (.counted 0), .ok .done, .ok (.found (some (.number 0))), .ok (.counted 1)] ∧
      (store.answers requests).2.values.get? "site name" = some (.text "lab 'b'") := by
  intro table disk requests
  have ascending : table.Ascending := List.pairwise_pair.mpr (by decide)
  have held : disk.Holds table :=
    Disk.holds_render Table.faithful_document (show ({} : Disk).readable = true from rfl) ascending
  have foreign (key : StoreKey) : key.name ≠ "site name" := by
    cases key <;> decide
  obtain ⟨store, opened, answered, -, -, kept, -⟩ := refines_map disk table held rfl rfl requests
  exact ⟨store, opened, answered.trans (by decide +kernel), kept "site name" foreign⟩

end Store

end ModemLink
