import ModemLink.Proofs.Store.Order
import ModemLink.Proofs.Toml.Numbers

/-!
# Reading a table that was written

Every line that `Table.render` writes binds one name, so the document that reads it back has the
entries of the table.
-/

namespace ModemLink

namespace Toml.Reader

variable {rest : List Char}

def isInline (c : Char) : Bool := c == ' ' || c == '\t'

theorem notInline {p : Char → Bool} {cs : List Char} (begins : Begins p cs)
    (space : p ' ' = false) (tab : p '\t' = false) : Begins (fun c => !isInline c) cs := by
  intro c first
  have notSpace := begins.unlike space c first
  have notTab := begins.unlike tab c first
  simp_all [isInline]

theorem reads_blanks {text : List Char} (all : ∀ c ∈ text, isInline c = true)
    (stops : Begins (fun c => !isInline c) rest) : Reads blanks text () rest :=
  (reads_takeWhile all stops).discard

theorem reads_noBlanks (stops : Begins (fun c => !isInline c) rest) :
    Reads blanks [] () rest :=
  reads_blanks (by simp) stops

/-! ## Keys -/

/-- A key is bare, or it is a string on one line. -/
theorem writeKey_cases (name : String) :
    (writeKey name = name ∧ name.toList ≠ [] ∧ ∀ c ∈ name.toList, isBareChar c = true) ∨
      writeKey name = String.ofList (quote .basic name.toList) ∨
      writeKey name = String.ofList (quote .literal name.toList) ∧
        ∀ c ∈ name.toList, isCommentChar c = true ∧ c ≠ '\'' := by
  unfold writeKey
  dsimp only
  split
  · rename_i bare
    left
    simpa [and_comm] using bare
  · right
    split
    · rename_i literal
      simp only [keyIsLiteral, Bool.and_eq_true, Bool.not_eq_true', List.any_eq_false] at literal
      refine .inr ⟨rfl, fun c member => ?_⟩
      have shown := literal.2 c member
      simp only [isCommentChar]
      grind
    · exact .inl rfl

/-- What the key of a line may begin with. -/
def isKeyStart (c : Char) : Bool := isBareChar c || c == '"' || c == '\''

theorem begins_writeKey (name : String) (rest : List Char) :
    Begins isKeyStart ((writeKey name).toList ++ rest) := by
  obtain ⟨written, filled, bare⟩ | written | ⟨written, -⟩ := writeKey_cases name
  · rw [written]
    exact (begins_of_all filled bare rest).imp fun c passes => by simp [isKeyStart, passes]
  · rw [written, String.toList_ofList]
    exact begins_cons rfl
  · rw [written, String.toList_ofList]
    exact begins_cons rfl

theorem reads_keyPart (name : String) (stops : Begins (fun c => !isBareChar c) rest) :
    Reads keyPart (writeKey name).toList name rest := by
  obtain ⟨written, filled, bare⟩ | written | ⟨written, shown⟩ := writeKey_cases name
  · rw [written]
    refine (reads_peek? _).glance ?_
    have begins := begins_of_all filled bare rest
    split
    · rename_i first
      cases begins _ first
    · rename_i first
      cases begins _ first
    · refine (reads_takeWhile bare stops).finish ?_
      dsimp only
      rw [if_neg (by simpa using filled), String.ofList_toList]
      exact reads_pure _ _
  · rw [written, String.toList_ofList]
    refine (reads_peek? _).glance ?_
    have reads := reads_basicString name.toList rest
    rwa [String.ofList_toList] at reads
  · rw [written, String.toList_ofList]
    refine (reads_peek? _).glance ?_
    have reads := reads_literalString shown rest
    rwa [String.ofList_toList] at reads

theorem reads_key (name : String) (rest : List Char) :
    Reads key ((writeKey name).toList ++ [' ']) ([], name) ('=' :: rest) := by
  have notBlank : Begins (fun c => !isInline c)
      ((writeKey name).toList ++ ([' '] ++ '=' :: rest)) :=
    notInline (begins_writeKey name _) rfl rfl
  have part : Reads (do blanks; let part ← keyPart; blanks; return part)
      ((writeKey name).toList ++ [' ']) name ('=' :: rest) := by
    refine (reads_noBlanks (by simpa using notBlank)).glance ?_
    refine (reads_keyPart name (begins_cons rfl)).seq ?_
    exact (reads_blanks (by simp [isInline]) (begins_cons rfl)).finish (reads_pure _ _)
  have parts : Reads (separated (do blanks; let part ← keyPart; blanks; return part) ".")
      ((writeKey name).toList ++ [' ']) [name] ('=' :: rest) := by
    have last (n : Nat) : Reads (separated.go (do blanks; let part ← keyPart; blanks; return part)
        "." n) [] [] ('=' :: rest) := by
      cases n with
      | zero => exact reads_pure _ _
      | succ n => exact (reads_accept_unlike rfl (begins_cons rfl)).finish (reads_pure _ _)
    exact part.finish ((reads_get _).finish ((last _).finish (reads_pure _ _)))
  exact parts.finish (reads_pure _ _)

/-! ## Lines -/

theorem reads_text (s : String) (rest : List Char) :
    Reads scalar (writeString s).toList (.text s) ('\n' :: rest) := by
  have reads := (reads_string s (begins_cons rfl : Begins _ ('\n' :: rest))).map Value.text
  refine (reads_peek? _).glance ?_
  obtain first | first := head?_writeString s ('\n' :: rest)
  · rw [first]
    exact reads
  · rw [first]
    exact reads

end Toml.Reader

open Toml Toml.Reader

/-- The value that is read where this one was written. -/
def StoreValue.toToml : StoreValue → Toml.Value
  | number value => .integer value.toNat
  | text value => .text value

namespace StoreValue

theorem begins_render (value : StoreValue) (rest : List Char) :
    Begins (fun c => c.isDigit || c == '"' || c == '\'') (value.render.toList ++ rest) := by
  cases value with
  | number n =>
      rw [render, Nat.toString_eq_ofList_toDigits, String.toList_ofList]
      exact (begins_toDigits n.toNat rest).imp fun c digit => by simp [digit]
  | text s =>
      intro c first
      change c ∈ ((writeString s).toList ++ rest).head? at first
      obtain begins | begins := head?_writeString s rest <;>
        · rw [begins] at first
          cases first
          rfl

theorem reads_render (value : StoreValue) (rest : List Char) :
    Reads (Reader.value maxDepth) value.render.toList value.toToml ('\n' :: rest) := by
  have begins := value.begins_render ('\n' :: rest)
  refine (reads_accept_unlike rfl (begins.unlike rfl)).glance
    ((reads_accept_unlike rfl (begins.unlike rfl)).glance ?_)
  cases value with
  | number n =>
      rw [render, Nat.toString_eq_ofList_toDigits, String.toList_ofList]
      exact reads_integer rest n.toNat_lt
  | text s => exact reads_text s rest

end StoreValue

namespace Table

/-- The line of an entry. -/
def line (name : String) (value : StoreValue) : List Char :=
  (writeKey name).toList ++ [' '] ++ (['='] ++ ([' '] ++ (value.render.toList ++ ['\n'])))

theorem begins_line (name : String) (value : StoreValue) (rest : List Char) :
    Begins isKeyStart (line name value ++ rest) := by
  rw [line, List.append_assoc, List.append_assoc]
  exact begins_writeKey name _

def lines (entries : List (String × StoreValue)) : List Char :=
  entries.flatMap fun entry => line entry.1 entry.2

theorem lines_cons (name : String) (value : StoreValue) (entries : List (String × StoreValue)) :
    lines ((name, value) :: entries) = line name value ++ lines entries := rfl

theorem render_toList (table : Table) : table.render.toList = lines table.entries := by
  rw [render, String.toList_join, List.flatMap_map]
  refine congrArg (table.entries.flatMap ·) (funext fun entry => ?_)
  simp [line]

/-- The document of which these are the lines. -/
def toToml (entries : List (String × StoreValue)) : Toml.Entries :=
  entries.map fun entry => (entry.1, entry.2.toToml)

theorem toToml_cons (entry : String × StoreValue) (entries : List (String × StoreValue)) :
    toToml (entry :: entries) = (entry.1, entry.2.toToml) :: toToml entries := rfl

end Table

namespace Toml.Document

variable {document : Document}

theorem reads_lineEnd (rest : List Char) : Reads lineEnd ['\n'] () rest := by
  refine (reads_noBlanks (begins_cons rfl)).glance ?_
  refine Reads.glance ((reads_accept_unlike rfl (begins_cons rfl)).finish (reads_pure _ _)) ?_
  exact (reads_get _).glance ((reads_expect "\n" rest).orElse)

theorem reads_statement (top : document.header = []) {name : String}
    (fresh : document.root.lookup name = none) (value : StoreValue) (rest : List Char) :
    Reads document.statement (Table.line name value)
      { document with root := document.root ++ [(name, value.toToml)] } rest := by
  have notHeader : Begins (· != '[') (Table.line name value ++ rest) :=
    (Table.begins_line name value rest).unlike rfl
  have bound : document.root.insertAt document.header [] name value.toToml =
      some (document.root ++ [(name, value.toToml)]) := by
    rw [top]
    change Entries.define false name value.toToml .header document.root = _
    simp [Entries.define, fresh]
  refine (reads_accept_unlike rfl notHeader).glance ((reads_accept_unlike rfl notHeader).glance ?_)
  refine (reads_key name _).seq ((reads_expect "=" _).seq ?_)
  have notBlank : Begins (fun c => !isInline c) (value.render.toList ++ ['\n'] ++ rest) := by
    rw [List.append_assoc]
    exact notInline (value.begins_render _) rfl rfl
  refine (reads_blanks (by simp [isInline]) notBlank).seq ((value.reads_render rest).seq ?_)
  refine (reads_lineEnd rest).finish ?_
  rw [bound]
  exact reads_pure _ _

theorem reads_line {name : String} {value : StoreValue} {after last : Document}
    {more rest : List Char} {n : Nat}
    (bound : Reads document.statement (Table.line name value) after (more ++ rest))
    (others : Reads (statements n after) more last rest) :
    Reads (statements (n + 1) document) (Table.line name value ++ more) last rest := by
  have begins := Table.begins_line name value (more ++ rest)
  rw [← List.append_assoc] at begins
  refine Reads.glance (reads_noBlanks (notInline begins rfl rfl)) ((reads_peek? _).glance ?_)
  split
  · rename_i missing
    rw [List.head?_eq_none_iff] at missing
    simp [Table.line] at missing
  · cases begins _ ‹_›
  · cases begins _ ‹_›
  · cases begins _ ‹_›
  · exact bound.seq others

/-- Every line binds its name, of which the document has none yet. -/
theorem reads_statements (top : document.header = []) (entries : List (String × StoreValue))
    (distinct : (entries.map Prod.fst).Nodup)
    (fresh : ∀ entry ∈ entries, document.root.lookup entry.1 = none) {n : Nat}
    (enough : entries.length < n) :
    Reads (statements n document) (Table.lines entries)
      { document with root := document.root ++ Table.toToml entries } [] := by
  obtain ⟨n, rfl⟩ : ∃ m, n = m + 1 := ⟨n - 1, by omega⟩
  induction entries generalizing document n with
  | nil =>
      have kept : { document with root := document.root ++ [] } = document := by simp
      rw [show Table.toToml [] = [] from rfl, kept]
      exact (reads_noBlanks begins_nil).glance ((reads_peek? _).finish (reads_pure _ _))
  | cons entry entries ih =>
      obtain ⟨n, rfl⟩ : ∃ m, n = m + 1 := ⟨n - 1, by simp at enough; omega⟩
      obtain ⟨name, value⟩ := entry
      obtain ⟨new, distinct⟩ := List.nodup_cons.mp distinct
      -- The document grows by a binding with each line; the later names have to be new to it still.
      let after : Document :=
        { document with root := document.root ++ [(name, value.toToml)] }
      have later : ∀ entry ∈ entries, after.root.lookup entry.1 = none := by
        intro entry member
        have other : entry.1 ≠ name := fun same =>
          new (List.mem_map.mpr ⟨entry, member, same⟩)
        have unknown := fresh entry (List.mem_cons_of_mem _ member)
        simp [after, List.lookup_append, unknown, List.lookup_cons, beq_false_of_ne other]
      let last : Document :=
        { document with root := document.root ++ Table.toToml ((name, value) :: entries) }
      have others : Reads (statements (n + 1) after) (Table.lines entries) last [] := by
        have read := ih (show after.header = [] from top) distinct later n
          (Nat.lt_of_succ_lt_succ enough)
        simpa [after, last, Table.toToml_cons] using read
      exact reads_line (reads_statement top (fresh (name, value) List.mem_cons_self) value _) others

theorem length_le_lines (entries : List (String × StoreValue)) :
    entries.length ≤ (Table.lines entries).length := by
  induction entries with
  | nil => exact Nat.le_refl _
  | cons entry entries ih =>
      obtain ⟨name, value⟩ := entry
      have filled : 1 ≤ (Table.line name value).length := by
        simp [Table.line]
        omega
      rw [Table.lines_cons, List.length_cons, List.length_append]
      omega

theorem read?_render (table : Table) (distinct : (table.entries.map Prod.fst).Nodup) :
    Document.read? table.render = some (Table.toToml table.entries) := by
  have enough := length_le_lines table.entries
  have top : ({} : Document).header = [] := rfl
  have read := reads_statements top table.entries distinct (fun _ _ => rfl)
    (Nat.lt_succ_of_le enough)
  rw [Reads, List.append_nil] at read
  have unmarked : table.render.toList.head? ≠ some (Char.ofNat 0xFEFF) := by
    rw [Table.render_toList]
    cases table.entries with
    | nil => rintro ⟨⟩
    | cons entry entries =>
        intro marked
        cases Table.begins_line entry.1 entry.2 _ _ marked
  unfold Document.read?
  dsimp only
  rw [if_neg unmarked, Table.render_toList, read]
  rfl

end Toml.Document

/-! ## Tables -/

theorem StoreValue.ofToml?_toToml (value : StoreValue) :
    StoreValue.ofToml? value.toToml = some value := by
  cases value with
  | number n =>
      have small : n.toNat < 0x100000000 := n.toNat_lt
      have fits : 0 ≤ (n.toNat : Int) ∧ (n.toNat : Int) < 0x100000000 := by omega
      simp [toToml, ofToml?, fits]
  | text s => rfl

namespace Table

theorem ofToml?_toToml {table : Table} (ascending : table.Ascending) :
    ofToml? (toToml table.entries) = some table := by
  -- The entries are added one by one, each above those that are there.
  have adds (entries : List (String × StoreValue)) (start : Table)
      (ordered : (start.entries ++ entries).Pairwise fun first later => first.1 < later.1) :
      (toToml entries).foldlM addToml? start = some ⟨start.entries ++ entries⟩ := by
    induction entries generalizing start with
    | nil => simp [toToml]
    | cons entry entries ih =>
        have above : ∀ earlier ∈ start.entries, earlier.1 < entry.1 := fun earlier member =>
          (List.pairwise_append.mp ordered).2.2 earlier member entry List.mem_cons_self
        have added : addToml? start (entry.1, entry.2.toToml) =
            some ⟨start.entries ++ [entry]⟩ := by
          simp [addToml?, StoreValue.ofToml?_toToml, Table.insert, insertEntry_last above]
        rw [toToml_cons, List.foldlM_cons, added]
        have rest := ih ⟨start.entries ++ [entry]⟩ (by simpa using ordered)
        simpa using rest
  rw [ofToml?_eq]
  exact adds table.entries {} ascending

/-- A table is read back from the text it is written as. -/
theorem read_render {table : Table} (ascending : table.Ascending) :
    Document.read? table.render >>= ofToml? = some table := by
  rw [Document.read?_render table ascending.distinct]
  exact ofToml?_toToml ascending

end Table

end ModemLink
