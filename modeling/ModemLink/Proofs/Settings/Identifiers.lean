import Mathlib.Data.List.Forall2
import Mathlib.Data.Nat.Digits.Defs
import Mathlib.Data.String.Basic
import ModemLink.Settings.Basic

/-!
# Hexadecimal identifiers

An identifier is a mark and one to four digits. The numeral behind the mark may have a plus sign in
place of its first digit, which is read over. Every other text is refused, with an error that names
it.
-/

namespace ModemLink

/-- A digit of a hexadecimal numeral, and its value. -/
def HexDigit (c : Char) (n : Nat) : Prop :=
  "0123456789abcdef".toList[n]? = some c ∨ "0123456789ABCDEF".toList[n]? = some c

namespace HexDigit

variable {c : Char} {n : Nat}

theorem value_lt (digit : HexDigit c n) : n < 16 := by
  obtain small | capital := digit
  · exact (List.getElem?_eq_some_iff.mp small).1
  · exact (List.getElem?_eq_some_iff.mp capital).1

theorem hexValue?_eq (digit : HexDigit c n) : hexValue? c = some n := by
  have small : ∀ n < 16, "0123456789abcdef".toList[n]?.bind hexValue? = some n := by decide
  have capital : ∀ n < 16, "0123456789ABCDEF".toList[n]?.bind hexValue? = some n := by decide
  have inside := digit.value_lt
  obtain found | found := digit
  · simpa only [found, Option.bind_some] using small n inside
  · simpa only [found, Option.bind_some] using capital n inside

theorem lt_of_hexValue? (read : hexValue? c = some n) : c.toNat < 128 := by
  have below {last : Char} (inside : c ≤ last) : c.toNat ≤ last.toNat := inside
  unfold hexValue? at read
  split_ifs at read with decimal small capital
  · exact Nat.lt_of_le_of_lt (below decimal.2) (by decide)
  · exact Nat.lt_of_le_of_lt (below small.2) (by decide)
  · exact Nat.lt_of_le_of_lt (below capital.2) (by decide)

theorem of_hexValue? (read : hexValue? c = some n) : HexDigit c n := by
  have listed : ∀ k < 128, ∀ n ∈ (hexValue? (Char.ofNat k)),
      "0123456789abcdef".toList[n]? = some (Char.ofNat k) ∨
        "0123456789ABCDEF".toList[n]? = some (Char.ofNat k) := by decide
  have digit := listed c.toNat (lt_of_hexValue? read)
  rw [Char.ofNat_toNat] at digit
  exact digit n read

theorem utf8Size_eq (digit : HexDigit c n) : c.utf8Size = 1 := by
  have ascii : c.toNat ≤ 127 := Nat.le_of_lt_succ (lt_of_hexValue? digit.hexValue?_eq)
  exact Char.utf8Size_eq_one_iff.mpr ascii

theorem ne_plus (digit : HexDigit c n) : c ≠ '+' := by
  rintro rfl
  have unread := digit.hexValue?_eq
  cases unread

end HexDigit

namespace HexId

variable {name id : String} {cs : List Char} {digits : List Nat} {value : UInt16}

/-- Digits spell a value, the most significant one first. -/
def Spells (cs : List Char) (value : UInt16) : Prop :=
  ∃ digits, List.Forall₂ HexDigit cs digits ∧ value.toNat = Nat.ofDigits 16 digits.reverse

/-- The text is a mark and these characters. -/
def Marks (id : String) (cs : List Char) : Prop :=
  id.toList = '0' :: 'x' :: cs ∨ id.toList = '0' :: 'X' :: cs

/-- A mark and one to four digits. -/
def Plain (id : String) (value : UInt16) : Prop :=
  ∃ cs, Marks id cs ∧ 1 ≤ cs.length ∧ cs.length ≤ 4 ∧ Spells cs value

/-- A mark, a plus sign and one to three digits. -/
def Signed (id : String) (value : UInt16) : Prop :=
  ∃ cs, Marks id ('+' :: cs) ∧ 1 ≤ cs.length ∧ cs.length ≤ 3 ∧ Spells cs value

/-! ## Numerals -/

theorem mapM_hexValue? : cs.mapM hexValue? = some digits ↔ List.Forall₂ HexDigit cs digits := by
  induction cs generalizing digits with
  | nil =>
      rw [List.forall₂_nil_left_iff, List.mapM_nil, eq_comm]
      exact Option.some_inj
  | cons c cs ih =>
      rw [List.mapM_cons, List.forall₂_cons_left_iff]
      simp only [Option.bind_eq_bind, Option.bind_eq_some_iff, Option.pure_def, Option.some.injEq]
      constructor
      · rintro ⟨n, read, rest, later, rfl⟩
        exact ⟨n, rest, .of_hexValue? read, ih.mp later, rfl⟩
      · rintro ⟨n, rest, digit, later, rfl⟩
        exact ⟨n, digit.hexValue?_eq, rest, ih.mpr later, rfl⟩

theorem utf8ByteSize_digits (spelled : List.Forall₂ HexDigit cs digits) :
    (String.ofList cs).utf8ByteSize = cs.length := by
  rw [String.utf8ByteSize_ofList]
  induction spelled with
  | nil => rfl
  | cons digit _ ih => rw [String.utf8Len_cons, ih, digit.utf8Size_eq, List.length_cons]

theorem utf8ByteSize_signed (spelled : List.Forall₂ HexDigit cs digits) :
    (String.ofList ('+' :: cs)).utf8ByteSize = cs.length + 1 := by
  have unsigned := utf8ByteSize_digits spelled
  rw [String.utf8ByteSize_ofList] at unsigned ⊢
  rw [String.utf8Len_cons, unsigned]
  rfl

theorem foldl_digits (digits : List Nat) :
    digits.foldl (fun n d => 16 * n + d) 0 = Nat.ofDigits 16 digits.reverse := by
  rw [Nat.ofDigits_eq_foldr, List.foldr_reverse]
  congr
  funext n d
  exact Nat.add_comm _ _

theorem digits_lt (spelled : List.Forall₂ HexDigit cs digits) : ∀ n ∈ digits, n < 16 := by
  induction spelled with
  | nil => nofun
  | cons digit _ ih => exact List.forall_mem_cons.mpr ⟨digit.value_lt, ih⟩

/-- Up to four digits fit a word. -/
theorem ofDigits_lt (spelled : List.Forall₂ HexDigit cs digits) (short : cs.length ≤ 4) :
    Nat.ofDigits 16 digits.reverse < 2 ^ 16 := by
  have small : ∀ n ∈ digits.reverse, n < 16 := fun n member =>
    digits_lt spelled n (List.mem_reverse.mp member)
  calc Nat.ofDigits 16 digits.reverse
    _ < 16 ^ digits.reverse.length := Nat.ofDigits_lt_base_pow_length (by decide) small
    _ ≤ 16 ^ 4 := by
        apply Nat.pow_le_pow_right (by decide)
        rwa [List.length_reverse, ← spelled.length_eq]
    _ = 2 ^ 16 := by decide

theorem length_le_utf8ByteSize (cs : List Char) :
    cs.length ≤ (String.ofList cs).utf8ByteSize := by
  rw [String.utf8ByteSize_ofList]
  induction cs with
  | nil => exact Nat.le_refl _
  | cons c cs ih =>
      rw [List.length_cons, String.utf8Len_cons]
      exact Nat.add_le_add ih c.utf8Size_pos

/-- What is left of a numeral without its sign. -/
def unsigned (cs : List Char) : List Char := if cs.head? = some '+' then cs.tail else cs

theorem length_unsigned_le (cs : List Char) : (unsigned cs).length ≤ cs.length := by
  unfold unsigned
  split
  · simp
  · exact Nat.le_refl _

theorem numeral?_eq_some_iff (short : cs.length ≤ 4) :
    numeral? cs = some value ↔ 1 ≤ (unsigned cs).length ∧ Spells (unsigned cs) value := by
  have fits {digits : List Nat} (spelled : List.Forall₂ HexDigit (unsigned cs) digits) :
      (Nat.ofDigits 16 digits.reverse).toUInt16.toNat = Nat.ofDigits 16 digits.reverse := by
    have small := ofDigits_lt spelled (Nat.le_trans (length_unsigned_le cs) short)
    exact UInt16.toNat_ofNat_of_lt' small
  unfold numeral?
  change (if (unsigned cs).isEmpty then none else do
    let values ← (unsigned cs).mapM hexValue?
    return (values.foldl (fun n d => 16 * n + d) 0).toUInt16) = some value ↔ _
  cases digits : unsigned cs with
  | nil => simp
  | cons c rest =>
      rw [← digits]
      simp only [digits, List.isEmpty_cons, Bool.false_eq_true, if_false, Option.bind_eq_bind,
        Option.bind_eq_some_iff, Option.pure_def, Option.some.injEq, foldl_digits, mapM_hexValue?]
      rw [← digits]
      constructor
      · rintro ⟨values, spelled, rfl⟩
        exact ⟨by simp [digits], values, spelled, fits spelled⟩
      · rintro ⟨-, values, spelled, same⟩
        exact ⟨values, spelled, UInt16.toNat_inj.mp ((fits spelled).trans same.symm)⟩

/-! ## Identifiers -/

theorem parse_marked (marks : Marks id cs) :
    parse name id = if cs.isEmpty || 4 < (String.ofList cs).utf8ByteSize then
        .error (.hexLength name id)
      else match numeral? cs with
        | some value => .ok value
        | none => .error (.notHex name id) := by
  unfold parse
  obtain small | capital := marks
  · rw [small]
    rfl
  · rw [capital]
    rfl

theorem parse_unmarked (unmarked : ∀ cs, ¬Marks id cs) :
    parse name id = .error (.noHexMark name id) := by
  unfold parse
  split
  · rename_i small
    exact absurd (.inl small) (unmarked _)
  · rename_i capital
    exact absurd (.inr capital) (unmarked _)
  · rfl

theorem parse_eq_ok_iff : parse name id = .ok value ↔
    ∃ cs, Marks id cs ∧ (String.ofList cs).utf8ByteSize ≤ 4 ∧
      1 ≤ (unsigned cs).length ∧ Spells (unsigned cs) value := by
  have numeral (cs : List Char) (short : (String.ofList cs).utf8ByteSize ≤ 4) :
      numeral? cs = some value ↔ 1 ≤ (unsigned cs).length ∧ Spells (unsigned cs) value :=
    numeral?_eq_some_iff (Nat.le_trans (length_le_utf8ByteSize cs) short)
  constructor
  · intro read
    by_cases marked : ∃ cs, Marks id cs
    · obtain ⟨cs, marks⟩ := marked
      rw [parse_marked marks] at read
      split at read
      · cases read
      · rename_i fits
        have short : (String.ofList cs).utf8ByteSize ≤ 4 := by simp_all
        split at read <;> cases read
        rename_i found
        exact ⟨cs, marks, short, (numeral cs short).mp found⟩
    · rw [parse_unmarked (not_exists.mp marked)] at read
      cases read
  · rintro ⟨cs, marks, short, spelled⟩
    have nonempty : cs.isEmpty = false := by
      cases cs with
      | nil => cases spelled.1
      | cons c cs => rfl
    rw [parse_marked marks, nonempty, (numeral cs short).mpr spelled]
    simp [short]

theorem unsigned_digits (spelled : List.Forall₂ HexDigit cs digits) : unsigned cs = cs := by
  unfold unsigned
  cases spelled with
  | nil => rfl
  | cons digit _ => simp [digit.ne_plus]

theorem spelled_iff : (∃ cs, Marks id cs ∧ (String.ofList cs).utf8ByteSize ≤ 4 ∧
      1 ≤ (unsigned cs).length ∧ Spells (unsigned cs) value) ↔
    Plain id value ∨ Signed id value := by
  constructor
  · rintro ⟨cs, marks, short, nonempty, digits, spelled, same⟩
    by_cases signed : cs.head? = some '+'
    · obtain ⟨rest, rfl⟩ := List.head?_eq_some_iff.mp signed
      have spelled : List.Forall₂ HexDigit rest digits := spelled
      rw [utf8ByteSize_signed spelled] at short
      exact .inr ⟨rest, marks, nonempty, Nat.le_of_succ_le_succ short, digits, spelled, same⟩
    · have plain : unsigned cs = cs := if_neg signed
      rw [plain] at nonempty spelled
      rw [utf8ByteSize_digits spelled] at short
      exact .inl ⟨cs, marks, nonempty, short, digits, spelled, same⟩
  · rintro (⟨cs, marks, nonempty, short, digits, spelled, same⟩ |
      ⟨cs, marks, nonempty, short, digits, spelled, same⟩)
    · have plain : unsigned cs = cs := unsigned_digits spelled
      rw [← utf8ByteSize_digits spelled] at short
      exact ⟨cs, marks, short, by rwa [plain], digits, by rwa [plain], same⟩
    · refine ⟨'+' :: cs, marks, ?_, nonempty, digits, spelled, same⟩
      rw [utf8ByteSize_signed spelled]
      exact Nat.succ_le_succ short

/-- A refusal names the text and what it was given for. -/
theorem names_of_parse {e : SettingsError} (refused : parse name id = .error e) :
    e ∈ [SettingsError.noHexMark name id, .hexLength name id, .notHex name id] := by
  by_cases marked : ∃ cs, Marks id cs
  · obtain ⟨cs, marks⟩ := marked
    rw [parse_marked marks] at refused
    split at refused
    · cases refused
      simp
    · split at refused
      · cases refused
      · cases refused
        simp
  · rw [parse_unmarked (not_exists.mp marked)] at refused
    cases refused
    simp

/-- An identifier is read as the number that its digits spell, and every other text is refused by
name. A plus sign may take the place of the first digit. -/
theorem reads_marked_numerals (name id : String) :
    (∀ value, parse name id = .ok value ↔ Plain id value ∨ Signed id value) ∧
      ((∃ value, Plain id value ∨ Signed id value) ∨
        ∃ e ∈ [SettingsError.noHexMark name id, .hexLength name id, .notHex name id],
          parse name id = .error e) := by
  have reads (value : UInt16) : parse name id = .ok value ↔ Plain id value ∨ Signed id value :=
    parse_eq_ok_iff.trans spelled_iff
  refine ⟨reads, ?_⟩
  cases outcome : parse name id with
  | ok value => exact .inl ⟨value, (reads value).mp outcome⟩
  | error e => exact .inr ⟨e, names_of_parse outcome, rfl⟩

/-- The sign is no digit, but the text is read. -/
theorem sign_is_read_over :
    parse "vendor_id" "0x+1" = .ok 1 ∧ ∀ value, ¬Plain "0x+1" value := by
  refine ⟨by decide +kernel, ?_⟩
  rintro value ⟨cs, marks, -, -, digits, spelled, -⟩
  obtain rfl : ['+', '1'] = cs := by simpa [Marks] using marks
  cases spelled with
  | cons digit _ => exact digit.ne_plus rfl

end HexId

end ModemLink
