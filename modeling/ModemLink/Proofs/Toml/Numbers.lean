import Mathlib.Data.List.Basic
import ModemLink.Proofs.Toml.Strings

/-!
# Reading a number that was written

A number that ends its line is read as what its decimal digits say. It is tried for a date or a time
first, which it does not look like.
-/

namespace ModemLink.Toml.Reader

/-! ## Runs of digits -/

section Digits

variable {ds : List Char} (all : ∀ d ∈ ds, d.isDigit = true)

include all

theorem begins_digits (rest : List Char) :
    Begins (fun c => c.isDigit || c == '\n') (ds ++ '\n' :: rest) := by
  cases ds with
  | nil => exact begins_cons rfl
  | cons d ds => exact begins_cons (by simp [all d List.mem_cons_self])

theorem run_exactly (n : Nat) (rest : List Char) :
    (exactly n Char.isDigit).run (ds ++ '\n' :: rest) =
      if n ≤ ds.length then some (ds.take n, ds.drop n ++ '\n' :: rest) else none := by
  induction n generalizing ds with
  | zero => rfl
  | succ n ih =>
      have step (cs : List Char) : (exactly (n + 1) Char.isDigit).run cs =
          ((one Char.isDigit).run cs).bind fun first =>
            ((exactly n Char.isDigit).run first.2).bind fun others =>
              some (first.1 :: others.1, others.2) := by
        simp only [exactly, List.replicate_succ, List.mapM_cons, StateT.run_bind]
        rfl
      rw [step]
      cases ds with
      | nil => rfl
      | cons d ds =>
          have first : (one Char.isDigit).run (d :: ds ++ '\n' :: rest) =
              some (d, ds ++ '\n' :: rest) := if_pos (all d List.mem_cons_self)
          rw [first, Option.bind_some, ih fun e member => all e (List.mem_cons_of_mem d member)]
          by_cases enough : n ≤ ds.length <;> simp [enough]

/-- Behind a field of digits there are more digits, or the line ends. -/
theorem begins_field (width low high : Nat) (rest : List Char) :
    ∀ read ∈ (field width low high).run (ds ++ '\n' :: rest),
      Begins (fun c => c.isDigit || c == '\n') read.2 := by
  have behind : Begins (fun c => c.isDigit || c == '\n') (ds.drop width ++ '\n' :: rest) :=
    begins_digits (fun d member => all d (List.mem_of_mem_drop member)) rest
  intro read ran
  unfold field at ran
  rw [StateT.run_bind, run_exactly all] at ran
  split at ran
  · change read ∈ StateT.run (if _ then _ else _) _ at ran
    split at ran
    · cases ran
      exact behind
    · cases ran
  · cases ran

theorem reads_digitsRest (rest : List Char) :
    Reads (digitsRest Char.isDigit) ds ds ('\n' :: rest) := by
  induction ds with
  | nil => rfl
  | cons d ds ih =>
      have digit := all d List.mem_cons_self
      have notLow : d ≠ '_' := by
        rintro rfl
        cases digit
      have others := ih fun e member => all e (List.mem_cons_of_mem d member)
      unfold Reads StateT.run at *
      simp [digitsRest, notLow, digit, others, basicRest.add]

end Digits

/-! ## Dates and times -/

theorem run_unmarked {α β : Type} {act : Reader α} {next : α → Reader β} {cs : List Char}
    {p : Char → Bool} (begins : ∀ read ∈ act.run cs, Begins p read.2) {text : String} {mark : Char}
    {marks : List Char} (spelled : text.toList = mark :: marks) (fails : p mark = false) :
    (act >>= fun a => expect text >>= fun _ => next a).run cs = none := by
  rw [StateT.run_bind]
  cases ran : act.run cs with
  | none => rfl
  | some read =>
      have unlike : Begins (· != mark) read.2 := (begins read ran).unlike fails
      change (expect text >>= fun _ => next read.1).run read.2 = none
      rw [StateT.run_bind, run_expect_unlike spelled unlike]
      rfl

/-- A number that ends its line is not the start of a date or a time. -/
theorem run_moment {ds : List Char} (all : ∀ d ∈ ds, d.isDigit = true) (rest : List Char) :
    moment.run (ds ++ '\n' :: rest) = none := by
  have dated : date.run (ds ++ '\n' :: rest) = none :=
    run_unmarked (begins_field all 4 0 9999 rest) rfl rfl
  have hour : ∀ read ∈ (discard (field 2 0 23)).run (ds ++ '\n' :: rest),
      Begins (fun c => c.isDigit || c == '\n') read.2 := by
    intro read ran
    obtain ⟨before, ended, same⟩ := Option.bind_eq_some_iff.mp ran
    cases same
    exact begins_field all 2 0 23 rest before ended
  have timed : time.run (ds ++ '\n' :: rest) = none := run_unmarked hour rfl rfl
  unfold moment
  rw [StateT.run_bind, run_orElse, StateT.run_bind, dated, timed]
  rfl

/-! ## Decimal digits -/

theorem isDigit_of_mem {n : Nat} {d : Char} (member : d ∈ Nat.toDigits 10 n) :
    d.isDigit = true :=
  Nat.isDigit_of_mem_toDigits (by decide) (by decide) member

theorem numberOf_toDigits (n : Nat) : numberOf 10 (Nat.toDigits 10 n) = n := by
  have digits (m : Nat) (d : Char) (member : d ∈ Nat.toDigits 10 n) :
      10 * m + (hexValue? d).getD 0 = 10 * m + (d.toNat - '0'.toNat) := by
    have bounds : '0' ≤ d ∧ d ≤ '9' := by
      simpa [Char.isDigit, Char.le_def] using isDigit_of_mem member
    simp [hexValue?, bounds]
  calc numberOf 10 (Nat.toDigits 10 n)
      = Nat.ofDigitChars 10 (Nat.toDigits 10 n) 0 := by
        rw [Nat.ofDigitChars_eq_foldl]
        exact List.foldl_ext _ _ _ digits
    _ = n := Nat.ofDigitChars_ten_toDigits

theorem begins_toDigits (n : Nat) (rest : List Char) :
    Begins Char.isDigit (Nat.toDigits 10 n ++ rest) :=
  begins_of_all Nat.toDigits_ne_nil (fun _ => isDigit_of_mem) rest

/-- No zero leads the digits of a number other than 0. -/
theorem begins_toDigits_positive {n : Nat} (positive : n ≠ 0) (rest : List Char) :
    Begins (· != '0') (Nat.toDigits 10 n ++ rest) := by
  induction n using Nat.strongRecOn generalizing rest with
  | ind n ih =>
      by_cases small : n < 10
      · have digit : ∀ m < 10, m ≠ 0 → (m.digitChar != '0') = true := by decide
        rw [Nat.toDigits_of_lt_base small]
        exact begins_cons (digit n small positive)
      · -- All digits but the last are those of a number that is positive as well.
        have large : 10 ≤ n := Nat.le_of_not_lt small
        rw [Nat.toDigits_of_base_le (by decide) large, List.append_assoc]
        exact ih (n / 10) (Nat.div_lt_self (by omega) (by decide)) (by omega) _

/-! ## Numbers -/

variable (n : Nat) (rest : List Char)

theorem reads_decimal :
    Reads decimal (Nat.toDigits 10 n) (Nat.toDigits 10 n) ('\n' :: rest) := by
  by_cases zero : n = 0
  · subst zero
    exact (reads_accept "0" _).finish (reads_pure _ _)
  · refine (reads_accept_unlike rfl (begins_toDigits_positive zero _)).glance ?_
    have all : ∀ d ∈ Nat.toDigits 10 n, d.isDigit = true := fun d => isDigit_of_mem
    cases spelled : Nat.toDigits 10 n with
    | nil => exact absurd spelled Nat.toDigits_ne_nil
    | cons d ds =>
        rw [spelled] at all
        have first : Reads (one Char.isDigit) [d] d (ds ++ '\n' :: rest) :=
          if_pos (all d List.mem_cons_self)
        have others := reads_digitsRest (fun e member => all e (List.mem_cons_of_mem d member)) rest
        exact first.seq (others.finish (reads_pure _ _))

section Refused

variable {text : String} {mark : Char}

theorem reads_noBase (spelled : text.toList = ['0', mark])
    (other : (mark.isDigit || mark == '\n') = false) :
    Reads (accept text) [] false (Nat.toDigits 10 n ++ '\n' :: rest) := by
  refine reads_accept_other ?_
  have all : ∀ d ∈ Nat.toDigits 10 n, d.isDigit = true := fun d => isDigit_of_mem
  cases digits : Nat.toDigits 10 n with
  | nil => exact absurd digits Nat.toDigits_ne_nil
  | cons d ds =>
      rw [digits] at all
      have behind := begins_digits (fun e member => all e (List.mem_cons_of_mem d member)) rest
      rw [spelled, List.cons_append, List.isPrefixOf_cons_cons,
        not_isPrefixOf (behind.unlike other), Bool.and_false]

theorem reads_noWord {marks : List Char} (spelled : text.toList = mark :: marks)
    (other : mark.isDigit = false) :
    Reads (accept text) [] false (Nat.toDigits 10 n ++ '\n' :: rest) :=
  reads_accept_unlike spelled ((begins_toDigits n _).unlike other)

end Refused

theorem reads_sign : Reads sign [] false (Nat.toDigits 10 n ++ '\n' :: rest) :=
  (reads_noWord n rest rfl rfl).finish
    ((reads_noWord n rest rfl rfl).discard.finish (reads_pure _ _))

variable {n}

theorem reads_bounded (small : n < 0x100000000) (cs : List Char) :
    Reads (bounded n) [] (.integer n) cs := by
  have fits : -0x8000000000000000 ≤ (n : Int) ∧ (n : Int) < 0x8000000000000000 := by omega
  unfold bounded
  rw [if_pos fits]
  exact reads_pure _ _

theorem reads_number (small : n < 0x100000000) :
    Reads number (Nat.toDigits 10 n) (.integer n) ('\n' :: rest) := by
  refine (reads_noBase n rest rfl rfl).glance ((reads_noBase n rest rfl rfl).glance
    ((reads_noBase n rest rfl rfl).glance ?_))
  refine (reads_sign n rest).glance ((reads_noWord n rest rfl rfl).glance
    ((reads_noWord n rest rfl rfl).glance ?_))
  refine (reads_decimal n rest).finish ((reads_peek? _).finish ?_)
  simp only [Bool.false_eq_true, if_false, numberOf_toDigits]
  have ended : ('\n' :: rest).head? ≠ some '.' ∧ ('\n' :: rest).head? ≠ some 'e' ∧
      ('\n' :: rest).head? ≠ some 'E' := by simp
  split
  · exact absurd ‹_› ended.1
  · exact absurd ‹_› ended.2.1
  · exact absurd ‹_› ended.2.2
  · exact reads_bounded small _

theorem reads_integer (small : n < 0x100000000) :
    Reads scalar (Nat.toDigits 10 n) (.integer n) ('\n' :: rest) := by
  have begins := begins_toDigits n ('\n' :: rest)
  refine (reads_peek? _).glance ?_
  split
  · cases begins _ ‹_›
  · cases begins _ ‹_›
  · cases begins _ ‹_›
  · cases begins _ ‹_›
  · exact (reads_number rest small).otherwise (run_moment (fun d => isDigit_of_mem) rest)

end ModemLink.Toml.Reader
