import Mathlib.Data.List.TakeDrop
import Mathlib.Tactic.SplitIfs
import ModemLink.Toml.Reader

/-!
# Reading a string that was written

`Reads act text a rest`: with `rest` behind it, `text` is what `act` consumes to return `a`. A
string is read back from any of the forms in which it may be written.
-/

namespace ModemLink.Toml

/-- The first character passes the test, if there is one. -/
def Begins (p : Char → Bool) (cs : List Char) : Prop := ∀ c ∈ cs.head?, p c = true

theorem begins_nil {p : Char → Bool} : Begins p [] := by
  rintro _ ⟨⟩

theorem begins_cons {p : Char → Bool} {c : Char} {cs : List Char} (passes : p c = true) :
    Begins p (c :: cs) := by
  rintro _ ⟨⟩
  exact passes

theorem begins_of_all {p : Char → Bool} {text : List Char} (filled : text ≠ [])
    (all : ∀ c ∈ text, p c = true) (rest : List Char) : Begins p (text ++ rest) := by
  obtain ⟨c, cs, rfl⟩ := List.exists_cons_of_ne_nil filled
  exact begins_cons (all c List.mem_cons_self)

theorem Begins.imp {p q : Char → Bool} {cs : List Char} (begins : Begins p cs)
    (implies : ∀ c, p c = true → q c = true) : Begins q cs :=
  fun c first => implies c (begins c first)

/-- A character that fails the test does not come first. -/
theorem Begins.unlike {p : Char → Bool} {mark : Char} {cs : List Char} (begins : Begins p cs)
    (fails : p mark = false) : Begins (· != mark) cs := by
  refine begins.imp fun c passes => bne_iff_ne.mpr ?_
  rintro rfl
  rw [fails] at passes
  cases passes

theorem not_isPrefixOf {mark : Char} {marks cs : List Char} (begins : Begins (· != mark) cs) :
    (mark :: marks).isPrefixOf cs = false := by
  cases cs with
  | nil => rfl
  | cons c cs =>
      have differs : c ≠ mark := by simpa using begins c rfl
      simp [List.isPrefixOf, differs.symm]

namespace Reader

variable {α β : Type}

def Reads (act : Reader α) (text : List Char) (a : α) (rest : List Char) : Prop :=
  act.run (text ++ rest) = some (a, rest)

section Combinators

variable {act first second : Reader α} {next : α → Reader β} {a : α} {b : β}
  {text more rest : List Char}

theorem reads_pure (a : α) (rest : List Char) : Reads (pure a) [] a rest := rfl

theorem reads_get (rest : List Char) : Reads get [] rest rest := rfl

theorem Reads.seq (reads : Reads act text a (more ++ rest)) (later : Reads (next a) more b rest) :
    Reads (act >>= next) (text ++ more) b rest := by
  unfold Reads at *
  rw [StateT.run_bind, List.append_assoc, reads]
  exact later

/-- The first action consumes nothing. -/
theorem Reads.glance (reads : Reads act [] a (more ++ rest)) (later : Reads (next a) more b rest) :
    Reads (act >>= next) more b rest :=
  reads.seq later

/-- The last action consumes nothing. -/
theorem Reads.finish (reads : Reads act text a rest) (later : Reads (next a) [] b rest) :
    Reads (act >>= next) text b rest := by
  rw [← List.append_nil text]
  exact Reads.seq reads later

theorem Reads.map (reads : Reads act text a rest) (f : α → β) :
    Reads (f <$> act) text (f a) rest := by
  rw [← bind_pure_comp]
  exact reads.finish (reads_pure _ _)

theorem Reads.discard (reads : Reads act text a rest) : Reads (discard act) text ⟨⟩ rest :=
  reads.map _

theorem run_orElse (cs : List Char) :
    (first <|> second).run cs = (first.run cs).or (second.run cs) := by
  change (first.run cs <|> second.run cs) = _
  simp

theorem Reads.orElse (reads : Reads first text a rest) : Reads (first <|> second) text a rest := by
  unfold Reads at *
  rw [run_orElse, reads, Option.some_or]

theorem Reads.otherwise (reads : Reads second text a rest)
    (fails : first.run (text ++ rest) = none) : Reads (first <|> second) text a rest := by
  unfold Reads at *
  rw [run_orElse, fails, reads, Option.none_or]

end Combinators

/-! ## Characters -/

theorem reads_peek? (cs : List Char) : Reads peek? [] cs.head? cs := rfl

theorem reads_expect (text : String) (rest : List Char) :
    Reads (expect text) text.toList () rest := by
  simp [Reads, StateT.run, expect, ← String.length_toList]

theorem reads_accept (text : String) (rest : List Char) :
    Reads (accept text) text.toList true rest := by
  simp [Reads, StateT.run, accept, ← String.length_toList]

section Other

variable {text : String} {rest : List Char}

theorem reads_accept_other (differs : text.toList.isPrefixOf rest = false) :
    Reads (accept text) [] false rest := by
  simp [Reads, StateT.run, accept, differs]

theorem run_expect_other (differs : text.toList.isPrefixOf rest = false) :
    (expect text).run rest = none := by
  simp [StateT.run, expect, differs]

variable {mark : Char} {marks : List Char} (spelled : text.toList = mark :: marks)
  (begins : Begins (· != mark) rest)

include spelled begins

theorem reads_accept_unlike : Reads (accept text) [] false rest :=
  reads_accept_other (by rw [spelled, not_isPrefixOf begins])

theorem run_expect_unlike : (expect text).run rest = none :=
  run_expect_other (by rw [spelled, not_isPrefixOf begins])

end Other

theorem reads_takeWhile {p : Char → Bool} {text rest : List Char} (all : ∀ c ∈ text, p c = true)
    (stops : Begins (fun c => !p c) rest) : Reads (takeWhile p) text text rest := by
  have behind : rest.takeWhile p = [] ∧ rest.dropWhile p = rest := by
    cases rest with
    | nil => simp
    | cons c rest =>
        have differs : p c = false := by simpa using stops c rfl
        simp [differs]
  change some (List.span p (text ++ rest)) = _
  rw [List.span_eq_takeWhile_dropWhile, List.takeWhile_append_of_pos all,
    List.dropWhile_append_of_pos all, behind.1, behind.2, List.append_nil]

/-! ## Escapes -/

theorem codePoint?_octet : ∀ n < 128,
    codePoint? ['0', '0', Text.hexDigit true (n / 16), Text.hexDigit true (n % 16)] =
      some (Char.ofNat n) := by
  decide +kernel

/-- How a character may be written between basic quotes. -/
inductive Spells (c : Char) : List Char → Prop
  | plain (shown : isControl c = false) (notMark : c ≠ '"') (notSlash : c ≠ '\\') : Spells c [c]
  | short (e : Char) (stands : escaped? e = some c) : Spells c ['\\', e]
  | code (high low : Char) (stands : codePoint? ['0', '0', high, low] = some c) :
      Spells c ['\\', 'u', '0', '0', high, low]

theorem spells_escapeChar (c : Char) : Spells c (escapeChar c) := by
  unfold escapeChar
  split_ifs with backspace tab line page carriage mark slash control
  · exact .short 'b' (congrArg some backspace.symm)
  · exact .short 't' (congrArg some tab.symm)
  · exact .short 'n' (congrArg some line.symm)
  · exact .short 'f' (congrArg some page.symm)
  · exact .short 'r' (congrArg some carriage.symm)
  · exact .short '"' (congrArg some mark.symm)
  · exact .short '\\' (congrArg some slash.symm)
  · have small : c.toNat < 128 := by
      simp [isControl] at control
      omega
    refine .code _ _ ?_
    rw [codePoint?_octet _ small, Char.ofNat_toNat]
  · exact .plain (by simpa using control) mark slash

variable {c : Char} {text cs rest : List Char}

theorem notLine_of_shown (shown : isControl c = false) : c ≠ '\n' ∧ c ≠ '\r' := by
  constructor <;>
    · rintro rfl
      cases shown

theorem Spells.begins (spells : Spells c text) (rest : List Char) :
    Begins (fun d => d != '"' && d != '\n' && d != '\r') (text ++ rest) := by
  cases spells with
  | short e => exact begins_cons rfl
  | code high low => exact begins_cons rfl
  | plain shown notMark =>
      refine begins_cons ?_
      simp [notMark, notLine_of_shown shown]

theorem basicRest_spells (spells : Spells c text) (rest : List Char) :
    basicRest (text ++ rest) = basicRest.add (some c) (basicRest rest) := by
  cases spells with
  | plain shown notMark notSlash =>
      simp [basicRest, isCommentChar, shown, notSlash]
  | short e stands =>
      unfold escaped? at stands
      split at stands <;> cases stands <;> rfl
  | code high low stands =>
      rw [← stands]
      rfl

theorem multilineRest_spells (spells : Spells c text) (rest : List Char) :
    multilineRest .none (text ++ rest) = basicRest.add (some c) (multilineRest .none rest) := by
  cases spells with
  | plain shown notMark notSlash =>
      simp [multilineRest, isCommentChar, shown, notMark, notSlash, notLine_of_shown shown]
  | short e stands =>
      unfold escaped? at stands
      split at stands <;> cases stands <;> rfl
  | code high low stands =>
      rw [← stands]
      rfl

/-- The characters of a basic string. -/
theorem reads_basicRest (cs rest : List Char) :
    Reads basicRest (cs.flatMap escapeChar ++ ['"']) cs rest := by
  induction cs with
  | nil => rfl
  | cons c cs ih =>
      unfold Reads StateT.run at *
      rw [List.append_assoc] at ih
      rw [List.flatMap_cons, List.append_assoc, List.append_assoc,
        basicRest_spells (spells_escapeChar c), ih]
      rfl

/-! ## Blocks -/

/-- The rest of a block ends at three quotes, before which up to two more may stand. -/
structure Ends (act : Reader (List Char)) (mark : Char) : Prop where
  /-- A quote that two more do not follow. -/
  lone {rest : List Char} (lone : [mark, mark].isPrefixOf rest = false) :
    act (mark :: rest) = basicRest.add (some mark) (act rest)
  close {run : Nat} {rest : List Char} (few : run ≤ 2) (stops : Begins (· != mark) rest) :
    act (List.replicate run mark ++ mark :: mark :: mark :: rest) =
      some (List.replicate run mark, rest)

/-- Up to two quotes before some other character. -/
theorem Ends.marks {act : Reader (List Char)} {mark : Char} (ends : Ends act mark) {run : Nat}
    (few : run ≤ 2) (begins : Begins (· != mark) text) (read : act text = some (cs, rest)) :
    act (List.replicate run mark ++ text) = some (List.replicate run mark ++ cs, rest) := by
  have one : act (mark :: text) = some (mark :: cs, rest) := by
    rw [ends.lone (not_isPrefixOf begins), read]
    rfl
  match run with
  | 0 => exact read
  | 1 => exact one
  | 2 =>
      change act (mark :: mark :: text) = _
      rw [ends.lone (by simpa using not_isPrefixOf begins), one]
      rfl

theorem ends_multilineRest : Ends (multilineRest .none) '"' where
  lone := by
    intro rest lone
    have apart (others : List Char) : rest ≠ '"' :: '"' :: others := by
      rintro rfl
      cases lone
    simp [multilineRest, apart, isCommentChar, isControl]
  close := by
    intro run rest few stops
    match run with
    | 0 | 1 =>
        cases rest with
        | nil => rfl
        | cons c rest =>
            have differs : c ≠ '"' := by simpa using stops c rfl
            simp [multilineRest, differs]
    | 2 => rfl

theorem ends_multilineLiteralRest : Ends multilineLiteralRest '\'' where
  lone := by
    intro rest lone
    have apart (others : List Char) : rest ≠ '\'' :: '\'' :: others := by
      rintro rfl
      cases lone
    simp [multilineLiteralRest, apart, isCommentChar, isControl]
  close := by
    intro run rest few stops
    match run with
    | 0 | 1 =>
        cases rest with
        | nil => rfl
        | cons c rest =>
            have differs : c ≠ '\'' := by simpa using stops c rfl
            simp [multilineLiteralRest, differs]
    | 2 => rfl

theorem multilineRest_escapeBlock (stops : Begins (· != '"') rest) {run : Nat} (few : run ≤ 2)
    (cs : List Char) :
    multilineRest .none
        (List.replicate run '"' ++ (escapeBlock run cs ++ '"' :: '"' :: '"' :: rest)) =
      some (List.replicate run '"' ++ cs, rest) := by
  -- By induction on what is left to write. Quotes that go unescaped are held back in `run`, since
  -- only what follows them tells that they do not close the block.
  induction cs generalizing run with
  | nil => simpa [escapeBlock] using ends_multilineRest.close few stops
  | cons c cs ih =>
      have afresh := ih (Nat.zero_le 2)
      rw [List.replicate_zero, List.nil_append, List.nil_append] at afresh
      by_cases line : c = '\n'
      · subst line
        refine ends_multilineRest.marks few (begins_cons rfl) ?_
        rw [escapeBlock]
        exact congrArg (basicRest.add (some '\n')) afresh
      by_cases mark : c = '"'
      · subst mark
        rw [escapeBlock]
        split
        · rename_i fewer
          have longer := ih (Nat.succ_le_of_lt fewer)
          rw [List.replicate_succ', List.append_assoc, List.append_assoc] at longer
          exact longer
        · refine ends_multilineRest.marks few (begins_cons rfl) ?_
          have escaped := multilineRest_spells (.short '"' rfl)
            (escapeBlock 0 cs ++ '"' :: '"' :: '"' :: rest)
          rw [afresh] at escaped
          exact escaped
      · have written : escapeBlock run (c :: cs) = escapeChar c ++ escapeBlock 0 cs := by
          rw [escapeBlock] <;> assumption
        rw [written, List.append_assoc]
        refine ends_multilineRest.marks few ?_ ?_
        · exact ((spells_escapeChar c).begins _).unlike rfl
        · rw [multilineRest_spells (spells_escapeChar c), afresh]
          rfl

theorem multilineLiteralRest_plain (shown : isCommentChar c = true ∨ c = '\n')
    (notMark : c ≠ '\'') (rest : List Char) :
    multilineLiteralRest (c :: rest) =
      basicRest.add (some c) (multilineLiteralRest rest) := by
  by_cases line : c = '\n'
  · subst line
    rfl
  · have notCarriage : c ≠ '\r' := by
      rintro rfl
      obtain shown | shown := shown <;> cases shown
    have plain : isCommentChar c = true := shown.resolve_right line
    simp [multilineLiteralRest, plain, notMark, notCarriage]

/-- How long the current run of the mark is, and how long the longest so far. -/
def countRun (mark : Char) : Nat × Nat → Char → Nat × Nat := fun (run, longest) c =>
  let run := if c = mark then run + 1 else 0
  (run, max longest run)

theorem longest_le (mark : Char) (cs : List Char) (counted : Nat × Nat) :
    counted.2 ≤ (cs.foldl (countRun mark) counted).2 := by
  induction cs generalizing counted with
  | nil => exact Nat.le_refl _
  | cons c cs ih =>
      exact Nat.le_trans (Nat.le_max_left counted.2 _) (ih (countRun mark counted c))

theorem multilineLiteralRest_shown (stops : Begins (· != '\'') rest) {run longest : Nat}
    (few : run ≤ 2) {cs : List Char} (shown : ∀ c ∈ cs, isCommentChar c = true ∨ c = '\n')
    (short : (cs.foldl (countRun '\'') (run, longest)).2 ≤ 2) :
    multilineLiteralRest
        (List.replicate run '\'' ++ (cs ++ '\'' :: '\'' :: '\'' :: rest)) =
      some (List.replicate run '\'' ++ cs, rest) := by
  induction cs generalizing run longest with
  | nil => simpa using ends_multilineLiteralRest.close few stops
  | cons c cs ih =>
      have others : ∀ c ∈ cs, isCommentChar c = true ∨ c = '\n' :=
        fun d member => shown d (List.mem_cons_of_mem c member)
      rw [List.foldl_cons] at short
      have reached := Nat.le_trans (longest_le '\'' cs _) short
      by_cases mark : c = '\''
      · subst mark
        have fewer : run + 1 ≤ 2 := by
          simp [countRun] at reached
          omega
        have longer := ih fewer others short
        rw [List.replicate_succ', List.append_assoc, List.append_assoc] at longer
        exact longer
      · have counted : (cs.foldl (countRun '\'') (0, max longest 0)).2 ≤ 2 := by
          simpa [countRun, mark] using short
        have afresh := ih (Nat.zero_le 2) others counted
        rw [List.replicate_zero, List.nil_append, List.nil_append] at afresh
        refine ends_multilineLiteralRest.marks few (begins_cons (by simpa using mark)) ?_
        rw [List.cons_append, multilineLiteralRest_plain (shown c List.mem_cons_self) mark, afresh]
        rfl

/-! ## Strings -/

/-- The line break that may follow the opening quotes of a block. -/
theorem reads_opening {line : Bool}
    (begins : line = false → Begins (fun c => c != '\n' && c != '\r') rest) :
    Reads (newline <|> pure ()) (if line then ['\n'] else []) () rest := by
  cases line with
  | true => exact Reads.orElse (Reads.orElse (reads_expect "\n" rest))
  | false =>
      refine Reads.otherwise (reads_pure () rest) ?_
      have notLine : Begins (· != '\n') rest := (begins rfl).unlike rfl
      have notCarriage : Begins (· != '\r') rest := (begins rfl).unlike rfl
      change newline.run rest = none
      rw [newline, run_orElse, run_expect_unlike rfl notLine, run_expect_unlike rfl notCarriage]
      rfl

theorem reads_literalString (shown : ∀ c ∈ cs, isCommentChar c = true ∧ c ≠ '\'')
    (rest : List Char) :
    Reads literalString (quote .literal cs) (String.ofList cs) rest := by
  have inside : Reads (takeWhile fun c => isCommentChar c && c != '\'') cs cs
      ("'".toList ++ rest) := by
    refine reads_takeWhile (fun c member => ?_) (begins_cons rfl)
    simpa using shown c member
  exact (reads_expect "'" _).seq (inside.seq ((reads_expect "'" _).finish (reads_pure _ _)))

theorem reads_basicString (cs rest : List Char) :
    Reads basicString (quote .basic cs) (String.ofList cs) rest :=
  (reads_expect "\"" _).seq ((reads_basicRest cs rest).finish (reads_pure _ _))

/-- What a form takes has no control characters that it could not show. -/
theorem shown_of_takes {quotes : Quotes} (takes : quotes.takes cs = true) :
    ∀ c ∈ cs, isCommentChar c = true ∨ c = '\n' := by
  intro c member
  simp only [Quotes.takes, Bool.and_eq_true, Bool.not_eq_true', List.any_eq_false] at takes
  have shown := takes.1.1.1 c member
  simp only [isCommentChar]
  grind

theorem runs_of_takes {quotes : Quotes} (takes : quotes.takes cs = true)
    (literal : quotes.isLiteral = true) :
    longestRun '\'' cs ≤ if quotes.isBlock then 2 else 0 := by
  simp only [Quotes.takes, Bool.and_eq_true, literal, if_true] at takes
  simpa using takes.2

theorem noLine_of_takes {quotes : Quotes} (takes : quotes.takes cs = true)
    (oneLine : quotes.isBlock = false) : '\n' ∉ cs := by
  simp only [Quotes.takes, Bool.and_eq_true, oneLine, Bool.false_or] at takes
  simpa using takes.1.2

theorem run_le_of_mem {mark : Char} (counted : Nat × Nat) (member : mark ∈ cs) :
    1 ≤ (cs.foldl (countRun mark) counted).2 := by
  induction cs generalizing counted with
  | nil => cases member
  | cons c cs ih =>
      rw [List.foldl_cons]
      by_cases here : c = mark
      · subst here
        have grown : (countRun c counted c).2 = max counted.2 (counted.1 + 1) := by simp [countRun]
        have one : 1 ≤ (countRun c counted c).2 := by omega
        exact Nat.le_trans one (longest_le c cs _)
      · exact ih _ (List.mem_of_ne_of_mem (Ne.symm here) member)

theorem begins_escapeBlock (noLine : '\n' ∉ cs) (rest : List Char) :
    Begins (fun c => c != '\n' && c != '\r') (escapeBlock 0 cs ++ '"' :: rest) := by
  cases cs with
  | nil => exact begins_cons rfl
  | cons c cs =>
      have notLine : c ≠ '\n' := fun same => noLine (same ▸ List.mem_cons_self)
      by_cases mark : c = '"'
      · subst mark
        exact begins_cons rfl
      · have written : escapeBlock 0 (c :: cs) = escapeChar c ++ escapeBlock 0 cs := by
          rw [escapeBlock] <;> assumption
        rw [written, List.append_assoc]
        exact ((spells_escapeChar c).begins _).imp fun d passes => by simp_all

theorem begins_shown (shown : ∀ c ∈ cs, isCommentChar c = true ∨ c = '\n') (noLine : '\n' ∉ cs)
    (rest : List Char) :
    Begins (fun c => c != '\n' && c != '\r') (cs ++ '\'' :: rest) := by
  cases cs with
  | nil => exact begins_cons rfl
  | cons c cs =>
      have notLine : c ≠ '\n' := fun same => noLine (same ▸ List.mem_cons_self)
      have notCarriage : c ≠ '\r' := by
        rintro rfl
        obtain shown | shown := shown _ List.mem_cons_self <;> cases shown
      exact begins_cons (by simp [notLine, notCarriage])

theorem quote_basic (cs : List Char) :
    quote .basic cs = '"' :: (cs.flatMap escapeChar ++ ['"']) := rfl

theorem quote_literal (cs : List Char) : quote .literal cs = '\'' :: (cs ++ ['\'']) := rfl

theorem quote_basicBlock (cs : List Char) :
    quote .basicBlock cs = "\"\"\"".toList ++
      ((if cs.contains '\n' then ['\n'] else []) ++ (escapeBlock 0 cs ++ "\"\"\"".toList)) := by
  simp [quote, Quotes.mark, Quotes.isBlock, Quotes.isLiteral]

theorem quote_literalBlock (cs : List Char) :
    quote .literalBlock cs = "'''".toList ++
      ((if cs.contains '\n' then ['\n'] else []) ++ (cs ++ "'''".toList)) := by
  simp [quote, Quotes.mark, Quotes.isBlock, Quotes.isLiteral]

section Forms

variable (stops : Begins (fun c => c != '"' && c != '\'') rest)

include stops

theorem reads_quote_basic : Reads string (quote .basic cs) (String.ofList cs) rest := by
  have first : Reads (accept "\"\"\"") [] false (quote .basic cs ++ rest) := by
    refine reads_accept_other ?_
    rw [quote_basic, List.cons_append, List.append_assoc]
    change ['"', '"'].isPrefixOf _ = false
    cases cs with
    | nil =>
        have notBasic : Begins (· != '"') rest := stops.unlike rfl
        simpa using not_isPrefixOf notBasic
    | cons c cs =>
        rw [List.flatMap_cons, List.append_assoc]
        exact not_isPrefixOf (((spells_escapeChar c).begins _).unlike rfl)
  refine first.glance ((reads_accept_unlike rfl (begins_cons rfl)).glance ?_)
  exact (reads_basicString cs rest).orElse

theorem reads_quote_basicBlock : Reads string (quote .basicBlock cs) (String.ofList cs) rest := by
  rw [quote_basicBlock]
  refine (reads_accept "\"\"\"" _).seq ((reads_opening ?_).seq (Reads.finish ?_ (reads_pure _ _)))
  · intro oneLine
    rw [List.append_assoc]
    exact begins_escapeBlock (by simpa using oneLine) _
  · have read := multilineRest_escapeBlock (stops.unlike rfl) (Nat.zero_le 2) cs
    simpa [Reads, StateT.run] using read

theorem reads_quote_literalBlock (takes : Quotes.literalBlock.takes cs = true) :
    Reads string (quote .literalBlock cs) (String.ofList cs) rest := by
  have shown := shown_of_takes takes
  rw [quote_literalBlock]
  refine (reads_accept_unlike rfl (begins_cons rfl)).glance ?_
  refine (reads_accept "'''" _).seq ((reads_opening ?_).seq (Reads.finish ?_ (reads_pure _ _)))
  · intro oneLine
    rw [List.append_assoc]
    exact begins_shown shown (by simpa using oneLine) _
  · have read := multilineLiteralRest_shown (stops.unlike rfl) (Nat.zero_le 2) shown
      (runs_of_takes takes rfl)
    simpa [Reads, StateT.run] using read

end Forms

theorem reads_quote_literal (takes : Quotes.literal.takes cs = true) (filled : cs ≠ [])
    (rest : List Char) : Reads string (quote .literal cs) (String.ofList cs) rest := by
  have shown : ∀ c ∈ cs, isCommentChar c = true ∧ c ≠ '\'' := by
    intro c member
    constructor
    · obtain shown | line := shown_of_takes takes c member
      · exact shown
      · exact absurd (line ▸ member) (noLine_of_takes takes rfl)
    · rintro rfl
      have runs : 1 ≤ 0 := Nat.le_trans (run_le_of_mem (0, 0) member) (runs_of_takes takes rfl)
      cases runs
  have second : Reads (accept "'''") [] false (quote .literal cs ++ rest) := by
    refine reads_accept_other ?_
    rw [quote_literal, List.cons_append, List.append_assoc]
    change ['\'', '\''].isPrefixOf _ = false
    have begins : Begins (· != '\'') (cs ++ ('\'' :: [] ++ rest)) :=
      begins_of_all filled (fun c member => by simpa using (shown c member).2) _
    exact not_isPrefixOf begins
  have fails : basicString.run (quote .literal cs ++ rest) = none := by
    have notBasic : (expect "\"").run (quote .literal cs ++ rest) = none :=
      run_expect_unlike rfl (begins_cons rfl)
    rw [basicString, StateT.run_bind, notBasic]
    rfl
  refine (reads_accept_unlike rfl (begins_cons rfl)).glance (second.glance ?_)
  exact (reads_literalString shown rest).otherwise fails

/-- A form other than the escaped ones takes the string as it is. -/
theorem takes_of_isLiteral (literal : (Quotes.of cs).isLiteral = true) :
    (Quotes.of cs).takes cs = true := by
  unfold Quotes.of at *
  cases found : [Quotes.basic, .literal, .basicBlock, .literalBlock].find? (·.takes cs) with
  | some quotes =>
      have taken := List.find?_some found
      exact taken
  | none =>
      rw [found, Option.getD_none] at literal
      split at literal <;> cases literal

theorem reads_string (s : String) (stops : Begins (fun c => c != '"' && c != '\'') rest) :
    Reads string (writeString s).toList s rest := by
  have filled (cs : List Char) (literal : Quotes.of cs = .literal) : cs ≠ [] := by
    rintro rfl
    cases literal
  have reads :
      Reads string (quote (Quotes.of s.toList) s.toList) (String.ofList s.toList) rest := by
    have takes := @takes_of_isLiteral s.toList
    cases form : Quotes.of s.toList with
    | basic => exact reads_quote_basic stops
    | literal =>
        rw [form] at takes
        exact reads_quote_literal (takes rfl) (filled s.toList form) rest
    | basicBlock => exact reads_quote_basicBlock stops
    | literalBlock =>
        rw [form] at takes
        exact reads_quote_literalBlock stops (takes rfl)
  rw [String.ofList_toList] at reads
  rwa [writeString, String.toList_ofList]

theorem head?_writeString (s : String) (rest : List Char) :
    ((writeString s).toList ++ rest).head? = some '"' ∨
      ((writeString s).toList ++ rest).head? = some '\'' := by
  rw [writeString, String.toList_ofList]
  cases Quotes.of s.toList with
  | basic | basicBlock => exact .inl rfl
  | literal | literalBlock => exact .inr rfl

end Reader

end ModemLink.Toml
