import ModemLink.Proofs.Bus.LinkHolder
import ModemLink.Proofs.Bus.Roster

/-!
# What a selection leaves behind

A selection that fails leaves interfaces claimed and kernel drivers detached, and a release is
meant to undo both. What a selection does to the account is a run of steps, one for each interface
(`Account.SelectsAll`), and what they keep true tells which claims and drivers the release that
follows will find (`Account.Sound`).
-/

namespace ModemLink

/-! ## Actions seen through a view -/

section Meeting

variable {ε σ α β γ : Type}

/-- Started where the view is `v`, the action ends with a result and in a view as expected. -/
def Meets (act : ExceptT ε (StateM σ) α) (view : σ → γ) (v : γ)
    (post : Except ε α → γ → Prop) : Prop :=
  ∀ s, view s = v → post (act.run.run s).1 (view (act.run.run s).2)

variable {view : σ → γ} {act : ExceptT ε (StateM σ) α} {next : α → ExceptT ε (StateM σ) β} {v : γ}
variable {post weaker : Except ε α → γ → Prop} {later : Except ε β → γ → Prop}

theorem Meets.imp (meets : Meets act view v post) (implies : ∀ r w, post r w → weaker r w) :
    Meets act view v weaker :=
  fun s known => implies _ _ (meets s known)

theorem Keeps.meets (keeps : Keeps act view) : Meets act view v fun _ w => w = v :=
  fun s known => (keeps s).trans known

theorem meets_pure {a : α} (holds : post (.ok a) v) :
    Meets (pure a : ExceptT ε (StateM σ) α) view v post := by
  rintro s rfl
  exact holds

theorem meets_throw {e : ε} (holds : post (.error e) v) :
    Meets (throw e : ExceptT ε (StateM σ) α) view v post := by
  rintro s rfl
  exact holds

theorem Meets.seq (meets : Meets act view v post)
    (failed : ∀ e w, post (.error e) w → later (.error e) w)
    (rest : ∀ a w, post (.ok a) w → Meets (next a) view w later) :
    Meets (act >>= next) view v later := by
  intro s known
  have first := meets s known
  simp only [ExceptT.run_bind, StateT.run_bind] at first ⊢
  revert first
  cases act.run.run s with
  | mk result after =>
      cases result with
      | ok a => exact fun first => rest a _ first after rfl
      | error e => exact failed e _

theorem Meets.tryCatch {handler : ε → ExceptT ε (StateM σ) α} (meets : Meets act view v post)
    (succeeded : ∀ a w, post (.ok a) w → weaker (.ok a) w)
    (handled : ∀ e w, post (.error e) w → Meets (handler e) view w weaker) :
    Meets (tryCatch act handler) view v weaker := by
  intro s known
  have tried := meets s known
  change weaker ((ExceptT.tryCatch act handler).run.run s).1
    (view ((ExceptT.tryCatch act handler).run.run s).2)
  simp only [ExceptT.tryCatch, ExceptT.run_mk, StateT.run_bind]
  revert tried
  cases run : act.run.run s with
  | mk result after =>
      have reached : StateT.run act s = (result, after) := run
      rw [reached]
      cases result with
      | ok a => exact succeeded a _
      | error e => exact fun tried => handled e _ tried after rfl

theorem Meets.of_get {f : σ → ExceptT ε (StateM σ) β}
    (rest : ∀ s, view s = v → Meets (f s) view v later) : Meets (get >>= f) view v later :=
  fun s known => rest s known s known

theorem meets_ite {p : Prop} [Decidable p] {first rest : ExceptT ε (StateM σ) α}
    (pos : p → Meets first view v post) (neg : ¬p → Meets rest view v post) :
    Meets (if p then first else rest) view v post := by
  split
  · exact pos ‹p›
  · exact neg ‹¬p›

end Meeting

/-! ## Steps of a selection -/

namespace Account

variable {account : Account} {call c : InterfaceCall} {ok succeeded : Bool} {i j : UInt8}

@[simp, grind =] theorem claimed_note : (account.note call ok).claimed = account.claimed := rfl

@[simp, grind =] theorem calls_hold : (account.hold i).calls = account.calls := rfl

@[simp, grind =] theorem mem_note : (c, succeeded) ∈ (account.note call ok).calls ↔
    (c, succeeded) ∈ account.calls ∨ c = call ∧ succeeded = ok := by
  simp [note]

@[simp, grind =] theorem mem_hold : j ∈ (account.hold i).claimed ↔ j ∈ account.claimed ∨ j = i := by
  simp [hold]

/-- A kernel driver is detached, or is not there or not known to be. -/
inductive Frees (i : UInt8) (a : Account) : Account → Prop
  | untouched : Frees i a a
  | tried (ok : Bool) : Frees i a (a.note (.detach i) ok)

/-- An interface that is not held is claimed. -/
inductive Claims (i : UInt8) (a : Account) : Bool → Account → Prop
  | held : i ∈ a.claimed → Claims i a true a
  | claimed : i ∉ a.claimed → Claims i a true ((a.note (.claim i) true).hold i)
  | refused : i ∉ a.claimed → Claims i a false (a.note (.claim i) false)

/-- Setting 0 is in effect without a call. -/
inductive Chooses (s : Selection) (a : Account) : Bool → Account → Prop
  | default : s.alternate = 0 → Chooses s a true a
  | tried (ok : Bool) : s.alternate ≠ 0 →
      Chooses s a ok (a.note (.choose s.interface s.alternate) ok)

/-- What the selection of one interface does to the account, and whether it succeeds. -/
inductive Selects (s : Selection) (a : Account) : Bool → Account → Prop
  | refused {b c : Account} : Frees s.interface a b → Claims s.interface b false c →
      Selects s a false c
  | claimed {b c d : Account} {ok : Bool} : Frees s.interface a b → Claims s.interface b true c →
      Chooses s c ok d → Selects s a ok d

/-- The first selection that fails ends the run. -/
inductive SelectsAll : List Selection → Account → Bool → Account → Prop
  | nil {a : Account} : SelectsAll [] a true a
  | failed {s : Selection} {rest : List Selection} {a b : Account} :
      Selects s a false b → SelectsAll (s :: rest) a false b
  | cons {s : Selection} {rest : List Selection} {a b c : Account} {ok : Bool} :
      Selects s a true b → SelectsAll rest b ok c → SelectsAll (s :: rest) a ok c

/-- The calls that return interfaces, each with its kernel driver, whether or not they succeed. -/
inductive Returned : List UInt8 → List (InterfaceCall × Bool) → Prop
  | nil : Returned [] []
  | cons {i : UInt8} {rest : List UInt8} {calls : List (InterfaceCall × Bool)}
      (unclaimed attached : Bool) : Returned rest calls →
      Returned (i :: rest) ((.unclaim i, unclaimed) :: (.attach i, attached) :: calls)

theorem Returned.count {claimed : List UInt8} {calls : List (InterfaceCall × Bool)}
    (returned : Returned claimed calls) (i : UInt8) :
    (calls.map Prod.fst).count (.unclaim i) = claimed.count i ∧
      (calls.map Prod.fst).count (.attach i) = claimed.count i := by
  induction returned with
  | nil => exact ⟨rfl, rfl⟩
  | cons unclaimed attached _ ih => simp [List.count_cons, ih.1, ih.2]

/-- How the selection of a configuration can end: before its first interface, at one of them, or
when all are selected, whether or not their pipes can then be read. -/
inductive Selected (selections : List Selection) (a : Account) :
    Except BusError (List Pipe) → Account → Prop
  | unset (e : BusError) : Selected selections a (.error e) a
  | refused (e : BusError) {b : Account} : SelectsAll selections a false b →
      Selected selections a (.error e) b
  | all {b : Account} (result : Except BusError (List Pipe)) : SelectsAll selections a true b →
      Selected selections a result b

end Account

namespace Holder

open Account

variable {σ α : Type} {a : Account}

theorem keeps_onStack (f : σ → Except BusError α × σ) : Keeps (onStack f) Holder.account :=
  fun _ => rfl

theorem meets_onAccount (f : Account → Account) :
    Meets (onAccount f : HolderAct σ Unit) Holder.account a fun r b => r = .ok () ∧ b = f a := by
  rintro holder rfl
  exact ⟨rfl, rfl⟩

/-- The failure of an attempt does not matter. -/
theorem meets_attempt {act : HolderAct σ α} {post : Account → Prop}
    (meets : Meets act Holder.account a fun _ b => post b) :
    Meets (attempt act) Holder.account a fun r b => r = .ok () ∧ post b := by
  have discarded : Meets (discard act) Holder.account a fun _ b => post b := by
    change Meets ((fun _ => ()) <$> act) _ _ _
    rw [← bind_pure_comp]
    exact meets.seq (fun _ _ reached => reached) fun _ _ reached => meets_pure reached
  exact discarded.tryCatch (fun _ _ reached => ⟨rfl, reached⟩)
    fun _ _ reached => meets_pure ⟨rfl, reached⟩

variable [UsbStack σ] (value : UInt8)

theorem meets_perform (call : InterfaceCall) :
    Meets (perform call : HolderAct σ Unit) Holder.account a
      fun r b => b = a.note call r.isOk := by
  rintro holder rfl
  rfl

theorem meets_attempt_perform (call : InterfaceCall) :
    Meets (attempt (perform call) : HolderAct σ Unit) Holder.account a
      fun r b => r = .ok () ∧ ∃ ok, b = a.note call ok :=
  meets_attempt ((meets_perform call).imp fun r _ same => ⟨r.isOk, same⟩)

theorem meets_freeInterface (i : UInt8) :
    Meets (freeInterface i : HolderAct σ Unit) Holder.account a
      fun r b => r = .ok () ∧ Frees i a b := by
  have asked : Meets (tryCatch (onStack (UsbStack.kernelDriverActive i)) fun _ => return false)
      (Holder.account (σ := σ)) a fun r b => (∃ active, r = .ok active) ∧ b = a :=
    (keeps_onStack _).meets.tryCatch (fun active _ same => ⟨⟨active, rfl⟩, same⟩)
      fun _ _ same => meets_pure ⟨⟨false, rfl⟩, same⟩
  refine asked.seq (by rintro e b ⟨⟨_, ⟨⟩⟩, _⟩) fun active b same => ?_
  obtain ⟨-, rfl⟩ := same
  refine meets_ite (fun _ => ?_) fun _ => meets_pure ⟨rfl, .untouched⟩
  refine (meets_attempt_perform (.detach i)).imp ?_
  rintro r _ ⟨done, ok, rfl⟩
  exact ⟨done, .tried ok⟩

theorem meets_choose (s : Selection) :
    Meets (if s.alternate != 0 then perform (.choose s.interface s.alternate) else pure () :
      HolderAct σ Unit) Holder.account a fun r b => Chooses s a r.isOk b :=
  meets_ite
    (fun other =>
      (meets_perform _).imp fun r _ same => same ▸ .tried r.isOk (bne_iff_ne.mp other))
    fun default => meets_pure (.default (by simpa using default))

theorem meets_selectInterface (s : Selection) :
    Meets (selectInterface s : HolderAct σ Unit) Holder.account a
      fun r b => Selects s a r.isOk b := by
  refine (meets_freeInterface s.interface).seq (by rintro e b ⟨⟨⟩, _⟩) fun _ b freed => ?_
  refine Meets.of_get fun holder known => ?_
  subst known
  refine meets_ite (fun unheld => ?_) fun held => ?_
  · refine (meets_perform (.claim s.interface)).seq ?_ fun _ c same => ?_
    · rintro e c rfl
      exact .refused freed.2 (.refused unheld)
    · subst same
      refine (meets_onAccount _).seq (by rintro e d ⟨⟨⟩, _⟩) fun _ d same => ?_
      obtain ⟨-, rfl⟩ := same
      exact (meets_choose s).imp fun _ _ step => .claimed freed.2 (.claimed unheld) step
  · have held := Decidable.not_not.mp held
    exact (meets_choose s).imp fun _ _ step => .claimed freed.2 (.held held) step

theorem meets_selectAll (selections : List Selection) :
    Meets (selections.forM selectInterface : HolderAct σ Unit) Holder.account a
      fun r b => SelectsAll selections a r.isOk b := by
  induction selections generalizing a with
  | nil => exact meets_pure .nil
  | cons s rest ih =>
      refine (meets_selectInterface s).seq (fun e b step => .failed step) fun _ b step => ?_
      exact ih.imp fun r c run => .cons step run

theorem keeps_account_pipesFor (s : Selection) :
    Keeps (pipesFor value s : HolderAct σ (List Pipe)) Holder.account :=
  have read (index : UInt8) : Keeps (readConfig index : HolderAct σ Bytes) Holder.account :=
    (keeps_onStack _).seq fun _ => Keeps.seq (keeps_modify fun _ => rfl) fun _ => keeps_pure _
  keeps_pipesFor (keeps_onStack _) read value s

theorem meets_select (selections : List Selection) :
    Meets (select value selections : HolderAct σ (List Pipe)) Holder.account a
      (Selected selections a) := by
  have rest (b : Account) (same : b = a) : Meets (do
      selections.forM selectInterface
      return (← selections.mapM (pipesFor value)).flatten : HolderAct σ (List Pipe))
      Holder.account b (Selected selections a) := by
    subst same
    refine (meets_selectAll selections).seq (fun e _ run => .refused e run) fun _ b run => ?_
    have read : Keeps (do return (← selections.mapM (pipesFor value)).flatten :
        HolderAct σ (List Pipe)) Holder.account :=
      (keeps_mapM _ fun s => keeps_account_pipesFor value s).seq fun _ => keeps_pure _
    exact read.meets.imp fun result c same => same ▸ .all result run
  have asked : Meets (tryCatch (some <$> onStack UsbStack.getConfiguration) fun _ => return none)
      (Holder.account (σ := σ)) a fun r b => (∃ active, r = .ok active) ∧ b = a :=
    ((keeps_onStack _).map _).meets.tryCatch (fun active _ same => ⟨⟨active, rfl⟩, same⟩)
      fun _ _ same => meets_pure ⟨⟨none, rfl⟩, same⟩
  refine asked.seq (by rintro e b ⟨⟨_, ⟨⟩⟩, _⟩) fun active b same => ?_
  obtain ⟨-, rfl⟩ := same
  refine meets_ite (fun _ => ?_) fun _ => rest b rfl
  refine (keeps_onStack _).meets.seq ?_ fun _ c same => rest c same
  rintro e _ rfl
  exact .unset e

theorem meets_returns (claimed : List UInt8) :
    Meets (claimed.forM fun interface => do
      attempt (perform (.unclaim interface))
      attempt (perform (.attach interface)) : HolderAct σ Unit) Holder.account a fun r b =>
        r = .ok () ∧ ∃ more, Returned claimed more ∧ b = { a with calls := a.calls ++ more } := by
  induction claimed generalizing a with
  | nil => exact meets_pure ⟨rfl, [], .nil, by simp⟩
  | cons i rest ih =>
      have returned : Meets (do
          attempt (perform (.unclaim i))
          attempt (perform (.attach i)) : HolderAct σ Unit) Holder.account a fun r b =>
          r = .ok () ∧ ∃ u t, b = (a.note (.unclaim i) u).note (.attach i) t := by
        refine (meets_attempt_perform _).seq (by rintro e b ⟨⟨⟩, _⟩) fun _ b tried => ?_
        obtain ⟨-, unclaimed, rfl⟩ := tried
        refine (meets_attempt_perform _).imp ?_
        rintro r _ ⟨done, attached, rfl⟩
        exact ⟨done, unclaimed, attached, rfl⟩
      refine returned.seq (by rintro e b ⟨⟨⟩, _⟩) fun _ b known => ?_
      obtain ⟨-, unclaimed, attached, rfl⟩ := known
      refine ih.imp ?_
      rintro r _ ⟨done, more, later, rfl⟩
      exact ⟨done, _, .cons unclaimed attached later, by simp [note]⟩

theorem meets_release : Meets (release : HolderAct σ Unit) Holder.account a fun r b =>
    r = .ok () ∧ ∃ more, Returned a.claimed more ∧ b = ⟨[], a.calls ++ more⟩ := by
  refine Meets.of_get fun holder known => ?_
  subst known
  refine (meets_onAccount _).seq (by rintro e d ⟨⟨⟩, _⟩) fun _ b same => ?_
  obtain ⟨-, rfl⟩ := same
  exact meets_returns _

end Holder

/-! ## What the steps preserve -/

namespace Account

variable {a b : Account} {s : Selection} {i j : UInt8} {ok : Bool} {pending : Option UInt8}

/-- Nothing has been returned yet, and what has been taken is known: by its claim, or by the claim
that was refused after the kernel driver had gone. The driver of the `pending` interface has just
been detached. -/
structure Sound (pending : Option UInt8) (a : Account) : Prop where
  claimed : ∀ i, i ∈ a.claimed ↔ (.claim i, true) ∈ a.calls
  distinct : a.claimed.Nodup
  unreturned : ∀ i ok, (.unclaim i, ok) ∉ a.calls ∧ (.attach i, ok) ∉ a.calls
  freed : ∀ i, (.detach i, true) ∈ a.calls →
    i ∈ a.claimed ∨ (.claim i, false) ∈ a.calls ∨ pending = some i
  refused : ∀ i, (.claim i, false) ∈ a.calls → i ∉ a.claimed

/-- No claim was refused. -/
def Smooth (a : Account) : Prop := ∀ i, (.claim i, false) ∉ a.calls

theorem sound_empty : Sound none {} := by
  constructor <;> simp

theorem Sound.frees (sound : Sound none a) (step : Frees i a b) : Sound (some i) b := by
  obtain ⟨claimed, distinct, unreturned, freed, refused⟩ := sound
  cases step with
  | untouched => constructor <;> grind
  | tried ok => constructor <;> grind

/-- The claim settles what was pending, also if it is refused. -/
theorem Sound.claims (sound : Sound (some i) a) (smooth : Smooth a) (step : Claims i a ok b) :
    Sound none b := by
  obtain ⟨claimed, distinct, unreturned, freed, refused⟩ := sound
  rw [Smooth] at smooth
  cases step with
  | held held => constructor <;> grind
  | claimed unheld => constructor <;> grind [hold]
  | refused unheld => constructor <;> grind

theorem Sound.chooses (sound : Sound none a) (step : Chooses s a ok b) : Sound none b := by
  obtain ⟨claimed, distinct, unreturned, freed, refused⟩ := sound
  cases step with
  | default => constructor <;> assumption
  | tried ok other => constructor <;> grind

theorem Smooth.frees (smooth : Smooth a) (step : Frees i a b) : Smooth b := by
  cases step with
  | untouched => exact smooth
  | tried ok => simpa [Smooth] using smooth

theorem Smooth.claims (smooth : Smooth a) (step : Claims i a true b) : Smooth b := by
  cases step with
  | held held => exact smooth
  | claimed unheld => simpa [Smooth] using smooth

theorem Smooth.chooses (smooth : Smooth a) (step : Chooses s a ok b) : Smooth b := by
  cases step with
  | default => exact smooth
  | tried ok other => simpa [Smooth] using smooth

theorem Sound.selects (sound : Sound none a) (smooth : Smooth a) (step : Selects s a ok b) :
    Sound none b ∧ (ok = true → Smooth b) := by
  cases step with
  | refused freed refused =>
      exact ⟨(sound.frees freed).claims (smooth.frees freed) refused, nofun⟩
  | claimed freed claimed chosen =>
      have free := smooth.frees freed
      exact ⟨((sound.frees freed).claims free claimed).chooses chosen,
        fun _ => (free.claims claimed).chooses chosen⟩

theorem Sound.selectsAll {selections : List Selection} (sound : Sound none a) (smooth : Smooth a)
    (run : SelectsAll selections a ok b) : Sound none b := by
  induction run with
  | nil => exact sound
  | failed step => exact (sound.selects smooth step).1
  | cons step _ ih =>
      obtain ⟨sound, smooth⟩ := sound.selects smooth step
      exact ih sound (smooth rfl)

theorem Selected.sound {selections : List Selection} {result : Except BusError (List Pipe)}
    (selected : Selected selections {} result b) : Sound none b := by
  have smooth : Smooth {} := by simp [Smooth]
  cases selected with
  | unset e => exact sound_empty
  | refused e run => exact sound_empty.selectsAll smooth run
  | all result run => exact sound_empty.selectsAll smooth run

end Account

/-! ## Releasing after a selection -/

namespace Account

variable {a : Account} {more : List (InterfaceCall × Bool)}

theorem count_calls_append (call : InterfaceCall) (fresh : ∀ ok, (call, ok) ∉ a.calls) :
    ({ calls := a.calls ++ more } : Account).attempts call = (more.map Prod.fst).count call := by
  have none : (a.calls.map Prod.fst).count call = 0 :=
    List.count_eq_zero.mpr fun made => by simp_all
  simp [attempts, none]

theorem Sound.attempts_unclaim (sound : Sound none a) (returned : Returned a.claimed more)
    (i : UInt8) : ({ calls := a.calls ++ more } : Account).attempts (.unclaim i) =
      if (.claim i, true) ∈ a.calls then 1 else 0 := by
  rw [count_calls_append _ fun ok => (sound.unreturned i ok).1, (returned.count i).1,
    sound.distinct.count]
  simp only [sound.claimed i]

theorem Sound.attempts_attach (sound : Sound none a) (returned : Returned a.claimed more)
    {i : UInt8} (freed : (.detach i, true) ∈ a.calls) :
    ({ calls := a.calls ++ more } : Account).attempts (.attach i) =
      if (.claim i, false) ∈ a.calls then 0 else 1 := by
  rw [count_calls_append _ fun ok => (sound.unreturned i ok).2, (returned.count i).2,
    sound.distinct.count]
  have := sound.freed i freed
  have := sound.refused i
  grind

end Account

namespace Holder

open Account

/-- Over any stack, and however the selection ends, the release that follows gives up each
interface that was claimed once and no other. It attaches the kernel driver of each interface from
which one was detached, once, unless the claim of that interface was refused. A link does the same
over the bus. -/
theorem release_undoes_selection (value : UInt8) (selections : List Selection) :
    (∀ {σ : Type} [UsbStack σ] (stack : σ),
      let selected := after (select value selections) { stack }
      let released := after release selected
      (release.run.run selected).1 = .ok () ∧ ∀ i,
        released.account.attempts (.unclaim i) =
          (if (.claim i, true) ∈ selected.account.calls then 1 else 0) ∧
        ((.detach i, true) ∈ selected.account.calls → released.account.attempts (.attach i) =
          if (.claim i, false) ∈ selected.account.calls then 0 else 1)) ∧
    Link.Matches (Link.select value selections) (select value selections) ∧
    Link.Matches Link.release release := by
  refine ⟨fun {σ} _ stack => ?_, Link.matches_select value selections, Link.matches_release⟩
  intro selected released
  have sound : Sound none selected.account := (meets_select value selections { stack } rfl).sound
  obtain ⟨done, more, returned, final⟩ := meets_release selected rfl
  rw [show released.account = _ from final]
  exact ⟨done, fun i => ⟨sound.attempts_unclaim returned i, sound.attempts_attach returned⟩⟩

/-- The second of two claims is refused: the first interface is returned with its driver. -/
theorem release_undoes_first_of_two :
    let device : BusDevice :=
      { kernelDrivers := [0, 1], errors := [(.claim, none), (.claim, some .busy)] }
    let link : Link := ⟨{ devices := [device] }, { device := 0, speed := .high }⟩
    let selected := after (select 1 [⟨0, 0⟩, ⟨1, 0⟩]) { stack := link }
    let released := after release selected
    (.detach 0, true) ∈ selected.account.calls ∧ (.detach 1, true) ∈ selected.account.calls ∧
      released.account.attempts (.unclaim 0) = 1 ∧ released.account.attempts (.unclaim 1) = 0 ∧
      released.account.attempts (.attach 0) = 1 ∧ released.account.attempts (.attach 1) = 0 := by
  intro device link selected released
  have first : (.detach 0, true) ∈ selected.account.calls := by decide
  have second : (.detach 1, true) ∈ selected.account.calls := by decide
  obtain ⟨-, law⟩ := (release_undoes_selection 1 [⟨0, 0⟩, ⟨1, 0⟩]).1 link
  refine ⟨first, second, (law 0).1.trans (if_pos ?_), (law 1).1.trans (if_neg ?_),
    ((law 0).2 first).trans (if_neg ?_), ((law 1).2 second).trans (if_pos ?_)⟩
  all_goals decide

/-- A kernel driver that is detached for a claim that is then refused is not attached again. -/
theorem refused_claim_loses_driver :
    let device : BusDevice := { kernelDrivers := [0], errors := [(.claim, some .busy)] }
    let link : Link := ⟨{ devices := [device] }, { device := 0, speed := .high }⟩
    let selected := (Link.select 1 [⟨0, 0⟩]).run.run link
    let released := (Link.release.run.run selected.2).2.bus
    selected.1 = .error .busy ∧ .detach 0 ∈ released.log.toList ∧
      .attach 0 ∉ released.log.toList ∧ (released.device 0).kernelDrivers = [] :=
  ⟨rfl, by decide, by decide, rfl⟩

end Holder

end ModemLink
