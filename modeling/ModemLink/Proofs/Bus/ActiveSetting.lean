import Mathlib.Control.Monad.Basic
import ModemLink.Proofs.Bus.Holding
import ModemLink.Proofs.Usb.SingleSetting

/-!
# The setting in effect

A plan that names no interface twice is carried out as it stands: each interface ends up in the
setting that the plan has for it, and each pipe is that of an endpoint under the setting in effect.
-/

namespace ModemLink

namespace Account

variable {a b : Account} {call : InterfaceCall} {ok : Bool} {i j : UInt8} {s : Selection}
variable {selections : List Selection}

/-- The setting of interface `i` after a call that found it in `setting`. -/
def settingAfter (i setting : UInt8) : InterfaceCall × Bool → UInt8
  | (.choose j alternate, true) => if j = i then alternate else setting
  | _ => setting

/-- The setting in effect after the calls; an interface is in setting 0 at first. -/
def setting (a : Account) (i : UInt8) : UInt8 := a.calls.foldl (settingAfter i) 0

@[simp] theorem setting_note :
    (a.note call ok).setting i = settingAfter i (a.setting i) (call, ok) := by
  simp [setting, note]

@[simp] theorem setting_hold : (a.hold j).setting i = a.setting i := rfl

theorem Frees.setting (step : Frees j a b) (i : UInt8) : b.setting i = a.setting i := by
  cases step with
  | untouched => rfl
  | tried ok => simp [settingAfter]

theorem Claims.setting (step : Claims j a ok b) (i : UInt8) : b.setting i = a.setting i := by
  cases step with
  | held => rfl
  | claimed => simp [settingAfter]
  | refused => simp [settingAfter]

theorem Chooses.setting (step : Chooses s a true b) (i : UInt8) :
    b.setting i = if s.interface = i ∧ s.alternate ≠ 0 then s.alternate else a.setting i := by
  cases step with
  | default zero => simp [zero]
  | tried _ other => simp [settingAfter, other]

theorem Selects.setting (step : Selects s a true b) (i : UInt8) :
    b.setting i = if s.interface = i ∧ s.alternate ≠ 0 then s.alternate else a.setting i := by
  cases step with
  | claimed freed claimed chosen => rw [chosen.setting, claimed.setting, freed.setting]

theorem SelectsAll.setting_other (run : SelectsAll selections a ok b) (succeeded : ok = true)
    (other : i ∉ selections.map Selection.interface) : b.setting i = a.setting i := by
  induction run with
  | nil => rfl
  | failed => cases succeeded
  | cons step _ ih =>
      rw [List.map_cons, List.mem_cons, not_or] at other
      rw [ih succeeded other.2, step.setting, if_neg fun same => other.1 same.1.symm]

/-- Interfaces that are named once get the setting they are named with. -/
theorem SelectsAll.setting_eq (run : SelectsAll selections a ok b) (succeeded : ok = true)
    (once : (selections.map Selection.interface).Nodup)
    (initial : ∀ s ∈ selections, a.setting s.interface = 0) :
    ∀ s ∈ selections, b.setting s.interface = s.alternate := by
  induction run with
  | nil => nofun
  | failed => cases succeeded
  | @cons s rest a b c ok step run ih =>
      rw [List.map_cons, List.nodup_cons] at once
      have others : ∀ t ∈ rest, b.setting t.interface = 0 := by
        intro t listed
        have other : s.interface ≠ t.interface := fun same =>
          once.1 (same ▸ List.mem_map_of_mem listed)
        rw [step.setting, if_neg fun own => other own.1]
        exact initial t (List.mem_cons_of_mem s listed)
      rw [List.forall_mem_cons]
      refine ⟨?_, ih succeeded once.2 others⟩
      rw [run.setting_other succeeded once.1, step.setting]
      split
      · rfl
      · rename_i default
        rw [initial s List.mem_cons_self]
        exact (not_not.mp fun other => default ⟨rfl, other⟩).symm

end Account

/-! ## Endpoints under a setting -/

namespace Pipe

variable {pipe : Pipe} {record : Record} {records : List Record} {s : Selection}

/-- The pipe of an endpoint that comes before the first interface of `records`. -/
def Leads (pipe : Pipe) (records : List Record) (s : Selection) : Prop :=
  ∃ under e after, records = under ++ .endpoint e :: after ∧ Record.interfaces under = [] ∧
    pipe = { interface := s.interface, endpoint := e.address
             type := .ofAttributes e.attributes, maxPacket := e.maxPacket }

/-- The pipe of an endpoint that `records` list under a setting. -/
def IsUnder (pipe : Pipe) (records : List Record) (s : Selection) : Prop :=
  ∃ before d after, records = before ++ .interface d :: after ∧ d.selection = s ∧
    pipe.Leads after s

theorem Leads.cons (leads : pipe.Leads records s) (plain : record.interface? = none) :
    pipe.Leads (record :: records) s := by
  obtain ⟨under, e, after, rfl, none, made⟩ := leads
  exact ⟨record :: under, e, after, rfl, (List.filterMap_cons_none plain).trans none, made⟩

theorem IsUnder.cons (isUnder : pipe.IsUnder records s) : pipe.IsUnder (record :: records) s := by
  obtain ⟨before, d, after, rfl, found⟩ := isUnder
  exact ⟨record :: before, d, after, rfl, found⟩

theorem Leads.under (leads : pipe.Leads records s) {d : InterfaceDescriptor}
    (same : d.selection = s) : pipe.IsUnder (.interface d :: records) s :=
  ⟨[], d, records, rfl, same, leads⟩

theorem Leads.interface (leads : pipe.Leads records s) : pipe.interface = s.interface := by
  obtain ⟨_, _, _, _, _, rfl⟩ := leads
  rfl

/-- While pipes for `s` are collected, `current` is the setting that the records continue. -/
theorem leads_or_isUnder {current : Option Selection}
    (opened : pipe ∈ s.pipes current records) :
    current = some s ∧ pipe.Leads records s ∨ pipe.IsUnder records s := by
  induction records generalizing current with
  | nil => cases opened
  | cons record records ih =>
      have onward (plain : record.interface? = none)
          (later : pipe ∈ s.pipes current records) :
          current = some s ∧ pipe.Leads (record :: records) s ∨
            pipe.IsUnder (record :: records) s :=
        (ih later).imp (.imp_right fun leads => leads.cons plain) .cons
      cases record with
      | interface d =>
          refine .inr ((ih opened).elim (fun led => ?_) .cons)
          exact led.2.under (Option.some.inj led.1)
      | endpoint e =>
          rw [Selection.pipes] at opened
          split at opened
          · rename_i same
            rcases List.mem_cons.mp opened with made | later
            · exact .inl ⟨same, [], e, records, rfl, rfl, made⟩
            · exact onward rfl later
          · exact onward rfl opened
      | vendorFeature guid controlCaps dataCaps => exact onward rfl opened
      | other type data => exact onward rfl opened

theorem isUnder_of_opened (opened : pipe ∈ s.pipes none records) :
    pipe.IsUnder records s :=
  (leads_or_isUnder opened).resolve_left fun led => nomatch led.1

/-- The pipe of an endpoint under `s` in one of `configs` with the given value. -/
def IsIn (pipe : Pipe) (configs : List Bytes) (value : UInt8) (s : Selection) : Prop :=
  ∃ config ∈ configs, config.getD 5 0 = value ∧ pipe.IsUnder (Record.ofConfiguration config) s

theorem IsIn.mono {configs more : List Bytes} {value : UInt8} (isIn : pipe.IsIn configs value s)
    (known : configs ⊆ more) : pipe.IsIn more value s := by
  obtain ⟨config, listed, found⟩ := isIn
  exact ⟨config, known listed, found⟩

theorem IsIn.interface {configs : List Bytes} {value : UInt8} (isIn : pipe.IsIn configs value s) :
    pipe.interface = s.interface := by
  obtain ⟨_, _, _, _, _, _, _, _, leads⟩ := isIn
  exact leads.interface

end Pipe

namespace Holder

variable {σ α : Type} {known : List Bytes}

/-! ## Pipes of the descriptors read -/

theorem keeps_configs_onStack (f : σ → Except BusError α × σ) :
    Keeps (onStack f) Holder.configs := fun _ => rfl

variable [UsbStack σ] (value : UInt8)

theorem keeps_configs_selectInterface (s : Selection) :
    Keeps (selectInterface s : HolderAct σ Unit) Holder.configs :=
  keeps_selectInterface (fun _ _ => rfl) (fun _ _ => rfl) (fun _ _ => rfl) s

theorem meets_readConfig (index : UInt8) :
    Meets (readConfig index : HolderAct σ Bytes) Holder.configs known fun r after =>
      known ⊆ after ∧ ∀ config, r = .ok config → config ∈ after := by
  refine (keeps_configs_onStack _).meets.seq ?_ ?_
  · rintro e _ rfl
    exact ⟨List.Subset.refl _, nofun⟩
  · rintro config _ rfl holder rfl
    refine ⟨List.subset_append_left _ _, ?_⟩
    rintro _ ⟨⟩
    exact List.mem_append_right _ List.mem_cons_self

theorem meets_pipesIn (s : Selection) (indices : List UInt8) :
    Meets (pipesIn value s indices : HolderAct σ (List Pipe)) Holder.configs known fun r after =>
      known ⊆ after ∧ ∀ pipes, r = .ok pipes → ∀ pipe ∈ pipes, pipe.IsIn after value s := by
  induction indices generalizing known with
  | nil => exact meets_throw ⟨List.Subset.refl _, nofun⟩
  | cons index rest ih =>
      refine (meets_readConfig index).seq (fun e after read => ⟨read.1, nofun⟩) ?_
      rintro config after ⟨kept, read⟩
      refine meets_ite (fun _ => ?_) fun matched => meets_pure ⟨kept, ?_⟩
      · exact ih.imp fun r final found => ⟨List.Subset.trans kept found.1, found.2⟩
      · rintro _ ⟨⟩ pipe opened
        exact ⟨config, read config rfl, by simpa using matched, Pipe.isUnder_of_opened opened⟩

theorem meets_pipesFor (s : Selection) :
    Meets (pipesFor value s : HolderAct σ (List Pipe)) Holder.configs known fun r after =>
      known ⊆ after ∧ ∀ pipes, r = .ok pipes → ∀ pipe ∈ pipes, pipe.IsIn after value s := by
  refine (keeps_configs_onStack _).meets.seq ?_ ?_
  · rintro e _ rfl
    exact ⟨List.Subset.refl _, nofun⟩
  · rintro count _ rfl
    exact meets_pipesIn value s _

theorem meets_allPipes (selections : List Selection) :
    Meets (selections.mapM (pipesFor value) : HolderAct σ (List (List Pipe))) Holder.configs known
      fun r after => known ⊆ after ∧ ∀ found, r = .ok found →
        ∀ pipe ∈ found.flatten, ∃ s ∈ selections, pipe.IsIn after value s := by
  induction selections generalizing known with
  | nil => exact meets_pure ⟨List.Subset.refl _, by rintro _ ⟨⟩; nofun⟩
  | cons s rest ih =>
      rw [List.mapM_cons]
      refine (meets_pipesFor value s).seq (fun e after first => ⟨first.1, nofun⟩) ?_
      rintro pipes after ⟨kept, first⟩
      refine ih.seq (fun e final later => ⟨List.Subset.trans kept later.1, nofun⟩) ?_
      rintro others final ⟨grown, later⟩
      refine meets_pure ⟨List.Subset.trans kept grown, ?_⟩
      rintro _ ⟨⟩ pipe opened
      rcases List.mem_append.mp (List.flatten_cons ▸ opened) with own | other
      · exact ⟨s, List.mem_cons_self, (first pipes rfl pipe own).mono grown⟩
      · obtain ⟨t, listed, found⟩ := later others rfl pipe other
        exact ⟨t, List.mem_cons_of_mem s listed, found⟩

theorem meets_pipes (selections : List Selection) :
    Meets (select value selections : HolderAct σ (List Pipe)) Holder.configs known fun r after =>
      ∀ pipes, r = .ok pipes → ∀ pipe ∈ pipes, ∃ s ∈ selections, pipe.IsIn after value s := by
  have rest (held : List Bytes) : Meets (do
      selections.forM selectInterface
      return (← selections.mapM (pipesFor value)).flatten : HolderAct σ (List Pipe))
      Holder.configs held fun r after => ∀ pipes, r = .ok pipes →
        ∀ pipe ∈ pipes, ∃ s ∈ selections, pipe.IsIn after value s := by
    have claimed : Keeps (selections.forM selectInterface : HolderAct σ Unit) Holder.configs :=
      keeps_forM _ keeps_configs_selectInterface
    refine claimed.meets.seq (fun e after same => nofun) fun _ after same => ?_
    refine (meets_allPipes value selections).seq (fun e final found => nofun) ?_
    rintro found final ⟨-, opened⟩
    refine meets_pure ?_
    rintro _ ⟨⟩
    exact opened found rfl
  have asked : Keeps (tryCatch (some <$> onStack UsbStack.getConfiguration) fun _ => return none)
      (Holder.configs (σ := σ)) :=
    ((keeps_configs_onStack _).map _).tryCatch fun _ => keeps_pure _
  refine asked.meets.seq (fun e after same => nofun)
    fun active after same => meets_ite (fun _ => ?_) fun _ => rest after
  exact (keeps_configs_onStack _).meets.seq (fun e final same => nofun)
    fun _ final same => rest final

/-- Pipes that are reported are those of endpoints under the setting in effect, if no interface is
selected twice. -/
theorem pipe_of_select {stack : σ} {selections : List Selection} {pipes : List Pipe}
    (ran : ((select value selections).run.run { stack }).1 = .ok pipes)
    (once : (selections.map Selection.interface).Nodup) {pipe : Pipe} (opened : pipe ∈ pipes) :
    let reached := after (select value selections) { stack }
    pipe.IsIn reached.configs value
      ⟨pipe.interface, reached.account.setting pipe.interface⟩ := by
  intro reached
  obtain ⟨s, named, isIn⟩ := meets_pipes value selections { stack } rfl pipes ran pipe opened
  have ended := meets_select value selections { stack } rfl
  rw [ran] at ended
  cases ended with
  | all _ run =>
      have settled : reached.account.setting s.interface = s.alternate :=
        run.setting_eq rfl once (fun _ _ => rfl) s named
      rw [isIn.interface, settled]
      exact isIn

end Holder

namespace InterfacePlan

/-- A plan names no interface twice unless it is behind an ECM control interface and an interface
counts in two settings. If it names none twice, the interface table has all its entries, and over
any stack each pipe is that of an endpoint under the setting in effect. -/
theorem selects_single_settings {config : Bytes} {plan : InterfacePlan}
    (selected : select config = .ok plan)
    (orderly : Orderly (Record.interfaces (Record.ofConfiguration config))) :
    let once := (plan.selections.map Selection.interface).Nodup
    (once ↔ (plan.ecm = true → CountOnce (Record.interfaces (Record.ofConfiguration config)))) ∧
    (once →
      (∀ header pipes mux built, UsbConfiguration.build header plan pipes mux = .ok built →
        built.interfaces.Perm plan.interfaces) ∧
      ∀ {σ : Type} [UsbStack σ] (stack : σ) value pipes,
        let reached := Holder.after (Holder.select value plan.selections) { stack }
        ((Holder.select value plan.selections).run.run { stack }).1 = .ok pipes →
        ∀ pipe ∈ pipes, pipe.IsIn reached.configs value
          ⟨pipe.interface, reached.account.setting pipe.interface⟩) := by
  refine ⟨nodup_selections_iff selected orderly, fun once => ⟨?_, ?_⟩⟩
  · intro header pipes mux built built_eq
    exact UsbConfiguration.build_perm once built_eq
  · intro σ _ stack value pipes reached ran pipe opened
    exact Holder.pipe_of_select value ran once opened

/-- An ECM control interface and a data interface with settings 0 and 1. -/
theorem selects_single_settings_of_two :
    let config := ConfigPlan.build { records := [.interface 0 0 0x02 0x06 1, .endpoint 0x83 3 16,
      .interface 1 0 0x0A 0 0, .interface 1 1 0x0A 0 2, .endpoint 0x82 2 512,
      .endpoint 0x02 2 512] }
    let plan : InterfacePlan := { ecm := true, interfaces := [⟨0, 0, 0x02, 0x06, [0x83]⟩,
      ⟨1, 1, 0x0A, 0, [0x82, 0x02]⟩] }
    let header : ConfigHeader := ⟨9, 2, 57, 2, 1, 0xA0, 0xFA⟩
    let link : Link := ⟨{ devices := [{ configs := [config] }] }, { device := 0, speed := .high }⟩
    Orderly (Record.interfaces (Record.ofConfiguration config)) ∧ select config = .ok plan ∧
      (plan.selections.map Selection.interface).Nodup ∧
      let reached := Holder.after (Holder.select 1 plan.selections) { stack := link }
      ∃ pipes built,
        ((Holder.select 1 plan.selections).run.run { stack := link }).1 = .ok pipes ∧
        UsbConfiguration.build header plan pipes {} = .ok built ∧
        built.interfaces.Perm plan.interfaces ∧
        pipes.map Pipe.endpoint = [0x83, 0x82, 0x02] ∧
        ∀ pipe ∈ pipes, pipe.IsIn reached.configs 1
          ⟨pipe.interface, reached.account.setting pipe.interface⟩ := by
  intro config plan header link
  have records : Record.ofConfiguration config = [.interface ⟨0, 0, 1, 0x02, 0x06, 0⟩,
      .endpoint ⟨0x83, 3, 16, 0⟩, .interface ⟨1, 0, 0, 0x0A, 0, 0⟩,
      .interface ⟨1, 1, 2, 0x0A, 0, 0⟩, .endpoint ⟨0x82, 2, 512, 0⟩,
      .endpoint ⟨0x02, 2, 512, 0⟩] := by
    unfold config
    cbv
  have orderly : Orderly (Record.interfaces (Record.ofConfiguration config)) := by
    rw [records]
    exact ⟨by decide, by decide⟩
  have counted : CountOnce (Record.interfaces (Record.ofConfiguration config)) := by
    rw [records]
    decide
  have selected : select config = .ok plan := by
    unfold config plan
    cbv
  obtain ⟨single, whole⟩ := selects_single_settings selected orderly
  have once := single.mpr fun _ => counted
  obtain ⟨table, settings⟩ := whole once
  let pipes : List Pipe :=
    [⟨0, 0x83, .interrupt, 16⟩, ⟨1, 0x82, .bulk, 512⟩, ⟨1, 0x02, .bulk, 512⟩]
  have ran : ((Holder.select 1 plan.selections).run.run { stack := link }).1 = .ok pipes := by
    decide +kernel
  have built : ∃ built, UsbConfiguration.build header plan pipes {} = .ok built := ⟨_, rfl⟩
  obtain ⟨built, made⟩ := built
  exact ⟨orderly, selected, once, pipes, built, ran, made, table header pipes {} built made, rfl,
    settings link 1 pipes ran⟩

/-- With a third setting the data interface is selected in two of them. The first of these has no
entry in the table, and its pipes are reported though it is not in effect. -/
theorem third_setting_selected_as_well :
    let config := ConfigPlan.build { records := [.interface 0 0 0x02 0x06 1, .endpoint 0x83 3 16,
      .interface 1 0 0x0A 0 0, .interface 1 1 0x0A 0 2, .endpoint 0x82 2 512,
      .endpoint 0x02 2 512, .interface 1 2 0x0A 0 2, .endpoint 0x84 2 512,
      .endpoint 0x04 2 512] }
    let plan : InterfacePlan := { ecm := true, interfaces := [⟨0, 0, 0x02, 0x06, [0x83]⟩,
      ⟨1, 1, 0x0A, 0, [0x82, 0x02]⟩, ⟨1, 2, 0x0A, 0, [0x84, 0x04]⟩] }
    let header : ConfigHeader := ⟨9, 2, 80, 2, 1, 0xA0, 0xFA⟩
    let link : Link := ⟨{ devices := [{ configs := [config] }] }, { device := 0, speed := .high }⟩
    Orderly (Record.interfaces (Record.ofConfiguration config)) ∧ select config = .ok plan ∧
      plan.selections = [⟨0, 0⟩, ⟨1, 1⟩, ⟨1, 2⟩] ∧
      let reached := Holder.after (Holder.select 1 plan.selections) { stack := link }
      ∃ pipes built,
        ((Holder.select 1 plan.selections).run.run { stack := link }).1 = .ok pipes ∧
        UsbConfiguration.build header plan pipes {} = .ok built ∧
        built.interfaces.map InterfaceEntry.alternate = [0, 2] ∧
        reached.account.setting 1 = 2 ∧ ⟨1, 0x82, .bulk, 512⟩ ∈ pipes := by
  intro config plan header link
  have records : Record.ofConfiguration config = [.interface ⟨0, 0, 1, 0x02, 0x06, 0⟩,
      .endpoint ⟨0x83, 3, 16, 0⟩, .interface ⟨1, 0, 0, 0x0A, 0, 0⟩,
      .interface ⟨1, 1, 2, 0x0A, 0, 0⟩, .endpoint ⟨0x82, 2, 512, 0⟩, .endpoint ⟨0x02, 2, 512, 0⟩,
      .interface ⟨1, 2, 2, 0x0A, 0, 0⟩, .endpoint ⟨0x84, 2, 512, 0⟩,
      .endpoint ⟨0x04, 2, 512, 0⟩] := by
    unfold config
    cbv
  have orderly : Orderly (Record.interfaces (Record.ofConfiguration config)) := by
    rw [records]
    exact ⟨by decide, by decide⟩
  have selected : select config = .ok plan := by
    unfold config plan
    cbv
  let pipes : List Pipe :=
    [⟨0, 0x83, .interrupt, 16⟩, ⟨1, 0x82, .bulk, 512⟩, ⟨1, 0x02, .bulk, 512⟩,
      ⟨1, 0x84, .bulk, 512⟩, ⟨1, 0x04, .bulk, 512⟩]
  have ran : ((Holder.select 1 plan.selections).run.run { stack := link }).1 = .ok pipes := by
    decide +kernel
  have settled : (Holder.after (Holder.select 1 plan.selections)
      { stack := link }).account.setting 1 = 2 := by
    decide +kernel
  exact ⟨orderly, selected, rfl, pipes, _, ran, rfl, rfl, settled, by decide⟩

end InterfacePlan

end ModemLink
