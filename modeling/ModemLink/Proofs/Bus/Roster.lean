import ModemLink.Bus.Link
import ModemLink.Proofs.Session.Footprint

/-!
# Who is on the bus

The roster of a bus says which devices there are, who they are and whether they are present, and
which plug events wait to be delivered. Using a device changes none of that.
-/

namespace ModemLink

/-! ## Actions that keep a view -/

section Keeping

variable {ε σ α β γ : Type}

/-- The action changes nothing in view, whether or not it succeeds. -/
def Keeps (act : ExceptT ε (StateM σ) α) (view : σ → γ) : Prop :=
  ∀ s, view (act.run.run s).2 = view s

variable {view : σ → γ} {act : ExceptT ε (StateM σ) α} {next : α → ExceptT ε (StateM σ) β}

theorem keeps_pure (a : α) : Keeps (pure a : ExceptT ε (StateM σ) α) view := fun _ => rfl

theorem keeps_throw (e : ε) : Keeps (throw e : ExceptT ε (StateM σ) α) view := fun _ => rfl

theorem keeps_get : Keeps (get : ExceptT ε (StateM σ) σ) view := fun _ => rfl

theorem keeps_modify {f : σ → σ} (same : ∀ s, view (f s) = view s) :
    Keeps (modify f : ExceptT ε (StateM σ) Unit) view := same

theorem Keeps.seq (keeps : Keeps act view) (rest : ∀ a, Keeps (next a) view) :
    Keeps (act >>= next) view := by
  intro s
  have first := keeps s
  simp only [ExceptT.run_bind, StateT.run_bind] at first ⊢
  revert first
  cases act.run.run s with
  | mk result after =>
      cases result with
      | ok a => exact fun first => (rest a after).trans first
      | error e => exact id

theorem Keeps.tryCatch {handler : ε → ExceptT ε (StateM σ) α} (keeps : Keeps act view)
    (handled : ∀ e, Keeps (handler e) view) : Keeps (tryCatch act handler) view := by
  intro s
  have tried := keeps s
  change view ((ExceptT.tryCatch act handler).run.run s).2 = _
  simp only [ExceptT.tryCatch, ExceptT.run_mk, StateT.run_bind]
  revert tried
  cases run : act.run.run s with
  | mk result after =>
      have reached : StateT.run act s = (result, after) := run
      rw [reached]
      cases result with
      | ok a => exact id
      | error e => exact fun tried => (handled e after).trans tried

theorem Keeps.map (keeps : Keeps act view) (f : α → β) : Keeps (f <$> act) view := by
  rw [← bind_pure_comp]
  exact keeps.seq fun _ => keeps_pure _

theorem Keeps.discard (keeps : Keeps act view) : Keeps (discard act) view :=
  keeps.map _

/-- A refusal on the way. -/
theorem keeps_unless {p : Prop} [Decidable p] {e : ε} {rest : ExceptT ε (StateM σ) α}
    (keeps : Keeps rest view) :
    Keeps (if p then throw e >>= fun _ : PUnit => rest else rest) view := by
  split
  · exact (keeps_throw e).seq fun _ => keeps
  · exact keeps

theorem keeps_either {p : Prop} [Decidable p] {first rest : ExceptT ε (StateM σ) α}
    (first' : Keeps first view) (rest' : Keeps rest view) :
    Keeps (if p then first else rest) view := by
  split
  · exact first'
  · exact rest'

theorem keeps_forM {f : α → ExceptT ε (StateM σ) PUnit} (xs : List α)
    (keeps : ∀ x, Keeps (f x) view) : Keeps (xs.forM f) view := by
  induction xs with
  | nil => exact keeps_pure _
  | cons x xs ih => exact (keeps x).seq fun _ => ih

theorem keeps_mapM {f : α → ExceptT ε (StateM σ) β} (xs : List α)
    (keeps : ∀ x, Keeps (f x) view) : Keeps (xs.mapM f) view := by
  induction xs with
  | nil => exact keeps_pure _
  | cons x xs ih =>
      rw [List.mapM_cons]
      exact (keeps x).seq fun _ => ih.seq fun _ => keeps_pure _

/-- From a state that looks like `v` the action changes nothing in view, and what it returns is as
expected. -/
def Finds (act : ExceptT ε (StateM σ) α) (view : σ → γ) (v : γ) (post : α → Prop) : Prop :=
  ∀ s, view s = v → ∀ a after, act.run.run s = (.ok a, after) → view after = v ∧ post a

variable {v : γ} {post : α → Prop} {later : β → Prop}

theorem Keeps.finds (keeps : Keeps act view) : Finds act view v fun _ => True := by
  rintro s rfl a after ran
  have kept := keeps s
  rw [ran] at kept
  exact ⟨kept, trivial⟩

theorem Finds.imp {weaker : α → Prop} (finds : Finds act view v post)
    (implies : ∀ a, post a → weaker a) : Finds act view v weaker :=
  fun s known a after ran =>
    ⟨(finds s known a after ran).1, implies a (finds s known a after ran).2⟩

theorem finds_pure {a : α} (holds : post a) :
    Finds (pure a : ExceptT ε (StateM σ) α) view v post := by
  rintro s rfl _ _ ⟨⟩
  exact ⟨rfl, holds⟩

theorem finds_throw {e : ε} : Finds (throw e : ExceptT ε (StateM σ) α) view v post := by
  rintro s rfl _ _ ⟨⟩

theorem finds_get : Finds (get : ExceptT ε (StateM σ) σ) view v fun s => view s = v := by
  rintro s rfl _ _ ⟨⟩
  exact ⟨rfl, rfl⟩

theorem Finds.seq (finds : Finds act view v post)
    (rest : ∀ a, post a → Finds (next a) view v later) : Finds (act >>= next) view v later := by
  intro s known b final ran
  simp only [ExceptT.run_bind, StateT.run_bind] at ran
  cases run : act.run.run s with
  | mk result after =>
      simp only [run] at ran
      cases result with
      | ok a =>
          obtain ⟨same, holds⟩ := finds s known a after run
          exact rest a holds after same b final ran
      | error e => cases ran

theorem Finds.tryCatch {handler : ε → ExceptT ε (StateM σ) α} (finds : Finds act view v post)
    (keeps : Keeps act view) (handled : ∀ e, Finds (handler e) view v post) :
    Finds (tryCatch act handler) view v post := by
  intro s known a final ran
  have kept := keeps s
  change (ExceptT.tryCatch act handler).run.run s = _ at ran
  simp only [ExceptT.tryCatch, ExceptT.run_mk, StateT.run_bind] at ran
  cases run : act.run.run s with
  | mk result after =>
      have reached : StateT.run act s = (result, after) := run
      rw [reached] at ran
      rw [run] at kept
      cases result with
      | ok b =>
          obtain ⟨same, holds⟩ := finds s known b after run
          cases ran
          exact ⟨same, holds⟩
      | error e => exact handled e after (kept.trans known) a final ran

end Keeping

/-! ## Rosters -/

/-- What of a device stays the same while it is used. -/
structure Listing where
  bus : UInt8
  address : UInt8
  vendorId : UInt16
  productId : UInt16
  present : Bool
  deriving DecidableEq, Repr

def BusDevice.listing (device : BusDevice) : Listing where
  bus := device.bus
  address := device.address
  vendorId := device.vendorId
  productId := device.productId
  present := device.present

structure Roster where
  devices : List Listing
  events : List PlugEvent
  deriving DecidableEq, Repr

def Bus.roster (bus : Bus) : Roster := ⟨bus.devices.map BusDevice.listing, bus.events⟩

def Roster.device (roster : Roster) (n : Nat) : Listing :=
  roster.devices.getD n ({} : BusDevice).listing

/-- Device `n` is on the bus and has these identifiers. -/
structure Roster.Offers (roster : Roster) (vendor product : UInt16) (n : Nat) : Prop where
  listed : n < roster.devices.length
  present : (roster.device n).present = true
  vendor : (roster.device n).vendorId = vendor
  product : (roster.device n).productId = product

namespace Bus

theorem roster_device (bus : Bus) (n : Nat) : bus.roster.device n = (bus.device n).listing := by
  simp [roster, Roster.device, device]

theorem roster_modifyDevice (bus : Bus) (n : Nat) {f : BusDevice → BusDevice}
    (same : ∀ d, (f d).listing = d.listing) : (bus.modifyDevice n f).roster = bus.roster := by
  have kept : (bus.devices.modify n f).map BusDevice.listing =
      bus.devices.map BusDevice.listing := by
    induction bus.devices generalizing n with
    | nil => simp
    | cons d devices ih => cases n <;> simp [same, ih]
  simp only [roster, modifyDevice, kept]

variable (n : Nat)

theorem keeps_onDevice {f : BusDevice → BusDevice} (same : ∀ d, (f d).listing = d.listing) :
    Keeps (onDevice n f) roster :=
  keeps_modify fun bus => bus.roster_modifyDevice n same

theorem keeps_mayFail (call : BusCallName) : Keeps (mayFail call) roster := by
  refine keeps_get.seq fun bus => ?_
  dsimp only
  refine Keeps.seq (keeps_modify fun _ => rfl) fun _ => ?_
  split
  · exact keeps_throw _
  · exact keeps_pure _

theorem keeps_deviceMayFail (call : BusCallName) : Keeps (deviceMayFail n call) roster := by
  have queued (errors : ErrorQueue) : Keeps (onDevice n fun d => { d with errors }) roster :=
    keeps_onDevice n fun _ => rfl
  refine keeps_get.seq fun bus => (queued _).seq fun _ => ?_
  split
  · exact keeps_throw _
  · exact keeps_pure _

theorem keeps_record (entry : BusCall) : Keeps (record entry) roster := keeps_modify fun _ => rfl

theorem keeps_call (name : BusCallName) (entry : BusCall) : Keeps (call n name entry) roster :=
  (keeps_record entry).seq fun _ => keeps_get.seq fun _ =>
    keeps_unless (keeps_deviceMayFail n name)

theorem keeps_list : Keeps list roster :=
  (keeps_mayFail _).seq fun _ => keeps_get.seq fun _ => keeps_pure _

theorem keeps_deviceDescriptor : Keeps (deviceDescriptor n) roster :=
  (keeps_deviceMayFail n _).seq fun _ => keeps_get.seq fun _ => keeps_pure _

theorem keeps_configDescriptor (index : UInt8) : Keeps (configDescriptor n index) roster := by
  refine (keeps_deviceMayFail n _).seq fun _ => keeps_get.seq fun bus => ?_
  split
  · exact keeps_either (keeps_pure _) (keeps_throw _)
  · exact keeps_throw _

/-! ## Open devices -/

theorem keeps_openDevice : Keeps (openDevice n) roster :=
  keeps_get.seq fun _ => keeps_call n _ _

theorem keeps_getConfiguration : Keeps (getConfiguration n) roster :=
  (keeps_call n _ _).seq fun _ => keeps_get.seq fun _ => keeps_pure _

theorem keeps_setConfiguration (value : UInt8) : Keeps (setConfiguration n value) roster :=
  (keeps_call n _ _).seq fun _ => keeps_onDevice n fun _ => rfl

theorem keeps_kernelDriverActive (interface : UInt8) :
    Keeps (kernelDriverActive n interface) roster :=
  (keeps_call n _ _).seq fun _ => keeps_get.seq fun _ => keeps_pure _

theorem keeps_detach (interface : UInt8) : Keeps (detach n interface) roster :=
  (keeps_call n _ _).seq fun _ => keeps_onDevice n fun _ => rfl

theorem keeps_attach (interface : UInt8) : Keeps (attach n interface) roster :=
  (keeps_call n _ _).seq fun _ => keeps_onDevice n fun _ => rfl

theorem keeps_claim (interface : UInt8) : Keeps (claim n interface) roster :=
  (keeps_call n _ _).seq fun _ => keeps_get.seq fun _ =>
    keeps_unless (keeps_onDevice n fun _ => rfl)

theorem keeps_unclaim (interface : UInt8) : Keeps (unclaim n interface) roster :=
  (keeps_call n _ _).seq fun _ => keeps_get.seq fun _ =>
    keeps_unless (keeps_onDevice n fun _ => rfl)

theorem keeps_altSetting (interface alternate : UInt8) :
    Keeps (altSetting n interface alternate) roster :=
  (keeps_call n _ _).seq fun _ => keeps_get.seq fun _ =>
    keeps_either (keeps_throw _) (keeps_pure _)

theorem keeps_clearHalt (endpoint : UInt8) : Keeps (clearHalt n endpoint) roster :=
  keeps_call n _ _

theorem keeps_controlOut (request : ControlRequest) (timeout : Nat) :
    Keeps (controlOut n request timeout) roster :=
  keeps_unless ((keeps_call n _ _).seq fun _ =>
    keeps_either (keeps_onDevice n fun _ => rfl) (keeps_pure _))

theorem keeps_controlIn (type request : UInt8) (value index : UInt16) (length timeout : Nat) :
    Keeps (controlIn n type request value index length timeout) roster := by
  refine keeps_unless ((keeps_call n _ _).seq fun _ => keeps_get.seq fun bus => ?_)
  split
  · exact keeps_pure _
  · exact keeps_throw _

theorem keeps_inbound (queue : List (Except BusError Bytes)) (length : Nat) :
    Keeps (inbound queue length) roster := by
  unfold inbound
  split
  · exact keeps_throw _
  · exact keeps_throw _
  · exact keeps_either (keeps_throw _) (keeps_pure _)

theorem keeps_bulkIn (endpoint : UInt8) (length timeout : Nat) :
    Keeps (bulkIn n endpoint length timeout) roster := by
  refine keeps_unless ((keeps_call n _ _).seq fun _ => keeps_get.seq fun _ =>
    keeps_unless (Keeps.seq ?_ fun _ => keeps_inbound _ _))
  exact keeps_onDevice n fun _ => rfl

theorem keeps_interruptIn (endpoint : UInt8) (length timeout : Nat) :
    Keeps (interruptIn n endpoint length timeout) roster := by
  refine keeps_unless ((keeps_call n _ _).seq fun _ => keeps_get.seq fun _ =>
    keeps_unless (Keeps.seq ?_ fun _ => keeps_inbound _ _))
  exact keeps_onDevice n fun _ => rfl

theorem keeps_bulkOut (endpoint : UInt8) (data : Bytes) (timeout : Nat) :
    Keeps (bulkOut n endpoint data timeout) roster :=
  keeps_unless ((keeps_call n _ _).seq fun _ => keeps_pure _)

theorem keeps_portNumbers : Keeps (portNumbers n) roster :=
  (keeps_deviceMayFail n _).seq fun _ => keeps_get.seq fun _ => keeps_pure _

/-! ## Finding a device -/

variable {roster : Roster} (vendor product : UInt16)

theorem finds_list : Finds list Bus.roster roster fun found =>
    ∀ n ∈ found, n < roster.devices.length ∧ (roster.device n).present = true := by
  refine (keeps_mayFail _).finds.seq fun _ _ => finds_get.seq fun bus known => finds_pure ?_
  subst known
  intro n found
  rw [List.mem_filter, List.mem_range] at found
  rw [roster_device]
  exact ⟨by simpa [Bus.roster] using found.1, found.2⟩

theorem finds_deviceDescriptor (n : Nat) : Finds (deviceDescriptor n) Bus.roster roster fun d =>
    d.listing = roster.device n := by
  refine (keeps_deviceMayFail n _).finds.seq fun _ _ => finds_get.seq fun bus known =>
    finds_pure ?_
  rw [← known, roster_device]

theorem finds_find? (numbers : List Nat) :
    Finds (find? vendor product numbers) Bus.roster roster fun found =>
      ∀ n, found = some n → n ∈ numbers ∧ (roster.device n).vendorId = vendor ∧
        (roster.device n).productId = product := by
  induction numbers with
  | nil => exact finds_pure nofun
  | cons n rest ih =>
      have keeps : Keeps (do
          let d ← deviceDescriptor n
          return d.vendorId == vendor && d.productId == product) Bus.roster :=
        (keeps_deviceDescriptor n).seq fun _ => keeps_pure _
      have tested : Finds (tryCatch (do
          let d ← deviceDescriptor n
          return d.vendorId == vendor && d.productId == product) fun _ => return false)
          Bus.roster roster fun matched => matched = true →
            (roster.device n).vendorId = vendor ∧ (roster.device n).productId = product := by
        refine Finds.tryCatch ((finds_deviceDescriptor n).seq fun d same => finds_pure ?_) keeps
          fun _ => finds_pure nofun
        rw [← same]
        simp [BusDevice.listing]
      refine tested.seq fun matched same => ?_
      -- The list is searched from its head, and the first match is taken.
      split
      · rename_i hit
        refine finds_pure ?_
        rintro _ ⟨⟩
        exact ⟨List.mem_cons_self, same hit⟩
      · refine ih.imp fun found searched n' hit => ?_
        obtain ⟨later, ids⟩ := searched n' hit
        exact ⟨List.mem_cons_of_mem _ later, ids⟩

theorem finds_openLink : Finds (openLink vendor product) Bus.roster roster fun handle =>
    roster.Offers vendor product handle.device := by
  refine (finds_list).seq fun numbers present => (finds_find? vendor product numbers).seq
    fun found matched => ?_
  cases found with
  | none => exact finds_throw
  | some n =>
      obtain ⟨listed, ids⟩ := matched n rfl
      refine (keeps_openDevice n).finds.seq fun _ _ => finds_get.seq fun _ _ => finds_pure ?_
      exact ⟨(present n listed).1, (present n listed).2, ids.1, ids.2⟩

theorem keeps_find? (numbers : List Nat) : Keeps (find? vendor product numbers) Bus.roster := by
  induction numbers with
  | nil => exact keeps_pure _
  | cons n rest ih =>
      exact (((keeps_deviceDescriptor n).seq fun _ => keeps_pure _).tryCatch
        fun _ => keeps_pure _).seq fun _ => keeps_either (keeps_pure _) ih

theorem keeps_openLink : Keeps (openLink vendor product) Bus.roster := by
  refine keeps_list.seq fun _ => (keeps_find? vendor product _).seq fun found => ?_
  cases found with
  | none => exact keeps_throw _
  | some n => exact (keeps_openDevice n).seq fun _ => keeps_get.seq fun _ => keeps_pure _

end Bus

/-! ## Holders -/

namespace Holder

variable {σ α γ : Type} {view : Holder σ → γ}

theorem keeps_attempt {act : HolderAct σ α} (keeps : Keeps act view) : Keeps (attempt act) view :=
  keeps.discard.tryCatch fun _ => keeps_pure _

variable [UsbStack σ]

theorem keeps_selectInterface
    (asked : ∀ i, Keeps (onStack (UsbStack.kernelDriverActive i)) view)
    (called : ∀ call, Keeps (perform call) view) (noted : ∀ f, Keeps (onAccount f) view)
    (s : Selection) : Keeps (selectInterface s) view := by
  have freed : Keeps (freeInterface s.interface) view :=
    ((asked _).tryCatch fun _ => keeps_pure _).seq fun _ =>
      keeps_either (keeps_attempt (called _)) (keeps_pure _)
  have chosen : Keeps (if s.alternate != 0 then perform (.choose s.interface s.alternate)
      else pure ()) view :=
    keeps_either (called _) (keeps_pure _)
  refine freed.seq fun _ => keeps_get.seq fun holder => keeps_either ?_ chosen
  exact (called _).seq fun _ => (noted _).seq fun _ => chosen

theorem keeps_pipesFor (counted : Keeps (onStack UsbStack.configurations) view)
    (read : ∀ index, Keeps (readConfig index) view) (value : UInt8) (s : Selection) :
    Keeps (pipesFor value s) view := by
  have found (indices : List UInt8) : Keeps (pipesIn value s indices) view := by
    induction indices with
    | nil => exact keeps_throw _
    | cons index rest ih => exact (read index).seq fun _ => keeps_either ih (keeps_pure _)
  exact counted.seq fun _ => found _

end Holder

/-! ## Links -/

namespace Link

/-- The roster, and which device on it the link is to. -/
def place (link : Link) : Roster × Nat := (link.bus.roster, link.handle.device)

variable {α : Type}

theorem keeps_onBus {f : Nat → BusAct α} (keeps : ∀ n, Keeps (f n) Bus.roster) :
    Keeps (onBus f) place :=
  fun link => congrArg (·, link.handle.device) (keeps link.handle.device link.bus)

theorem keeps_attempt {act : LinkAct α} (keeps : Keeps act place) : Keeps (attempt act) place :=
  keeps.discard.tryCatch fun _ => keeps_pure _

theorem keeps_claim (interface : UInt8) : Keeps (claim interface) place :=
  (keeps_onBus fun n => Bus.keeps_claim n interface).seq fun _ => keeps_modify fun _ => rfl

theorem keeps_unclaim (interface : UInt8) : Keeps (unclaim interface) place :=
  (keeps_onBus fun n => Bus.keeps_unclaim n interface).seq fun _ => keeps_modify fun _ => rfl

theorem keeps_perform (call : InterfaceCall) : Keeps (perform call) place := by
  cases call with
  | detach interface => exact keeps_onBus fun n => Bus.keeps_detach n interface
  | attach interface => exact keeps_onBus fun n => Bus.keeps_attach n interface
  | claim interface => exact keeps_claim interface
  | unclaim interface => exact keeps_unclaim interface
  | choose interface alternate => exact keeps_onBus fun n => Bus.keeps_altSetting n _ _

def stackPlace (holder : Holder Link) : Roster × Nat := holder.stack.place

theorem keeps_held {act : HolderAct Link α} (keeps : Keeps act stackPlace) :
    Keeps (held act) place :=
  fun link => keeps link.holder

theorem keeps_onStack {act : LinkAct α} (keeps : Keeps act place) :
    Keeps (Holder.onStack act.run.run) stackPlace :=
  fun holder => keeps holder.stack

theorem keeps_called (call : InterfaceCall) :
    Keeps (Holder.perform call : HolderAct Link Unit) stackPlace :=
  fun holder => keeps_perform call holder.stack

theorem keeps_readConfig (index : UInt8) :
    Keeps (Holder.readConfig index : HolderAct Link Bytes) stackPlace :=
  (keeps_onStack (keeps_onBus fun n => Bus.keeps_configDescriptor n index)).seq fun _ =>
    Keeps.seq (keeps_modify fun _ => rfl) fun _ => keeps_pure _

theorem keeps_select (value : UInt8) (selections : List Selection) :
    Keeps (select value selections) place := by
  have asked (i : UInt8) : Keeps (Holder.onStack (UsbStack.kernelDriverActive i)) stackPlace :=
    keeps_onStack (keeps_onBus fun n => Bus.keeps_kernelDriverActive n i)
  have counted : Keeps (Holder.onStack UsbStack.configurations) stackPlace :=
    keeps_onStack ((keeps_onBus Bus.keeps_deviceDescriptor).map _)
  have selects (s : Selection) : Keeps (Holder.selectInterface s) stackPlace :=
    Holder.keeps_selectInterface asked keeps_called (fun _ => keeps_modify fun _ => rfl) s
  have finds (s : Selection) : Keeps (Holder.pipesFor value s) stackPlace :=
    Holder.keeps_pipesFor counted keeps_readConfig value s
  have selected : Keeps (do
      selections.forM Holder.selectInterface
      return (← selections.mapM (Holder.pipesFor value)).flatten) stackPlace :=
    (keeps_forM _ selects).seq fun _ => (keeps_mapM _ finds).seq fun _ => keeps_pure _
  have current : Keeps (Holder.onStack UsbStack.getConfiguration) stackPlace :=
    keeps_onStack (keeps_onBus Bus.keeps_getConfiguration)
  refine keeps_held (Keeps.seq ((current.map _).tryCatch fun _ => keeps_pure _) fun active =>
    keeps_either ?_ selected)
  exact (keeps_onStack (keeps_onBus fun n => Bus.keeps_setConfiguration n value)).seq
    fun _ => selected

theorem keeps_release : Keeps release place := by
  refine keeps_held (keeps_get.seq fun holder => Keeps.seq (keeps_modify fun _ => rfl) fun _ =>
    keeps_forM _ fun interface => ?_)
  exact (Holder.keeps_attempt (keeps_called _)).seq fun _ => Holder.keeps_attempt (keeps_called _)

theorem keeps_close : Keeps close place :=
  keeps_release.seq fun _ => keeps_get.seq fun _ =>
    (keeps_forM _ fun _ => keeps_attempt (keeps_unclaim _)).seq fun _ =>
      keeps_onBus fun _ => Bus.keeps_record _

theorem place_answer {act : LinkAct α} (keeps : Keeps act place) (link : Link) :
    (answer act link).2.place = link.place := keeps link

/-- A call to the host changes nothing on the roster. -/
theorem place_of_called {link after : Link} (called : Host.Called link after) :
    after.place = link.place := by
  cases called with
  | getDescriptor kind index language length =>
      exact place_answer (keeps_onBus fun n => Bus.keeps_controlIn n _ _ _ _ _ _) link
  | selectConfiguration value interfaces => exact place_answer (keeps_select _ _) link
  | releaseInterfaces => exact place_answer keeps_release link
  | bulkIn endpoint length timeout =>
      exact place_answer (keeps_onBus fun n => Bus.keeps_bulkIn n _ _ _) link
  | bulkOut endpoint data timeout =>
      exact place_answer (keeps_onBus fun n => Bus.keeps_bulkOut n _ _ _) link
  | interruptIn endpoint length timeout =>
      exact place_answer (keeps_onBus fun n => Bus.keeps_interruptIn n _ _ _) link
  | resetPipe endpoint =>
      exact place_answer (keeps_onBus fun n => Bus.keeps_clearHalt n _) link
  | controlOut request =>
      exact place_answer (keeps_onBus fun n => Bus.keeps_controlOut n _ _) link
  | setIdle idle => exact place_answer (keeps_attempt (keeps_onBus Bus.keeps_portNumbers)) link
  | startLoop | stopLoop => rfl

theorem place_of_reaches {F : Footprint} {before after : Session Link}
    (reaches : F.Reaches before after) : after.host.place = before.host.place := by
  have calls := reaches.calls
  generalize after.host = link at calls ⊢
  induction calls with
  | refl => rfl
  | tail _ called ih => exact (place_of_called called).trans ih

end Link

end ModemLink
