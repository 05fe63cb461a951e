import ModemLink.Proofs.Session.Invariant
import ModemLink.Scripted

/-!
# Loops along the lifecycle

The dispatch loop is live in the started states and in no other, and the data loops are live at most
while a client is attached. Any loop may fail to start.
-/

namespace ModemLink

namespace Core

/-- As long as every stop succeeds, the loops follow the lifecycle. -/
structure Follows (c : Core) : Prop where
  dispatch : c.stopFailed = false → c.live .dispatch = c.lifecycle.isStarted
  data : c.stopFailed = false → c.lifecycle.inService = false →
    c.live .read = false ∧ c.live .write = false

namespace Follows

variable {c d : Core} {level : DevicePower} {result : Except DriverError Unit}

/-! ## Moves -/

/-- All loops stopped, and a lifecycle that is not started. -/
theorem halted {before lifecycle : Lifecycle}
    (halts : ({ c with lifecycle := before } : Core).Halts d)
    (unstarted : lifecycle.isStarted = false) : ({ d with lifecycle } : Core).Follows := by
  obtain ⟨live, startFailed, stopFailed, start, stop⟩ := halts
  refine ⟨fun stopped => ?_, fun stopped _ => ?_⟩
  · exact ((stop stopped).2 .dispatch).trans unstarted.symm
  · exact ⟨(stop stopped).2 .read, (stop stopped).2 .write⟩

theorem halts (halts : c.Halts d) (unstarted : c.lifecycle.isStarted = false) : d.Follows :=
  halted halts (halts.lifecycle ▸ unstarted)

theorem start (follows : c.Follows) (name : LoopName) (other : name ≠ .dispatch)
    (allowed : name ≠ .interrupt → c.lifecycle.inService = true) : (c.start name).Follows := by
  refine ⟨fun stopped => ?_, fun stopped free => ?_⟩
  · rw [← show c.live .dispatch = (c.start name).lifecycle.isStarted from follows.dispatch stopped]
    simp [Core.start, other.symm]
  · obtain rfl : name = .interrupt := by
      by_contra data
      cases (allowed data).symm.trans free
    simpa [Core.start] using follows.data stopped free

theorem failStart (follows : c.Follows) : c.failStart.Follows := ⟨follows.dispatch, follows.data⟩

theorem stop (follows : c.Follows) (name : LoopName) (ok : Bool) (other : name ≠ .dispatch) :
    (c.stop name ok).Follows := by
  rw [stop_eq]
  cases ok with
  | false => exact ⟨fun stopped => by simp at stopped, fun stopped => by simp at stopped⟩
  | true =>
      refine ⟨fun stopped => ?_, fun stopped free => ?_⟩
      · have dispatch := follows.dispatch (by simpa using stopped)
        simpa [other.symm] using dispatch
      · obtain ⟨read, write⟩ := follows.data (by simpa using stopped) free
        cases name <;> simp [read, write]

theorem listening (follows : c.Follows) : c.listening.Follows := by
  unfold Core.listening
  split
  · exact follows.start .interrupt nofun fun data => absurd rfl data
  · exact follows

theorem serving (follows : c.Follows) (attached : c.lifecycle.inService = true) :
    c.serving.Follows :=
  (follows.start .read nofun fun _ => attached).start .write nofun fun _ => attached

theorem engaged (follows : c.Follows) (free : c.lifecycle = .started false) :
    c.engaged.Follows where
  dispatch stopped := (follows.dispatch stopped).trans (by rw [free]; rfl)
  data _ free := absurd free.symm Bool.false_ne_true

/-- A client may go once its loops are down. -/
theorem detached (follows : c.Follows) (started : c.lifecycle.isStarted = true)
    (down : c.stopFailed = false → c.live .read = false ∧ c.live .write = false) :
    c.detached.Follows where
  dispatch stopped := (follows.dispatch stopped).trans started
  data stopped _ := down stopped

/-- Of a client whose loops were not both started, only the read loop may be live. -/
theorem abandoned (follows : c.Follows) (ok : Bool) (started : c.lifecycle.isStarted = true)
    (down : c.stopFailed = false → c.live .write = false) :
    (c.stop .read ok).detached.Follows := by
  refine (follows.stop .read ok nofun).detached (by rw [stop_eq]; exact started) fun stopped => ?_
  simp only [stop_eq, Bool.or_eq_false_iff, Bool.not_eq_eq_eq_not, Bool.not_false] at stopped ⊢
  obtain ⟨before, rfl⟩ := stopped
  simpa using down before

/-! ## One case for each outcome -/

theorem starts (follows : c.Follows) (starts : c.Starts result d) : d.Follows := by
  cases starts with
  | already | refused => exact follows
  | undone e present halts => exact .halts halts (by rw [present]; rfl)
  | begun present =>
      have launched : c.launched.Follows := by
        refine Follows.listening ⟨fun _ => by simp [Core.start, Lifecycle.isStarted], ?_⟩
        intro stopped _
        simpa [Core.start] using follows.data stopped (by rw [present]; rfl)
      exact ⟨launched.dispatch, launched.data⟩

theorem attaches (follows : c.Follows) (attaches : c.Attaches result d) : d.Follows := by
  -- Before the client was attached its loops were down.
  have down (stopped : c.stopFailed = false) (free : c.lifecycle = .started false) :
      c.live .read = false ∧ c.live .write = false :=
    follows.data stopped (by rw [free]; rfl)
  cases attaches with
  | refused => exact follows
  | noRead e free ok =>
      exact (follows.engaged free).failStart.abandoned ok rfl fun stopped => (down stopped free).2
  | noWrite e free ok =>
      have tried := ((follows.engaged free).start .read nofun fun _ => rfl).failStart
      exact tried.abandoned ok rfl fun stopped => (down stopped free).2
  | attached free => exact (follows.engaged free).serving rfl

theorem resumes (follows : c.Follows) (resumes : c.Resumes result d) : d.Follows := by
  have lifecycle : c.listening.lifecycle = c.lifecycle := by rw [listening_eq]
  have attends (attached : c.lifecycle.inService = true) :
      c.listening.lifecycle.inService = true := by rwa [lifecycle]
  cases resumes with
  | noInterrupt => exact follows.failStart
  | noRead e attached => exact follows.listening.failStart
  | noWrite e attached =>
      exact (follows.listening.start .read nofun fun _ => attends attached).failStart
  | unattended free => exact ⟨follows.listening.dispatch, follows.listening.data⟩
  | attended attached =>
      have serving := follows.listening.serving (attends attached)
      exact ⟨serving.dispatch, serving.data⟩

theorem quiesces (follows : c.Follows) (quiesces : c.Quiesces d) : d.Follows := by
  cases quiesces with
  | already => exact follows
  | stopped high read write interrupt =>
      have suspending : c.suspending.Follows := ⟨follows.dispatch, follows.data⟩
      exact ((suspending.stop .read read nofun).stop .write write nofun).stop .interrupt interrupt
        nofun

theorem reinitializes (reinitializes : c.Reinitializes result d) : d.Follows := by
  have restarts {f g : Core} {result : Except DriverError Unit} (halts : c.Halts f)
      (starts : f.vacated.Starts result g) : g.Follows := by
    have vacant : ({ f with lifecycle := .present } : Core).Follows := halted halts rfl
    have vacated : f.vacated.Follows := ⟨vacant.dispatch, vacant.data⟩
    exact vacated.starts starts
  cases reinitializes with
  | refused e away unstarted halts => exact .halts halts unstarted
  | lost e halts starts => exact restarts halts starts
  | unattended free halts starts => exact restarts halts starts
  | attended attached halts starts attaches => exact (restarts halts starts).attaches attaches

theorem setsDevice (follows : c.Follows) (sets : c.SetsDevice level result d) : d.Follows := by
  have recorded : (c.recorded level).Follows := ⟨follows.dispatch, follows.data⟩
  cases sets with
  | vetoed => exact follows
  | recorded silent => exact recorded
  | standby signal quiesces => exact recorded.quiesces quiesces
  | wakeup signal resumes => exact recorded.resumes resumes
  | reset signal reinitializes => exact .reinitializes reinitializes

theorem closes (follows : c.Follows) (closes : c.Closes d) : d.Follows := by
  cases closes with
  | unattended => exact follows
  | detached attached write read =>
      have stopped := (follows.stop .write write nofun).stop .read read nofun
      refine stopped.detached ?_ fun clean => ?_
      · simp only [stop_eq, attached]
        rfl
      · simp only [stop_eq, Bool.or_eq_false_iff, Bool.not_eq_eq_eq_not, Bool.not_false] at clean ⊢
        obtain ⟨⟨-, rfl⟩, rfl⟩ := clean
        simp

theorem stable : Stable Follows fun _ _ => false where
  starts follows _ := follows.starts
  attaches follows _ := follows.attaches
  closes := closes
  halted _ := halted
  untimed follows := ⟨follows.dispatch, follows.data⟩
  idling follows := ⟨follows.dispatch, follows.data⟩
  setsSystem follows := ⟨follows.dispatch, follows.data⟩
  setsDevice follows _ := follows.setsDevice
  suspendable _ := rfl
  wakeable _ := rfl

end Follows

end Core

namespace Session

variable {η : Type}

theorem create_follows (key : AdapterKey) (host : η) (store : Store) (options : SessionOptions) :
    (create key host store options).core.Follows :=
  ⟨fun _ => rfl, fun _ _ => ⟨rfl, rfl⟩⟩

variable [Host η]

/-- Whatever the host answers and whichever loops fail to start, the dispatch loop is live exactly
while the device is started, and a data loop only while a client is attached, as long as every stop
succeeds. -/
theorem loops_follow_lifecycle (key : AdapterKey) (host : η) (store : Store)
    (options : SessionOptions) (happenings : List Happening) {session : Session η}
    (reached : (create key host store options).through happenings = session)
    (stops : session.trace.any Event.isFailedStop = false) :
    ((session.loops.get .dispatch).live = true ↔ session.device.lifecycle.isStarted = true) ∧
      ∀ name, name = .read ∨ name = .write → (session.loops.get name).live = true →
        session.device.lifecycle = .started true := by
  have follows : session.core.Follows := by
    rw [← reached]
    exact through_stable Core.Follows.stable _ happenings (create_follows key host store options)
      (avoids_never _ happenings)
  refine ⟨?_, fun name data live => ?_⟩
  · rw [show (session.loops.get .dispatch).live = _ from follows.dispatch stops]
    rfl
  · refine Lifecycle.inService_iff.mp (by_contra fun free => ?_)
    obtain ⟨read, write⟩ := follows.data stops (Bool.eq_false_iff.mpr free)
    obtain rfl | rfl := data
    · cases read.symm.trans live
    · cases write.symm.trans live

/-- A device whose write loop cannot be started is opened in vain, put to sleep with the system and
started anew. -/
theorem loops_follow_lifecycle_without_write :
    let session := (create ⟨220, 9, 0⟩ ({ startFails := [.write] } : ScriptedModem) {} {}).run
      [.start, .open, .power (.setSystem .sleeping3), .power (.setDevice .d3),
        .power (.setSystem .working), .power (.setDevice .d0), .open]
    ((session.loops.get .dispatch).live = true ↔ session.device.lifecycle.isStarted = true) ∧
      ∀ name, name = .read ∨ name = .write → (session.loops.get name).live = true →
        session.device.lifecycle = .started true :=
  loops_follow_lifecycle _ _ _ _ _ (through_operations _ _) (by decide +kernel)

end Session

end ModemLink
