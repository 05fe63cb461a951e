import Mathlib.Data.List.Induction
import ModemLink.Proofs.Session.Scope
import ModemLink.Scripted

/-!
# Sleep cycles

The system levels asked for in a run, cut at the awake ones, are its sleep cycles. Each cycle that
gets as deep as S3 deregisters the modem once, at its first such level.
-/

namespace ModemLink

open Act Footprint

variable {η α : Type}

/-! ## Cutting a list -/

/-- An element that is not cut at goes to the last piece. -/
theorem splitOnP_concat (cuts : α → Bool) (xs : List α) :
    ∃ pieces last, xs.splitOnP cuts = pieces ++ [last] ∧
      ∀ x, cuts x = false → (xs ++ [x]).splitOnP cuts = pieces ++ [last ++ [x]] := by
  induction xs with
  | nil =>
      exact ⟨[], [], rfl, fun x stays => by simp [List.splitOnP_cons_eq_if_modifyHead, stays]⟩
  | cons y ys ih =>
      obtain ⟨pieces, last, before, after⟩ := ih
      cases cut : cuts y with
      | true =>
          refine ⟨[] :: pieces, last, ?_, fun x stays => ?_⟩
          · simp [List.splitOnP_cons_eq_if_modifyHead, cut, before]
          · simp [List.splitOnP_cons_eq_if_modifyHead, cut, after x stays]
      | false =>
          cases pieces with
          | nil =>
              refine ⟨[], y :: last, ?_, fun x stays => ?_⟩
              · simp [List.splitOnP_cons_eq_if_modifyHead, cut, before]
              · simp [List.splitOnP_cons_eq_if_modifyHead, cut, after x stays]
          | cons first pieces =>
              refine ⟨(y :: first) :: pieces, last, ?_, fun x stays => ?_⟩
              · simp [List.splitOnP_cons_eq_if_modifyHead, cut, before]
              · simp [List.splitOnP_cons_eq_if_modifyHead, cut, after x stays]

/-! ## Cycles -/

/-- The system level that is asked for. -/
def Happening.systemLevel? : Happening → Option SystemPower
  | .operation (.power (.setSystem level)) => some level
  | _ => none

/-- The system levels asked for, in order. -/
def systemLevels (happenings : List Happening) : List SystemPower :=
  happenings.filterMap Happening.systemLevel?

def sleepCycles (levels : List SystemPower) : List (List SystemPower) :=
  levels.splitOnP SystemPower.isAwake

/-- The cycle that the levels end in. -/
def currentCycle (levels : List SystemPower) : List SystemPower := (sleepCycles levels).getLastD []

/-- Does the cycle get as deep as S3? -/
def isDeepCycle (cycle : List SystemPower) : Bool := cycle.any SystemPower.isDeepSleep

/-- What a session keeps of its sleep cycles. -/
structure SleepRecord where
  prepared : Bool
  sent : Bool
  deregistrations : Nat

def SleepRecord.ask (r : SleepRecord) (level : SystemPower) : SleepRecord :=
  if level.isAwake then { r with prepared := false, sent := false }
  else if level.isDeepSleep then
    ⟨true, true, if r.sent then r.deregistrations else r.deregistrations + 1⟩
  else r

def Event.isDeregistration : Event → Bool
  | .notify .deregistration => true
  | _ => false

theorem Event.isDeregistration_iff {event : Event} :
    event.isDeregistration = true ↔ event = .notify .deregistration := by
  constructor
  · intro deregisters
    unfold isDeregistration at deregisters
    split at deregisters
    · rfl
    · cases deregisters
  · rintro rfl
    rfl

theorem SleepRecord.ask_deregistrations (r : SleepRecord) (level : SystemPower) :
    (r.ask level).deregistrations =
      r.deregistrations + if level.isDeepSleep && !r.sent then 1 else 0 := by
  cases level <;> cases sent : r.sent <;>
    simp [ask, SystemPower.isAwake, SystemPower.isDeepSleep, SystemPower.depth, sent]

namespace Session

def deregistrations (session : Session η) : Nat :=
  session.trace.toList.countP Event.isDeregistration

def sleepRecord (session : Session η) : SleepRecord where
  prepared := session.device.power.prepareToPowerDown
  sent := session.device.power.deregistrationSent
  deregistrations := session.deregistrations

theorem exec_setSystemPower (session : Session η) (level : SystemPower) :
    ((setSystemPower level : Act η Unit).exec session).2 =
      { session with
        device := { session.device with
          power := session.device.power.setSystem level
          queues :=
            if level.isDeepSleep then session.device.queues.flush else session.device.queues }
        trace :=
          if level.isDeepSleep && !session.device.power.deregistrationSent then
            session.trace.push (.notify .deregistration)
          else session.trace } := by
  unfold setSystemPower onPower
  rw [exec_bind_ok (exec_device session)]
  dsimp only
  rw [exec_bind_ok (exec_onDevice _ _)]
  cases level.isDeepSleep with
  | false => rfl
  | true => cases session.device.power.deregistrationSent <;> rfl

end Session

variable [Host η]

theorem Footprint.misses_sleepRecord {F : Footprint} (system : ¬F.touches .system)
    (told : ¬F.touches (.event (.notify .deregistration))) :
    F.Misses (Session.sleepRecord : Session η → SleepRecord) := by
  have counted : F.Misses (Session.deregistrations : Session η → Nat) := by
    refine misses_countP fun event deregisters => ?_
    obtain rfl := Event.isDeregistration_iff.mp deregisters
    exact told
  intro change s t allowed makes
  have same := counted allowed makes
  cases makes with
  | system => exact absurd allowed system
  | _ => simp [Session.sleepRecord, same]

namespace Session

/-! ## Steps -/

theorem setSystem_sleepRecord (session : Session η) (level : SystemPower) :
    (session.after (.power (.setSystem level))).sleepRecord = session.sleepRecord.ask level := by
  change sleepRecord ((setSystemPower level : Act η Unit).exec session).2 = _
  rw [exec_setSystemPower]
  cases level <;> cases sent : session.device.power.deregistrationSent <;>
    simp [sleepRecord, deregistrations, SleepRecord.ask, PowerRecord.setSystem,
      SystemPower.isAwake, SystemPower.isDeepSleep, SystemPower.depth, sent, List.countP_singleton,
      Event.isDeregistration]

theorem next_sleepRecord_of_asked (session : Session η) {happening : Happening}
    {level : SystemPower} (asked : happening.systemLevel? = some level) :
    (session.next happening).sleepRecord = session.sleepRecord.ask level := by
  cases happening with
  | operation operation =>
      cases operation with
      | power request =>
          cases request with
          | setSystem level' =>
              cases asked
              exact setSystem_sleepRecord session level
          | _ => cases asked
      | _ => cases asked
  | _ => cases asked

/-- Nothing but a system request goes into the record. -/
theorem next_sleepRecord (session : Session η) {happening : Happening}
    (other : happening.systemLevel? = none) :
    (session.next happening).sleepRecord = session.sleepRecord := by
  obtain same | ⟨operation, rfl⟩ := next_of_misses (misses_sleepRecord id nofun) session happening
  · exact same
  · let F := (operating η).allowing (.event (.notify .deviceRemoved))
    have within : (operation.perform : Act η Unit).Within F := by
      refine within_perform operation (fun _ => .inl rfl) ?_
      rintro level rfl
      cases other
    have unaware : F.Misses (sleepRecord : Session η → SleepRecord) :=
      misses_sleepRecord (by simp [F, allowing, operating, shifting, waking, serving, launching])
        (by simp [F, allowing, operating]; decide)
    exact unaware.reaches (within session).1

/-! ## Runs -/

/-- The record is that of the cycles of these levels. -/
structure Recounts (levels : List SystemPower) (r : SleepRecord) : Prop where
  prepared : r.prepared = isDeepCycle (currentCycle levels)
  sent : r.sent = isDeepCycle (currentCycle levels)
  deregistrations : r.deregistrations = (sleepCycles levels).countP isDeepCycle

theorem Recounts.ask {levels : List SystemPower} {r : SleepRecord} (recounts : Recounts levels r)
    (level : SystemPower) : Recounts (levels ++ [level]) (r.ask level) := by
  obtain ⟨prepared, sent, count⟩ := r
  obtain ⟨rfl, rfl, rfl⟩ := recounts
  obtain ⟨pieces, last, before, after⟩ := splitOnP_concat SystemPower.isAwake levels
  have cycles : sleepCycles levels = pieces ++ [last] := before
  have current : currentCycle levels = last := by simp [currentCycle, cycles]
  cases awake : level.isAwake with
  | true =>
      -- The cycle that the level ends stays, and an empty one begins.
      have grown : sleepCycles (levels ++ [level]) = sleepCycles levels ++ [[]] :=
        List.splitOnP_append_cons levels [] awake
      have begun : currentCycle (levels ++ [level]) = [] := by simp [currentCycle, grown]
      constructor <;> simp [SleepRecord.ask, awake, begun, grown, isDeepCycle]
  | false =>
      have grown : sleepCycles (levels ++ [level]) = pieces ++ [last ++ [level]] :=
        after level awake
      have lengthened : currentCycle (levels ++ [level]) = last ++ [level] := by
        simp [currentCycle, grown]
      cases deep : level.isDeepSleep <;> cases already : last.any SystemPower.isDeepSleep <;>
        constructor <;>
        simp [SleepRecord.ask, awake, deep, cycles, current, grown, lengthened, isDeepCycle,
          already]

theorem through_recounts (key : AdapterKey) (host : η) (store : Store) (options : SessionOptions)
    (happenings : List Happening) :
    Recounts (systemLevels happenings)
      ((create key host store options).through happenings).sleepRecord := by
  induction happenings using List.reverseRecOn with
  | nil => exact ⟨rfl, rfl, rfl⟩
  | append_singleton happenings happening ih =>
      rw [through, List.foldl_append]
      change Recounts _ (next (through _ happenings) happening).sleepRecord
      cases asked : happening.systemLevel? with
      | none =>
          have same : systemLevels (happenings ++ [happening]) = systemLevels happenings := by
            simp [systemLevels, asked]
          rwa [next_sleepRecord _ asked, same]
      | some level =>
          have grown : systemLevels (happenings ++ [happening]) =
              systemLevels happenings ++ [level] := by
            simp [systemLevels, asked]
          rw [grown, next_sleepRecord_of_asked _ asked]
          exact ih.ask level

/-- A run deregisters the modem as often as it has deep cycles, each time at the first deep level
of the cycle; the device is prepared to lose power just in a deep cycle, and a deep level leaves
nothing to send. -/
theorem deregisters_once_per_cycle (key : AdapterKey) (host : η) (store : Store)
    (options : SessionOptions) (happenings : List Happening) :
    let session := (create key host store options).through happenings
    let levels := systemLevels happenings
    session.deregistrations = (sleepCycles levels).countP isDeepCycle ∧
      session.device.power.prepareToPowerDown = isDeepCycle (currentCycle levels) ∧
      (∀ happening : Happening, (session.next happening).deregistrations =
        session.deregistrations +
          if happening.systemLevel?.any SystemPower.isDeepSleep &&
            !isDeepCycle (currentCycle levels) then 1 else 0) ∧
      ∀ level : SystemPower, level.isDeepSleep = true →
        (session.after (.power (.setSystem level))).device.queues.write = [] ∧
          (session.after (.power (.setSystem level))).device.queues.control = [] := by
  intro session levels
  have recounts : Recounts levels session.sleepRecord :=
    through_recounts key host store options happenings
  refine ⟨recounts.deregistrations, recounts.prepared, fun happening => ?_, fun level deep => ?_⟩
  · change (session.next happening).sleepRecord.deregistrations = _
    cases asked : happening.systemLevel? with
    | none =>
        rw [next_sleepRecord _ asked]
        rfl
    | some level =>
        have sent : session.sleepRecord.sent = isDeepCycle (currentCycle levels) := recounts.sent
        rw [next_sleepRecord_of_asked _ asked, ← sent, Option.any_some]
        exact SleepRecord.ask_deregistrations _ level
  · change (((setSystemPower level : Act η Unit).exec session).2).device.queues.write = [] ∧
      (((setSystemPower level : Act η Unit).exec session).2).device.queues.control = []
    rw [exec_setSystemPower]
    simp [deep, Queues.flush]

theorem deregisters_once_per_cycle_around_restart :
    let happenings : List Happening :=
      [.operation .start, .operation .open, .operation (.send .data [1, 2, 3]),
        .operation (.power (.setSystem .sleeping1)), .operation (.power (.setSystem .sleeping3)),
        .operation (.power (.setDevice .d3)), .operation (.power (.setSystem .hibernate)),
        .operation (.power (.setSystem .working)), .operation (.power (.setDevice .d0)),
        .operation (.power (.setSystem .sleeping3))]
    let session := (create ⟨220, 17, 0⟩ ({} : ScriptedModem) {} {}).through happenings
    session.deregistrations = 2 ∧
      (session.after (.power (.setSystem .hibernate))).device.queues.write = [] := by
  intro happenings session
  have cycles : (sleepCycles (systemLevels happenings)).countP isDeepCycle = 2 := by
    decide +kernel
  have deep : SystemPower.hibernate.isDeepSleep = true := by decide
  have once := deregisters_once_per_cycle ⟨220, 17, 0⟩ ({} : ScriptedModem) {} {} happenings
  clear_value happenings
  exact ⟨once.1.trans cycles, (once.2.2.2 .hibernate deep).1⟩

end Session

end ModemLink
