import ModemLink.Proofs.Service.Uninterrupted

/-!
# Stopping and starting a loop

A stop that was asked for is always in one place: in the signal channel, with the thread that took
it, or in the channel of acknowledgements. The owner clears that place before it lets go of the
thread, so nothing of one thread is left for the next.
-/

namespace ModemLink

def Signal.stop? : Signal → Option StopTag
  | .kick => none
  | .stop tag => some tag

/-- The way of a stop: where the thread is, the stops in its channel and the acknowledgements. -/
inductive Course (tag : StopTag) : ThreadStage → List StopTag → List StopTag → Prop
  | pending {stage : ThreadStage} (running : stage.isRunning = true) : Course tag stage [tag] []
  | closing : Course tag (.closing tag) [] []
  | leaving : Course tag .leaving [] [tag]
  | exited : Course tag .exited [] [tag]

theorem Course.answer {tag first : StopTag} {stage : ThreadStage}
    {stops acknowledged : List StopTag} (course : Course tag stage stops (first :: acknowledged)) :
    first = tag ∧ acknowledged = [] ∧ stops = [] ∧ (stage = .leaving ∨ stage = .exited) := by
  cases course <;> simp

theorem Course.ended {tag : StopTag} {stops acknowledged : List StopTag}
    (course : Course tag .exited stops acknowledged) : stops = [] ∧ acknowledged = [tag] := by
  cases course with
  | pending running => simp [ThreadStage.isRunning] at running
  | exited => exact ⟨rfl, rfl⟩

/-- The owner has no thread and is not about to get one back. -/
def Duty.isUnattended : Duty → Bool
  | idle | draining | launching | returned .start false | returned (.requestStop ..) _ => true
  | _ => false

/-- The owner has asked for a stop and still has the thread. -/
def Duty.hasAsked : Duty → Bool
  | returned (.requestStop _ false) _ | awaiting _ | joining _ => true
  | _ => false

namespace Handshake

variable {h : Handshake}

def stops (h : Handshake) : List StopTag := h.signals.filterMap Signal.stop?

/-- The stop that was asked for first while the last joined thread ran. -/
def lastAsked (former : List Spawned) : Option StopTag :=
  former.head?.bind fun thread => thread.asked.head?

inductive Phase (h : Handshake) : Prop
  | down (unowned : h.current = none) (duty : h.duty.isUnattended = true)
      (unasked : h.stopping = false) (pending : h.stops = []) (acknowledged : h.acknowledged = [])
      (closed : h.closedTag = lastAsked h.former) : Phase h
  | up {stage : ThreadStage} (owned : h.current = some { stage })
      (running : stage.isRunning = true) (duty : h.duty = .returned .start true)
      (unasked : h.stopping = false) (pending : h.stops = []) (acknowledged : h.acknowledged = [])
      (closed : h.closedTag = lastAsked h.former) : Phase h
  | stopping {thread : Spawned} {tag : StopTag} (owned : h.current = some thread)
      (first : thread.asked.head? = some tag) (duty : h.duty.hasAsked = true)
      (asked : h.stopping = true) (course : Course tag thread.stage h.stops h.acknowledged)
      (closed : h.closedTag = lastAsked h.former) : Phase h
  /-- The owner has the acknowledgement. -/
  | answered {thread : Spawned} {tag : StopTag} {call : OwnerCall}
      (owned : h.current = some thread) (first : thread.asked.head? = some tag)
      (duty : h.duty = .joining call) (asked : h.stopping = true)
      (gone : thread.stage = .leaving ∨ thread.stage = .exited) (pending : h.stops = [])
      (acknowledged : h.acknowledged = []) (closed : h.closedTag = some tag) : Phase h
  | joined {tag : StopTag} {call : OwnerCall} (unowned : h.current = none)
      (first : lastAsked h.former = some tag) (duty : h.duty = .collecting call)
      (asked : h.stopping = true) (pending : h.stops = [])
      (collected : h.acknowledged = [tag] ∨ h.acknowledged = [] ∧ h.closedTag = some tag) : Phase h

structure Orderly (h : Handshake) : Prop where
  former : ∀ thread ∈ h.former, thread.stage = .exited ∧ thread.asked ≠ []
  phase : h.Phase

/-! ## Moves of threads -/

inductive Moved (h : Handshake) (stage : ThreadStage) : ThreadStage × Handshake → Prop
  | heeds {next : ThreadStage} {signal : Signal} {signals : List Signal}
      (running : stage.isRunning = true) (runs : next.isRunning = true)
      (queued : h.signals = signal :: signals) :
      Moved h stage (heed next signal, { h with signals })
  | goesOn {next : ThreadStage} (running : stage.isRunning = true) (runs : next.isRunning = true) :
      Moved h stage (next, h)
  | acknowledges {tag : StopTag} (took : stage = .closing tag) :
      Moved h stage (.leaving, { h with acknowledged := h.acknowledged ++ [tag] })
  | ends (gone : stage = .leaving ∨ stage = .exited) : Moved h stage (.exited, h)

theorem move_moved (h : Handshake) (stage : ThreadStage) (step : LoopStep) :
    Moved h stage (h.move stage step) := by
  unfold move
  cases stage with
  | polling | waiting =>
      cases queued : h.signals with
      | nil => exact .goesOn rfl rfl
      | cons signal signals => exact .heeds rfl rfl queued
  | ready => cases step <;> exact .goesOn rfl rfl
  | closing tag => exact .acknowledges rfl
  | leaving => exact .ends (.inl rfl)
  | exited => exact .ends (.inr rfl)

theorem turn_owned {thread : Spawned} (owned : h.current = some thread) (step : LoopStep) :
    h.turn step = { (h.move thread.stage step).2 with
      current := some { thread with stage := (h.move thread.stage step).1 } } := by
  rw [turn, owned]

theorem turn_unowned (unowned : h.current = none) (step : LoopStep) : h.turn step = h := by
  rw [turn, unowned]

theorem Moved.stays {stage next : ThreadStage} {after : Handshake}
    (moved : Moved h stage (next, after)) (running : stage.isRunning = true)
    (pending : h.stops = []) : next.isRunning = true ∧ ∃ signals,
      after = { h with signals } ∧ signals.filterMap Signal.stop? = [] := by
  cases moved with
  | @heeds woken signal signals _ runs queued =>
      rw [stops, queued] at pending
      cases signal with
      | kick => exact ⟨runs, signals, rfl, pending⟩
      | stop tag => simp [Signal.stop?] at pending
  | goesOn _ runs => exact ⟨runs, h.signals, rfl, pending⟩
  | acknowledges took => simp [took, ThreadStage.isRunning] at running
  | ends gone => rcases gone with rfl | rfl <;> simp [ThreadStage.isRunning] at running

theorem Moved.ended {stage next : ThreadStage} {after : Handshake}
    (moved : Moved h stage (next, after)) (gone : stage = .leaving ∨ stage = .exited) :
    next = .exited ∧ after = h := by
  cases moved with
  | heeds running | goesOn running =>
      rcases gone with rfl | rfl <;> simp [ThreadStage.isRunning] at running
  | acknowledges took => simp [took] at gone
  | ends => exact ⟨rfl, rfl⟩

theorem Moved.frame {stage next : ThreadStage} {after : Handshake}
    (moved : Moved h stage (next, after)) :
    ∃ signals acknowledged, after = { h with signals, acknowledged } := by
  cases moved <;> exact ⟨_, _, rfl⟩

/-- A stop is taken, acknowledged and left behind, in this order. -/
theorem Moved.course {tag : StopTag} {stage next : ThreadStage} {after : Handshake}
    (moved : Moved h stage (next, after)) (course : Course tag stage h.stops h.acknowledged) :
    Course tag next after.stops after.acknowledged := by
  generalize pending : h.stops = stops at course
  generalize acks : h.acknowledged = acknowledged at course
  cases course with
  | pending running =>
      cases moved with
      | @heeds woken signal signals _ runs queued =>
          -- There is one stop in the channel: the signal in front is that one or a kick.
          rw [Handshake.stops, queued] at pending
          rw [acks]
          cases signal with
          | kick =>
              change signals.filterMap Signal.stop? = [tag] at pending
              rw [Handshake.stops, pending]
              exact .pending runs
          | stop first =>
              obtain ⟨rfl, rest⟩ := List.cons.inj pending
              rw [Handshake.stops, rest]
              exact .closing
      | goesOn _ runs =>
          rw [pending, acks]
          exact .pending runs
      | acknowledges took => simp [took, ThreadStage.isRunning] at running
      | ends gone => rcases gone with rfl | rfl <;> simp [ThreadStage.isRunning] at running
  | closing =>
      cases moved with
      | heeds running | goesOn running => simp [ThreadStage.isRunning] at running
      | ends gone => simp at gone
      | acknowledges took =>
          cases took
          change Course tag .leaving h.stops (h.acknowledged ++ [tag])
          rw [pending, acks]
          exact .leaving
  | leaving | exited =>
      obtain ⟨rfl, rfl⟩ := moved.ended (by simp)
      rw [pending, acks]
      exact .exited

/-! ## What every move preserves -/

theorem stops_kick (h : Handshake) :
    ({ h with signals := h.signals ++ [.kick] } : Handshake).stops = h.stops := by
  simp [stops, Signal.stop?]

namespace Orderly

theorem kick (orderly : h.Orderly) :
    ({ h with signals := h.signals ++ [.kick] } : Handshake).Orderly := by
  refine ⟨orderly.former, ?_⟩
  have same := stops_kick h
  cases orderly.phase with
  | down unowned duty unasked pending acknowledged closed =>
      exact .down unowned duty unasked (same.trans pending) acknowledged closed
  | up owned running duty unasked pending acknowledged closed =>
      exact .up owned running duty unasked (same.trans pending) acknowledged closed
  | stopping owned first duty asked course closed =>
      exact .stopping owned first duty asked (same ▸ course) closed
  | answered owned first duty asked gone pending acknowledged closed =>
      exact .answered owned first duty asked gone (same.trans pending) acknowledged closed
  | joined unowned first duty asked pending collected =>
      exact .joined unowned first duty asked (same.trans pending) collected

theorem turn (orderly : h.Orderly) (step : LoopStep) : (h.turn step).Orderly := by
  have moves (thread : Spawned) := h.move_moved thread.stage step
  cases orderly.phase with
  | down unowned | joined unowned => rwa [turn_unowned unowned]
  | @up stage owned running duty unasked pending acknowledged closed =>
      have moved := moves { stage }
      rw [turn_owned owned]
      generalize h.move stage step = reached at moved ⊢
      obtain ⟨next, after⟩ := reached
      obtain ⟨runs, signals, rfl, quiet⟩ := moved.stays running pending
      exact ⟨orderly.former, .up rfl runs duty unasked quiet acknowledged closed⟩
  | @stopping thread tag owned first duty asked course closed =>
      have moved := moves thread
      rw [turn_owned owned]
      generalize h.move thread.stage step = reached at moved ⊢
      obtain ⟨next, after⟩ := reached
      have course := moved.course course
      obtain ⟨signals, acknowledged, rfl⟩ := moved.frame
      exact ⟨orderly.former, .stopping rfl first duty asked course closed⟩
  | @answered thread tag call owned first duty asked gone pending acknowledged closed =>
      have moved := moves thread
      rw [turn_owned owned]
      generalize h.move thread.stage step = reached at moved ⊢
      obtain ⟨next, after⟩ := reached
      obtain ⟨rfl, rfl⟩ := moved.ended gone
      exact ⟨orderly.former,
        .answered rfl first duty asked (.inr rfl) pending acknowledged closed⟩

/-- Former threads have ended. -/
theorem stray (orderly : h.Orderly) (index : Nat) (step : LoopStep) : h.stray index step = h := by
  unfold Handshake.stray
  cases found : h.former[index]? with
  | none => rfl
  | some thread =>
      obtain ⟨inside, rfl⟩ := List.getElem?_eq_some_iff.mp found
      obtain ⟨exited, -⟩ := orderly.former _ (List.getElem_mem inside)
      have same : { h.former[index] with stage := .exited } = h.former[index] := by rw [← exited]
      simp only [exited, move, same, List.set_getElem_self]

theorem ask (orderly : h.Orderly) (done : h.duty.isDone = true) {thread : Spawned}
    (owned : h.current = some thread) (tag : StopTag) {duty : Duty} (asks : duty.hasAsked = true) :
    ({ h.ask thread tag with duty } : Handshake).Orderly := by
  cases orderly.phase with
  | down unowned | joined unowned => simp [unowned] at owned
  | answered _ _ busy => simp [busy, Duty.isDone] at done
  | up fresh running _ unasked pending acknowledged closed =>
      cases fresh.symm.trans owned
      refine ⟨orderly.former, .stopping rfl rfl asks rfl ?_ closed⟩
      rw [stops] at pending
      simpa [Handshake.ask, stops, unasked, acknowledged, pending, Signal.stop?] using
        Course.pending running
  | @stopping _ earlier same first _ asked course closed =>
      cases same.symm.trans owned
      -- A later stop is remembered with the thread and not sent, so the first one stays the same.
      refine ⟨orderly.former, @Phase.stopping _ _ earlier rfl ?_ asks rfl ?_ closed⟩
      · simp [first]
      · simpa [Handshake.ask, stops, asked] using course

theorem unattended (orderly : h.Orderly) (done : h.duty.isDone = true)
    (unowned : h.current = none) {duty : Duty} (without : duty.isUnattended = true) :
    ({ h with duty } : Handshake).Orderly := by
  cases orderly.phase with
  | down _ _ unasked pending acknowledged closed =>
      exact ⟨orderly.former, .down unowned without unasked pending acknowledged closed⟩
  | up owned | stopping owned | answered owned => simp [unowned] at owned
  | joined _ _ busy => simp [busy, Duty.isDone] at done

theorem start (orderly : h.Orderly) (done : h.duty.isDone = true) {thread : Spawned}
    (owned : h.current = some thread) :
    ({ h with duty := if h.stopping then .joining .start else .returned .start true } :
      Handshake).Orderly := by
  cases orderly.phase with
  | down unowned | joined unowned => simp [unowned] at owned
  | answered _ _ busy => simp [busy, Duty.isDone] at done
  | up owned running _ unasked pending acknowledged closed =>
      exact ⟨orderly.former,
        .up owned running (by simp [unasked]) unasked pending acknowledged closed⟩
  | stopping owned first _ asked course closed =>
      exact ⟨orderly.former,
        .stopping owned first (by simp [asked, Duty.hasAsked]) asked course closed⟩

theorem call (orderly : h.Orderly) (call : OwnerCall) : (h.call call).Orderly := by
  unfold Handshake.call
  split
  · rename_i done
    split
    · rename_i unowned
      exact orderly.unattended done unowned rfl
    · rename_i owned
      exact orderly.start done owned
    · rename_i unowned
      exact orderly.unattended done unowned rfl
    · rename_i tag wait thread owned
      exact orderly.ask done owned tag (by cases wait <;> rfl)
  · exact orderly

theorem refuse (orderly : h.Orderly) : h.refuse.Orderly := by
  unfold Handshake.refuse
  by_cases launching : h.duty = .launching
  · rw [if_pos launching]
    cases orderly.phase with
    | down unowned _ unasked pending acknowledged closed =>
        exact ⟨orderly.former, .down unowned rfl unasked pending acknowledged closed⟩
    | up _ _ duty | answered _ _ duty | joined _ _ duty => simp [duty] at launching
    | stopping _ _ duty => simp [launching, Duty.hasAsked] at duty
  · rwa [if_neg launching]

/-- A thread that has ended is joined; what its stop left behind is collected after that. -/
theorem join (orderly : h.Orderly) {thread : Spawned} (exited : thread.stage = .exited)
    {tag : StopTag} (first : thread.asked.head? = some tag) (asked : h.stopping = true)
    (pending : h.stops = [])
    (collected : h.acknowledged = [tag] ∨ h.acknowledged = [] ∧ h.closedTag = some tag)
    (call : OwnerCall) :
    ({ h with current := none, former := thread :: h.former, duty := .collecting call } :
      Handshake).Orderly := by
  refine ⟨?_, .joined rfl first rfl asked pending collected⟩
  intro other known
  cases known with
  | head => exact ⟨exited, fun never => by simp [never] at first⟩
  | tail _ known => exact orderly.former other known

theorem proceed (orderly : h.Orderly) : h.proceed.Orderly := by
  cases orderly.phase with
  | down unowned duty unasked pending acknowledged closed =>
      unfold Handshake.proceed
      cases doing : h.duty with
      | idle | returned => exact orderly
      | awaiting | joining | collecting => simp [doing, Duty.isUnattended] at duty
      | draining =>
          dsimp only
          split
          · rename_i signal signals queued
            refine ⟨orderly.former, .down unowned rfl unasked ?_ acknowledged closed⟩
            rw [stops, queued, List.filterMap_eq_nil_iff] at pending
            exact List.filterMap_eq_nil_iff.mpr fun other sent =>
              pending other (List.mem_cons_of_mem _ sent)
          · exact ⟨orderly.former, .down unowned rfl unasked pending acknowledged closed⟩
      | launching =>
          rw [unowned]
          exact ⟨orderly.former, .up rfl rfl rfl unasked pending acknowledged closed⟩
  | up owned running duty =>
      rwa [Handshake.proceed, duty]
  | stopping owned first duty asked course closed =>
      unfold Handshake.proceed
      cases doing : h.duty with
      | idle | collecting | draining | launching => simp [doing, Duty.hasAsked] at duty
      | returned => exact orderly
      | awaiting =>
          dsimp only
          split
          · exact orderly
          · rename_i tag acknowledged queued
            -- An acknowledgement is there only when the thread is on its way out.
            rw [queued] at course
            obtain ⟨rfl, rfl, pending, gone⟩ := course.answer
            exact ⟨orderly.former, .answered owned first rfl asked gone pending rfl rfl⟩
      | joining call =>
          rw [owned]
          dsimp only
          split
          · rename_i exited
            rw [exited] at course
            obtain ⟨pending, acknowledged⟩ := course.ended
            exact orderly.join exited first asked pending (.inl acknowledged) call
          · exact orderly
  | answered owned first duty asked gone pending acknowledged closed =>
      rw [Handshake.proceed, duty, owned]
      dsimp only
      split
      · rename_i exited
        exact orderly.join exited first asked pending (.inr ⟨acknowledged, closed⟩) _
      · exact orderly
  | @joined tag call unowned first duty asked pending collected =>
      rw [Handshake.proceed, duty]
      obtain acknowledged | ⟨acknowledged, closed⟩ := collected
      · rw [acknowledged]
        exact ⟨orderly.former, .joined unowned first rfl asked pending (.inr ⟨rfl, rfl⟩)⟩
      · rw [acknowledged]
        refine ⟨orderly.former, .down unowned ?_ rfl pending rfl (closed.trans first.symm)⟩
        cases call <;> rfl

theorem next (orderly : h.Orderly) (move : Move) : (h.next move).Orderly := by
  cases move with
  | call call => exact orderly.call call
  | proceed => exact orderly.proceed
  | refuse => exact orderly.refuse
  | kick => exact orderly.kick
  | turn step => exact orderly.turn step
  | stray index step => rwa [Handshake.next, orderly.stray]

theorem run (orderly : h.Orderly) (moves : List Move) : (h.run moves).Orderly := by
  induction moves generalizing h with
  | nil => exact orderly
  | cons move moves ih => exact ih (orderly.next move)

theorem fresh (name : String) : Orderly { name } := ⟨nofun, .down rfl rfl rfl rfl rfl rfl⟩

end Orderly

/-! ## What an owner can rely on -/

def alive (h : Handshake) : Nat :=
  (h.current.toList ++ h.former).countP fun thread => thread.stage != .exited

namespace Orderly

theorem alive_eq (orderly : h.Orderly) :
    h.alive = h.current.toList.countP fun thread => thread.stage != .exited := by
  have ended : h.former.countP (fun thread => thread.stage != .exited) = 0 :=
    List.countP_eq_zero.mpr fun thread known => by simp [(orderly.former thread known).1]
  rw [alive, List.countP_append, ended, Nat.add_zero]

theorem alive_le (orderly : h.Orderly) : h.alive ≤ 1 := by
  rw [orderly.alive_eq]
  exact Nat.le_trans List.countP_le_length (by cases h.current <;> simp)

theorem started (orderly : h.Orderly) (returned : h.duty = .returned .start true) :
    (∃ thread, h.current = some thread ∧ thread.stage.isRunning = true) ∧ h.alive = 1 ∧
      h.stops = [] ∧ h.acknowledged = [] := by
  cases orderly.phase with
  | down _ duty => simp [returned, Duty.isUnattended] at duty
  | stopping _ _ duty => simp [returned, Duty.hasAsked] at duty
  | answered _ _ duty | joined _ _ duty => simp [returned] at duty
  | @up stage owned running _ _ pending acknowledged =>
      refine ⟨⟨_, owned, running⟩, ?_, pending, acknowledged⟩
      rw [orderly.alive_eq, owned]
      cases stage <;> first | rfl | simp [ThreadStage.isRunning] at running

theorem stopped (orderly : h.Orderly) {tag : StopTag}
    (returned : h.duty = .returned (.requestStop tag true) true) : h.alive = 0 := by
  cases orderly.phase with
  | down unowned => rw [orderly.alive_eq, unowned]; rfl
  | stopping _ _ duty => simp [returned, Duty.hasAsked] at duty
  | up _ _ duty | answered _ _ duty | joined _ _ duty => simp [returned] at duty

theorem closed (orderly : h.Orderly) (done : h.duty.isDone = true) {latest : Spawned}
    {earlier : List Spawned} (known : h.former = latest :: earlier) :
    ∃ tag, latest.asked.head? = some tag ∧ h.closedTag = some tag := by
  have asked : latest.asked ≠ [] := (orderly.former latest (by simp [known])).2
  obtain ⟨tag, first⟩ : ∃ tag, latest.asked.head? = some tag :=
    Option.isSome_iff_exists.mp (by simpa using asked)
  have last : lastAsked h.former = some tag := by rw [known]; exact first
  refine ⟨tag, first, ?_⟩
  cases orderly.phase with
  | down _ _ _ _ _ closed | up _ _ _ _ _ _ closed | stopping _ _ _ _ _ closed =>
      exact closed.trans last
  | answered _ _ duty | joined _ _ duty => simp [duty, Duty.isDone] at done

end Orderly

/-- Whatever calls the owner of a loop makes, and however they, the kicks of others and the moves of
all threads it ever spawned come between each other: at most one thread has not ended. A start that
succeeded leaves one that runs, with no stop and no acknowledgement in the channels. A stop that
waited returns when every thread has ended. And as long as the owner makes no call, the closed tag
is the stop that was asked for first while the last joined thread ran. -/
theorem handshake_is_kept (name : String) (moves : List Move) :
    let h := run { name } moves
    h.alive ≤ 1 ∧
    (h.duty = .returned .start true →
      (∃ thread, h.current = some thread ∧ thread.stage.isRunning = true) ∧ h.alive = 1 ∧
        h.stops = [] ∧ h.acknowledged = []) ∧
    (∀ tag, h.duty = .returned (.requestStop tag true) true → h.alive = 0) ∧
    (h.duty.isDone = true → ∀ latest earlier, h.former = latest :: earlier →
      ∃ tag, latest.asked.head? = some tag ∧ h.closedTag = some tag) := by
  intro h
  have orderly : h.Orderly := (Orderly.fresh name).run moves
  exact ⟨orderly.alive_le, orderly.started, fun _ => orderly.stopped,
    fun done _ _ => orderly.closed done⟩

/-- Two stops, a kick behind them and a start that has to join the thread first. -/
theorem handshake_is_kept_in_restart :
    let h := run { name := "write" } ([.call .start, .proceed, .proceed, .turn .busy,
      .call (.requestStop ⟨3⟩ false), .call (.requestStop ⟨4⟩ false), .kick, .turn .idle,
      .call .start, .turn .busy, .turn .busy, .turn .busy] ++ List.replicate 6 .proceed)
    h.duty = .returned .start true ∧ h.alive = 1 ∧ h.acknowledged = [] ∧
      h.closedTag = some ⟨3⟩ := by
  intro h
  have returned : h.duty = .returned .start true := by decide
  have joined : h.former = [⟨.exited, [⟨3⟩, ⟨4⟩]⟩] := by decide
  obtain ⟨-, started, -, closed⟩ := handshake_is_kept "write" _
  obtain ⟨-, alive, -, acknowledged⟩ := started returned
  obtain ⟨tag, first, last⟩ := closed (by rw [returned]; rfl) _ _ joined
  cases first
  exact ⟨returned, alive, acknowledged, last⟩

end Handshake

end ModemLink
