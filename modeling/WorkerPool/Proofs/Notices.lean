/-
  What a pool tells its monitor, and the reports that come of it.

  A worker reads the clock in one step and tells the monitor in a later one, and
  it logs a report in a third.  Others may come in between, so that the monitor
  is told of a reading after a later one, and the log need not be in the order
  of the reports.

  * `Monitor.reports` are the reports that several calls make, each with the
    reading it was made at;
  * `State.notices` is what the workers tell the monitor in a run, and
    `State.reports` what it reports;
  * `steps_monitor`: nobody else has to do with the monitor;
  * `State.Founded.logged`: every report is logged once, by the worker that it
    was given to;
  * `steps_clock`: a clock that is never set back does not go back.
-/
import WorkerPool.Proofs.Idleness

namespace WorkerPool

/-! ## Reports -/

namespace Idle

/-- The last change is not after the calls. -/
theorem lastChange_le {since last : Int} {idle : Nat} {ns : List Notice} (hsince : since ≤ last)
    (h : ∀ n ∈ ns, n.time ≤ last) : lastChange since idle ns ≤ last := by
  induction ns generalizing since idle with
  | nil => exact hsince
  | cons n ns ih =>
    obtain ⟨hn, h⟩ := List.forall_mem_cons.1 h
    rw [lastChange]
    split
    · exact ih hsince h
    · exact ih hn h

/-- A report, and the clock reading it was made at. -/
structure Report where
  time : Int
  histogram : Histogram
  deriving DecidableEq, Repr

namespace Monitor

/-- The reports that several calls make, one after another. -/
def reports (m : Monitor) : List Notice → List Report
  | [] => []
  | n :: ns =>
    (m.perform n.time n.act).2.1.toList.map (⟨n.time, ·⟩) ++ (m.perform n.time n.act).1.reports ns

variable {m : Monitor} {n : Notice} {ns ns' : List Notice}

theorem play_append : (m.play (ns ++ ns')).1 = ((m.play ns).1.play ns').1 := by
  induction ns generalizing m with
  | nil => rfl
  | cons n ns ih => exact ih

theorem play_changedAt : (m.play ns).1.changedAt = lastChange m.changedAt m.current ns := by
  induction ns generalizing m with
  | nil => rfl
  | cons n ns ih =>
    rw [play_cons, ih, perform_changedAt, perform_current]
    rfl

theorem reports_append : m.reports (ns ++ ns') = m.reports ns ++ (m.play ns).1.reports ns' := by
  induction ns generalizing m with
  | nil => rfl
  | cons n ns ih =>
    rw [List.cons_append, reports, reports, ih, List.append_assoc]
    rfl

end Monitor

end Idle

open Idle (Notice Report Histogram)

variable {B V : Type}

/-! ## Telling the monitor -/

/-- What the monitor is told of a passage. -/
def Shift.act : Shift → Idle.Act
  | settle => .enter
  | resume _ => .leave

namespace Activity

/-- What the monitor is told in the next step. -/
def notice? : Activity V → Option Notice
  | work (.shift sh now) => some ⟨now, sh.act⟩
  | _ => none

/-- One for a worker that has this report to log. -/
def reporting (h : Histogram) : Activity V → Nat
  | work (.report _ h') => if h' = h then 1 else 0
  | _ => 0

end Activity

namespace State

/-- What the monitor is told in an action. -/
def notice? (s : State B V) : Action B V → Option Notice
  | .run t _ => (s.top? t).bind Activity.notice?
  | _ => none

/-- What the monitor is told in a run. -/
def notices (s : State B V) : List (Action B V) → List Notice
  | [] => []
  | x :: as =>
    match s.step x with
    | some s' => (s.notice? x).toList ++ s'.notices as
    | none => []

/-- The reports that are made in a run. -/
def reports (s : State B V) (as : List (Action B V)) : List Report :=
  s.monitor.reports (s.notices as)

end State

section
variable {s s' : State B V} {t : ThreadId} {th : Thread V} {c : Chance} {a : Activity V}
  {turn : Turn B V} {x : Action B V} {as : List (Action B V)} {h : Histogram}

theorem notices_cons (hm : Move s x s') :
    s.notices (x :: as) = (s.notice? x).toList ++ s'.notices as := by
  simp only [State.notices, step_iff.2 hm]

theorem notice?_run (ht : s.top? t = some a) : s.notice? (.run t c) = a.notice? := by
  simp only [State.notice?, ht, Option.bind_some]

/-- To tell the monitor is to make a call of it. -/
theorem shift_eq (s : State B V) (sh : Shift) (now : Int) :
    s.shift sh now = ({ s with monitor := (s.monitor.perform now sh.act).1 },
      (s.monitor.perform now sh.act).2.1) := by
  cases sh <;> rfl

/-- A step makes the call that its activity says, or none. -/
theorem Deed.played (hd : Deed s t th c a turn) :
    turn.state.monitor = (s.monitor.play a.notice?.toList).1 := by
  cases hd with
  | shift hb hm => exact congrArg (fun x => x.1.monitor) (hm.symm.trans (shift_eq s _ _))
  | clear hp | clearEnd hp | purge hp | purgeEnd hp | sweep hp | sweepEnd hp => cases hp <;> rfl
  | _ => rfl

theorem Move.played (hm : Move s x s') :
    s'.monitor = (s.monitor.play (s.notice? x).toList).1 := by
  cases hm with
  | call _ _ _ ho => exact ho.monitor
  | run _ ht hs hd =>
    rw [notice?_run (top?_eq_some_iff.2 ⟨_, _, ht, hs⟩)]
    exact hd.played
  | _ => rfl

/-- **The monitor is what the notices of the workers have made of it.** -/
theorem steps_monitor (has : s.steps as = some s') :
    s'.monitor = (s.monitor.play (s.notices as)).1 := by
  induction as generalizing s with
  | nil =>
    cases has
    rfl
  | cons x as ih =>
    obtain ⟨s₁, hm, has⟩ := steps_cons.1 has
    rw [notices_cons hm, Idle.Monitor.play_append, ← hm.played, ih has]

theorem reports_cons (hm : Move s x s') :
    s.reports (x :: as) = s.monitor.reports (s.notice? x).toList ++ s'.reports as := by
  rw [State.reports, notices_cons hm, Idle.Monitor.reports_append, ← hm.played, State.reports]

/-! ## Logging the reports -/

theorem Sweep.log {p : Clearing} {o : Clearing ⊕ Nat} (hp : Sweep s p s' o) : s'.log = s.log := by
  cases hp <;> rfl

theorem Opening.log {cl : Call B} {next : List (Activity V)} (ho : Opening s cl s' next) :
    s'.log = s.log := by
  cases ho <;> rfl

/-- Waiting for a worker logs no report. -/
theorem join_count {u : ThreadId} (hj : s.join t u = some s') :
    s'.log.count (.idleReport h) = s.log.count (.idleReport h) := by
  simp only [State.join] at hj
  split at hj
  · cases hj; rfl
  split at hj
  · cases hj; rfl
  split at hj
  · cases hj
  split at hj <;> cases hj
  · simp [State.record]
  · rfl

/-- A report that is made is carried to the log. -/
theorem Deed.logged (hd : Deed s t th c a turn) :
    turn.state.log.count (.idleReport h) + (turn.next.map (Activity.reporting h)).sum =
      s.log.count (.idleReport h) + a.reporting h +
        ((s.monitor.reports a.notice?.toList).map Report.histogram).count h := by
  cases hd with
  | @shift b sh now m r hb hm =>
    have hr : r = (s.monitor.perform now sh.act).2.1 :=
      congrArg Prod.snd (hm.symm.trans (shift_eq s _ _))
    have hone : s.monitor.reports [⟨now, sh.act⟩] = r.toList.map (⟨now, ·⟩) := by
      rw [Idle.Monitor.reports, ← hr]
      exact List.append_nil _
    simp only [Activity.notice?, Option.toList_some, hone]
    cases r with
    | none => cases sh <;> rfl
    | some h' =>
      by_cases hh : h' = h <;> simp [Activity.reporting, hh]
  | @report b sh h' hb =>
    have hafter : (Activity.work (V := V) sh.after).reporting h = 0 := by cases sh <;> rfl
    simp only [List.map_cons, List.map_nil, List.sum_cons, List.sum_nil, hafter]
    by_cases hh : h' = h <;>
      simp [State.record, Activity.reporting, Activity.notice?, Idle.Monitor.reports, hh]
  | @check b => cases b.told <;> rfl
  | @resizeClose n start =>
    by_cases hn : start = n <;>
      simp [hn, Activity.reporting, Activity.notice?, Idle.Monitor.reports]
  | join hj =>
    simp [Activity.reporting, Activity.notice?, Idle.Monitor.reports, ← join_count hj]
  | capacityWarn | stopClose | build =>
    simp [State.record, Activity.reporting, Activity.notice?, Idle.Monitor.reports]
  | clear hp | clearEnd hp | purge hp | purgeEnd hp | sweep hp | sweepEnd hp =>
    rw [hp.log]
    rfl
  | _ => rfl

theorem Opening.reporting {cl : Call B} {next : List (Activity V)} (ho : Opening s cl s' next) :
    (next.map (Activity.reporting h)).sum = 0 := by
  cases ho <;> rfl

theorem Move.logged (hm : Move s x s') :
    s'.log.count (.idleReport h) + tally (Activity.reporting h) s'.threads =
      s.log.count (.idleReport h) + tally (Activity.reporting h) s.threads +
        ((s.monitor.reports (s.notice? x).toList).map Report.histogram).count h := by
  cases hm with
  | arrive =>
    rw [tally_append]
    rfl
  | @call t cl th s₁ next ht _ _ ho =>
    rw [ho.tally ht, ho.reporting]
    show s₁.log.count _ + _ = _
    rw [ho.log]
    rfl
  | finish ht hs | hook ht hs | expire ht hs =>
    rw [tally_settleTurn_same ht hs rfl]
    rfl
  | hookPanic ht hs =>
    refine congrArg (s.log.count (.idleReport h) + ·)
      ((tally_modify_stack ?_).trans (tally_settleTurn_same ht hs rfl))
    exact fun _ => rfl
  | @run t c th a rest turn _ ht hs hd =>
    rw [notice?_run (top?_eq_some_iff.2 ⟨_, _, ht, hs⟩)]
    have htally := hd.tally (f := Activity.reporting h) ht hs rfl rfl
    have hlogged := hd.logged (h := h)
    show turn.state.log.count _ + _ = _
    omega
  | rouse | tick => rfl

theorem steps_logged (has : s.steps as = some s') :
    s'.log.count (.idleReport h) + tally (Activity.reporting h) s'.threads =
      s.log.count (.idleReport h) + tally (Activity.reporting h) s.threads +
        ((s.reports as).map Report.histogram).count h := by
  induction as generalizing s with
  | nil =>
    cases has
    rfl
  | cons x as ih =>
    obtain ⟨s₁, hm, has⟩ := steps_cons.1 has
    rw [reports_cons hm, List.map_append, List.count_append, ih has, hm.logged, Nat.add_assoc]

/-- **Every report is logged once**, unless a worker is still about to. -/
theorem State.Founded.logged {s₀ : State B V} (h₀ : s₀.Founded) (has : s₀.steps as = some s)
    (h : Histogram) :
    s.log.count (.idleReport h) + tally (Activity.reporting h) s.threads =
      ((s₀.reports as).map Report.histogram).count h := by
  have hlogged := steps_logged (h := h) has
  have hzero : s₀.log.count (.idleReport h) + tally (Activity.reporting h) s₀.threads = 0 := by
    obtain ⟨name, hooked, capacity, interval, workers, rfl⟩ := h₀
    by_cases hc : capacity = some 0 <;>
      simp [State.founding, hc, tally, Thread.tally, Activity.reporting]
  omega

/-! ## The clock -/

/-- An action that does not set the clock back. -/
def Action.IsForward : Action B V → Prop
  | tick ns => 0 ≤ ns
  | _ => True

/-- Told by the sign of a tick. -/
instance : DecidablePred (Action.IsForward : Action B V → Prop) := fun x => by
  cases x <;> unfold Action.IsForward <;> infer_instance

theorem Deed.clock_state (hd : Deed s t th c a turn) : turn.state.clock = s.clock := by
  cases hd with
  | clear hp | clearEnd hp | purge hp | purgeEnd hp | sweep hp | sweepEnd hp => cases hp <;> rfl
  | _ => rfl

/-- Nothing but a tick sets the clock. -/
theorem Move.clock_eq (hm : Move s x s') (hx : ∀ ns, x ≠ .tick ns) : s'.clock = s.clock := by
  cases hm with
  | call _ _ _ ho => cases ho <;> rfl
  | run _ _ _ hd => exact hd.clock_state
  | tick => exact absurd rfl (hx _)
  | _ => rfl

theorem Move.clock (hm : Move s x s') (hx : x.IsForward) : s.clock ≤ s'.clock := by
  cases x with
  | tick ns =>
    cases hm
    exact Int.le_add_of_nonneg_right hx
  | _ => exact (hm.clock_eq nofun).ge

theorem steps_clock (hforward : ∀ x ∈ as, x.IsForward) (has : s.steps as = some s') :
    s.clock ≤ s'.clock := by
  induction as generalizing s with
  | nil =>
    cases has
    exact Int.le_refl _
  | cons x as ih =>
    obtain ⟨s₁, hm, has⟩ := steps_cons.1 has
    obtain ⟨hx, hforward⟩ := List.forall_mem_cons.1 hforward
    exact (hm.clock hx).trans (ih hforward has)

end

end WorkerPool
