/-
  The period of a report.

  A report gives the histogram away and starts a new one, but the time since the
  last change of the count is booked only by the next change: a call that
  changes nothing may report too early.  Workers make no such call.

  * `Tiles`: the reports divide a stretch of time among them, each covering the
    time since the one before it;
  * `Alternates`: every call changes the count on record;
  * `Monitor.tiles`: calls that do so, one after another, make reports that tile;
  * `State.RecordsAtOnce`: the clock stands still between a reading and its
    record;
  * `State.Founded.periods`: the reports of a pool tile its time.
-/
import WorkerPool.Proofs.Notices

namespace WorkerPool

/-! ## Tiling -/

namespace Idle

/-- The reports cover the time from `since` to `last`, each the time from the
    report before it to its own. -/
def Tiles : Int → List Report → Int → Prop
  | since, [], last => since = last
  | since, r :: rs, last => r.time = since + r.histogram.total ∧ Tiles r.time rs last

/-- Each call changes the count that the calls before it have left on record. -/
def Alternates : Nat → List Notice → Prop
  | _, [] => True
  | idle, n :: ns => n.act.recorded idle ≠ idle ∧ Alternates (n.act.recorded idle) ns

namespace Monitor

variable {m : Monitor} {n : Notice} {ns : List Notice}

theorem perform_interval (m : Monitor) (now : Int) (a : Act) :
    (m.perform now a).1.interval = m.interval := by
  have set_interval (idle : Nat) : (m.set idle now).1.interval = m.interval := by
    simp only [set, book]
    split <;> split <;> rfl
  cases a with
  | enter | leave | set => exact set_interval _
  | dump | nothing => rfl

/-- If the histogram holds the time from the last report to the last change, a
    call that changes the count leaves it so: it books the time up to itself, and
    if it reports, the report holds all of this and the next histogram nothing. -/
theorem set_period {idle : Nat} {now : Int}
    (h : m.changedAt = m.reportedAt + m.histogram.total) (hnow : m.changedAt ≤ now)
    (hidle : idle ≠ m.current) :
    (m.set idle now).1.changedAt = now ∧
    now = (m.set idle now).1.reportedAt + (m.set idle now).1.histogram.total ∧
    ((m.set idle now).2 = none ∧ (m.set idle now).1.reportedAt = m.reportedAt ∨
      ∃ r : Histogram, (m.set idle now).2 = some r ∧ (m.set idle now).1.reportedAt = now ∧
        now = m.reportedAt + r.total ∧ m.interval ≤ r.total) := by
  have hbook : (m.book idle now).histogram.total = m.histogram.total + elapsed m.changedAt now := by
    simp only [book, if_neg hidle]
    exact reads_total.add m.histogram m.current _
  have hfields : (m.book idle now).changedAt = now ∧ (m.book idle now).reportedAt = m.reportedAt ∧
      (m.book idle now).interval = m.interval := by
    simp only [book, if_neg hidle, and_self]
  obtain ⟨hchanged, hreported, hinterval⟩ := hfields
  have htotal : now = m.reportedAt + (m.book idle now).histogram.total := by
    rw [hbook, elapsed]
    omega
  simp only [set]
  split
  · rename_i hdue
    simp only [isDue, hreported, hinterval, decide_eq_true_eq] at hdue
    refine ⟨hchanged, (Int.add_zero _).symm, .inr ⟨_, rfl, rfl, htotal, hdue.trans ?_⟩⟩
    simp only [elapsed]
    omega
  · exact ⟨hchanged, by rw [hreported]; exact htotal, .inl ⟨rfl, hreported⟩⟩

theorem perform_period {now : Int} {a : Act}
    (h : m.changedAt = m.reportedAt + m.histogram.total) (hnow : m.changedAt ≤ now)
    (ha : a.recorded m.current ≠ m.current) :
    (m.perform now a).1.changedAt = now ∧
    now = (m.perform now a).1.reportedAt + (m.perform now a).1.histogram.total ∧
    ((m.perform now a).2.1 = none ∧ (m.perform now a).1.reportedAt = m.reportedAt ∨
      ∃ r : Histogram, (m.perform now a).2.1 = some r ∧ (m.perform now a).1.reportedAt = now ∧
        now = m.reportedAt + r.total ∧ m.interval ≤ r.total) := by
  cases a with
  | enter | leave | set => exact set_period h hnow ha
  | dump | nothing => exact absurd rfl ha

/-- **Calls that change the count, one after another, make reports that tile**, and
    the histogram that is being filled holds the time since the last of them. -/
theorem tiles (h : m.changedAt = m.reportedAt + m.histogram.total)
    (horderly : Orderly m.changedAt ns) (halt : Alternates m.current ns) :
    Tiles m.reportedAt (m.reports ns) (m.play ns).1.reportedAt ∧
    (m.play ns).1.changedAt = (m.play ns).1.reportedAt + (m.play ns).1.histogram.total ∧
    ∀ r ∈ m.reports ns, m.interval ≤ r.histogram.total := by
  induction ns generalizing m with
  | nil => exact ⟨rfl, h, nofun⟩
  | cons n ns ih =>
    have hcurrent := perform_current m n.time n.act
    have hinterval := perform_interval m n.time n.act
    obtain ⟨hchanged, hnext, hreport⟩ :=
      perform_period h (horderly.le n List.mem_cons_self) halt.1
    obtain ⟨htiles, hlast, hlong⟩ := ih (m := (m.perform n.time n.act).1)
      (hchanged.trans hnext) (by rw [hchanged]; exact horderly.tail)
      (by rw [hcurrent]; exact halt.2)
    rw [hinterval] at hlong
    rw [play_cons, reports]
    refine ⟨?_, hlast, ?_⟩
    · obtain ⟨hnone, hsame⟩ | ⟨r, hsome, hnow, hperiod, -⟩ := hreport
      · rw [hnone, ← hsame]
        exact htiles
      · rw [hnow] at htiles
        rw [hsome]
        exact ⟨hperiod, htiles⟩
    · obtain ⟨hnone, -⟩ | ⟨r, hsome, -, -, hr⟩ := hreport
      · rw [hnone]
        exact hlong
      · rw [hsome]
        exact List.forall_mem_cons.2 ⟨hr, hlong⟩

end Monitor

end Idle

/-! ## The reports of a pool -/

open Idle (Notice Report Histogram Tiles Alternates Orderly)

variable {B V : Type}

/-- The clock stands still between a reading and its record: whenever the monitor
    is told of a reading, the clock still shows it. -/
def State.RecordsAtOnce (s : State B V) : List (Action B V) → Prop
  | [] => True
  | x :: as => (∀ n ∈ s.notice? x, n.time = s.clock) ∧ ∀ s' ∈ s.step x, s'.RecordsAtOnce as

/-- Whether a run records its readings at once can be computed, action by action. -/
instance State.decideRecordsAtOnce : ∀ (s : State B V) as, Decidable (s.RecordsAtOnce as)
  | _, [] => isTrue trivial
  | s, x :: as =>
    have := fun s' : State B V => State.decideRecordsAtOnce s' as
    inferInstanceAs (Decidable ((∀ n ∈ s.notice? x, n.time = s.clock) ∧
      ∀ s' ∈ s.step x, s'.RecordsAtOnce as))

section
variable {s s' : State B V} {x : Action B V} {as : List (Action B V)} {n : Notice}

/-- A worker tells the monitor only of what changes its count: it becomes idle, or
    it has been counted as idle. -/
theorem Move.recorded_ne (hm : Move s x s') (hr : s.Reachable) (hn : n ∈ s.notice? x) :
    n.act.recorded s.monitor.current ≠ s.monitor.current := by
  cases hm with
  | @run t c th a rest turn _ ht hs hd =>
    rw [notice?_run (top?_eq_some_iff.2 ⟨th, rest, ht, hs⟩)] at hn
    cases a with
    | work p =>
      cases p with
      | shift sh now =>
        cases hn
        cases sh with
        | settle => exact Nat.succ_ne_self _
        | resume next =>
          have hpos : 0 < s.monitor.current := by
            rw [hr.current_eq]
            exact tally_pos ht (Thread.mem_of_stack hs) Nat.one_pos
          exact Nat.ne_of_lt (Nat.sub_lt hpos Nat.one_pos)
      | _ => cases hn
    | _ => cases hn
  | _ => cases hn

/-- **Everything the monitor is told in a run changes its count.** -/
theorem State.Reachable.alternates (hr : s.Reachable) (has : s.steps as = some s') :
    Alternates s.monitor.current (s.notices as) := by
  induction as generalizing s with
  | nil => trivial
  | cons x as ih =>
    obtain ⟨s₁, hm, has⟩ := steps_cons.1 has
    have hrest := ih (hr.next hm) has
    rw [hm.played] at hrest
    rw [notices_cons hm]
    cases hn : s.notice? x with
    | none =>
      rw [hn] at hrest
      exact hrest
    | some n =>
      rw [hn, Option.toList_some, Idle.Monitor.play_current] at hrest
      exact ⟨hm.recorded_ne hr hn, hrest⟩

/-- Readings that are recorded at once under a clock that is never set back come
    one after another. -/
theorem steps_orderly {since : Int} (hforward : ∀ x ∈ as, x.IsForward) (honce : s.RecordsAtOnce as)
    (has : s.steps as = some s') (hsince : since ≤ s.clock) :
    Orderly since (s.notices as) ∧ ∀ n ∈ s.notices as, n.time ≤ s'.clock := by
  induction as generalizing s since with
  | nil => exact ⟨List.pairwise_singleton _ _, nofun⟩
  | cons x as ih =>
    have hclock := steps_clock hforward has
    obtain ⟨s₁, hm, has⟩ := steps_cons.1 has
    obtain ⟨hx, hforward⟩ := List.forall_mem_cons.1 hforward
    have hstep := hm.clock hx
    have hrest {since : Int} (hsince : since ≤ s₁.clock) :=
      ih hforward (honce.2 s₁ (step_iff.2 hm)) has hsince
    rw [notices_cons hm]
    cases hn : s.notice? x with
    | none => exact hrest (hsince.trans hstep)
    | some n =>
      have htime := honce.1 n hn
      obtain ⟨horderly, hle⟩ := hrest (htime.le.trans hstep)
      refine ⟨List.pairwise_cons.2 ⟨?_, horderly⟩,
        List.forall_mem_cons.2 ⟨htime.le.trans hclock, hle⟩⟩
      have hfirst : since ≤ n.time := hsince.trans htime.ge
      exact List.forall_mem_cons.2 ⟨hfirst, fun y hy => hfirst.trans
        ((List.pairwise_cons.1 horderly).1 y hy)⟩

/-- **Every report of a pool covers exactly its own period.**  In every run of a
    pool under a clock that is never set back and stands still between a reading
    and its record, whatever its workers do meanwhile, the total of every report
    is the time from the report before it to its own, from the creation of the
    pool for the first one, and at least the interval; the histogram that is
    being filled holds the time from the last report to the last change of the
    count, which is past.  The reports that were made are those in the log and
    those that a worker is about to log. -/
theorem State.Founded.periods {s₀ : State B V} (h₀ : s₀.Founded) (has : s₀.steps as = some s)
    (hforward : ∀ x ∈ as, x.IsForward) (honce : s₀.RecordsAtOnce as) :
    Tiles s₀.clock (s₀.reports as) s.monitor.reportedAt ∧
    (∀ r ∈ s₀.reports as, s₀.monitor.interval ≤ r.histogram.total) ∧
    s.monitor.changedAt = s.monitor.reportedAt + s.monitor.histogram.total ∧
    s.monitor.changedAt ≤ s.clock ∧
    ∀ h : Histogram, s.log.count (.idleReport h) + tally (Activity.reporting h) s.threads =
      ((s₀.reports as).map Report.histogram).count h := by
  have hstart : s₀.monitor.changedAt = s₀.clock ∧ s₀.monitor.reportedAt = s₀.clock ∧
      s₀.monitor.histogram.total = 0 := by
    obtain ⟨name, hooked, capacity, interval, workers, rfl⟩ := h₀
    exact ⟨rfl, rfl, rfl⟩
  obtain ⟨hchanged, hreported, htotal⟩ := hstart
  obtain ⟨horderly, hpast⟩ := steps_orderly hforward honce has hchanged.le
  obtain ⟨htiles, hlast, hlong⟩ := Idle.Monitor.tiles (m := s₀.monitor) (by omega) horderly
    ((Reachable.of_founded h₀).alternates has)
  rw [← steps_monitor has] at htiles hlast
  rw [hreported] at htiles
  refine ⟨htiles, hlong, hlast, ?_, h₀.logged has⟩
  rw [steps_monitor has, Idle.Monitor.play_changedAt]
  exact Idle.lastChange_le (hchanged.trans_le (steps_clock hforward has)) hpast

end

/-- A run of a pool with three workers and an interval of five: two become idle, the
    third panics in its start hook, the first is woken by a task and the second is
    sent away and still has its report to log. -/
def reportingRun : List (Action Unit Unit) :=
  [paces 0 7, [.tick 3, .hook 1 false], paces 1 5, [.tick 4, .hook 2 false], paces 2 6,
    [.hook 3 true, .tick 2, .call 0 (.submit ())], paces 0 3, paces 1 5,
    [.tick 3, .call 0 (.resize 1)], paces 0 6, paces 2 3, [.tick 1]].flatten

theorem periods_reportingRun : ∃ s : State Unit Unit,
    (State.founding "pool" true none 5 3).steps reportingRun = some s ∧
    ((State.founding "pool" true none 5 3).reports reportingRun).map
      (fun r => (r.time, r.histogram.total)) = [(7, 7), (12, 5)] ∧
    Tiles 0 ((State.founding "pool" true none 5 3).reports reportingRun) 12 ∧
    s.clock = 13 ∧ s.monitor.changedAt = 12 ∧
    ∀ h : Histogram, s.log.count (.idleReport h) + tally (Activity.reporting h) s.threads =
      (((State.founding "pool" true none 5 3).reports reportingRun).map
        Report.histogram).count h := by
  have hrun : ((State.founding "pool" true none 5 3).steps reportingRun).isSome = true := rfl
  obtain ⟨s, hs⟩ := Option.isSome_iff_exists.1 hrun
  have hforward : ∀ x ∈ reportingRun, x.IsForward := by decide
  have honce : (State.founding "pool" true none 5 3).RecordsAtOnce reportingRun := by decide +kernel
  have h₀ : (State.founding "pool" true none 5 3 : State Unit Unit).Founded :=
    State.founded_founding
  obtain ⟨htiles, -, -, -, hlogged⟩ := h₀.periods hs hforward honce
  have hclock : s.clock = 13 ∧ s.monitor.changedAt = 12 ∧ s.monitor.reportedAt = 12 := by
    cases hs
    exact ⟨rfl, rfl, rfl⟩
  obtain ⟨hclock, hchanged, hreported⟩ := hclock
  exact ⟨s, hs, rfl, hreported ▸ htiles, hclock, hchanged, hlogged⟩

end WorkerPool
