/-
  A monitor that many threads tell of the time.

  A call reads the clock first and tells the monitor later, under its lock.  The
  lock puts the calls in an order, but not in that of their readings: a call can
  overtake another.  The one that was overtaken books nothing, but it takes the
  time of the last change back with it, and the next call books the time from
  there once more.

  * `Desk` are the threads and their monitor, a call being two steps;
  * `setback` is by how much the calls fall behind the change before them;
  * `Monitor.booked_eq`: what is booked is the time from the creation to the last
    change, and the setback;
  * `Desk.account`: so it is under every interleaving, the setback is no more than
    the time that calls took between their two steps, and calls that do not
    overtake each other invent no time;
  * `booked_overtakingCalls`: calls that do;
  * `State.Founded.desk`: the workers of a pool tell its monitor in this way.
-/
import WorkerPool.Proofs.Notices

namespace WorkerPool

namespace Idle

/-! ## The account -/

/-- By how much the calls that change the count fall behind the change before them,
    all together. -/
def setback (since : Int) (idle : Nat) : List Notice → Nat
  | [] => 0
  | n :: ns =>
    if n.act.recorded idle = idle then setback since idle ns
    else elapsed n.time since + setback n.time (n.act.recorded idle) ns

/-- All the time that several calls have booked: that of their reports, and that of
    the histogram they leave behind. -/
def Monitor.booked (m : Monitor) (ns : List Notice) : Nat :=
  ((m.reports ns).map (·.histogram.total)).sum + (m.play ns).1.histogram.total

section
variable {since : Int} {idle : Nat} {n : Notice} {ns : List Notice} {m : Monitor}

/-- Calls that come one after another do not fall behind. -/
theorem setback_eq_zero (h : Orderly since ns) : setback since idle ns = 0 := by
  induction ns generalizing since idle with
  | nil => rfl
  | cons n ns ih =>
    rw [setback]
    split
    · exact ih h.skip
    · rw [ih h.tail]
      exact Int.toNat_of_nonpos (Int.sub_nonpos_of_le (h.le n List.mem_cons_self))

theorem setback_concat : setback since idle (ns ++ [n]) = setback since idle ns +
    if n.act.recorded (recorded idle ns) = recorded idle ns then 0
    else elapsed n.time (lastChange since idle ns) := by
  induction ns generalizing since idle with
  | nil => by_cases hn : n.act.recorded idle = idle <;> simp [setback, recorded, lastChange, hn]
  | cons n' ns ih =>
    rw [List.cons_append, setback, setback, lastChange]
    by_cases hn : n'.act.recorded idle = idle
    · have hrec : recorded idle (n' :: ns) = recorded idle ns := congrArg (recorded · ns) hn
      rw [if_pos hn, if_pos hn, if_pos hn, hn, hrec]
      exact ih
    · rw [if_neg hn, if_neg hn, if_neg hn, Nat.add_assoc]
      exact congrArg _ ih

/-- **What is booked is the time up to the last change, and the setback.**  The
    readings may come in any order. -/
theorem Monitor.booked_eq (m : Monitor) (ns : List Notice) : (m.booked ns : Int) =
    m.histogram.total + (lastChange m.changedAt m.current ns - m.changedAt) +
      setback m.changedAt m.current ns := by
  induction ns generalizing m with
  | nil => simp [booked, reports, play, lastChange, setback]
  | cons n ns ih =>
    have hone := perform_reads reads_total m n.time n.act
    have hrest := ih (m.perform n.time n.act).1
    have hreports : m.booked (n :: ns) = ((m.perform n.time n.act).2.1.toList.map (·.total)).sum +
        (m.perform n.time n.act).1.booked ns := by
      simp only [booked, reports, play_cons, List.map_append, List.map_map, List.sum_append,
        Nat.add_assoc]
      rfl
    rw [perform_current, perform_changedAt] at hrest
    rw [hreports, lastChange, setback]
    by_cases hn : n.act.recorded m.current = m.current
    · simp only [if_pos hn] at hone hrest ⊢
      rw [hn] at hrest ⊢
      omega
    · simp only [if_neg hn, if_true, elapsed] at hone hrest ⊢
      omega

end

/-! ## Calls in two steps -/

/-- A monitor, and the threads that tell it of their passages. -/
structure Desk where
  monitor : Monitor
  /-- the reports made so far -/
  reports : List Report
  clock : Int
  /-- the latest clock reading, the creation counting as one -/
  latest : Int
  /-- by thread, the call that has read the clock and not told the monitor -/
  begun : ThreadId → Option Notice
  /-- what the monitor was told, and when -/
  told : List (Notice × Int)

namespace Desk

/-- What can happen at a desk.  A call is two actions, between which others can come. -/
inductive Action where
  /-- the clock goes on -/
  | pass (ns : Nat)
  /-- a thread begins a call and reads the clock for it -/
  | read (t : ThreadId) (a : Act)
  /-- a thread tells the monitor, by its reading, and has made its call -/
  | tell (t : ThreadId)

/-- A monitor that was just created, and nobody in a call. -/
def start (interval : Nat) (created : Int) : Desk where
  monitor := .start interval created
  reports := []
  clock := created
  latest := created
  begun := fun _ => none
  told := []

/-- One action, if it is possible. -/
def step (d : Desk) : Action → Option Desk
  | .pass ns => some { d with clock := d.clock + ns }
  | .read t a =>
    match d.begun t with
    | none =>
      some { d with
        latest := d.clock
        begun := Function.update d.begun t (some ⟨d.clock, a⟩) }
    | some _ => none
  | .tell t =>
    match d.begun t with
    | some n =>
      some { d with
        monitor := (d.monitor.play [n]).1
        reports := d.reports ++ d.monitor.reports [n]
        begun := Function.update d.begun t none
        told := d.told ++ [(n, d.clock)] }
    | none => none

/-- Actions one after another. -/
def steps (d : Desk) (as : List Action) : Option Desk := as.foldlM step d

/-- The calls in the order in which the monitor was told. -/
def notices (d : Desk) : List Notice := d.told.map Prod.fst

/-- All the time that is booked: that of the reports and of the current histogram. -/
def booked (d : Desk) : Nat :=
  (d.reports.map (·.histogram.total)).sum + d.monitor.histogram.total

/-- How long the calls took from their reading to telling the monitor, all
    together. -/
def delay (d : Desk) : Nat := (d.told.map fun x => elapsed x.1.time x.2).sum

/-- What holds of a desk that was opened for a monitor created at `created`. -/
structure Kept (interval : Nat) (created : Int) (d : Desk) : Prop where
  monitor : d.monitor = ((Monitor.start interval created).play d.notices).1
  reports : d.reports = (Monitor.start interval created).reports d.notices
  since : created ≤ d.latest
  latest : d.latest ≤ d.clock
  /-- a call in the middle of its two steps has read the clock in time -/
  begun : ∀ t, ∀ n ∈ d.begun t, created ≤ n.time ∧ n.time ≤ d.latest
  told : ∀ n ∈ d.notices, created ≤ n.time ∧ n.time ≤ d.latest
  setback : setback created 0 d.notices ≤ d.delay

section
variable {interval : Nat} {created : Int} {d d' : Desk} {x : Action} {as : List Action}

theorem kept_start : Kept interval created (start interval created) where
  monitor := rfl
  reports := rfl
  since := Int.le_refl _
  latest := Int.le_refl _
  begun := nofun
  told := nofun
  setback := Nat.le_refl _

theorem Kept.changedAt (h : Kept interval created d) :
    d.monitor.changedAt = lastChange created 0 d.notices := by
  rw [h.monitor, Monitor.play_changedAt]
  rfl

theorem Kept.changedAt_le (h : Kept interval created d) : d.monitor.changedAt ≤ d.latest := by
  rw [h.changedAt]
  exact lastChange_le h.since fun n hn => (h.told n hn).2

/-- A call falls behind the last change by no more than it was held up. -/
theorem Kept.setback_le (h : Kept interval created d) (n : Notice) :
    Idle.setback created 0 (d.notices ++ [n]) ≤ d.delay + elapsed n.time d.clock := by
  have hold := h.setback
  have hle := h.changedAt_le.trans h.latest
  rw [h.changedAt] at hle
  rw [setback_concat]
  split
  · omega
  · simp only [elapsed]
    omega

/-- **One action.**  A reading is the latest one when it is made; to tell the monitor
    is one more call of it. -/
theorem Kept.step (h : Kept interval created d) (hx : d.step x = some d') :
    Kept interval created d' := by
  cases x with
  | pass ns =>
    cases hx
    exact { h with latest := h.latest.trans (Int.le_add_of_nonneg_right (Int.natCast_nonneg ns)) }
  | read t a =>
    simp only [Desk.step] at hx
    split at hx
    · cases hx
      have hlatest := h.latest
      refine { h with
        since := h.since.trans hlatest
        latest := Int.le_refl _
        begun := fun u n hn => ?_
        told := fun n hn => ⟨(h.told n hn).1, (h.told n hn).2.trans hlatest⟩ }
      by_cases hu : u = t
      · simp only [hu, Function.update_self, Option.mem_some_iff] at hn
        rw [← hn]
        exact ⟨h.since.trans hlatest, Int.le_refl _⟩
      · simp only [Function.update_of_ne hu] at hn
        exact ⟨(h.begun u n hn).1, (h.begun u n hn).2.trans hlatest⟩
    · cases hx
  | tell t =>
    simp only [Desk.step] at hx
    split at hx
    · rename_i n hbegun
      cases hx
      have hnotices : (d.told ++ [(n, d.clock)]).map Prod.fst = d.notices ++ [n] := by
        rw [List.map_append]
        rfl
      refine ⟨?_, ?_, h.since, h.latest, fun u n' hn => ?_, ?_, ?_⟩
      · rw [Desk.notices, hnotices, Monitor.play_append, ← h.monitor]
      · rw [Desk.notices, hnotices, Monitor.reports_append, ← h.monitor, ← h.reports]
      · by_cases hu : u = t
        · simp only [hu, Function.update_self] at hn
          cases hn
        · simp only [Function.update_of_ne hu] at hn
          exact h.begun u n' hn
      · rw [Desk.notices, hnotices]
        exact List.forall_mem_append.2 ⟨h.told, List.forall_mem_singleton.2 (h.begun t n hbegun)⟩
      · rw [Desk.notices, hnotices]
        refine (h.setback_le n).trans (le_of_eq ?_)
        simp only [delay, List.map_append, List.sum_append, List.map_cons, List.map_nil,
          List.sum_cons, List.sum_nil, Nat.add_zero]
    · cases hx

theorem steps_cons : d.steps (x :: as) = some d' ↔
    ∃ d₁, d.step x = some d₁ ∧ d₁.steps as = some d' := by
  simp only [steps, List.foldlM_cons, Option.bind_eq_bind, Option.bind_eq_some_iff]

theorem steps_append {bs : List Action} (has : d.steps as = some d') :
    d.steps (as ++ bs) = d'.steps bs := by
  simp only [steps, List.foldlM_append, Option.bind_eq_bind] at has ⊢
  rw [has, Option.bind_some]

theorem Kept.steps (h : Kept interval created d) (has : d.steps as = some d') :
    Kept interval created d' := by
  induction as generalizing d with
  | nil =>
    cases has
    exact h
  | cons x as ih =>
    obtain ⟨d₁, hx, has⟩ := steps_cons.1 has
    exact ih (h.step hx) has

theorem Kept.booked (h : Kept interval created d) :
    (d.booked : Int) = d.monitor.changedAt - created + Idle.setback created 0 d.notices := by
  have hbooked := (Monitor.start interval created).booked_eq d.notices
  rw [Monitor.booked, ← h.monitor, ← h.reports] at hbooked
  rw [h.changedAt, Desk.booked, hbooked]
  simp [Monitor.start, Histogram.empty]

/-- **The account of the time**, for any number of threads and any interleaving of
    their calls.  What is booked is the time from the creation to the last change,
    which is not after the latest reading, and the setback; this is no more than
    the time for which calls were held up between their reading and telling the
    monitor.  If the monitor is told in the order of the readings, no time is
    invented: all that is booked is at most the time from the creation to the
    latest reading. -/
theorem account (has : (start interval created).steps as = some d) :
    (d.booked : Int) = d.monitor.changedAt - created + Idle.setback created 0 d.notices ∧
    d.monitor.changedAt ≤ d.latest ∧ d.latest ≤ d.clock ∧
    Idle.setback created 0 d.notices ≤ d.delay ∧
    ((d.notices.map Notice.time).Pairwise (· ≤ ·) → (d.booked : Int) ≤ d.latest - created) := by
  have hkept := kept_start.steps has
  refine ⟨hkept.booked, hkept.changedAt_le, hkept.latest, hkept.setback, fun hordered => ?_⟩
  have horderly : Orderly created d.notices := by
    refine List.pairwise_cons.2 ⟨fun time htime => ?_, hordered⟩
    obtain ⟨n, hn, rfl⟩ := List.mem_map.1 htime
    exact (hkept.told n hn).1
  have hle := hkept.changedAt_le
  rw [hkept.booked, setback_eq_zero horderly]
  omega

end

/-- Three threads begin their calls at ten, twenty and thirty; the first two are in
    the middle of theirs at the same time, and nobody overtakes. -/
def orderedCalls : List Action :=
  [.pass 10, .read 0 .enter, .pass 10, .read 1 .enter, .tell 0, .tell 1, .pass 10, .read 2 .enter,
    .tell 2]

theorem account_orderedCalls : ∃ d : Desk, (start 3600000000000 0).steps orderedCalls = some d ∧
    d.latest = 30 ∧ d.booked = 30 ∧ d.delay = 10 ∧
    (d.notices.map Notice.time).Pairwise (· ≤ ·) ∧ (d.booked : Int) ≤ d.latest - 0 := by
  have hrun : ((start 3600000000000 0).steps orderedCalls).isSome = true := rfl
  obtain ⟨d, hd⟩ := Option.isSome_iff_exists.1 hrun
  have hordered : (d.notices.map Notice.time).Pairwise (· ≤ ·) := by
    cases hd
    decide
  obtain ⟨-, -, -, -, hbooked⟩ := account hd
  exact ⟨d, hd, by cases hd; rfl, by cases hd; rfl, by cases hd; rfl, hordered, hbooked hordered⟩

/-- The same three threads, the second overtaking the first. -/
def overtakingCalls : List Action :=
  [.pass 10, .read 0 .enter, .pass 10, .read 1 .enter, .tell 1, .tell 0, .pass 10, .read 2 .enter,
    .tell 2]

/-- **To be overtaken invents time.**  The latest reading is thirty after the
    creation, and forty are booked: the ten between the first two readings count
    twice. -/
theorem booked_overtakingCalls : ∃ d : Desk,
    (start 3600000000000 0).steps overtakingCalls = some d ∧
    d.latest = 30 ∧ d.clock = 30 ∧ d.reports = [] ∧ d.monitor.histogram.rows = [(0, 20), (2, 20)] ∧
    d.booked = 40 ∧ ¬ (d.booked : Int) ≤ d.latest - 0 := by
  have hrun : ((start 3600000000000 0).steps overtakingCalls).isSome = true := rfl
  obtain ⟨d, hd⟩ := Option.isSome_iff_exists.1 hrun
  cases hd
  exact ⟨_, rfl, rfl, rfl, by decide, by decide, by decide, by decide⟩

end Desk

end Idle

/-! ## The workers of a pool -/

open Idle (Notice Desk)

variable {B V : Type}

/-- The call of the monitor that a worker begins in its next step, at a clock
    reading. -/
def Activity.reading? (now : Int) : Activity V → Option Notice
  | work (.clock sh) => some ⟨now, sh.act⟩
  | _ => none

/-- The call of the monitor that a worker has read the clock for and not made. -/
def State.begun? (s : State B V) (u : ThreadId) : Option Notice := (s.top? u).bind Activity.notice?

/-- The threads of a desk stand where the workers of a pool do. -/
structure Idle.Desk.Shows (d : Desk) (s : State B V) : Prop where
  monitor : d.monitor = s.monitor
  clock : d.clock = s.clock
  begun : d.begun = s.begun?

section
variable {s s' : State B V} {t u : ThreadId} {th w : Thread V} {c : Chance} {a : Activity V}
  {turn : Turn B V} {rest next : List (Activity V)} {x : Action B V} {as : List (Action B V)}
  {d : Desk}

theorem begun?_eq (hw : s.threads[u]? = some w) :
    s.begun? u = w.stack.head?.bind Activity.notice? := by
  simp only [State.begun?, State.top?, hw, Option.bind_eq_bind, Option.bind_some]

theorem begun?_eq_none (h : ∀ a ∈ w.stack, a.Rests) :
    w.stack.head?.bind Activity.notice? = none := by
  cases hs : w.stack with
  | nil => rfl
  | cons a rest =>
    have ha := h a (Thread.mem_of_stack hs)
    cases a with
    | work p => cases p <;> first | rfl | exact ha.elim
    | _ => rfl

/-- Who reads the clock is in the middle of a call afterwards, and nobody else who has
    taken a step. -/
theorem Deed.begun (hd : Deed s t th c a turn) (hrest : ∀ x ∈ rest, x.Rests)
    (hw : w.stack = turn.next ++ rest) :
    w.stack.head?.bind Activity.notice? = a.reading? s.clock := by
  by_cases hnil : turn.next = []
  · rw [hnil, List.nil_append] at hw
    rw [begun?_eq_none (by rwa [hw])]
    cases hd <;> first | rfl | cases hnil
  · rw [hw]
    cases hd with
    | @check b => cases b.told <;> rfl
    | @shift b sh now m r => cases r <;> cases sh <;> rfl
    | @report b sh => cases sh <;> rfl
    | _ => first | rfl | exact absurd rfl hnil

/-- What others do neither begins nor ends a call of the monitor. -/
theorem Move.begun_other (hm : Move s x s') (hx : x.actor? ≠ some u) :
    s'.begun? u = s.begun? u := by
  cases hu : s.threads[u]? with
  | some w =>
    obtain ⟨w', hw', hsame⟩ := hm.same hx hu
    rw [begun?_eq hw', begun?_eq hu, hsame.stack]
  | none =>
    have hnone : s.begun? u = none := by simp [State.begun?, State.top?, hu]
    rw [hnone]
    cases hw : s'.threads[u]? with
    | none => simp [State.begun?, State.top?, hw]
    | some w =>
      have hnext := hm.thread hw
      rw [hu] at hnext
      rw [begun?_eq hw]
      cases hnext with
      | outside => rfl
      | worker i => cases s.hooked <;> rfl

/-- To begin or to end anything but a step does not either. -/
theorem Move.begun_world (hm : Move s x s') (hs : s.Shaped) (hx : ∀ t c, x ≠ .run t c) :
    s'.begun? = s.begun? := by
  funext u
  by_cases hu : x.actor? = some u
  · cases hm with
    | arrive | rouse | tick => cases hu
    | run => exact absurd rfl (hx _ _)
    | @call t cl th s₁ next ht hf _ ho =>
      cases hu
      rw [begun?_eq (getElem?_modifyThread_self (ho.threads ▸ ht)), begun?_eq ht,
        begun?_eq_none fun a => (hs.thread _ th ht).rests hf]
      cases ho <;> rfl
    | finish ht hst | hook ht hst =>
      cases hu
      refine (begun?_eq (getElem?_modifyThread_self ht)).trans ?_
      rw [begun?_eq ht, hst]
      rfl
    | hookPanic ht hst =>
      cases hu
      refine (begun?_eq (getElem?_modifyThread_self (getElem?_modifyThread_self ht))).trans ?_
      rw [begun?_eq ht, hst]
      rfl
    | @expire t th k rest ht hst =>
      cases hu
      refine (begun?_eq (getElem?_modifyThread_self ht)).trans ?_
      rw [begun?_eq ht, hst]
      refine begun?_eq_none fun a ha => (hs.thread _ th ht).tail a ?_
      rwa [hst]
  · exact hm.begun_other hu

/-- A step begins the call that its activity says, or none. -/
theorem Move.begun_run (hm : Move s (.run t c) s') (hs : s.Shaped) (ht : s.top? t = some a) :
    s'.begun? = Function.update s.begun? t (a.reading? s.clock) := by
  funext u
  by_cases hu : u = t
  · rw [hu, Function.update_self]
    cases hm with
    | run _ ht' hst hd =>
      cases ht.symm.trans (top?_eq_some_iff.2 ⟨_, _, ht', hst⟩)
      obtain ⟨w, hw, hws⟩ := hd.stack ht' hst
      rw [begun?_eq hw]
      exact hd.begun (fun x hx => (hs.thread t _ ht').tail x (by rw [hst]; exact hx)) hws
  · rw [Function.update_of_ne hu]
    exact hm.begun_other fun h => hu (Option.some.inj h).symm

theorem notice?_of_reading? {now : Int} {n : Notice} (h : a.reading? now = some n) :
    a.notice? = none ∧ ∃ act, n = ⟨now, act⟩ := by
  unfold Activity.reading? at h
  split at h
  · cases h
    exact ⟨rfl, _, rfl⟩
  · cases h

theorem Idle.Desk.steps_read {act : Idle.Act} (h : d.begun t = none) :
    d.steps [.read t act] = some { d with
      latest := d.clock
      begun := Function.update d.begun t (some ⟨d.clock, act⟩) } := by
  simp only [Desk.steps, List.foldlM_cons, Desk.step, h]
  rfl

theorem Idle.Desk.steps_tell {n : Notice} (h : d.begun t = some n) :
    d.steps [.tell t] = some { d with
      monitor := (d.monitor.play [n]).1
      reports := d.reports ++ d.monitor.reports [n]
      begun := Function.update d.begun t none
      told := d.told ++ [(n, d.clock)] } := by
  simp only [Desk.steps, List.foldlM_cons, Desk.step, h]
  rfl

/-- **A desk can follow every action of a pool**: a worker reads the clock, tells the
    monitor, or does something that is not seen at the desk. -/
theorem Move.shown (hm : Move s x s') (hs : s.Shaped) (hx : x.IsForward) (h : d.Shows s) :
    ∃ ps d', d.steps ps = some d' ∧ d'.Shows s' ∧ d'.notices = d.notices ++ (s.notice? x).toList ∧
      d'.reports = d.reports ++ s.monitor.reports (s.notice? x).toList := by
  have hmonitor := hm.played
  -- what is not seen at the desk: nobody begins or ends a call, the clock stays
  have unseen (hn : s.notice? x = none) (hc : s'.clock = s.clock) (hb : s'.begun? = s.begun?) :
      ∃ ps d', d.steps ps = some d' ∧ d'.Shows s' ∧
        d'.notices = d.notices ++ (s.notice? x).toList ∧
        d'.reports = d.reports ++ s.monitor.reports (s.notice? x).toList := by
    rw [hn] at hmonitor ⊢
    exact ⟨[], d, rfl,
      ⟨h.monitor.trans hmonitor.symm, h.clock.trans hc.symm, h.begun.trans hb.symm⟩,
      (List.append_nil _).symm, (List.append_nil _).symm⟩
  cases x with
  | run t c =>
    obtain ⟨-, th, a, rest, -, hth, hst, -⟩ := run_iff.1 (step_iff.2 hm)
    have ht : s.top? t = some a := top?_eq_some_iff.2 ⟨th, rest, hth, hst⟩
    have hclock := hm.clock_eq nofun
    have hbegun := hm.begun_run hs ht
    have hself : d.begun t = a.notice? := by rw [h.begun, State.begun?, ht, Option.bind_some]
    rw [notice?_run ht] at hmonitor unseen ⊢
    cases hr : a.reading? s.clock with
    | some n =>
      obtain ⟨hn, act, rfl⟩ := notice?_of_reading? hr
      rw [hn] at hself hmonitor ⊢
      refine ⟨[.read t act], _, Desk.steps_read hself, ⟨h.monitor.trans hmonitor.symm,
        h.clock.trans hclock.symm, ?_⟩, (List.append_nil _).symm, (List.append_nil _).symm⟩
      rw [hbegun, hr, ← h.begun, ← h.clock]
    | none =>
      rw [hr] at hbegun
      cases hn : a.notice? with
      | some n =>
        rw [hn] at hself hmonitor
        refine ⟨[.tell t], _, Desk.steps_tell hself, ⟨?_, h.clock.trans hclock.symm, ?_⟩, ?_, ?_⟩
        · rw [hmonitor, h.monitor]
          rfl
        · rw [hbegun, h.begun]
        · simp only [Desk.notices, List.map_append]
          rfl
        · rw [h.monitor]
          rfl
      | none =>
        refine hn ▸ unseen hn hclock ?_
        have hidle : s.begun? t = none := by rw [State.begun?, ht, Option.bind_some, hn]
        rw [hbegun, ← hidle, Function.update_eq_self]
  | tick ns =>
    cases hm
    refine ⟨[.pass ns.toNat], _, rfl, ⟨h.monitor, ?_, h.begun⟩, (List.append_nil _).symm,
      (List.append_nil _).symm⟩
    show d.clock + ns.toNat = s.clock + ns
    rw [h.clock, Int.toNat_of_nonneg hx]
  | _ => exact unseen rfl (hm.clock_eq nofun) (hm.begun_world hs nofun)

theorem steps_shown (has : s.steps as = some s') (hr : s.Reachable)
    (hforward : ∀ x ∈ as, x.IsForward) (h : d.Shows s) :
    ∃ ps d', d.steps ps = some d' ∧ d'.Shows s' ∧ d'.notices = d.notices ++ s.notices as ∧
      d'.reports = d.reports ++ s.reports as := by
  induction as generalizing s d with
  | nil =>
    cases has
    exact ⟨[], d, rfl, h, (List.append_nil _).symm, (List.append_nil _).symm⟩
  | cons x as ih =>
    obtain ⟨s₁, hm, has⟩ := steps_cons.1 has
    obtain ⟨hx, hforward⟩ := List.forall_mem_cons.1 hforward
    obtain ⟨ps, d₁, hps, h₁, hnotices, hreports⟩ := hm.shown hr.shaped hx h
    obtain ⟨qs, d', hqs, h', hnotices', hreports'⟩ := ih has (hr.next hm) hforward h₁
    refine ⟨ps ++ qs, d', (Desk.steps_append hps).trans hqs, h', ?_, ?_⟩
    · rw [hnotices', hnotices, notices_cons hm, List.append_assoc]
    · rw [hreports', hreports, reports_cons hm, List.append_assoc]

/-- **The workers of a pool tell its monitor as the threads of a desk do.**  Every
    run under a clock that is never set back is one of a desk, with the same
    monitor, the same clock, the same calls and the same reports; so the account
    of a desk is that of a pool. -/
theorem State.Founded.desk {s₀ : State B V} (h₀ : s₀.Founded) (has : s₀.steps as = some s)
    (hforward : ∀ x ∈ as, x.IsForward) :
    ∃ ps d, (Desk.start s₀.monitor.interval s₀.clock).steps ps = some d ∧ d.Shows s ∧
      d.notices = s₀.notices as ∧ d.reports = s₀.reports as := by
  have hshow : (Desk.start s₀.monitor.interval s₀.clock).Shows s₀ := by
    obtain ⟨name, hooked, capacity, interval, workers, rfl⟩ := h₀
    refine ⟨rfl, rfl, funext fun u => ?_⟩
    cases u <;> rfl
  exact steps_shown has (Reachable.of_founded h₀) hforward hshow

end

end WorkerPool
