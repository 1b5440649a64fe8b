/-
  Who is idle: the count of the monitor, the marks on the badges, and the
  workers themselves.

  A worker marks its badge, tells the monitor, waits, tells the monitor again
  and takes the mark back, each in a step of its own, while it may be told to
  leave, taken off the roster or replaced.

  * `WorkPoint.isIdle` and `WorkPoint.isMarked` are the points between the two
    calls of the monitor, and those between the two marks;
    `State.enters` and `State.leaves` count the calls themselves;
  * `Move.idles`: a worker is at such a point after as many calls of the one kind
    as of the other and one;
  * `State.Reachable.current_eq`, `State.Reachable.isMarked`: the monitor counts
    the workers at the points between its calls, and the marks say who is between
    them;
  * `State.Founded.idleness`: at rest all of them agree.
-/
import WorkerPool.Proofs.Enrolment
import WorkerPool.Proofs.Passes
import WorkerPool.Proofs.Profile

namespace WorkerPool

variable {B V : Type}

/-! ## Points of a worker's loop -/

/-- Whether the worker has told the monitor that it is idle, and not yet that it
    is busy again. -/
def WorkPoint.isIdle : WorkPoint → Bool
  | report .settle _ | await | awaited _ | clock (.resume _) | shift (.resume _) _ => true
  | _ => false

/-- Whether the worker has marked itself idle, and not yet taken the mark back. -/
def WorkPoint.isMarked : WorkPoint → Bool
  | clock _ | shift .. | report .. | await | awaited _ | unmark _ => true
  | _ => false

/-- Whether a worker is at such a point of its loop. -/
def Thread.isAt (f : WorkPoint → Bool) (th : Thread V) : Bool :=
  match th.stack with
  | .work p :: _ => f p
  | _ => false

namespace Activity

/-- One for a worker that the monitor counts as idle. -/
def idles : Activity V → Nat
  | work p => p.isIdle.toNat
  | _ => 0

/-- One for a worker that is about to tell the monitor that it is idle. -/
def enters : Activity V → Nat
  | work (.shift .settle _) => 1
  | _ => 0

/-- One for a worker that is about to tell the monitor that it is busy again. -/
def leaves : Activity V → Nat
  | work (.shift (.resume _) _) => 1
  | _ => 0

end Activity

namespace State

/-- Whether `u` is at such a point of a worker's loop. -/
def isAt (s : State B V) (f : WorkPoint → Bool) (u : ThreadId) : Bool :=
  (s.threads[u]?).any (Thread.isAt f)

/-- One for a step in which `u` tells the monitor that it is idle. -/
def enters (u : ThreadId) (s : State B V) : Action B V → Nat
  | .run t _ => if t = u then ((s.top? t).map Activity.enters).getD 0 else 0
  | _ => 0

/-- One for a step in which `u` tells the monitor that it is busy again. -/
def leaves (u : ThreadId) (s : State B V) : Action B V → Nat
  | .run t _ => if t = u then ((s.top? t).map Activity.leaves).getD 0 else 0
  | _ => 0

end State

section
variable {s s' : State B V} {t u : ThreadId} {th w : Thread V} {c : Chance} {a : Activity V}
  {turn : Turn B V} {rest next : List (Activity V)} {f : WorkPoint → Bool}
  {as : List (Action B V)}

theorem isAt_iff : s.isAt f u = true ↔
    ∃ w p rest, s.threads[u]? = some w ∧ w.stack = .work p :: rest ∧ f p = true := by
  have isAt_thread (w : Thread V) :
      w.isAt f = true ↔ ∃ p rest, w.stack = .work p :: rest ∧ f p = true := by
    unfold Thread.isAt
    split <;> simp_all
  simp [State.isAt, Option.any_eq_true, isAt_thread]

/-- The weight of a thread says whether it is idle. -/
theorem State.Reachable.tally_idles (hr : s.Reachable) (hw : s.threads[u]? = some w) :
    w.tally Activity.idles = (s.isAt WorkPoint.isIdle u).toNat := by
  rw [State.isAt, hw, Option.any_some]
  cases hs : w.stack with
  | nil => simp [Thread.tally, Thread.isAt, hs]
  | cons a rest =>
    rw [(hr.shaped.thread u w hw).tally_eq hs, Thread.isAt, hs]
    · cases a <;> rfl
    · intro x hx
      cases x with
      | work p => cases p <;> first | rfl | exact hx.elim
      | _ => rfl

/-! ## The monitor -/

theorem leaves_le_idles : a.leaves ≤ a.idles := by
  cases a with
  | work p =>
    cases p with
    | shift sh now => cases sh <;> simp [Activity.leaves, Activity.idles, WorkPoint.isIdle]
    | _ => exact Nat.zero_le _
  | _ => exact Nat.zero_le _

/-- A worker becomes idle and busy again by telling the monitor so. -/
theorem Deed.idles (hd : Deed s t th c a turn) :
    (turn.next.map Activity.idles).sum + a.leaves = a.idles + a.enters := by
  cases hd with
  | @check b => cases b.told <;> rfl
  | @clock b sh => cases sh <;> rfl
  | @shift b sh now m r => cases sh <;> cases r <;> rfl
  | @report b sh => cases sh <;> rfl
  | _ => rfl

/-- The monitor is told by the workers, and by nobody else. -/
theorem Deed.monitor (hd : Deed s t th c a turn) (hle : a.leaves ≤ s.monitor.current) :
    turn.state.monitor.current + a.leaves = s.monitor.current + a.enters := by
  cases hd with
  | @shift b sh now m r hb hm =>
    cases sh with
    | settle =>
      have hset : (s.monitor.enter now).1 = m := congrArg (fun x => x.1.monitor) hm
      show m.current = s.monitor.current + 1
      rw [← hset]
      exact Idle.Monitor.set_current
    | resume next =>
      have hset : (s.monitor.leave now).1 = m := congrArg (fun x => x.1.monitor) hm
      show m.current + 1 = s.monitor.current
      rw [← hset, Idle.Monitor.leave, Idle.Monitor.set_current]
      exact Nat.sub_add_cancel hle
  | clear hp | clearEnd hp | purge hp | purgeEnd hp | sweep hp | sweepEnd hp => cases hp <;> rfl
  | _ => rfl

theorem Opening.idles {cl : Call B} {next : List (Activity V)} (ho : Opening s cl s' next) :
    (next.map Activity.idles).sum = 0 := by
  cases ho <;> rfl

theorem Opening.monitor {cl : Call B} {next : List (Activity V)} (ho : Opening s cl s' next) :
    s'.monitor = s.monitor := by
  cases ho <;> rfl

/-- The monitor counts those who are idle. -/
theorem Move.current {x : Action B V} (hm : Move s x s')
    (h : s.monitor.current = tally Activity.idles s.threads) :
    s'.monitor.current = tally Activity.idles s'.threads := by
  cases hm with
  | arrive =>
    rw [tally_append]
    exact h
  | @call t cl th s₁ next ht _ _ ho =>
    rw [ho.tally ht, ho.idles]
    show s₁.monitor.current = _
    rw [ho.monitor, h]
    rfl
  | finish ht hs | hook ht hs | expire ht hs =>
    rw [tally_settleTurn_same ht hs rfl]
    exact h
  | hookPanic ht hs =>
    refine Eq.trans h (Eq.symm ((tally_modify_stack ?_).trans (tally_settleTurn_same ht hs rfl)))
    exact fun _ => rfl
  | @run t c th a rest turn _ ht hs hd =>
    have htally := hd.tally (f := Activity.idles) ht hs rfl rfl
    have hidles := hd.idles
    have hmine : a.idles ≤ th.tally Activity.idles := by simp [Thread.tally, hs]
    have hall := le_tally (f := Activity.idles) ht
    have hleaves : a.leaves ≤ a.idles := leaves_le_idles
    have hmonitor := hd.monitor (by omega)
    show turn.state.monitor.current = _
    omega
  | rouse | tick => exact h

/-- **The monitor counts those who are idle**, in every reachable state. -/
theorem State.Reachable.current_eq (hr : s.Reachable) :
    s.monitor.current = tally Activity.idles s.threads := by
  refine hr.induct (P := fun s => s.monitor.current = tally Activity.idles s.threads) ?_
    fun _ _ _ _ ih hm => hm.current ih
  rintro s ⟨name, hooked, capacity, interval, workers, rfl⟩
  rfl

/-! ## The calls of the monitor -/

theorem passages_of_ne {x : Action B V} (hx : x.actor? ≠ some u) :
    s.enters u x = 0 ∧ s.leaves u x = 0 := by
  cases x with
  | run t c =>
    have hne : t ≠ u := fun h => hx (congrArg some h)
    exact ⟨if_neg hne, if_neg hne⟩
  | _ => exact ⟨rfl, rfl⟩

/-- **A worker becomes idle by one call of the monitor and busy by the other.** -/
theorem Move.idles {x : Action B V} (hm : Move s x s') :
    s'.load Activity.idles u + s.leaves u x = s.load Activity.idles u + s.enters u x := by
  cases hu : s.threads[u]? with
  | none =>
    -- nobody is there, or a thread begins that is not idle
    have hzero : s.load Activity.idles u = 0 := by simp [State.load, hu]
    have hzero' : s'.load Activity.idles u = 0 := by
      cases hw : s'.threads[u]? with
      | none => simp [State.load, hw]
      | some w =>
        have hnext := hm.thread hw
        rw [hu] at hnext
        rw [load_eq hw]
        cases hnext with
        | outside => rfl
        | worker i => cases s.hooked <;> rfl
    have hx : x.actor? ≠ some u := by
      intro hx
      obtain ⟨w, hw⟩ := hm.exists_actor hx
      cases hu.symm.trans hw
    obtain ⟨henters, hleaves⟩ := passages_of_ne (s := s) hx
    rw [hzero, hzero', henters, hleaves]
  | some th =>
    by_cases hx : x.actor? = some u
    · cases hm with
      | arrive | rouse | tick => cases hx
      | @call t cl th s₁ next ht _ _ ho =>
        cases hx
        rw [load_eq (getElem?_modifyThread_self (ho.threads ▸ ht)), load_eq ht]
        simp only [Thread.tally, List.map_append, List.sum_append, ho.idles]
        exact congrArg (· + 0) (Nat.zero_add _)
      | finish ht hs | hook ht hs | expire ht hs =>
        cases hx
        exact load_settleTurn (f := Activity.idles) ht hs
      | hookPanic ht hs =>
        cases hx
        rw [load_modify_stack (by intros; rfl)]
        exact load_settleTurn (f := Activity.idles) ht hs
      | @run t c th a rest turn _ ht hs hd =>
        cases hx
        have hload := hd.load (f := Activity.idles) ht hs
        have hidles := hd.idles
        have htop := top?_eq_some_iff.2 ⟨th, rest, ht, hs⟩
        simp only [State.enters, State.leaves, if_true, htop, Option.map_some, Option.getD_some]
        omega
    · obtain ⟨henters, hleaves⟩ := passages_of_ne (s := s) hx
      rw [henters, hleaves, hm.load_other hx hu]

/-- In every run a worker is idle if it has called the monitor once more to say so
    than to take it back. -/
theorem steps_idles (has : s.steps as = some s') :
    s'.load Activity.idles u + s.total (State.leaves u) as =
      s.load Activity.idles u + s.total (State.enters u) as := by
  induction as generalizing s with
  | nil =>
    cases has
    rfl
  | cons x as ih =>
    obtain ⟨s₁, hm, has⟩ := steps_cons.1 has
    have hone := hm.idles (u := u)
    have hrest := ih has
    rw [total_cons hm, total_cons hm]
    omega

/-! ## The marks -/

theorem rebadge_idle {b : Badge} (h : t ≠ u ∨ ∀ p, a ≠ .work p) :
    (a.rebadge t u b).idle = b.idle := by
  unfold Activity.rebadge
  split
  · rcases h with h | h
    · rw [if_neg h]
    · exact absurd rfl (h _)
  · rcases h with h | h
    · rw [if_neg h]
    · exact absurd rfl (h _)
  · split <;> rfl
  · split <;> rfl
  · rfl

theorem isAt_of_ne_work (hs : w.stack = a :: rest) (ha : ∀ p, a ≠ .work p) :
    w.isAt f = false := by
  unfold Thread.isAt
  rw [hs]
  cases a with
  | work p => exact absurd rfl (ha p)
  | _ => rfl

/-- Nobody is marked whose stack waits for a task to end, or is empty. -/
theorem isMarked_of_rests (h : ∀ x ∈ w.stack, x.Rests) : w.isAt WorkPoint.isMarked = false := by
  cases hs : w.stack with
  | nil => simp [Thread.isAt, hs]
  | cons x rest =>
    have hx := h x (Thread.mem_of_stack hs)
    cases x with
    | work p =>
      cases p with
      | check => simp [Thread.isAt, hs, WorkPoint.isMarked]
      | _ => exact hx.elim
    | _ => exact isAt_of_ne_work hs nofun

/-- A step of a worker's loop marks it, takes the mark back, or leaves it. -/
theorem Deed.marked {p : WorkPoint} {b : Badge} (hd : Deed s t th c (.work p) turn)
    (h : b.idle = p.isMarked) (hw : w.stack = turn.next ++ rest) :
    (Activity.rebadge (V := V) (.work p) t t b).idle = w.isAt WorkPoint.isMarked := by
  simp only [Thread.isAt, hw]
  cases hd with
  | mark => simp [Activity.rebadge, WorkPoint.isMarked]
  | unmark | unmarkNone => simp [Activity.rebadge, runNext, WorkPoint.isMarked]
  | @check b' => cases b'.told <;> exact h
  | @shift b' sh now m r => cases r <;> cases sh <;> exact h
  | @report b' sh => cases sh <;> exact h
  | _ => exact h

/-- Whoever goes on, but not in a worker's loop, is not marked. -/
theorem isMarked_of_append (hs : w.stack = next ++ rest) (hn : ∀ p, .work p ∉ next)
    (hrest : ∀ x ∈ rest, x.Rests) : w.isAt WorkPoint.isMarked = false := by
  cases next with
  | nil => exact isMarked_of_rests (by rw [hs]; exact hrest)
  | cons y next =>
    refine isAt_of_ne_work hs fun p hp => hn p ?_
    rw [hp]
    exact List.mem_cons_self

/-- The mark of a worker is kept by what others do. -/
theorem Move.idle_other {x : Action B V} {b : Badge} (hm : Move s x s') (hx : x.actor? ≠ some u)
    (hb : s.badge? u = some b) : ∃ b', s'.badge? u = some b' ∧ b'.idle = b.idle := by
  rcases hm.badge? hb with h | ⟨t, c, a, rfl, -, h⟩
  · exact ⟨b, h, rfl⟩
  · exact ⟨_, h, rebadge_idle (.inl fun heq => hx (congrArg some heq))⟩

/-- A worker moves, and the mark with it. -/
theorem Move.marked_self {x : Action B V} {b : Badge} (hm : Move s x s') (hr : s.Reachable)
    (hx : x.actor? = some u) (ht : s.threads[u]? = some th) (hb : th.badge = some b)
    (h : b.idle = th.isAt WorkPoint.isMarked) (hw : s'.threads[u]? = some w) :
    ∃ b', s'.badge? u = some b' ∧ b'.idle = w.isAt WorkPoint.isMarked := by
  have hshaped := hr.shaped.thread u th ht
  have hbadge : s.badge? u = some b := by rw [badge?_eq, ht, Option.bind_some, hb]
  cases hm with
  | arrive | rouse | tick => cases hx
  | @call t cl th' s₁ next ht' hf _ ho =>
    cases hx
    cases ht.symm.trans ht'
    cases (getElem?_modifyThread_self (ho.threads ▸ ht)).symm.trans hw
    refine ⟨b, by rwa [badge?_modifyThread (by intros; rfl), badge?_eq, ho.threads, ← badge?_eq],
      ?_⟩
    rw [h, isMarked_of_rests fun x => hshaped.rests hf]
    exact (isMarked_of_append rfl ho.next_shaped.2 fun x => hshaped.rests hf).symm
  | finish ht' hs | hook ht' hs =>
    cases hx
    cases ht.symm.trans ht'
    cases (getElem?_modifyThread_self ht).symm.trans hw
    refine ⟨b, by rwa [badge?_settleTurn], ?_⟩
    rw [h, Thread.isAt, hs]
    rfl
  | expire ht' hs =>
    cases hx
    cases ht.symm.trans ht'
    cases (getElem?_modifyThread_self ht).symm.trans hw
    refine ⟨b, by rwa [badge?_settleTurn], ?_⟩
    rw [h, isAt_of_ne_work hs nofun]
    exact (isMarked_of_rests hshaped.tail).symm
  | hookPanic ht' hs =>
    cases hx
    cases ht.symm.trans ht'
    cases (getElem?_modifyThread_self (getElem?_modifyThread_self ht)).symm.trans hw
    refine ⟨b, by rwa [badge?_modifyThread (by intros; rfl), badge?_settleTurn], ?_⟩
    rw [h, Thread.isAt, hs]
    rfl
  | @run t c th' a rest turn hw' ht' hs hd =>
    cases hx
    cases ht.symm.trans ht'
    obtain ⟨w', hw', hst⟩ := hd.stack ht hs
    cases hw.symm.trans hw'
    refine ⟨a.rebadge u u b, by rw [badge?_settleTurn, hd.badge? hbadge], ?_⟩
    by_cases ha : ∃ p, a = .work p
    · obtain ⟨p, rfl⟩ := ha
      exact hd.marked (by rw [h, Thread.isAt, hs]) hst
    · have hne : ∀ p, a ≠ .work p := fun p hp => ha ⟨p, hp⟩
      rw [rebadge_idle (.inr hne), h, isAt_of_ne_work hs hne]
      have hrest : ∀ x ∈ rest, x.Rests := fun x hx => hshaped.tail x (by rw [hs]; exact hx)
      exact (isMarked_of_append hst ((Follows.run hd).work_not_mem hne) hrest).symm

/-- **The marks say who is idle**: a worker's badge is marked just as long as the
    worker is between the step that marks it and the one that takes the mark
    back. -/
theorem State.Reachable.isMarked (hr : s.Reachable) {b : Badge} (hw : s.threads[u]? = some w)
    (hb : w.badge = some b) : b.idle = w.isAt WorkPoint.isMarked := by
  refine hr.induct (P := fun s => ∀ (w : Thread V) (b : Badge), s.threads[u]? = some w →
    w.badge = some b → b.idle = w.isAt WorkPoint.isMarked) ?_ ?_ w b hw hb
  · rintro s ⟨name, hooked, capacity, interval, workers, rfl⟩ w b hw hb
    rw [List.mem_singleton.1 (List.mem_of_getElem? hw)] at hb
    cases hb
  · intro s x s' hr ih hm w b hw hb
    have hbadge : s'.badge? u = some b := by rw [badge?_eq, hw, Option.bind_some, hb]
    cases hold : s.badge? u with
    | none =>
      obtain ⟨t, c, n, i, start, -, -, hu, rfl, -⟩ := hm.enrols hold hbadge
      have hnext := hm.thread hw
      rw [hu, List.getElem?_eq_none (Nat.le_refl _)] at hnext
      cases hnext with
      | outside => cases hb
      | worker => cases s.hooked <;> rfl
    | some b₀ =>
      obtain ⟨th, ht, hb₀⟩ := Option.bind_eq_some_iff.1 (badge?_eq s u ▸ hold)
      have hidle := ih th b₀ ht hb₀
      by_cases hx : x.actor? = some u
      · obtain ⟨b', hb', hmark⟩ := hm.marked_self hr hx ht hb₀ hidle hw
        cases hbadge.symm.trans hb'
        exact hmark
      · obtain ⟨b', hb', hkeep⟩ := hm.idle_other hx hold
        cases hbadge.symm.trans hb'
        obtain ⟨w', hw', hsame⟩ := hm.same hx ht
        cases hw.symm.trans hw'
        rw [hkeep, hidle, Thread.isAt, Thread.isAt, hsame.stack]

/-- An idle mark is worn by those who are between the two steps. -/
theorem State.Reachable.idle_eq (hr : s.Reachable) :
    (s.badge? u).any (·.idle) = s.isAt WorkPoint.isMarked u := by
  cases hb : s.badge? u with
  | some b =>
    obtain ⟨w, hw, hbadge⟩ := Option.bind_eq_some_iff.1 (badge?_eq s u ▸ hb)
    rw [Option.any_some, hr.isMarked hw hbadge, State.isAt, hw, Option.any_some]
  | none =>
    -- nobody but a worker is in the loop of one
    refine (Bool.eq_false_iff.2 fun hat => ?_).symm
    obtain ⟨w, p, rest, hw, hs, -⟩ := isAt_iff.1 hat
    have hsome := (hr.shaped.thread u w hw).worker p (Thread.mem_of_stack hs)
    rw [badge?_eq, hw, Option.bind_some] at hb
    rw [hb] at hsome
    cases hsome

/-! ## Panics -/

/-- A worker whose start hook has panicked is about to leave, or has left. -/
def Thread.IsLeaving (w : Thread V) : Prop :=
  w.badge.isSome = true ∧ (w.stack = [.work .leave] ∨ (∃ ks r, w.stack = [.discard ks r]) ∨
    w.stack = [])

theorem Thread.IsLeaving.not_isFree (h : w.IsLeaving) : w.isFree ≠ true := by
  obtain ⟨hb, hs | ⟨ks, r, hs⟩ | hs⟩ := h <;> simp [Thread.isFree, hs]
  exact Option.ne_none_iff_isSome.2 hb

/-- **Who has panicked does nothing but leave.** -/
theorem Move.leaving {x : Action B V} (hm : Move s x s') (hr : s.Reachable)
    (h : ∀ th : Thread V, s.threads[u]? = some th → th.died = true → th.IsLeaving)
    (hw : s'.threads[u]? = some w) (hdied : w.died = true) : w.IsLeaving := by
  cases ht : s.threads[u]? with
  | none =>
    have hnext := hm.thread hw
    rw [ht] at hnext
    cases hnext with
    | outside | worker => cases hdied
  | some th =>
    by_cases hx : x.actor? = some u
    · cases hm with
      | arrive | rouse | tick => cases hx
      | call ht' hf _ ho =>
        cases hx
        cases ht.symm.trans ht'
        cases (getElem?_modifyThread_self (ho.threads ▸ ht)).symm.trans hw
        exact absurd hf (h th ht hdied).not_isFree
      | finish ht' hs | hook ht' hs | expire ht' hs =>
        cases hx
        cases ht.symm.trans ht'
        cases (getElem?_modifyThread_self ht).symm.trans hw
        obtain ⟨-, hst | ⟨ks, r, hst⟩ | hst⟩ := h th ht hdied <;> cases hs.symm.trans hst
      | hookPanic ht' hs =>
        cases hx
        cases ht.symm.trans ht'
        cases (getElem?_modifyThread_self (getElem?_modifyThread_self ht)).symm.trans hw
        have hb := (hr.shaped.thread u th ht).worker _ (Thread.mem_of_stack hs)
        have hduty := hr.onDuty ht hb
        rw [hs] at hduty
        refine ⟨hb, .inl ?_⟩
        show [.work .leave] ++ th.stack.tail = [.work .leave]
        rw [hs, hduty.below_work]
        rfl
      | @run t c th' a rest turn _ ht' hs hd =>
        cases hx
        cases ht.symm.trans ht'
        obtain ⟨w₁, hw₁, hsame⟩ := hd.same ht
        cases (getElem?_modifyThread_self hw₁).symm.trans hw
        obtain ⟨hb, hst⟩ := h th ht (hsame.died.symm.trans hdied)
        refine ⟨hsame.worker.trans hb, ?_⟩
        show turn.next ++ w₁.stack.tail = _ ∨ (∃ ks r, turn.next ++ w₁.stack.tail = _) ∨
          turn.next ++ w₁.stack.tail = []
        rw [hsame.stack]
        rcases hst with hst | ⟨ks, r, hst⟩ | hst
        · cases hs.symm.trans hst
          rw [hs]
          cases hd <;> exact .inr (.inl ⟨_, _, rfl⟩)
        · cases hs.symm.trans hst
          rw [hs]
          cases hd with
          | discarded => exact .inr (.inr rfl)
          | discard => exact .inr (.inl ⟨_, _, rfl⟩)
        · cases hs.symm.trans hst
    · obtain ⟨w', hw', hsame⟩ := hm.same hx ht
      cases hw.symm.trans hw'
      have hth := h th ht (hsame.died.symm.trans hdied)
      rw [Thread.IsLeaving, hsame.worker, hsame.stack]
      exact hth

theorem State.Reachable.leaving (hr : s.Reachable) (hw : s.threads[u]? = some w)
    (hdied : w.died = true) : w.IsLeaving := by
  refine hr.induct (P := fun s => ∀ w : Thread V, s.threads[u]? = some w → w.died = true →
    w.IsLeaving) ?_ (fun _ _ _ hr ih hm w hw hdied => hm.leaving hr ih hw hdied) w hw hdied
  rintro s ⟨name, hooked, capacity, interval, workers, rfl⟩ w hw hdied
  rw [List.mem_singleton.1 (List.mem_of_getElem? hw)] at hdied
  cases hdied

/-! ## At rest -/

/-- Read off the thread. -/
instance : Decidable (s.HasDied u) :=
  decidable_of_iff ((s.threads[u]?).any Thread.died = true) (by
    simp [State.HasDied, Option.any_eq_true])

/-- Told by the load of the thread. -/
instance : Decidable (s.IsInTask u) :=
  decidable_of_iff (0 < s.load Activity.runs u) (by
    cases hw : s.threads[u]? with
    | none => simp [State.load, State.IsInTask, hw]
    | some w =>
      rw [load_eq hw]
      constructor
      · intro h
        obtain ⟨a, ha, hpos⟩ := Thread.exists_of_tally_pos h
        obtain ⟨k, i, rfl⟩ := runs_pos.1 hpos
        exact ⟨w, hw, k, i, ha⟩
      · rintro ⟨w', hw', k, i, ha⟩
        cases hw.symm.trans hw'
        exact Thread.tally_pos ha Nat.one_pos)

/-- At rest a worker is at no point of its loop but where it sleeps, or in its
    start hook. -/
theorem State.AtRest.isAt_iff (h : s.AtRest) (hr : s.Reachable) (hhook : f .hook = false)
    (hawait : f .await = true) : s.isAt f u = true ↔ s.Awaits u := by
  constructor
  · intro hat
    obtain ⟨w, p, rest, hw, hs, hp⟩ := WorkerPool.isAt_iff.1 hat
    have hne : p ≠ .hook := by
      rintro rfl
      rw [hhook] at hp
      cases hp
    rcases h.waits hr.shaped hw hs (able_of_ne_hook hne) with ⟨heq, -⟩ | ⟨⟨k, heq⟩, -⟩
    · exact top?_eq_some_iff.2 ⟨w, rest, hw, heq ▸ hs⟩
    · cases heq
  · intro ha
    obtain ⟨w, rest, hw, hs⟩ := top?_eq_some_iff.1 ha
    exact WorkerPool.isAt_iff.2 ⟨w, _, rest, hw, hs, hawait⟩

/-- At rest those who sleep are marked, and nobody else. -/
theorem State.AtRest.idle_iff (h : s.AtRest) (hr : s.Reachable) :
    (s.badge? u).any (·.idle) = true ↔ s.Awaits u := by
  rw [hr.idle_eq]
  exact h.isAt_iff hr rfl rfl

/-- At rest the monitor counts the idle marks of the roster. -/
theorem State.AtRest.current_eq (h : s.AtRest) (hr : s.Reachable) :
    s.monitor.current = s.idleCount := by
  have idle {u : ThreadId} : s.isAt WorkPoint.isIdle u = true ↔ s.Awaits u := h.isAt_iff hr rfl rfl
  rw [hr.current_eq, State.idleCount, List.countP_eq_length_filter]
  refine Nat.le_antisymm (tally_le_length fun u w hw hpos => ?_)
    (length_le_tally (hr.ruled.nodup.filter _) fun u hu => ?_)
  · rw [hr.tally_idles hw] at hpos ⊢
    have ha := idle.1 (Bool.toNat_eq_one.1 (Nat.le_antisymm (Bool.toNat_le _) hpos))
    exact ⟨Bool.toNat_le _, List.mem_filter.2 ⟨h.mem_roster hr ha, (h.idle_iff hr).2 ha⟩⟩
  · have ha := (h.idle_iff hr).1 (List.mem_filter.1 hu).2
    obtain ⟨w, rest, hw, hs⟩ := top?_eq_some_iff.1 ha
    refine ⟨w, hw, ?_⟩
    rw [hr.tally_idles hw, idle.2 ha]
    exact Nat.one_pos

/-- At rest a worker of the roster that has ended has panicked. -/
theorem State.AtRest.hasDied (h : s.AtRest) (hr : s.Reachable) (hu : u ∈ s.roster)
    (hend : s.HasEnded u) : s.HasDied u := by
  obtain ⟨hdone, hforced⟩ : s.done = false ∧ s.forced = false := by
    simpa [State.isStopped] using h.isStopped_eq_false hr hu
  rcases hr.tenure (hr.ruled.worker u hu) with hd | ht | hdied | hstays
  · rw [hdone] at hd
    cases hd
  · have hf := hr.ruled.told u hu ht
    rw [hforced] at hf
    cases hf
  · exact hdied
  · exact absurd hstays hend.not_stays

/-- If each member of a list is of one kind out of three, these make up the list. -/
theorem length_eq_countP {α : Type} {p q r : α → Bool} {l : List α}
    (h : ∀ x ∈ l, (p x).toNat + (q x).toNat + (r x).toNat = 1) :
    l.length = l.countP p + l.countP q + l.countP r := by
  induction l with
  | nil => rfl
  | cons x l ih =>
    have count {p : α → Bool} : (x :: l).countP p = l.countP p + (p x).toNat := by
      cases hx : p x <;> simp [hx]
    have hone := h x List.mem_cons_self
    have hrest := ih fun y hy => h y (List.mem_cons_of_mem _ hy)
    rw [count, count, count, List.length_cons]
    omega

/-- Who sleeps is in the middle of no task. -/
theorem State.Reachable.not_isInTask (hr : s.Reachable) (ha : s.Awaits u) : ¬ s.IsInTask u := by
  rintro ⟨w, hw, k, i, htask⟩
  obtain ⟨w', rest, hw', hs⟩ := top?_eq_some_iff.1 ha
  cases hw.symm.trans hw'
  have hb := (hr.shaped.thread u w hw).worker _ (Thread.mem_of_stack hs)
  have hduty := hr.onDuty hw hb
  rw [hs] at hduty
  rw [hs, hduty.below_work] at htask
  simp at htask

/-- Who has panicked neither sleeps nor is in the middle of a task. -/
theorem State.Reachable.not_of_hasDied (hr : s.Reachable) (hdied : s.HasDied u) :
    ¬ s.Awaits u ∧ ¬ s.IsInTask u := by
  obtain ⟨w, hw, hdied⟩ := hdied
  obtain ⟨-, hst⟩ := hr.leaving hw hdied
  constructor
  · intro ha
    obtain ⟨w', rest, hw', hs⟩ := top?_eq_some_iff.1 ha
    cases hw.symm.trans hw'
    simp [hs] at hst
  · rintro ⟨w', hw', k, i, htask⟩
    cases hw.symm.trans hw'
    rcases hst with hst | ⟨ks, r, hst⟩ | hst <;> simp [hst] at htask

/-- **At rest a worker of the roster sleeps, runs a task, or has panicked**, if no
    start hook is running. -/
theorem State.AtRest.size_eq (h : s.AtRest) (hr : s.Reachable)
    (hhook : ∀ u, s.top? u ≠ some (.work .hook)) :
    s.size = s.idleCount + s.roster.countP (s.IsInTask ·) + s.roster.countP (s.HasDied ·) := by
  refine length_eq_countP fun u hu => ?_
  have unmarked (ha : ¬ s.Awaits u) : (s.badge? u).any (·.idle) = false :=
    Bool.eq_false_iff.2 (mt (h.idle_iff hr).1 ha)
  rcases h.worker hr (hr.ruled.worker u hu) with hend | hh | ha | htask
  · have hdied := h.hasDied hr hu hend
    obtain ⟨hsleep, htask⟩ := hr.not_of_hasDied hdied
    simp [unmarked hsleep, htask, hdied]
  · exact absurd hh (hhook u)
  · have hlive : ¬ s.HasDied u := fun hdied => (hr.not_of_hasDied hdied).1 ha
    simp [(h.idle_iff hr).2 ha, hr.not_isInTask ha, hlive]
  · have hlive : ¬ s.HasDied u := fun hdied => (hr.not_of_hasDied hdied).2 htask
    simp [unmarked fun ha => hr.not_isInTask ha htask, htask, hlive]

/-! ## The agreement -/

/-- In every run a worker has told the monitor that it is idle as often as that it
    is busy again, and once more while it is idle. -/
theorem State.Founded.total_enters {s₀ : State B V} (h₀ : s₀.Founded)
    (has : s₀.steps as = some s) :
    s₀.total (State.enters u) as =
      s₀.total (State.leaves u) as + (s.isAt WorkPoint.isIdle u).toNat := by
  have hr : s.Reachable := (Reachable.of_founded h₀).run has
  have hsum := steps_idles (u := u) has
  have hzero : s₀.load Activity.idles u = 0 := by
    obtain ⟨name, hooked, capacity, interval, workers, rfl⟩ := h₀
    cases u <;> rfl
  have hload : s.load Activity.idles u = (s.isAt WorkPoint.isIdle u).toNat := by
    cases hw : s.threads[u]? with
    | none => simp [State.load, State.isAt, hw]
    | some w => rw [load_eq hw, hr.tally_idles hw]
  omega

end

/-- A run of a pool whose workers have panicked in the start hook, are in a task,
    sleep, and were sent away, one each. -/
def motleyRun : List (Action Unit Unit) :=
  [paces 0 8, [.hook 1 true], paces 1 2, [.hook 2 false], [.call 0 (.submit ())], paces 0 3,
    paces 2 3, [.hook 3 false], paces 3 5, [.hook 4 false], paces 4 5, [.call 0 (.resize 3)],
    paces 0 5, paces 4 6, paces 3 1].flatten

end WorkerPool
