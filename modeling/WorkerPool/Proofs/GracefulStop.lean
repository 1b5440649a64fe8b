/-
  A graceful stop completes the backlog.

  As long as a task that the stop has found is in the backlog, a worker that
  nobody sends away stays, and the stop waits for it: so the pass at the end
  finds no such task, and nobody gives back the last share of the pool.

  * `Move.removed`: a task leaves the backlog in an event that says who took it;
  * `State.Closing.run`: while a worker of the roster lives, a task that the
    stop has found leaves the backlog for somebody who asked for it;
  * `State.Founded.graceful_stop`: when the stop returns, these tasks have been
    taken, the tasks that its workers took have finished, and nobody is owned.
-/
import WorkerPool.Proofs.Closing
import WorkerPool.Proofs.Fate

namespace WorkerPool

variable {B V : Type}

/-! ## Leaving the backlog -/

/-- A remover other than a graceful stop or the end of the pool: a worker, or
    somebody who called for the task to be taken out or thrown away. -/
def Remover.IsCalledFor : Remover → Prop
  | worker _ | caller _ | clearing _ | stop _ false => True
  | stop _ true | last _ => False

section
variable {s s' : State B V} {t u v : ThreadId} {k : TaskId} {us : List ThreadId}
  {rest : List (Activity V)}

/-- **Nobody takes a task out of the backlog unnoticed.** -/
theorem Move.removed {x : Action B V} (hm : Move s x s') (h : s.Ledgered)
    (hk : k ∈ s.backlog.tasks) : k ∈ s'.backlog.tasks ∨ ∃ r, .removed k r ∈ s.events x := by
  obtain ⟨i, hi⟩ := mem_tasks_iff.1 hk
  obtain ⟨g, hg, hn⟩ := hm.stage h hi
  have noticed {r : Remover} (hes : own k (s.events x) = [.removed k r]) :
      ∃ r, .removed k r ∈ s.events x :=
    ⟨r, (mem_own.1 (by rw [hes]; exact List.mem_singleton_self _)).1⟩
  generalize hes : own k (s.events x) = es at hn
  cases hn with
  | stay | advance => exact .inl (mem_tasks_iff.2 ⟨_, hg⟩)
  | fetch | takeOut | clear | stop | last => exact .inr (noticed hes)

/-- A task is taken out of the backlog once. -/
theorem Stage.Log.removed_unique {g : Stage V} {es : List (Event V)} (h : g.Log k es)
    {r r' : Remover} (hr : .removed k r ∈ es) (hr' : .removed k r' ∈ es) : r = r' := by
  have once {t : ThreadId} {es : List (Event V)} (h : Fetched k t es) (hr : .removed k r ∈ es)
      (hr' : .removed k r' ∈ es) : r = r' := by
    obtain ⟨r₀, rfl⟩ : ∃ r₀, es = [.removed k r₀] := by
      rcases h with rfl | ⟨u, rfl⟩ <;> exact ⟨_, rfl⟩
    cases List.mem_singleton.1 hr
    cases List.mem_singleton.1 hr'
    rfl
  have ran {t : ThreadId} {es : List (Event V)} {o : TaskResult V} (h : Ran k t o es)
      (hr : .removed k r ∈ es) (hr' : .removed k r' ∈ es) : r = r' := by
    cases h with
    | skipped h | ended o h => exact once h (by simpa using hr) (by simpa using hr')
  cases h with
  | carried | queued => cases hr
  | held | dropping =>
    cases List.mem_singleton.1 hr
    cases List.mem_singleton.1 hr'
    rfl
  | dropped r₀ =>
    have hr : r = r₀ := by simpa using hr
    have hr' : r' = r₀ := by simpa using hr'
    rw [hr, hr']
  | refused => simp at hr
  | fetched h | skipping h | inBody h | tallying o h =>
    exact once h (by simpa using hr) (by simpa using hr')
  | settling h | finished h => exact ran h (by simpa using hr) (by simpa using hr')

theorem State.Founded.removed_unique {s₀ : State B V} (h₀ : s₀.Founded) {as : List (Action B V)}
    (has : s₀.steps as = some s) {r r' : Remover} (hr : .removed k r ∈ s₀.chronicle as)
    (hr' : .removed k r' ∈ s₀.chronicle as) : r = r' := by
  obtain ⟨g, hg⟩ := ((Reachable.of_founded h₀).run has).ledgered.exists (h₀.own_lt has hr rfl)
  exact (h₀.story has hg).log.removed_unique (mem_own.2 ⟨hr, rfl, rfl⟩) (mem_own.2 ⟨hr', rfl, rfl⟩)

/-- A task that a worker took is run by it, or has been. -/
theorem Stage.Log.place_of_worker {g : Stage V} {es : List (Event V)} (h : g.Log k es)
    (hr : .removed k (.worker v) ∈ es) : g.place = .running v ∨ g.place = .finished := by
  have taker {t : ThreadId} {es : List (Event V)} (h : Fetched k t es)
      (hr : .removed k (.worker v) ∈ es) : v = t := by
    rcases h with rfl | ⟨u, rfl⟩
    · simpa using hr
    · simp at hr
  cases h with
  | carried | queued | held | refused => simp at hr
  | dropping r hne | dropped r hne => exact absurd (by simpa using hr : .worker v = r).symm (hne v)
  | fetched h | skipping h | inBody h | tallying o h =>
    exact .inl (congrArg _ (taker h (by simpa using hr)).symm)
  | settling h =>
    cases h with
    | skipped h | ended o h => exact .inl (congrArg _ (taker h (by simpa using hr)).symm)
  | finished => exact .inr rfl

end

/-! ## Who does not take it -/

section
variable {s s' : State B V} {t u v : ThreadId} {k : TaskId} {us : List ThreadId}
  {rest : List (Activity V)}

/-- A worker that leaves while another one stays is not the last to hold a
    share, and neither is the pool. -/
theorem State.Alive.one_lt_of_stays (h : s.Alive) (hu : s.Stays u) {a : Activity V}
    (hv : s.top? v = some a) (ha : a = .work .leave ∨ ∃ r, a = .teardown r) : 1 < s.sharers := by
  obtain ⟨w, hw, p, hp, hl⟩ := hu
  obtain ⟨th, below, ht, hs⟩ := top?_eq_some_iff.1 hv
  have hshare := h.share
  rcases ha with rfl | ⟨r, rfl⟩
  · have htwo : 2 ≤ tally Activity.works s.threads := by
      by_cases hvu : v = u
      · -- below its way out a worker has no second loop
        subst hvu
        cases hw.symm.trans ht
        rw [hs] at hp
        rcases List.mem_cons.1 hp with heq | hp
        · cases heq
          exact absurd trivial hl
        · have hpos : 0 < (below.map Activity.works).sum :=
            List.sum_pos_iff_exists_pos_nat.2 ⟨1, List.mem_map.2 ⟨_, hp, rfl⟩, Nat.one_pos⟩
          have hle := le_tally (f := Activity.works) ht
          simp only [Thread.tally, hs, List.map_cons, List.sum_cons, Activity.works] at hle
          omega
      · have hleave : .work .leave ∈ th.stack := Thread.mem_of_stack hs
        exact two_le_tally ht hw hvu (Thread.tally_pos hleave Nat.one_pos)
          (Thread.tally_pos hp Nat.one_pos)
    omega
  · have hworks := tally_pos (f := Activity.works) hw hp Nat.one_pos
    have htear := tally_pos (f := Activity.tearsDown) ht (a := .teardown r)
      (Thread.mem_of_stack hs) Nat.one_pos
    rw [State.ownShare, if_pos (h.dropped htear)] at hshare
    omega

/-- A graceful stop does not clear the backlog while a worker stays. -/
theorem State.Closing.not_clearing (h : s.Closing t us rest) (hr : s.Ruled) (hu : u ∈ us)
    (hne : u ≠ t) (hstay : s.Stays u) {p : StopPoint} (hv : s.top? v = some (.stop true p)) :
    p ≠ .purge .drain ∧ ∀ n, p ≠ .sweep .drain n := by
  obtain ⟨w, below, hw, hsv⟩ := top?_eq_some_iff.1 hv
  have hmem : .stop true p ∈ w.stack := Thread.mem_of_stack hsv
  have hone : tally Activity.drains s.threads ≤ 1 := Nat.le_trans hr.drain (Bool.toNat_le _)
  -- a stop at such a point is the one of `t`, and that one waits for `u`
  have key {th : Thread V} {q : StopPoint} (ht : s.threads[t]? = some th)
      (hs : th.stack = .stop true q :: rest) (hq : 0 < Activity.drains (V := V) (.stop true q))
      (hp : 0 < Activity.drains (V := V) (.stop true p)) : p = q := by
    by_cases hvt : v = t
    · subst hvt
      cases hw.symm.trans ht
      rw [hs] at hsv
      cases hsv
      rfl
    · have htop : .stop true q ∈ th.stack := Thread.mem_of_stack hs
      have hle := two_le_tally hw ht hvt (Thread.tally_pos hmem hp) (Thread.tally_pos htop hq)
      exact absurd (Nat.le_trans hle hone) (Nat.not_succ_le_self 1)
  refine ⟨?_, fun n => ?_⟩
  · rintro rfl
    have hle := Nat.le_trans (le_tally hw) hone
    have htwo : 2 ≤ w.tally Activity.drains := by simp [Thread.tally, hsv, Activity.drains]
    omega
  · rintro rfl
    cases h.stopping with
    | holding ht hs hp =>
      rcases hp with rfl | rfl <;> cases key ht hs Nat.one_pos Nat.one_pos
    | joining ht hs => cases key ht hs Nat.one_pos Nat.one_pos
    | joined _ he => exact (he u hu hne).not_stays hstay

/-- While a worker stays, and no graceful stop makes a pass, whoever takes a task
    out was called for. -/
theorem State.Stays.isCalledFor (hstay : s.Stays u) (hr : s.Reachable)
    (hpass : ∀ v p, s.top? v = some (.stop true p) → p ≠ .purge .drain ∧ ∀ n, p ≠ .sweep .drain n)
    {x : Action B V} {r : Remover} (he : .removed k r ∈ s.events x) : r.IsCalledFor := by
  rcases yields_of_mem_events he with ⟨v, c, a, -, hv, hy⟩ | ⟨_, _, _, _, -, -, heq⟩
  · cases hy with
    | fetch | await | pop | clear => trivial
    | leave hs => exact absurd (hr.alive.one_lt_of_stays hstay hv (.inl rfl)) (Nat.not_lt.2 hs)
    | teardown hs =>
      exact absurd (hr.alive.one_lt_of_stays hstay hv (.inr ⟨_, rfl⟩)) (Nat.not_lt.2 hs)
    | @purge _ g =>
      cases g with
      | false => trivial
      | true => exact absurd rfl (hpass v _ hv).1
    | @sweep _ g n =>
      cases g with
      | false => trivial
      | true => exact absurd rfl ((hpass v _ hv).2 n)
  · cases heq

/-- **While a worker of the roster stays, whoever takes a task out was called
    for.** -/
theorem State.Closing.isCalledFor (h : s.Closing t us rest) (hr : s.Reachable) (hu : u ∈ us)
    (hne : u ≠ t) (hstay : s.Stays u) {x : Action B V} {r : Remover}
    (he : .removed k r ∈ s.events x) : r.IsCalledFor :=
  hstay.isCalledFor hr (fun _ _ hv => h.not_clearing hr.ruled hu hne hstay hv) he

end

/-! ## Until the stop returns -/

section
variable {s s' : State B V} {t u v : ThreadId} {k : TaskId} {us : List ThreadId}
  {rest : List (Activity V)} {bs : List (Action B V)}

theorem steps_hasDied (hbs : s.steps bs = some s') (h : s.HasDied u) : s'.HasDied u :=
  steps_keep (fun _ _ _ h hm => hm.hasDied h) h hbs

theorem State.Closing.steps (h : s.Closing t us rest) (hr : s.Reachable)
    (hbs : s.steps bs = some s') : s'.Closing t us rest :=
  hr.keep (fun _ _ _ hr h hm => hm.closing hr.ruled h) h hbs

/-- An owned worker stays until a stop is let in, and in the step in which it is. -/
theorem State.Reachable.stays_of_run (h : s.Reachable) (hstop : s.isStopped = false)
    (hu : u ∈ s.roster) {x : Action B V} (hm : Move s x s') : s'.HasDied u ∨ s'.Stays u := by
  obtain ⟨hdone, hforced⟩ := Bool.or_eq_false_iff.1 hstop
  have htold : ¬ s.IsTold u := fun htold => by
    rw [h.ruled.told u hu htold] at hforced
    cases hforced
  rcases h.tenure (h.ruled.worker u hu) with hd | ht | hd | hs
  · rw [hdone] at hd; cases hd
  · exact absurd ht htold
  · exact .inl (hm.hasDied hd)
  · rcases hm.stays hs with hs | ht | hd | ⟨hd, -⟩
    · exact .inr hs
    · exact absurd ht htold
    · exact .inl hd
    · rw [hdone] at hd; cases hd

/-- **A task that the stop has found** is in the backlog while a worker stays,
    or somebody who was called for has taken it. -/
theorem State.Closing.run (h : s.Closing t us rest) (hr : s.Reachable) (hu : u ∈ us)
    (hne : u ≠ t) (hstay : s.Stays u) (hk : k ∈ s.backlog.tasks) (hbs : s.steps bs = some s')
    (hlive : ¬ s'.HasDied u) :
    (k ∈ s'.backlog.tasks ∧ s'.Stays u) ∨
      ∃ r, .removed k r ∈ s.chronicle bs ∧ r.IsCalledFor := by
  induction bs using List.reverseRecOn generalizing s' with
  | nil => cases hbs; exact .inl ⟨hk, hstay⟩
  | append_singleton bs x ih =>
    obtain ⟨s₁, hbs, hm⟩ := steps_concat.1 hbs
    have hr₁ := hr.run hbs
    have h₁ := h.steps hr hbs
    rw [chronicle_concat hbs hm]
    rcases ih hbs fun hd => hlive (hm.hasDied hd) with ⟨hk₁, hstay₁⟩ | ⟨r, hrem, hcalled⟩
    · rcases hm.removed hr₁.ledgered hk₁ with hk' | ⟨r, hrem⟩
      · refine .inl ⟨hk', ?_⟩
        rcases hm.stays hstay₁ with hstay' | htold | hd | ⟨-, hempty⟩
        · exact hstay'
        · exact absurd htold (h₁.loyal u hu)
        · exact absurd hd hlive
        · rw [hempty] at hk₁
          cases hk₁
      · exact .inr ⟨r, List.mem_append_right _ hrem, h₁.isCalledFor hr₁ hu hne hstay₁ hrem⟩
    · exact .inr ⟨r, List.mem_append_left _ hrem, hcalled⟩

/-- When the stop has returned, its workers have ended. -/
theorem State.Closing.returned {th : Thread V} (h : s.Closing t us rest)
    (ht : s.threads[t]? = some th) (hs : th.stack = rest) :
    s.roster = [] ∧ ∀ u ∈ us, u ≠ t → s.HasEnded u := by
  cases h.stopping with
  | holding hw hst | joining hw hst => exact absurd hst (returned_ne ht hs hw)
  | joined hr he => exact ⟨hr, he⟩

/-- A worker that has ended runs nothing. -/
theorem State.HasEnded.place_ne (h : s.HasEnded v) {g : Stage V} (hg : (k, g) ∈ s.ledger) :
    g.place ≠ .running v := by
  intro hp
  obtain ⟨w, hw, he⟩ := h
  rcases mem_ledger.1 hg with ⟨t, th, ht, a, ha, hm⟩ | ⟨i, -, rfl⟩ | ⟨-, rfl⟩ | ⟨job, -, hent⟩
  · have hplace := (holds_of_mem hm).place
    rw [hp] at hplace
    have hvt : v = t := by simpa using hplace
    subst hvt
    cases hw.symm.trans ht
    rw [(hasEnded_iff.1 he).2] at ha
    cases ha
  · cases hp
  · cases hp
  · rcases hent with ⟨r, -, rfl⟩ | ⟨-, rfl⟩ <;> cases hp

/-- A task that a worker took has finished once the worker has ended. -/
theorem State.Founded.finished_of_worker {s₀ : State B V} (h₀ : s₀.Founded)
    (has : s₀.steps bs = some s) (hv : s.HasEnded v)
    (hrem : .removed k (.worker v) ∈ s₀.chronicle bs) :
    s.places k = {.finished} ∧ ∃ job, s.jobs[k]? = some job ∧ job.promise.isOpen = false := by
  have hl := ((Reachable.of_founded h₀).run has).ledgered
  have hlt : k < s.jobs.length := h₀.own_lt has hrem rfl
  obtain ⟨g, hg⟩ := hl.exists hlt
  have hplace := ((h₀.story has hg).log.place_of_worker (mem_own.2 ⟨hrem, rfl, rfl⟩)).resolve_left
    (hv.place_ne hg)
  refine ⟨by rw [hl.places_eq hg, hplace], s.jobs[k], List.getElem?_eq_getElem hlt, ?_⟩
  rw [← Bool.not_eq_true, isOpen_iff, hl.answer_eq (List.getElem?_eq_getElem hlt) hg]
  cases g <;> cases hplace
  exact nofun

end

/-- A run up to a graceful stop, with two tasks in the backlog. -/
def stoppingRun : List (Action Unit Unit) :=
  [paces 0 5, [.call 0 (.submit ())], paces 0 3, [.call 0 (.submit ())], paces 0 3,
    [.call 0 (.stop true)]].flatten

/-- The rest of it: the worker runs both tasks, one to its end and one to a
    panic, and leaves. -/
def drainingRun : List (Action Unit Unit) :=
  [paces 0 2, paces 1 3, [.finish 1 (.returned ())], paces 1 6,
    [.finish 1 (.panicked .other)], paces 1 13, paces 0 4].flatten

end WorkerPool
