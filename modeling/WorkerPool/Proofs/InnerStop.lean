/-
  A graceful stop made by a task.

  The stop does not wait for the worker whose task makes it, and that worker
  takes nothing as long as it is in the stop.  Another worker of the roster
  completes the backlog in its place; if there is none, the last pass of the
  stop finds the backlog as it was.

  * `steps_before_stop`: until the first stop is let in, whoever takes a task
    out was called for;
  * `State.Closing.ended_at_rest`: at rest, with nobody in a body, the stop has
    waited for its workers;
  * `State.Founded.inner_stop`: with another worker, every task that was in the
    backlog at the call is run;
  * `discarded_solitaryRun`: without one, it is discarded.
-/
import WorkerPool.Proofs.Duty
import WorkerPool.Proofs.ForcedStop
import WorkerPool.Proofs.Sealed

namespace WorkerPool

variable {B V : Type}

section
variable {s s' : State B V} {t u v : ThreadId} {th : Thread V} {c : Chance} {k j : TaskId} {i : Nat}
  {us : List ThreadId} {rest : List (Activity V)} {bs : List (Action B V)}

/-! ## Before the stop is let in -/

/-- As long as the pool is not stopped, a stop waits at its entrance. -/
theorem Move.waits_outside {x : Action B V} (hm : Move s x s') (hstop : s'.isStopped = false)
    (ht : s.threads[t]? = some th) (hs : th.stack = .stop true .enter :: rest) :
    ∃ w, s'.threads[t]? = some w ∧ th.Same w := by
  refine hm.same (fun hx => ?_) ht
  obtain ⟨c, turn, rfl, hd, rfl⟩ := hm.stop_step hx ht hs
  cases hd with
  | gracefulAgain hl hagain =>
    rw [hm.keeps_stopped hagain] at hstop
    cases hstop
  | graceful => cases hstop

theorem isStopped_of_steps (hbs : s.steps bs = some s') (h : s'.isStopped = false) :
    s.isStopped = false := by
  cases hs : s.isStopped with
  | false => rfl
  | true =>
    have hstop' := steps_keep (P := fun s : State B V => s.isStopped = true)
      (fun _ _ _ h hm => hm.keeps_stopped h) hs hbs
    rw [h] at hstop'
    cases hstop'

/-- **Until the first stop is let in**, the thread of the task that makes it
    waits, and a task stays in the backlog or is taken out by somebody who was
    called for. -/
theorem steps_before_stop (hr : s.Reachable) (ht : s.threads[t]? = some th)
    (hb : th.badge.isSome = true) (hs : th.stack = .stop true .enter :: .task j i .body :: rest)
    (hbs : s.steps bs = some s') (hstop : s'.isStopped = false) :
    (∃ w, s'.threads[t]? = some w ∧ w.stack = .stop true .enter :: .task j i .body :: rest) ∧
    ∀ k ∈ s.backlog.tasks, k ∈ s'.backlog.tasks ∨
      ∃ r, .removed k r ∈ s.chronicle bs ∧ r.IsCalledFor := by
  induction bs generalizing s th with
  | nil =>
    cases hbs
    exact ⟨⟨th, ht, hs⟩, fun k hk => .inl hk⟩
  | cons x bs ih =>
    obtain ⟨s₁, hm, hbs⟩ := steps_cons.1 hbs
    have hstop₁ := isStopped_of_steps hbs hstop
    obtain ⟨w, hw, hsame⟩ := hm.waits_outside hstop₁ ht hs
    obtain ⟨hthread, hkept⟩ :=
      ih (hr.next hm) hw (hsame.worker.trans hb) (hsame.stack.trans hs) hbs
    refine ⟨hthread, fun k hk => ?_⟩
    rw [chronicle_cons (step_iff.2 hm)]
    rcases hm.removed hr.ledgered hk with hk | ⟨r, hrem⟩
    · rcases hkept k hk with hk | ⟨r, hrem, hcalled⟩
      · exact .inl hk
      · exact .inr ⟨r, List.mem_append_right _ hrem, hcalled⟩
    · -- the thread of the stop is a worker that stays, and no other stop is under way
      have hstay : s.Stays t :=
        ⟨th, ht, (hr.onDuty ht hb).stays (k := j) (i := i) (p := .body) (by simp [hs])⟩
      have hnone (v : ThreadId) (p : StopPoint) (hv : s.top? v = some (.stop true p)) :
          p = .enter := by
        by_contra hp
        have hstop₀ := hm.keeps_stopped (hr.isStopped_of_stop hv hp)
        rw [hstop₁] at hstop₀
        cases hstop₀
      refine .inr ⟨r, List.mem_append_left _ hrem, hstay.isCalledFor hr (fun v p hv => ?_) hrem⟩
      rw [hnone v p hv]
      exact ⟨nofun, nofun⟩

/-! ## At rest -/

/-- At rest, with nobody in a body, a stop that a task has made has waited for
    the other workers. -/
theorem State.Closing.ended_at_rest (h : s.Closing t us (.task j i .body :: rest))
    (hr : s.Reachable) (hrest : s.AtRest) (hidle : s.census Stage.isInBody = 0) (hu : u ∈ us)
    (hne : u ≠ t) : s.HasEnded u := by
  cases h.stopping with
  | @holding th p ht hs hp =>
    have htop := top?_eq_some_iff.2 ⟨th, _, ht, hs⟩
    have hlock : 0 < Activity.locks (V := V) (.stop true p) := by
      rcases hp with rfl | rfl <;> exact Nat.one_pos
    exact absurd (hrest.lock_eq_none hr) (hr.ruled.lock_ne_none htop hlock)
  | @joining th vs n ht hs =>
    have hbody : .task j i .body ∈ th.stack := by simp [hs]
    have hpos := tally_pos (f := Activity.runs) ht hbody Nat.one_pos
    rw [State.census_inBody] at hidle
    omega
  | joined _ he => exact he u hu hne

theorem Stage.Log.not_discarded {r : TaskResult V} {es : List (Event V)}
    (h : (Stage.finished r).Log k es) : r ≠ .error .discarded := by
  cases h with
  | finished h =>
    cases h with
    | skipped => simp
    | ended o => exact o.result_ne.2

/-- At rest, with nobody in a body, a task that a worker took has been run. -/
theorem State.Founded.run_of_worker {s₀ : State B V} (h₀ : s₀.Founded) {as : List (Action B V)}
    (has : s₀.steps as = some s) (hrest : s.AtRest) (hidle : s.census Stage.isInBody = 0)
    (hrem : .removed k (.worker v) ∈ s₀.chronicle as) :
    ∃ r, s.Resolved k r ∧ Fate k (s₀.chronicle as) r ∧ r ≠ .error .discarded := by
  have hr : s.Reachable := (Reachable.of_founded h₀).run has
  obtain ⟨g, hg⟩ := hr.ledgered.exists (h₀.own_lt has hrem rfl)
  have hlog := (h₀.story has hg).log
  have hplace := hlog.place_of_worker (mem_own.2 ⟨hrem, rfl, rfl⟩)
  have hrests := hrest.rests hr hg
  cases g with
  | finished r => exact ⟨r, hr.ledgered.resolved hg rfl, h₀.fate has hg rfl, hlog.not_discarded⟩
  | inBody w => exact absurd rfl (Multiset.countP_eq_zero.1 hidle _ hg)
  | fetched | skipping | tallying | settling | dropping => cases hrests
  | carried | queued | held | dropped => rcases hplace with h | h <;> cases h

/-! ## The stop -/

/-- **A graceful stop that a task makes** on its worker completes the backlog if
    the roster has another worker.  Let it be the first stop that is let in, and
    let it find on the roster a worker other than its own, whose start hook does
    not panic.  When all is at rest later on and nobody is in a body, every task
    that was in the backlog at the call, and that nobody has popped, cleared away
    or thrown away by force since then, has been run, and its handle has the
    result: of its body, or of its cancellation. -/
theorem State.Founded.inner_stop {s₀ s₁ s₂ s₃ : State B V} (h₀ : s₀.Founded)
    {as cs : List (Action B V)} (has : s₀.steps as = some s) (ht : s.threads[t]? = some th)
    (hb : th.badge.isSome = true) (hs : th.stack = .stop true .enter :: .task j i .body :: rest)
    (hbs : s.steps bs = some s₁) (hstop : s₁.isStopped = false) (hrun : s₁.run t c = some s₂)
    (hu : u ∈ s₁.roster) (hne : u ≠ t) (hcs : s₂.steps cs = some s₃) (hlive : ¬ s₃.HasDied u)
    (hrest : s₃.AtRest) (hidle : s₃.census Stage.isInBody = 0) :
    ∀ k ∈ s.backlog.tasks,
      (∀ v, .removed k (.caller v) ∉ s.chronicle (bs ++ .run t c :: cs) ∧
        .removed k (.clearing v) ∉ s.chronicle (bs ++ .run t c :: cs) ∧
        .removed k (.stop v false) ∉ s.chronicle (bs ++ .run t c :: cs)) →
      ∃ r, s₃.Resolved k r ∧ Fate k (s₀.chronicle (as ++ (bs ++ .run t c :: cs))) r ∧
        r ≠ .error .discarded := by
  intro k hk hleft
  have hr : s.Reachable := (Reachable.of_founded h₀).run has
  have hr₁ : s₁.Reachable := hr.run hbs
  have hm : Move s₁ (.run t c) s₂ := step_iff.1 hrun
  have hr₂ : s₂.Reachable := hr₁.next hm
  have hr₃ : s₃.Reachable := hr₂.run hcs
  have hlater : s.steps (bs ++ .run t c :: cs) = some s₃ :=
    steps_append.2 ⟨s₁, hbs, steps_cons.2 ⟨s₂, hm, hcs⟩⟩
  have hall : s₀.steps (as ++ (bs ++ .run t c :: cs)) = some s₃ := steps_append.2 ⟨s, has, hlater⟩
  obtain ⟨⟨w, hw, hst⟩, hbefore⟩ := steps_before_stop hr ht hb hs hbs hstop
  have hclosing : s₂.Closing t s₁.roster (.task j i .body :: rest) :=
    hr₁.closing hw hst hstop hrun
  have hended : s₃.HasEnded u := (hclosing.steps hr₂ hcs).ended_at_rest hr₃ hrest hidle hu hne
  have hstay : s₂.Stays u :=
    (hr₁.stays_of_run hstop hu hm).resolve_left fun hd => hlive (steps_hasDied hcs hd)
  -- somebody who was called for has taken the task out, before the stop was let in or after
  have htaken : ∃ r, .removed k r ∈ s.chronicle (bs ++ .run t c :: cs) ∧ r.IsCalledFor := by
    rw [chronicle_append hbs, chronicle_cons (step_iff.2 hm)]
    rcases hbefore k hk with hk₁ | ⟨r, hrem, hcalled⟩
    · have hk₂ : k ∈ s₂.backlog.tasks := by
        obtain ⟨_, turn, -, hd, rfl⟩ := hm.stop_step rfl hw hst
        cases hd <;> exact hk₁
      rcases hclosing.run hr₂ hu hne hstay hk₂ hcs hlive with ⟨-, hstay₃⟩ | ⟨r, hrem, hcalled⟩
      · exact absurd hstay₃ hended.not_stays
      · exact ⟨r, List.mem_append_right _ (List.mem_append_right _ hrem), hcalled⟩
    · exact ⟨r, List.mem_append_left _ hrem, hcalled⟩
  obtain ⟨r, hrem, hcalled⟩ := htaken
  have hmem : .removed k r ∈ s₀.chronicle (as ++ (bs ++ .run t c :: cs)) := by
    rw [chronicle_append has]
    exact List.mem_append_right _ hrem
  cases r with
  | worker v => exact h₀.run_of_worker hall hrest hidle hmem
  | caller v => exact absurd hrem (hleft v).1
  | clearing v => exact absurd hrem (hleft v).2.1
  | stop v g =>
    cases g with
    | true => exact hcalled.elim
    | false => exact absurd hrem (hleft v).2.2
  | last => exact hcalled.elim

end

/-- A run of a pool with two workers up to a graceful stop that a task makes, with
    one task in the backlog. -/
def callingRun : List (Action Unit Unit) :=
  [paces 0 6, [.call 0 (.submit ())], paces 0 3, paces 1 3, [.call 0 (.submit ())], paces 0 3,
    [.call 1 (.stop true)]].flatten

/-- The rest of it once the stop has been let in: the other worker runs the task in
    the backlog and leaves, then the stop returns and its own worker leaves. -/
def relievingRun : List (Action Unit Unit) :=
  [paces 1 3, paces 2 3, [.finish 2 (.panicked .other)], paces 2 13, paces 1 4,
    [.finish 1 (.returned ())], paces 1 13].flatten

theorem inner_stop_relievingRun : ∃ s s₁ s₂ s₃ : State Unit Unit,
    (State.founding "pool" false none 1 2).steps callingRun = some s ∧
    s.backlog.tasks = [1] ∧ s.steps [.arrive] = some s₁ ∧ s₁.isStopped = false ∧
    s₁.run 1 ⟨0, true⟩ = some s₂ ∧ s₂.steps relievingRun = some s₃ ∧ s₃.AtRest ∧
    ∀ k ∈ s.backlog.tasks, ∃ r, s₃.Resolved k r ∧
      Fate k ((State.founding "pool" false none 1 2).chronicle
        (callingRun ++ ([.arrive] ++ .run 1 ⟨0, true⟩ :: relievingRun))) r ∧
      r ≠ .error .discarded := by
  have h₀ : (State.founding "pool" false none 1 2 : State Unit Unit).Founded :=
    State.founded_founding
  have hrun : ((State.founding "pool" false none 1 2).steps callingRun).isSome = true := rfl
  obtain ⟨s, hs⟩ := Option.isSome_iff_exists.1 hrun
  have hrun₁ : (s.steps [.arrive]).isSome = true := by cases hs; rfl
  obtain ⟨s₁, hs₁⟩ := Option.isSome_iff_exists.1 hrun₁
  have hrun₂ : (s₁.run 1 ⟨0, true⟩).isSome = true := by cases hs; cases hs₁; rfl
  obtain ⟨s₂, hs₂⟩ := Option.isSome_iff_exists.1 hrun₂
  have hrun₃ : (s₂.steps relievingRun).isSome = true := by cases hs; cases hs₁; cases hs₂; rfl
  obtain ⟨s₃, hs₃⟩ := Option.isSome_iff_exists.1 hrun₃
  obtain ⟨th, ht, hb, hst⟩ : ∃ th, s.threads[1]? = some th ∧ th.badge.isSome = true ∧
      th.stack = [.stop true .enter, .task 0 0 .body, .work .check] := by
    cases hs
    exact ⟨_, rfl, rfl, rfl⟩
  have htasks : s.backlog.tasks = [1] := by cases hs; rfl
  have hstop : s₁.isStopped = false := by cases hs; cases hs₁; rfl
  have hu : 2 ∈ s₁.roster := by cases hs; cases hs₁; exact .tail _ (.head _)
  have hlive : ¬ s₃.HasDied 2 := by
    rintro ⟨w, hw, hd⟩
    cases hs; cases hs₁; cases hs₂; cases hs₃
    cases hw
    cases hd
  have hrest : s₃.AtRest := by
    rintro (_ | _ | _ | _ | t) c <;> cases hs <;> cases hs₁ <;> cases hs₂ <;> cases hs₃ <;> rfl
  have hidle : s₃.census Stage.isInBody = 0 := by
    rw [State.census_inBody]
    cases hs; cases hs₁; cases hs₂; cases hs₃
    rfl
  -- all that has been taken out since the call was taken out by the other worker
  have hevents : (s.chronicle ([.arrive] ++ .run 1 ⟨0, true⟩ :: relievingRun)).all
      (fun e => !e.isRemoval || e.isTakenBy 2) = true := by
    cases hs
    rfl
  have hleft {k : TaskId} {r : Remover} (hr : r ≠ .worker 2) :
      .removed k r ∉ s.chronicle ([.arrive] ++ .run 1 ⟨0, true⟩ :: relievingRun) := by
    intro hm
    have hkept := List.all_eq_true.1 hevents _ hm
    cases r <;> simp_all
  refine ⟨s, s₁, s₂, s₃, hs, htasks, hs₁, hstop, hs₂, hs₃, hrest, fun k hk => ?_⟩
  exact h₀.inner_stop hs ht hb hst hs₁ hstop hs₂ hu (by decide) hs₃ hlive hrest hidle k hk
    fun v => ⟨hleft (by simp), hleft (by simp), hleft (by simp)⟩

/-- A run of a pool with one worker up to a graceful stop that its task makes, with
    one task in the backlog. -/
def solitaryRun : List (Action Unit Unit) :=
  [paces 0 5, [.call 0 (.submit ())], paces 0 3, paces 1 3, [.call 0 (.submit ())], paces 0 3,
    [.call 1 (.stop true)]].flatten

/-- **Alone, the worker runs nothing after its stop.**  The stop does not wait for
    its own worker, so the last pass throws away what that worker would have run;
    nobody has popped or cleared anything away, and there is no forced stop. -/
theorem discarded_solitaryRun : ∃ s s₁ s₂ s₃ : State Unit Unit,
    (State.founding "pool" false none 1 1).steps solitaryRun = some s ∧
    s.roster = [1] ∧ s.isStopped = false ∧ s.backlog.tasks = [1] ∧
    (∃ th, s.threads[1]? = some th ∧
      th.stack = [.stop true .enter, .task 0 0 .body, .work .check]) ∧
    s.run 1 ⟨0, true⟩ = some s₁ ∧ s₁.steps (paces 1 11) = some s₂ ∧
    s₂.top? 1 = some (.task 0 0 .body) ∧ s₂.Resolved 1 (.error .discarded) ∧
    s₂.steps (.finish 1 (.returned ()) :: paces 1 13) = some s₃ ∧ s₃.AtRest ∧
    s₃.census Stage.isInBody = 0 ∧ s₃.HasEnded 1 ∧ s₃.counters = ⟨2, 1, 0, 1⟩ ∧
    s₃.Resolved 1 (.error .discarded) := by
  have hrun : ((State.founding "pool" false none 1 1).steps solitaryRun).isSome = true := rfl
  obtain ⟨s, hs⟩ := Option.isSome_iff_exists.1 hrun
  have hrun₁ : (s.run 1 ⟨0, true⟩).isSome = true := by cases hs; rfl
  obtain ⟨s₁, hs₁⟩ := Option.isSome_iff_exists.1 hrun₁
  have hrun₂ : (s₁.steps (paces 1 11)).isSome = true := by cases hs; cases hs₁; rfl
  obtain ⟨s₂, hs₂⟩ := Option.isSome_iff_exists.1 hrun₂
  have hrun₃ : (s₂.steps (.finish 1 (.returned ()) :: paces 1 13)).isSome = true := by
    cases hs; cases hs₁; cases hs₂; rfl
  obtain ⟨s₃, hs₃⟩ := Option.isSome_iff_exists.1 hrun₃
  have hstart : s.roster = [1] ∧ s.isStopped = false ∧ s.backlog.tasks = [1] := by
    cases hs
    exact ⟨rfl, rfl, rfl⟩
  have hstack : ∃ th, s.threads[1]? = some th ∧
      th.stack = [.stop true .enter, .task 0 0 .body, .work .check] := by
    cases hs
    exact ⟨_, rfl, rfl⟩
  have hthrown : s₂.top? 1 = some (.task 0 0 .body) ∧ s₂.Resolved 1 (.error .discarded) := by
    cases hs; cases hs₁; cases hs₂
    exact ⟨rfl, _, rfl, rfl⟩
  have hrest : s₃.AtRest := by
    rintro (_ | _ | t) c <;> cases hs <;> cases hs₁ <;> cases hs₂ <;> cases hs₃ <;> rfl
  have hidle : s₃.census Stage.isInBody = 0 := by
    rw [State.census_inBody]
    cases hs; cases hs₁; cases hs₂; cases hs₃
    rfl
  have hend : s₃.HasEnded 1 ∧ s₃.counters = ⟨2, 1, 0, 1⟩ ∧ s₃.Resolved 1 (.error .discarded) := by
    cases hs; cases hs₁; cases hs₂; cases hs₃
    exact ⟨⟨_, rfl, rfl⟩, rfl, _, rfl, rfl⟩
  exact ⟨s, s₁, s₂, s₃, hs, hstart.1, hstart.2.1, hstart.2.2, hstack, hs₁, hs₂, hthrown.1,
    hthrown.2, hs₃, hrest, hidle, hend⟩

end WorkerPool
