/-
  What a worker is in the middle of.

  * `OnDuty` are the stacks of a worker: it has ended, it is in its loop, it is
    about to end, or it runs a task of its loop, with whatever calls the body of
    the task makes above it; `State.Reachable.onDuty`: it has no others;
  * `State.AtRest.worker`: at rest a worker has ended, is in its start hook,
    sleeps, or is in the body of a task;
  * `State.AtRest.sent_away`: if it was told to leave, or the pool was stopped
    gracefully, it does not sleep.
-/
import WorkerPool.Proofs.Census
import WorkerPool.Proofs.Tenure

namespace WorkerPool

variable {B V : Type}

/-! ## Stacks of workers -/

/-- What a worker can be in the middle of. -/
inductive OnDuty : List (Activity V) → Prop where
  /-- it has ended -/
  | ended : OnDuty []
  /-- it is in its loop -/
  | looping (p) : OnDuty [.work p]
  /-- it has given back its share, and drops what was left -/
  | leaving (ks r) : OnDuty [.discard ks r]
  /-- it runs a task, with the calls that its body makes above -/
  | running {l k i p} (hl : ∀ q, .work q ∉ l) : OnDuty (l ++ [.task k i p, .work .check])

section
variable {s s' : State B V} {t u : ThreadId} {th w : Thread V} {c : Chance} {a x : Activity V}
  {turn : Turn B V} {k : TaskId} {i : Nat} {rest next : List (Activity V)}

theorem Deed.onDuty {p : WorkPoint} (hd : Deed s t th c (.work p) turn) : OnDuty turn.next := by
  cases hd with
  | fetched | unmark => exact .running (l := []) nofun
  | leave | leaveLast => exact .leaving _ _
  | _ => exact .looping _

theorem Follows.onDuty {p : WorkPoint} (h : Follows s w (.work p) next) : OnDuty next := by
  cases h with
  | run hd => exact hd.onDuty
  | hook | hookPanic => exact .looping _

theorem Follows.onDuty_discard {ks : List TaskId} {r : Reply V}
    (h : Follows s w (.discard ks r) next) : OnDuty next := by
  cases h with
  | run hd =>
    cases hd with
    | discarded => exact .ended
    | discard => exact .leaving _ _

/-- A task goes on by itself until it is done. -/
theorem Follows.task {p : TaskPoint V} (h : Follows s w (.task k i p) next) :
    next = [] ∨ ∃ q, next = [.task k i q] := by
  cases h with
  | run hd =>
    cases hd with
    | settle => exact .inl rfl
    | _ => exact .inr ⟨_, rfl⟩
  | finish => exact .inr ⟨_, rfl⟩

/-- Nobody but a worker in its loop goes on in a loop. -/
theorem Follows.work_not_mem (h : Follows s w x next) (hx : ∀ p, x ≠ .work p) (q : WorkPoint) :
    .work q ∉ next := by
  cases h with
  | run hd =>
    cases hd with
    | fetch | fetchNone | fetched | check | mark | clock | shift | report | await | awaitStop
    | awaitSleep | awaited | unmark | unmarkNone | leave | leaveLast => exact absurd rfl (hx _)
    | _ => simp
  | hook | hookPanic => exact absurd rfl (hx _)
  | finish | expire => simp

/-- In its loop a worker has nothing else on its stack. -/
theorem OnDuty.below_work {p : WorkPoint} (h : OnDuty (.work p :: rest)) : rest = [] := by
  generalize hst : Activity.work p :: rest = st at h
  cases h with
  | ended | leaving => cases hst
  | looping =>
    cases hst
    rfl
  | @running l _ _ _ hl =>
    cases l with
    | nil => cases hst
    | cons y l =>
      cases hst
      exact absurd List.mem_cons_self (hl p)

theorem OnDuty.follows (h : OnDuty (x :: rest)) (hn : Follows s w x next) : OnDuty (next ++ rest) := by
  generalize hst : x :: rest = st at h
  cases h with
  | ended => cases hst
  | looping =>
    cases hst
    rw [List.append_nil]
    exact hn.onDuty
  | leaving =>
    cases hst
    rw [List.append_nil]
    exact hn.onDuty_discard
  | @running l k i p hl =>
    cases l with
    | nil =>
      cases hst
      rcases hn.task with rfl | ⟨q, rfl⟩
      · exact .looping _
      · exact .running (l := []) nofun
    | cons y l =>
      cases hst
      show OnDuty (next ++ (l ++ [.task k i p, .work .check]))
      rw [← List.append_assoc]
      refine .running fun q hq => ?_
      rcases List.mem_append.1 hq with hq | hq
      · exact hn.work_not_mem (fun p hp => hl p (hp ▸ List.mem_cons_self)) q hq
      · exact hl q (List.mem_cons_of_mem _ hq)

/-- A worker begins calls in the body of a task. -/
theorem OnDuty.call (h : OnDuty th.stack) (hb : th.badge.isSome = true) (hf : th.isFree = true)
    (hn : ∀ q, .work q ∉ next) : OnDuty (next ++ th.stack) := by
  generalize hst : th.stack = st at h
  cases h with
  | ended =>
    simp only [Thread.isFree, hst] at hf
    rw [Option.isNone_iff_eq_none.1 hf] at hb
    cases hb
  | looping | leaving =>
    simp only [Thread.isFree, hst] at hf
    cases hf
  | running hl =>
    rw [← List.append_assoc]
    refine .running fun q hq => ?_
    rcases List.mem_append.1 hq with hq | hq
    exacts [hn q hq, hl q hq]

theorem Thread.Next.onDuty {o : Option (Thread V)} (h : Thread.Next s o w)
    (ho : ∀ w, o = some w → w.badge.isSome = true → OnDuty w.stack)
    (hb : w.badge.isSome = true) : OnDuty w.stack := by
  cases h with
  | @same w₀ _ hsame =>
    rw [hsame.stack]
    exact ho w₀ rfl (hsame.worker ▸ hb)
  | outside => cases hb
  | worker => exact .looping _
  | @call w₀ _ _ _ _ hf hl hc hs hbadge =>
    rw [hbadge] at hb
    rw [hs]
    exact (ho w₀ rfl hb).call hb hf hc.next_shaped.2
  | @step w₀ _ _ _ _ hx hn hs hbadge =>
    have hduty := ho w₀ rfl (hbadge ▸ hb)
    rw [hx] at hduty
    rw [hs]
    exact hduty.follows hn

/-- **A worker is in its loop, in a task that it took there, or at its end.** -/
theorem State.Reachable.onDuty (h : s.Reachable) (hw : s.threads[u]? = some w)
    (hb : w.badge.isSome = true) : OnDuty w.stack := by
  refine h.induct (P := fun s => ∀ (u : ThreadId) (w : Thread V), s.threads[u]? = some w →
    w.badge.isSome = true → OnDuty w.stack) ?_ ?_ u w hw hb
  · rintro s ⟨name, hooked, capacity, interval, workers, rfl⟩ u w hw hb
    rw [List.mem_singleton.1 (List.mem_of_getElem? hw)] at hb
    cases hb
  · intro s x s' _ ih hm u w' hw' hb
    exact (hm.thread hw').onDuty (fun w hw => ih u w hw) hb

/-! ## Workers with a task -/

/-- A thread is about to run a task, runs it, or has its result to send. -/
def State.IsBusy (s : State B V) (u : ThreadId) : Prop :=
  ∃ w, s.threads[u]? = some w ∧ ∃ k i p, .task k i p ∈ w.stack

/-- A thread is in the body of a task, or in a call that the body makes. -/
def State.IsInTask (s : State B V) (u : ThreadId) : Prop :=
  ∃ w, s.threads[u]? = some w ∧ ∃ k i, .task k i .body ∈ w.stack

theorem OnDuty.busy (h : OnDuty th.stack) {p : TaskPoint V} (ha : .task k i p ∈ th.stack) :
    ∃ l k i p, (∀ q, .work q ∉ l) ∧ th.stack = l ++ [.task k i p, .work .check] := by
  generalize hst : th.stack = st at h ha
  cases h with
  | ended => cases ha
  | looping | leaving => simp at ha
  | running hl => exact ⟨_, _, _, _, hl, rfl⟩

/-- A worker that runs a task has not left its loop. -/
theorem OnDuty.stays (h : OnDuty th.stack) {p : TaskPoint V} (ha : .task k i p ∈ th.stack) :
    th.Stays := by
  obtain ⟨l, _, _, _, -, hst⟩ := h.busy ha
  exact ⟨.check, by simp [hst], id⟩

/-! ## At rest -/

theorem able_of_ne_hook {p : WorkPoint} (hp : p ≠ .hook) : (Activity.work (V := V) p).Able B := by
  cases p with
  | hook => exact absurd rfl hp
  | fetch =>
    refine able_work fun {s t th} b hb => ?_
    cases hk : s.backlog.tasks with
    | nil => exact ⟨_, .fetchNone hb hk⟩
    | cons k ks => exact ⟨_, .fetch hb hk⟩
  | fetched => exact able_work fun b hb => ⟨_, .fetched hb⟩
  | check => exact able_work fun b hb => ⟨_, .check hb⟩
  | mark => exact able_work fun b hb => ⟨_, .mark hb⟩
  | clock => exact able_work fun b hb => ⟨_, .clock hb⟩
  | shift => exact able_work fun b hb => ⟨_, .shift hb rfl⟩
  | report => exact able_work fun b hb => ⟨_, .report hb⟩
  | await => exact able_await
  | awaited => exact able_work fun b hb => ⟨_, .awaited hb⟩
  | unmark next =>
    cases next with
    | none => exact able_work fun b hb => ⟨_, .unmarkNone hb⟩
    | some k => exact able_work fun b hb => ⟨_, .unmark hb⟩
  | leave =>
    refine able_work fun {s t th} b hb => ?_
    by_cases hs : 1 < s.sharers
    · exact ⟨_, .leave hb hs⟩
    · exact ⟨_, .leaveLast hb (Nat.not_lt.1 hs)⟩

/-- At rest a task that a thread runs is in its body. -/
theorem State.AtRest.isInTask (h : s.AtRest) (hr : s.Reachable) (hu : s.IsBusy u) :
    s.IsInTask u := by
  obtain ⟨w, hw, k, i, p, ha⟩ := hu
  have hg : (k, p.stage u) ∈ s.ledger :=
    mem_ledger.2 (.inl ⟨u, w, hw, _, ha, List.mem_singleton_self _⟩)
  have hrests := h.rests hr hg
  cases p with
  | body => exact ⟨w, hw, k, i, ha⟩
  | inspect | skip | tally | settle => cases hrests

/-- **At rest a worker has ended, is in its start hook, sleeps, or is in the
    body of a task.** -/
theorem State.AtRest.worker (h : s.AtRest) (hr : s.Reachable) (hb : (s.badge? u).isSome = true) :
    s.HasEnded u ∨ s.top? u = some (.work .hook) ∨ s.Awaits u ∨ s.IsInTask u := by
  obtain ⟨w, hw, hbadge⟩ := isSome_badge?_iff.1 hb
  have hduty := hr.onDuty hw hbadge
  generalize hst : w.stack = st at hduty
  cases hduty with
  | ended => exact .inl ⟨w, hw, hasEnded_iff.2 ⟨hbadge, hst⟩⟩
  | looping p =>
    have htop := top?_eq_some_iff.2 ⟨w, [], hw, hst⟩
    by_cases hp : p = .hook
    · exact .inr (.inl (hp ▸ htop))
    · rcases h.waits hr.shaped hw hst (able_of_ne_hook hp) with ⟨heq, -⟩ | ⟨⟨k, heq⟩, -⟩
      · rw [heq] at htop
        exact .inr (.inr (.inl htop))
      · cases heq
  | leaving ks r =>
    rcases h.waits hr.shaped hw hst (able_discard ks r) with ⟨heq, -⟩ | ⟨⟨k, heq⟩, -⟩ <;> cases heq
  | @running l k i p =>
    have hbusy : s.IsBusy u := ⟨w, hw, k, i, p, by simp [hst]⟩
    exact .inr (.inr (.inr (h.isInTask hr hbusy)))

/-- At rest nobody sleeps who was told to leave, nor anyone after a graceful
    stop. -/
theorem State.AtRest.not_awaits (h : s.AtRest) (hr : s.Reachable)
    (hd : s.done = true ∨ s.IsTold u) : ¬ s.Awaits u := by
  intro ha
  have hm := h.mem_takers hr.shaped ha
  have halert := hr.covered.alerted (List.ne_nil_of_mem hm) (hd.imp_right fun ht => ⟨u, hm, ht⟩)
  rw [h.tally_eq_zero hr.shaped restless_alerts rfl fun _ => rfl] at halert
  cases halert

/-- **At rest, a worker that was sent away has ended**, or is in its start hook
    or in the body of a task. -/
theorem State.AtRest.sent_away (h : s.AtRest) (hr : s.Reachable)
    (hb : (s.badge? u).isSome = true) (hd : s.done = true ∨ s.IsTold u) :
    s.HasEnded u ∨ s.top? u = some (.work .hook) ∨ s.IsInTask u := by
  rcases h.worker hr hb with hend | hhook | ha | htask
  · exact .inl hend
  · exact .inr (.inl hhook)
  · exact absurd ha (h.not_awaits hr hd)
  · exact .inr (.inr htask)

end

end WorkerPool
