/-
  A handle's result is the fate of its task.

  * `Fate`: what the chronicle makes of the handle of a task, by the end of
    its body, its being skipped, or its being dropped;
  * `State.AtRest.isOpen_iff`: at rest, a handle has no result exactly as long
    as the body of its task is still there to be run or is running;
  * `State.Founded.result_is_fate`: a result is what the fate of the task
    makes of it, it is there once and for all, and a cancellation that comes
    after the task was begun changes nothing.
-/
import WorkerPool.Proofs.Cancellation
import WorkerPool.Proofs.Ownership
import WorkerPool.Proofs.Wakeups

namespace WorkerPool

variable {B V : Type}

/-! ## The fate of a task -/

/-- What the chronicle makes of the handle of a task. -/
inductive Fate (k : TaskId) (es : List (Event V)) : TaskResult V → Prop where
  /-- the body returned -/
  | returned {v} (h : .ended k (.returned v) ∈ es) : Fate k es (.ok v)
  /-- the body panicked with a text -/
  | panicked {m} (h : .ended k (.panicked (.text m)) ∈ es) : Fate k es (.error (.panicked m))
  /-- the body panicked with something that is no text -/
  | panickedOther (h : .ended k (.panicked .other) ∈ es) :
      Fate k es (.error (.panicked "unknown panic"))
  /-- the task was cancelled, and begun after that -/
  | cancelled (h : CancelledFirst k es) : Fate k es (.error .cancelled)
  /-- the task was dropped -/
  | discarded (h : .dropped k ∈ es) : Fate k es (.error .discarded)

section
variable {k : TaskId} {es : List (Event V)} {r : TaskResult V}

theorem fate_ended {o : Outcome V} (h : .ended k o ∈ es) : Fate k es o.result := by
  cases o with
  | returned v => exact .returned h
  | panicked p =>
    cases p with
    | text m => exact .panicked h
    | other => exact .panickedOther h

theorem fate_iff : Fate k es r ↔
    (∃ o, .ended k o ∈ es ∧ r = o.result) ∨ CancelledFirst k es ∧ r = .error .cancelled ∨
      .dropped k ∈ es ∧ r = .error .discarded := by
  constructor
  · intro h
    cases h with
    | returned h | panicked h | panickedOther h => exact .inl ⟨_, h, rfl⟩
    | cancelled h => exact .inr (.inl ⟨h, rfl⟩)
    | discarded h => exact .inr (.inr ⟨h, rfl⟩)
  · rintro (⟨o, h, rfl⟩ | ⟨h, rfl⟩ | ⟨h, rfl⟩)
    exacts [fate_ended h, .cancelled h, .discarded h]

end

/-! ## Results in the ledger -/

section
variable {s s' : State B V} {t : ThreadId} {k : TaskId}

/-- A stage at which the handle has a result. -/
def Stage.result? : Stage V → Option (TaskResult V)
  | finished r => some r
  | dropped => some (.error .discarded)
  | _ => none

theorem Holds.result? {a : Activity V} {g : Stage V} (h : Holds t a k g) : g.result? = none := by
  cases h with
  | @task _ _ p => cases p <;> rfl
  | _ => rfl

/-- **The result that a handle would give is told by the ledger.** -/
theorem State.Ledgered.answer_eq (h : s.Ledgered) {job : Job B V} (hj : s.jobs[k]? = some job)
    {g : Stage V} (hg : (k, g) ∈ s.ledger) :
    job.promise.answer? (.error .discarded) = g.result? := by
  have hentry {g' : Stage V} (hg' : (∃ r, job.sender = .sent r ∧ g' = .finished r) ∨
      job.sender = .closed ∧ g' = .dropped) : g = g' :=
    h.unique hg (mem_ledger.2 (.inr (.inr (.inr ⟨job, hj, hg'⟩))))
  cases hs : job.sender with
  | sent r =>
    rw [hentry (.inl ⟨r, hs, rfl⟩)]
    simp [Promise.answer?, show job.promise.sender = _ from hs, Stage.result?]
  | closed =>
    rw [hentry (.inr ⟨hs, rfl⟩)]
    simp [Promise.answer?, show job.promise.sender = _ from hs, Stage.result?]
  | unsent =>
    have hnone : job.promise.answer? (.error .discarded) = none := by
      simp [Promise.answer?, show job.promise.sender = _ from hs]
    rw [hnone]
    rcases mem_ledger.1 hg with ⟨t, th, -, a, -, ha⟩ | ⟨i, -, rfl⟩ | ⟨-, rfl⟩ | ⟨job', hj', hent⟩
    · exact (holds_of_mem ha).result?.symm
    · rfl
    · rfl
    · cases hj.symm.trans hj'
      rcases hent with ⟨r, hs', -⟩ | ⟨hs', -⟩ <;> rw [hs] at hs' <;> cases hs'

/-- The handle of a task is resolved with this result. -/
def State.Resolved (s : State B V) (k : TaskId) (r : TaskResult V) : Prop :=
  ∃ job, s.jobs[k]? = some job ∧ job.promise.answer? (.error .discarded) = some r

theorem State.Ledgered.resolved (h : s.Ledgered) {g : Stage V} {r : TaskResult V}
    (hg : (k, g) ∈ s.ledger) (hr : g.result? = some r) : s.Resolved k r := by
  have hlt : k < s.jobs.length := h.lt hg
  refine ⟨s.jobs[k], List.getElem?_eq_getElem hlt, ?_⟩
  rw [h.answer_eq (List.getElem?_eq_getElem hlt) hg, hr]

theorem isOpen_iff {job : Job B V} :
    job.promise.isOpen = true ↔ job.promise.answer? (.error .discarded) = none := by
  simp only [Promise.isOpen, Promise.answer?]
  cases job.promise.sender <;> simp

/-! ## At rest -/

/-- Whoever carries a task or is about to drop it can go on. -/
theorem Holds.able {a : Activity V} {g : Stage V} (h : Holds t a k g)
    (hg : g = .carried t ∨ g = .dropping) : ¬ a.Rests ∧ a.Able B ∧ a ≠ .work .await := by
  cases h with
  | work | pop => simp at hg
  | @task _ _ p => cases p <;> simp [TaskPoint.stage] at hg
  | submit => exact ⟨id, able_submit _, by simp⟩
  | trySubmit => exact ⟨id, able_trySubmit _, by simp⟩
  | clear => exact ⟨id, able_clear _, by simp⟩
  | purge => exact ⟨id, able_purge _ _, by simp⟩
  | sweep => exact ⟨id, able_sweep _ _ _, by simp⟩
  | discard => exact ⟨id, able_discard _ _, by simp⟩

/-- At rest, whoever holds a task outside the backlog without running it is a
    producer that waits for room. -/
theorem State.AtRest.holds (h : s.AtRest) (hs : s.Shaped) {th : Thread V}
    (ht : s.threads[t]? = some th) {a : Activity V} (ha : a ∈ th.stack) {g : Stage V}
    (hh : Holds t a k g) (hg : g = .carried t ∨ g = .dropping) :
    g = .carried t ∧ t ∈ s.backlog.givers := by
  obtain ⟨hr, hable, hne⟩ := hh.able (B := B) hg
  obtain ⟨rest, hst⟩ := (hs.thread t th ht).eq_cons ha hr
  rcases h.waits hs ht hst hable with ⟨rfl, -⟩ | ⟨⟨k', rfl⟩, hm⟩
  · exact absurd rfl hne
  · cases hh
    exact ⟨rfl, hm⟩

theorem State.AtRest.carried (h : s.AtRest) (hs : s.Shaped) (hk : (k, .carried t) ∈ s.ledger) :
    t ∈ s.backlog.givers := by
  rcases mem_ledger.1 hk with ⟨u, th, hu, a, ha, hm⟩ | ⟨i, -, hg⟩ | ⟨-, hg⟩ | ⟨job, -, hent⟩
  · have hh := holds_of_mem hm
    have hut : t = u := by simpa [Stage.place] using hh.place
    subst hut
    exact (h.holds hs hu ha hh (.inl rfl)).2
  · cases hg
  · cases hg
  · rcases hent with ⟨r, -, hg⟩ | ⟨-, hg⟩ <;> cases hg

theorem State.AtRest.not_dropping (h : s.AtRest) (hs : s.Shaped) : (k, .dropping) ∉ s.ledger := by
  intro hk
  rcases mem_ledger.1 hk with ⟨u, th, hu, a, ha, hm⟩ | ⟨i, -, hg⟩ | ⟨-, hg⟩ | ⟨job, -, hent⟩
  · cases (h.holds hs hu ha (holds_of_mem hm) (.inr rfl)).1
  · cases hg
  · cases hg
  · rcases hent with ⟨r, -, hg⟩ | ⟨-, hg⟩ <;> cases hg

/-- The body of a task at this place is still there to be run, or is running. -/
def State.HasBody (s : State B V) : Place → Prop
  | .carried t => t ∈ s.backlog.givers
  | .queued _ | .held | .running _ => True
  | .finished | .dropped => False

/-- **At rest, a handle has no result exactly as long as the body of its task
    is there.** -/
theorem State.AtRest.isOpen_iff (h : s.AtRest) (hr : s.Reachable) {job : Job B V}
    (hj : s.jobs[k]? = some job) :
    job.promise.isOpen = true ↔ ∃ p, s.places k = {p} ∧ s.HasBody p := by
  obtain ⟨g, hg⟩ := hr.ledgered.exists (List.getElem?_eq_some_iff.1 hj).1
  have hplace := hr.ledgered.places_eq hg
  rw [WorkerPool.isOpen_iff, hr.ledgered.answer_eq hj hg, hplace]
  have hone : (∃ p, ({g.place} : Multiset Place) = {p} ∧ s.HasBody p) ↔ s.HasBody g.place := by
    constructor
    · rintro ⟨p, hp, hb⟩
      rwa [Multiset.singleton_inj.1 hp]
    · exact fun hb => ⟨_, rfl, hb⟩
  rw [hone]
  cases g with
  | carried t => exact iff_of_true rfl (h.carried hr.shaped hg)
  | dropping => exact absurd hg (h.not_dropping hr.shaped)
  | finished | dropped => exact iff_of_false nofun id
  | _ => exact iff_of_true rfl trivial

/-! ## Results are fates -/

/-- Whether an event resolves the handle of this task. -/
def Event.resolves (k : TaskId) : Event V → Bool
  | sent k' _ | dropped k' => k' == k
  | _ => false

theorem Event.resolves_befalls {e : Event V} (h : e.resolves k = true) : e.befalls k = true := by
  cases e <;> simp_all [Event.resolves]

theorem Fetched.countP_resolves {es : List (Event V)} (h : Fetched k t es) :
    es.countP (Event.resolves k) = 0 := by
  rcases h with rfl | ⟨u, rfl⟩ <;> rfl

theorem Ran.countP_resolves {r : TaskResult V} {es : List (Event V)} (h : Ran k t r es) :
    es.countP (Event.resolves k) = 0 := by
  cases h with
  | skipped h | ended o h =>
    rw [List.countP_append, h.countP_resolves]
    simp [Event.resolves]

/-- A handle is resolved once if the task is at its end, and not before. -/
theorem Stage.Log.countP_resolves {g : Stage V} {es : List (Event V)} (h : g.Log k es) :
    es.countP (Event.resolves k) = if g.result?.isSome then 1 else 0 := by
  cases h with
  | fetched h => exact h.countP_resolves
  | skipping h | inBody h | tallying o h =>
    rw [List.countP_append, h.countP_resolves]
    simp [Event.resolves, Stage.result?]
  | settling h => exact h.countP_resolves
  | finished h =>
    rw [List.countP_append, h.countP_resolves]
    simp [Event.resolves, Stage.result?]
  | refused | dropped => simp [Event.resolves, Stage.result?]
  | _ => rfl

theorem mem_own_iff {e : Event V} {es : List (Event V)} (he : e.befalls k = true) :
    e ∈ es ↔ e ∈ own k es :=
  ⟨fun h => List.mem_filter.2 ⟨h, he⟩, fun h => (List.mem_filter.1 h).1⟩

/-- All that has happened to a task whose handle has this result. -/
inductive Closed (k : TaskId) : TaskResult V → List (Event V) → Prop where
  | skipped {t es} (h : Fetched k t es) :
      Closed k (.error .cancelled) (es ++ [.begun k, .sent k (.error .cancelled)])
  | ended {t es} (o) (h : Fetched k t es) :
      Closed k o.result (es ++ [.begun k, .called k, .ended k o, .sent k o.result])
  | refused : Closed k (.error .discarded) [.dropped k]
  | dropped (r) : Closed k (.error .discarded) [.removed k r, .dropped k]

theorem Stage.Log.closed {g : Stage V} {es : List (Event V)} (h : g.Log k es)
    {r : TaskResult V} (hr : g.result? = some r) : Closed k r es := by
  cases h with
  | finished h =>
    cases hr
    cases h with
    | skipped h => rw [List.append_assoc]; exact .skipped h
    | ended o h => rw [List.append_assoc]; exact .ended o h
  | refused => cases hr; exact .refused
  | dropped r => cases hr; exact .dropped r
  | _ => cases hr

theorem Stage.isSkipped_of_result {g : Stage V} {r : TaskResult V} (hr : g.result? = some r) :
    g.IsSkipped ↔ r = .error .cancelled := by
  cases g <;> cases hr <;> simp [Stage.IsSkipped]

theorem Outcome.result_ne (o : Outcome V) :
    o.result ≠ .error .cancelled ∧ o.result ≠ .error .discarded := by
  cases o <;> simp [Outcome.result]

/-- To fetch a task is no more than to remove it. -/
theorem Fetched.mem_append {es es' : List (Event V)} (h : Fetched k t es) {e : Event V}
    (he : ∀ r, e ≠ .removed k r) : e ∈ es ++ es' ↔ e ∈ es' := by
  have hnot : e ∉ es := by
    rcases h with rfl | ⟨u, rfl⟩ <;> exact fun hm => he _ (List.mem_singleton.1 hm)
  simp [hnot]

namespace Closed

variable {l : List (Event V)} {r r' : TaskResult V}

theorem called_not_mem (h : Closed k (.error .cancelled) l) : .called k ∉ l := by
  generalize hr : (.error .cancelled : TaskResult V) = r at h
  cases h with
  | skipped h => simp [h.mem_append]
  | ended o => exact absurd hr.symm o.result_ne.1
  | refused | dropped => cases hr

theorem begun_not_mem (h : Closed k (.error .discarded) l) : .begun k ∉ l := by
  generalize hr : (.error .discarded : TaskResult V) = r at h
  cases h with
  | skipped => cases hr
  | ended o => exact absurd hr.symm o.result_ne.2
  | refused | dropped => simp

theorem exists_ended (h : Closed k r l) (hm : .called k ∈ l) :
    ∃ o, .ended k o ∈ l ∧ r = o.result := by
  cases h with
  | skipped h => exact absurd hm (called_not_mem (.skipped h))
  | ended o => exact ⟨o, by simp, rfl⟩
  | refused | dropped => simp at hm

theorem eq_result (h : Closed k r l) {o : Outcome V} (hm : .ended k o ∈ l) : r = o.result := by
  cases h with
  | skipped h => simp [h.mem_append] at hm
  | ended o' h =>
    have heq : o = o' := by simpa [h.mem_append] using hm
    rw [heq]
  | refused | dropped => simp at hm

theorem dropped_mem_iff (h : Closed k r l) : .dropped k ∈ l ↔ r = .error .discarded := by
  cases h with
  | skipped h => simp [h.mem_append]
  | ended o h => simp [h.mem_append, o.result_ne.2]
  | refused | dropped => simp

/-- A closed task has one fate. -/
theorem fate_iff {es : List (Event V)} (h : Closed k r (own k es))
    (hc : CancelledFirst k es ↔ r = .error .cancelled) : Fate k es r' ↔ r' = r := by
  have hdrop : .dropped k ∈ es ↔ r = .error .discarded :=
    (mem_own_iff (by simp)).trans h.dropped_mem_iff
  rw [WorkerPool.fate_iff, hc, hdrop]
  constructor
  · rintro (⟨o, ho, rfl⟩ | ⟨rfl, rfl⟩ | ⟨rfl, rfl⟩)
    · exact (h.eq_result ((mem_own_iff (by simp)).1 ho)).symm
    · rfl
    · rfl
  · rintro rfl
    generalize hl : own k es = l at h
    cases h with
    | skipped => exact .inr (.inl ⟨rfl, rfl⟩)
    | ended o => exact .inl ⟨o, (mem_own_iff (k := k) (by simp)).2 (by simp [hl]), rfl⟩
    | refused | dropped => exact .inr (.inr ⟨rfl, rfl⟩)

end Closed

/-- The result of a task at its end is its fate. -/
theorem State.Founded.fate {s₀ : State B V} (h₀ : s₀.Founded) {as : List (Action B V)}
    (has : s₀.steps as = some s) {g : Stage V} {r : TaskResult V} (hg : (k, g) ∈ s.ledger)
    (hr : g.result? = some r) : Fate k (s₀.chronicle as) r := by
  have hc := (h₀.cancelledFirst_iff has hg).trans (Stage.isSkipped_of_result hr)
  exact (((h₀.story has hg).log.closed hr).fate_iff hc).2 rfl

/-- A task that has come to its end stays there. -/
theorem steps_final {as : List (Action B V)} {g : Stage V} {r : TaskResult V} (h : s.Ledgered)
    (has : s.steps as = some s') (hg : (k, g) ∈ s.ledger) (hr : g.result? = some r) :
    (k, g) ∈ s'.ledger := by
  have stays : ∀ g₁ es g₂, g₁ = g → Stage.Next k g₁ es g₂ → g₂ = g := by
    rintro _ es g₂ rfl hn
    cases hn <;> first | rfl | cases hr
  obtain ⟨_, hg', rfl⟩ := steps_stage (P := (· = g)) stays h hg rfl has
  exact hg'

end

/-- A run in which one task returns, and another one, cancelled while the
    first is run, is skipped. -/
def skippingRun : List (Action Unit Unit) :=
  [paces 0 5, [.call 0 (.submit ())], paces 0 3, paces 1 3,
    [.call 0 (.submit ())], paces 0 3, [.call 0 (.cancel 1)], paces 0 1,
    [.finish 1 (.returned ())], paces 1 14].flatten

end WorkerPool
