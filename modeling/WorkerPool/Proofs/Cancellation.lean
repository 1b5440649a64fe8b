/-
  Cancelling a task.

  * `Move.isCancelled_iff`: the cancel flag of a task is set by a cancellation
    and by nothing else;
  * `CancelledFirst`: the cancellation of a task was asked for before the task
    was begun;
  * `State.Founded.cancelledFirst_iff`: these are the tasks that are skipped,
    so that a cancellation that comes later changes nothing.
-/
import WorkerPool.Proofs.Story

namespace WorkerPool

variable {B V : Type}

/-! ## The flag -/

section
variable {s s' : State B V} {t : ThreadId} {th : Thread V} {c : Chance} {a : Activity V}
  {turn : Turn B V} {k : TaskId}

theorem isCancelled_congr (h : s'.jobs[k]?.map Job.cancelled = s.jobs[k]?.map Job.cancelled) :
    s'.isCancelled k = s.isCancelled k := by
  simp only [State.isCancelled]
  cases hj : s.jobs[k]? <;> cases hj' : s'.jobs[k]? <;> simp_all

theorem isCancelled_cancel {u : TaskId} (hu : u < s.jobs.length) :
    (s.cancel u).isCancelled k = true ↔ s.isCancelled k = true ∨ u = k := by
  simp only [State.isCancelled, State.cancel, State.modifyJob, List.getElem?_modify]
  by_cases hk : u = k
  · subst hk
    simp [List.getElem?_eq_getElem hu]
  · cases s.jobs[k]? <;> simp [hk]

theorem Sweep.cancelled {p : Clearing} {o : Clearing ⊕ Nat} (hp : Sweep s p s' o) :
    s'.jobs[k]?.map Job.cancelled = s.jobs[k]?.map Job.cancelled := by
  cases hp with
  | drop => exact map_modify (by intros; rfl) k
  | _ => rfl

/-- A step that cancels nothing leaves all flags alone. -/
theorem Deed.cancelled (hd : Deed s t th c a turn) (ha : ∀ u, a ≠ .cancel u) :
    turn.state.jobs[k]?.map Job.cancelled = s.jobs[k]?.map Job.cancelled := by
  cases hd with
  | cancel => exact absurd rfl (ha _)
  | settle | tryDrop | discard => exact map_modify (by intros; rfl) k
  | receive hr => exact receive_blind blind_cancelled hr k
  | joinAll hs hw hp => exact pollSlots_blind blind_cancelled hp k
  | clear hp | clearEnd hp | purge hp | purgeEnd hp | sweep hp | sweepEnd hp => exact hp.cancelled
  | _ => rfl

theorem Deed.isCancelled_iff (hd : Deed s t th c a turn)
    (ha : ∀ u, a = .cancel u → u < s.jobs.length) :
    turn.state.isCancelled k = true ↔
      s.isCancelled k = true ∨ .cancelled k ∈ s.doing t a := by
  by_cases hc : ∃ u, a = .cancel u
  · obtain ⟨u, rfl⟩ := hc
    cases hd
    refine (isCancelled_cancel (ha u rfl)).trans (or_congr_right ?_)
    rw [State.doing, List.mem_singleton, Event.cancelled.injEq]
    exact eq_comm
  · rw [isCancelled_congr (hd.cancelled fun u hu => hc ⟨u, hu⟩)]
    refine (or_iff_left fun hk => ?_).symm
    cases yields_of_mem hk
    exact hc ⟨_, rfl⟩

/-! ## Who cancels -/

/-- Whoever is about to cancel a task has its handle. -/
def State.Handled (s : State B V) : Prop :=
  ∀ (t : ThreadId) (th : Thread V), s.threads[t]? = some th →
    ∀ k, .cancel k ∈ th.stack → k < s.jobs.length

theorem Deed.cancel_not_mem (hd : Deed s t th c a turn) : .cancel k ∉ turn.next := by
  cases hd with
  | fetched | unmark => simp [runNext]
  | _ => simp

theorem Opening.cancel_lt {cl : Call B} {next : List (Activity V)} (ho : Opening s cl s' next)
    (hk : .cancel k ∈ next) : k < s.jobs.length := by
  cases ho with
  | cancel hlt =>
    cases List.mem_singleton.1 hk
    exact hlt
  | _ => simp at hk

theorem Thread.Next.cancel_lt {o : Option (Thread V)} {w' : Thread V} (hn : Thread.Next s o w')
    (h : ∀ w, o = some w → ∀ k, .cancel k ∈ w.stack → k < s.jobs.length)
    (hk : .cancel k ∈ w'.stack) : k < s.jobs.length := by
  cases hn with
  | same hs => exact h _ rfl k (hs.stack ▸ hk)
  | outside => cases hk
  | worker i => simp [Thread.worker] at hk
  | call hf hl ho hs hb =>
    rw [hs] at hk
    rcases List.mem_append.1 hk with hk | hk
    exacts [ho.cancel_lt hk, h _ rfl k hk]
  | step hx hn hs hb =>
    rw [hs] at hk
    rcases List.mem_append.1 hk with hk | hk
    · cases hn with
      | run hd => exact absurd hk hd.cancel_not_mem
      | _ => simp at hk
    · exact h _ rfl k (by rw [hx]; exact List.mem_cons_of_mem _ hk)

theorem Move.handled {x : Action B V} (hm : Move s x s') (hl : s.Ledgered) (h : s.Handled) :
    s'.Handled := fun u _ hw _ hk =>
  Nat.lt_of_lt_of_le ((hm.thread hw).cancel_lt (fun w hw => h u w hw) hk)
    (hm.jobs_length_le hl)

theorem State.Founded.handled (h : s.Founded) : s.Handled := by
  obtain ⟨name, hooked, capacity, interval, workers, rfl⟩ := h
  intro t th ht k hk
  obtain rfl := List.mem_singleton.1 (List.mem_of_getElem? ht)
  simp at hk

theorem State.Reachable.handled (h : s.Reachable) : s.Handled :=
  h.induct (fun _ => Founded.handled) fun _ _ _ h ih hm => hm.handled h.ledgered ih

theorem Opening.isCancelled_eq {cl : Call B} {next : List (Activity V)}
    (ho : Opening s cl s' next) : s'.isCancelled k = s.isCancelled k := by
  cases ho with
  | submit | trySubmit =>
    simp only [State.isCancelled]
    by_cases hk : k < s.jobs.length
    · rw [List.getElem?_append_left hk]
    · rw [List.getElem?_append_right (Nat.not_lt.1 hk), List.getElem?_eq_none (Nat.not_lt.1 hk)]
      cases k - s.jobs.length <;> rfl
  | _ => rfl

/-- **A task is cancelled by a cancellation**, and by nothing else. -/
theorem Move.isCancelled_iff {x : Action B V} (hm : Move s x s') (h : s.Handled) :
    s'.isCancelled k = true ↔ s.isCancelled k = true ∨ .cancelled k ∈ s.events x := by
  cases hm with
  | call ht hf hl ho =>
    refine Iff.trans ?_ (or_iff_left List.not_mem_nil).symm
    rw [← ho.isCancelled_eq]
    exact Iff.rfl
  | finish ht hs =>
    refine (or_iff_left fun hk => ?_).symm
    simp [State.events, top?_eq_some_iff.2 ⟨_, _, ht, hs⟩] at hk
  | run hw ht hs hd =>
    simp only [State.events, top?_eq_some_iff.2 ⟨_, _, ht, hs⟩]
    exact hd.isCancelled_iff fun u hu => h _ _ ht u (by rw [hs, hu]; exact List.mem_cons_self)
  | _ => exact (or_iff_left List.not_mem_nil).symm

theorem State.Founded.isCancelled_iff {s₀ : State B V} (h₀ : s₀.Founded) {as : List (Action B V)}
    (has : s₀.steps as = some s) : s.isCancelled k = true ↔ .cancelled k ∈ s₀.chronicle as := by
  refine h₀.run_induct (P := fun s es => s.isCancelled k = true ↔ .cancelled k ∈ es) has ?_ ?_
  · obtain ⟨name, hooked, capacity, interval, workers, rfl⟩ := h₀
    simp [State.isCancelled, State.founding]
  · intro s₁ s₂ a es hr ih hm
    rw [hm.isCancelled_iff hr.handled, ih, List.mem_append]

/-! ## First cancelled, then begun -/

/-- The cancellation of a task was asked for before the task was begun. -/
def CancelledFirst (k : TaskId) (es : List (Event V)) : Prop :=
  ∃ es₁ es₂, es = es₁ ++ .begun k :: es₂ ∧ .cancelled k ∈ es₁

theorem cancelledFirst_append {es es' : List (Event V)} (h : .begun k ∉ es') :
    CancelledFirst k (es ++ es') ↔ CancelledFirst k es := by
  constructor
  · rintro ⟨es₁, es₂, heq, hc⟩
    rcases List.append_eq_append_iff.1 heq with ⟨l, rfl, rfl⟩ | ⟨l, rfl, hl⟩
    · exact absurd (List.mem_append_right l List.mem_cons_self) h
    · cases l with
      | nil =>
        refine absurd ?_ h
        rw [List.nil_append] at hl
        rw [← hl]
        exact List.mem_cons_self
      | cons e l =>
        cases hl
        exact ⟨es₁, l, rfl, hc⟩
  · rintro ⟨es₁, es₂, rfl, hc⟩
    exact ⟨es₁, es₂ ++ es', by simp, hc⟩

theorem cancelledFirst_begun {es es' : List (Event V)} (h : .begun k ∉ es) (h' : .begun k ∉ es') :
    CancelledFirst k (es ++ .begun k :: es') ↔ .cancelled k ∈ es := by
  constructor
  · rintro ⟨es₁, es₂, heq, hc⟩
    rcases List.append_eq_append_iff.1 heq with ⟨l, rfl, hl⟩ | ⟨l, rfl, hl⟩
    · cases l with
      | nil => simpa using hc
      | cons e l =>
        cases hl
        exact absurd (List.mem_append_right l List.mem_cons_self) h'
    · exact List.mem_append_left _ hc
  · exact fun hc => ⟨es, es', rfl, hc⟩

/-- The stages of a task that is not run since it was cancelled. -/
def Stage.IsSkipped : Stage V → Prop
  | skipping _ => True
  | settling _ r | finished r => r = .error .cancelled
  | _ => False

/-- A step that begins a task looks at its flag. -/
theorem events_of_begun {x : Action B V} (h : .begun k ∈ s.events x) :
    s.events x = if s.isCancelled k then [.begun k] else [.begun k, .called k] := by
  rcases yields_of_mem_events h with ⟨t, c, a, rfl, ht, hy⟩ | ⟨_, _, _, _, -, -, he⟩
  · cases hy
    simp only [State.events, ht, State.doing]
  · cases he

theorem Stage.Next.isSkipped_iff {g g' : Stage V} {es : List (Event V)}
    (h : Stage.Next k g es g') (hb : .begun k ∉ es) : g'.IsSkipped ↔ g.IsSkipped := by
  cases h with
  | stay | enqueue | refuse | advance | fetch | takeOut | clear | stop | last | run | discard
  | finish | send | drop => exact Iff.rfl
  | skip | call => simp at hb
  | tally t o => cases o <;> simp [Stage.IsSkipped, Outcome.result]
  | skipped => simp [Stage.IsSkipped]

theorem not_cancelledFirst {es : List (Event V)} (h : .begun k ∉ es) : ¬ CancelledFirst k es := by
  rintro ⟨es₁, es₂, rfl, -⟩
  exact h (List.mem_append_right _ List.mem_cons_self)

/-- A task that waits to be run has not been begun. -/
theorem State.Founded.begun_not_mem {s₀ : State B V} (h₀ : s₀.Founded) {as : List (Action B V)}
    (has : s₀.steps as = some s) {u : ThreadId} (hg : (k, .fetched u) ∈ s.ledger) :
    .begun k ∉ s₀.chronicle as := by
  intro hb
  have hb : .begun k ∈ own k (s₀.chronicle as) := mem_own.2 ⟨hb, rfl, rfl⟩
  cases (h₀.story has hg).log with
  | fetched h =>
    rcases h with h | ⟨v, h⟩ <;> rw [h] at hb <;> simp at hb

/-- **The tasks that are skipped are those that were first cancelled, then
    begun.** -/
theorem State.Founded.cancelledFirst_iff {s₀ : State B V} (h₀ : s₀.Founded)
    {as : List (Action B V)} (has : s₀.steps as = some s) {g : Stage V} (hg : (k, g) ∈ s.ledger) :
    CancelledFirst k (s₀.chronicle as) ↔ g.IsSkipped := by
  induction as using List.reverseRecOn generalizing s g with
  | nil =>
    cases has
    exact absurd hg h₀.not_mem_ledger
  | append_singleton as x ih =>
    obtain ⟨s₁, has₁, hm⟩ := steps_concat.1 has
    have hr : s₁.Reachable := (Reachable.of_founded h₀).run has₁
    rw [chronicle_concat has₁ hm]
    rcases hm.origin hr.ledgered hg with ⟨g₁, hg₁, hn⟩ | ⟨rfl, ⟨t, rfl⟩, hes⟩
    · by_cases hb : .begun k ∈ s₁.events x
      · -- the task is begun in this action, skipped if its flag is up
        have hflag := h₀.isCancelled_iff (k := k) has₁
        have hev := events_of_begun hb
        have hown : own k (s₁.events x) = s₁.events x := by
          rw [hev]
          split <;> simp [own]
        rw [hown, hev] at hn
        rw [hev]
        cases hc : s₁.isCancelled k with
        | true =>
          rw [hc, if_pos rfl] at hn
          cases hn
          rw [if_pos rfl, cancelledFirst_begun (h₀.begun_not_mem has₁ hg₁) List.not_mem_nil]
          exact iff_of_true (hflag.1 hc) trivial
        | false =>
          rw [hc, if_neg Bool.false_ne_true] at hn
          cases hn
          rw [if_neg Bool.false_ne_true,
            cancelledFirst_begun (h₀.begun_not_mem has₁ hg₁) (by simp)]
          exact iff_of_false (fun h => by simp [hflag.2 h] at hc) id
      · rw [cancelledFirst_append hb, ih has₁ hg₁]
        exact (hn.isSkipped_iff fun h => hb (mem_own.1 h).1).symm
    · rw [hes, List.append_nil]
      refine iff_of_false (not_cancelledFirst fun hb => ?_) id
      have hb : .begun s₁.jobs.length ∈ own s₁.jobs.length (s₀.chronicle as) :=
        mem_own.2 ⟨hb, rfl, rfl⟩
      rw [h₀.own_eq_nil has₁ (Nat.le_refl _)] at hb
      cases hb

end

end WorkerPool
