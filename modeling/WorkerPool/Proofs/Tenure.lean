/-
  How long a worker stays, and how it ends.

  * `State.Stays`: a worker is in its loop or runs a task, and is not on its
    way out; `Move.stays`: it stays until it is told to leave, its start hook
    panics, or it finds the backlog of a stopped pool empty;
  * `State.Reachable.tenure`: a worker that nobody has sent away stays;
  * `State.HasDied`, `State.HasEnded`: a panic and an end are for good.
-/
import WorkerPool.Proofs.Roster

namespace WorkerPool

variable {B V : Type}

/-! ## The way out -/

/-- A point of a worker's loop from which it only goes on to leave. -/
def WorkPoint.Leaves : WorkPoint → Prop
  | clock sh | shift sh _ | report sh _ => sh = .resume none
  | unmark next => next = none
  | leave => True
  | _ => False

theorem Shift.after_leaves {sh : Shift} : sh.after.Leaves ↔ sh = .resume none := by
  cases sh <;> simp [Shift.after, WorkPoint.Leaves]

/-- A worker that is not on its way out. -/
def Thread.Stays (w : Thread V) : Prop := ∃ p, .work p ∈ w.stack ∧ ¬ p.Leaves

namespace State

/-- The worker on this thread is not on its way out. -/
def Stays (s : State B V) (u : ThreadId) : Prop := ∃ w, s.threads[u]? = some w ∧ w.Stays

/-- A worker that a panic has ended, or is about to. -/
def HasDied (s : State B V) (u : ThreadId) : Prop :=
  ∃ w, s.threads[u]? = some w ∧ w.died = true

/-- A worker that has ended. -/
def HasEnded (s : State B V) (u : ThreadId) : Prop :=
  ∃ w, s.threads[u]? = some w ∧ w.hasEnded = true

end State

theorem hasEnded_iff {w : Thread V} :
    w.hasEnded = true ↔ w.badge.isSome = true ∧ w.stack = [] := by
  simp [Thread.hasEnded]

section
variable {s s' : State B V} {t u : ThreadId} {th w : Thread V} {c : Chance} {a : Activity V}
  {turn : Turn B V} {rest : List (Activity V)}

theorem State.HasEnded.not_stays (h : s.HasEnded u) : ¬ s.Stays u := by
  rintro ⟨w, hw, p, hp, -⟩
  obtain ⟨w', hw', he⟩ := h
  cases hw.symm.trans hw'
  rw [(hasEnded_iff.1 he).2] at hp
  cases hp

/-- A worker turns to the way out when it was told to, or when it finds the
    backlog of a stopped pool empty. -/
theorem Deed.stays {p : WorkPoint} (hd : Deed s t th c (.work p) turn) (hp : ¬ p.Leaves) :
    (∃ q, .work q ∈ turn.next ∧ ¬ q.Leaves) ∨ (∃ b, th.badge = some b ∧ b.told = true) ∨
      s.done = true ∧ s.backlog.tasks = [] := by
  cases hd with
  | fetch | fetchNone | await | awaitSleep =>
    exact .inl ⟨_, List.mem_singleton_self _, id⟩
  | fetched => exact .inl ⟨.check, by simp [runNext], id⟩
  | @check b hb =>
    cases ht : b.told with
    | true => exact .inr (.inl ⟨b, hb, ht⟩)
    | false => exact .inl ⟨.fetch, by simp, id⟩
  | mark | awaited => exact .inl ⟨_, List.mem_singleton_self _, by simp [WorkPoint.Leaves]⟩
  | clock => exact .inl ⟨_, List.mem_singleton_self _, hp⟩
  | @shift b sh now m r =>
    refine .inl ⟨_, List.mem_singleton_self _, ?_⟩
    cases r with
    | none => exact fun h => hp (Shift.after_leaves.1 h)
    | some h => exact hp
  | report => exact .inl ⟨_, List.mem_singleton_self _, fun h => hp (Shift.after_leaves.1 h)⟩
  | @awaitStop b hb hk hd =>
    rcases hd with hd | hd
    · exact .inr (.inr ⟨hd, hk⟩)
    · exact .inr (.inl ⟨b, hb, hd⟩)
  | @unmark b k => exact .inl ⟨.check, by simp [runNext], id⟩
  | unmarkNone => exact absurd rfl hp
  | leave | leaveLast => exact absurd trivial hp

/-! ## A worker in an action -/

theorem getElem?_modifyThread_self {f : Thread V → Thread V} (ht : s.threads[t]? = some th) :
    (s.modifyThread t f).threads[t]? = some (f th) := by
  simp [State.modifyThread, ht]

/-- **A worker stays** until it is told to leave, its start hook panics, or the
    pool is stopped and the backlog empty. -/
theorem Move.stays {x : Action B V} (hm : Move s x s') (h : s.Stays u) :
    s'.Stays u ∨ s.IsTold u ∨ s'.HasDied u ∨ s.done = true ∧ s.backlog.tasks = [] := by
  obtain ⟨w, hw, p, hp, hl⟩ := h
  by_cases hu : x.actor? = some u
  · -- the worker itself acts, and what is below its innermost activity stays
    have keep {f : Thread V → Thread V} {s₁ : State B V} {w₁ : Thread V} {q : WorkPoint}
        (hw₁ : s₁.threads[u]? = some w₁) (hq : .work q ∈ (f w₁).stack) (hl : ¬ q.Leaves) :
        (s₁.modifyThread u f).Stays u := ⟨_, getElem?_modifyThread_self hw₁, q, hq, hl⟩
    cases hm with
    | arrive | rouse | tick => cases hu
    | call ht hf hcl ho =>
      cases hu
      cases hw.symm.trans ht
      exact .inl (keep (ho.threads ▸ ht) (List.mem_append_right _ hp) hl)
    | finish ht hs | expire ht hs =>
      cases hu
      cases hw.symm.trans ht
      refine .inl (keep ht (List.mem_append_right _ ?_) hl)
      rw [hs] at hp ⊢
      simpa using hp
    | hook ht hs =>
      cases hu
      exact .inl (keep ht List.mem_cons_self id)
    | hookPanic ht hs =>
      cases hu
      exact .inr (.inr (.inl ⟨_, getElem?_modifyThread_self (getElem?_modifyThread_self ht), rfl⟩))
    | run _ ht hs hd =>
      cases hu
      cases hw.symm.trans ht
      obtain ⟨w', hw', hsame⟩ := hd.same hw
      rcases List.mem_cons.1 (hs ▸ hp) with rfl | hrest
      · rcases hd.stays hl with ⟨q, hq, hl⟩ | ⟨b, hb, htold⟩ | hquit
        · exact .inl (keep hw' (List.mem_append_left _ hq) hl)
        · exact .inr (.inl ⟨b, by rw [badge?_eq, hw, Option.bind_some, hb], htold⟩)
        · exact .inr (.inr (.inr hquit))
      · exact .inl (keep hw' (List.mem_append_right _ (by rw [hsame.stack, hs]; exact hrest)) hl)
  · obtain ⟨w', hw', hsame⟩ := hm.same hu hw
    exact .inl ⟨w', hw', p, by rw [hsame.stack]; exact hp, hl⟩

/-- **A thread dies of its start hook**, and nothing else changes whether it has
    died. -/
theorem Move.died {x : Action B V} (hm : Move s x s') (hw : s.threads[u]? = some w) :
    ∃ w', s'.threads[u]? = some w' ∧ (w'.died = true ↔ w.died = true ∨ x = .hook u true) := by
  by_cases hu : x.actor? = some u
  · cases hm with
    | arrive | rouse | tick => cases hu
    | call ht hf hcl ho =>
      cases hu
      exact ⟨_, getElem?_modifyThread_self (ho.threads ▸ hw), by simp⟩
    | finish | hook | expire =>
      cases hu
      exact ⟨_, getElem?_modifyThread_self hw, by simp⟩
    | hookPanic =>
      cases hu
      exact ⟨_, getElem?_modifyThread_self (getElem?_modifyThread_self hw), by simp⟩
    | run _ ht hs hd =>
      cases hu
      obtain ⟨w', hw', hsame⟩ := hd.same hw
      exact ⟨_, getElem?_modifyThread_self hw', by simp [hsame.died]⟩
  · obtain ⟨w', hw', hsame⟩ := hm.same hu hw
    have hne : x ≠ .hook u true := fun h => hu (h ▸ rfl)
    exact ⟨w', hw', by simp [hsame.died, hne]⟩

/-- Nobody comes back from a panic. -/
theorem Move.hasDied {x : Action B V} (hm : Move s x s') (h : s.HasDied u) : s'.HasDied u := by
  obtain ⟨w, hw, hdied⟩ := h
  obtain ⟨w', hw', hiff⟩ := hm.died hw
  exact ⟨w', hw', hiff.2 (.inl hdied)⟩

/-- A thread whose stack is empty acts by a call only, and a worker does not. -/
theorem Move.actor_ne_of_hasEnded {x : Action B V} (hm : Move s x s') (h : s.HasEnded u) :
    x.actor? ≠ some u := by
  intro hu
  obtain ⟨w, hw, he⟩ := h
  obtain ⟨hb, hst⟩ := hasEnded_iff.1 he
  cases hm with
  | arrive | rouse | tick => cases hu
  | call ht hf =>
    cases hu
    cases hw.symm.trans ht
    simp only [Thread.isFree, hst] at hf
    rw [Option.isNone_iff_eq_none.1 hf] at hb
    cases hb
  | finish ht hs | hook ht hs | hookPanic ht hs | expire ht hs | run _ ht hs =>
    cases hu
    cases hw.symm.trans ht
    rw [hst] at hs
    cases hs

/-- A worker that has ended is not heard of again. -/
theorem Move.hasEnded {x : Action B V} (hm : Move s x s') (h : s.HasEnded u) : s'.HasEnded u := by
  have hne := hm.actor_ne_of_hasEnded h
  obtain ⟨w, hw, he⟩ := h
  obtain ⟨w', hw', hsame⟩ := hm.same hne hw
  refine ⟨w', hw', hasEnded_iff.2 ?_⟩
  rw [hsame.worker, hsame.stack]
  exact hasEnded_iff.1 he

/-! ## Workers that nobody has sent away -/

theorem Move.done {x : Action B V} (hm : Move s x s') (h : s.done = true) : s'.done = true := by
  cases hm.ruling with
  | step _ _ _ _ hd =>
    cases hd with
    | graceful => rfl
    | clear hp | clearEnd hp | purge hp | purgeEnd hp | sweep hp | sweepEnd hp =>
      cases hp <;> exact h
    | _ => exact h
  | other hu => rw [hu.done, h]

theorem Move.tenure {x : Action B V} (hm : Move s x s')
    (h : (s.badge? u).isSome = true →
      s.done = true ∨ s.IsTold u ∨ s.HasDied u ∨ s.Stays u)
    (hb : (s'.badge? u).isSome = true) :
    s'.done = true ∨ s'.IsTold u ∨ s'.HasDied u ∨ s'.Stays u := by
  cases hold : (s.badge? u).isSome with
  | true =>
    rcases h hold with h | h | h | h
    · exact .inl (hm.done h)
    · exact .inr (.inl (hm.isTold_iff.2 (.inl h)))
    · exact .inr (.inr (.inl (hm.hasDied h)))
    · rcases hm.stays h with h | h | h | ⟨h, -⟩
      · exact .inr (.inr (.inr h))
      · exact .inr (.inl (hm.isTold_iff.2 (.inl h)))
      · exact .inr (.inr (.inl h))
      · exact .inl (hm.done h)
  | false =>
    -- a worker that was none before has just been started
    obtain ⟨w', hw', hb'⟩ := isSome_badge?_iff.1 hb
    have hnone {w : Thread V} (hw : s.threads[u]? = some w) : w.badge.isSome = false := by
      rw [badge?_eq, hw] at hold
      exact hold
    have hn := hm.thread hw'
    generalize ho : s.threads[u]? = o at hn
    cases hn with
    | same hsame => rw [hsame.worker, hnone ho] at hb'; cases hb'
    | outside => cases hb'
    | worker i =>
      refine .inr (.inr (.inr ⟨_, hw', if s.hooked then .hook else .fetch, ?_, ?_⟩))
      · exact List.mem_singleton_self _
      · split <;> exact id
    | call _ _ _ _ hbadge => rw [hbadge, hnone ho] at hb'; cases hb'
    | step _ _ _ hbadge => rw [hbadge, hnone ho] at hb'; cases hb'

/-- **A worker that nobody has sent away stays.** -/
theorem State.Reachable.tenure (h : s.Reachable) (hb : (s.badge? u).isSome = true) :
    s.done = true ∨ s.IsTold u ∨ s.HasDied u ∨ s.Stays u := by
  revert hb
  refine h.induct (P := fun s => (s.badge? u).isSome = true →
    s.done = true ∨ s.IsTold u ∨ s.HasDied u ∨ s.Stays u) ?_ fun _ _ _ _ ih hm => hm.tenure ih
  rintro s ⟨name, hooked, capacity, interval, workers, rfl⟩ hb
  obtain ⟨w, hw, hb⟩ := isSome_badge?_iff.1 hb
  rw [List.mem_singleton.1 (List.mem_of_getElem? hw)] at hb
  cases hb

end

end WorkerPool
