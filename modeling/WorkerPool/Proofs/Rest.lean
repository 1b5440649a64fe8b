/-
  Threads at rest.

  * `Activity.Able`: a point from which a thread can always go on, whatever the
    others do;
  * `State.AtRest.waits`: at rest, whoever stands at such a point is asleep at
    one end of the backlog.
-/
import WorkerPool.Proofs.Shape

namespace WorkerPool

variable {B V : Type}

/-- A point from which a thread can always go on. -/
def Activity.Able (B : Type) (x : Activity V) : Prop :=
  ∀ (s : State B V) (t : ThreadId) (th : Thread V), (∀ p, x = .work p → th.badge.isSome = true) →
    ∃ c turn, Deed s t th c x turn

/-! ## Workers and producers -/

theorem able_work {p : WorkPoint}
    (h : ∀ {s : State B V} {t : ThreadId} {th : Thread V} (b : Badge), th.badge = some b →
      ∃ turn, Deed s t th ⟨0, true⟩ (.work p) turn) : (Activity.work (V := V) p).Able B := by
  intro s t th hb
  obtain ⟨b, hb⟩ := Option.isSome_iff_exists.1 (hb p rfl)
  exact ⟨⟨0, true⟩, h b hb⟩

theorem able_await : (Activity.work (V := V) .await).Able B := by
  refine able_work fun {s t th} b hb => ?_
  cases hk : s.backlog.tasks with
  | cons k ks => exact ⟨_, .await hb hk⟩
  | nil =>
    by_cases hd : s.done = true ∨ b.told = true
    · exact ⟨_, .awaitStop hb hk hd⟩
    · simp only [not_or, Bool.not_eq_true] at hd
      exact ⟨_, .awaitSleep hb hk hd.1 hd.2⟩

theorem able_submit {k : TaskId} (p : SubmitPoint) : (Activity.submit (V := V) k p).Able B := by
  intro s t th _
  refine ⟨⟨0, true⟩, ?_⟩
  cases p with
  | count => exact ⟨_, .submitCount⟩
  | push =>
    by_cases hr : s.backlog.tasks.length < s.backlog.capacity
    · exact ⟨_, .submitPush hr⟩
    · exact ⟨_, .submitSleep (Nat.not_lt.1 hr)⟩
  | wake => exact ⟨_, .submitWake⟩

theorem able_trySubmit {k : TaskId} (p : TrySubmitPoint) :
    (Activity.trySubmit (V := V) k p).Able B := by
  intro s t th _
  refine ⟨⟨0, true⟩, ?_⟩
  cases p with
  | count => exact ⟨_, .tryCount⟩
  | push =>
    by_cases hr : s.backlog.tasks.length < s.backlog.capacity
    · exact ⟨_, .tryPush hr⟩
    · exact ⟨_, .tryFull (Nat.not_lt.1 hr)⟩
  | wake => exact ⟨_, .tryWake⟩
  | uncount => exact ⟨_, .tryUncount⟩
  | refuse => exact ⟨_, .tryRefuse⟩
  | drop n => exact ⟨_, .tryDrop⟩

theorem able_pop (taken : Option TaskId) : (Activity.pop (V := V) taken).Able B := by
  intro s t th _
  refine ⟨⟨0, true⟩, ?_⟩
  cases taken with
  | some k => exact ⟨_, .popWake⟩
  | none =>
    cases hk : s.backlog.tasks with
    | nil => exact ⟨_, .popNone hk⟩
    | cons k ks => exact ⟨_, .pop hk⟩

/-! ## Passes that clear the backlog -/

theorem sweep_exists (s : State B V) (p : Clearing) : ∃ s' o, Sweep s p s' o :=
  ⟨_, _, sweep_iff.1 rfl⟩

theorem able_clear (p : Clearing) : (Activity.clear (V := V) p).Able B := by
  intro s t th _
  obtain ⟨s', o, hp⟩ := sweep_exists s p
  refine ⟨⟨0, true⟩, ?_⟩
  cases o with
  | inl => exact ⟨_, .clear hp⟩
  | inr => exact ⟨_, .clearEnd hp⟩

theorem able_purge (g : Bool) (p : Clearing) : (Activity.stop (V := V) g (.purge p)).Able B := by
  intro s t th _
  obtain ⟨s', o, hp⟩ := sweep_exists s p
  refine ⟨⟨0, true⟩, ?_⟩
  cases o with
  | inl => exact ⟨_, .purge hp⟩
  | inr => exact ⟨_, .purgeEnd hp⟩

theorem able_sweep (g : Bool) (p : Clearing) (n : Nat) :
    (Activity.stop (V := V) g (.sweep p n)).Able B := by
  intro s t th _
  obtain ⟨s', o, hp⟩ := sweep_exists s p
  refine ⟨⟨0, true⟩, ?_⟩
  cases o with
  | inl => exact ⟨_, .sweep hp⟩
  | inr => exact ⟨_, .sweepEnd hp⟩

theorem able_discard (ks : List TaskId) (r : Reply V) : (Activity.discard ks r).Able B := by
  intro s t th _
  refine ⟨⟨0, true⟩, ?_⟩
  cases ks with
  | nil => exact ⟨_, .discarded⟩
  | cons k ks => exact ⟨_, .discard⟩

/-! ## Orders to leave -/

theorem able_resizeTell (n : Nat) (us : List ThreadId) (start : Nat) :
    (Activity.resize (V := V) n (.tell us start)).Able B := by
  intro s t th _
  refine ⟨⟨0, true⟩, ?_⟩
  cases us with
  | nil => exact ⟨_, .resizeTold⟩
  | cons => exact ⟨_, .resizeTell⟩

theorem able_stopTell (g : Bool) (us : List ThreadId) :
    (Activity.stop (V := V) g (.tell us)).Able B := by
  intro s t th _
  refine ⟨⟨0, true⟩, ?_⟩
  cases us with
  | nil => exact ⟨_, .stopTold⟩
  | cons => exact ⟨_, .stopTell⟩

/-! ## At rest -/

section
variable {s : State B V} {t : ThreadId} {th : Thread V} {c : Chance} {a : Activity V}
  {turn : Turn B V} {rest : List (Activity V)}

/-- At rest, a thread that stands in the table of steps is asleep. -/
theorem State.AtRest.asleep (h : s.AtRest) (ht : s.threads[t]? = some th)
    (hs : th.stack = a :: rest) (hd : Deed s t th c a turn) :
    s.backlog.isAsleep t = true := by
  by_contra hw
  have := (run_iff (s := s)).2 ⟨by simpa using hw, th, a, rest, turn, ht, hs, hd, rfl⟩
  rw [h t c] at this
  cases this

/-- At rest, whoever stands in the table of steps waits at one end of the
    backlog. -/
theorem State.AtRest.waits_of_deed (h : s.AtRest) (hs : s.Shaped) (ht : s.threads[t]? = some th)
    (hst : th.stack = a :: rest) (hd : Deed s t th c a turn) :
    a = .work .await ∧ t ∈ s.backlog.takers ∨
      (∃ k, a = .submit k .push) ∧ t ∈ s.backlog.givers := by
  have htop := top?_eq_some_iff.2 ⟨th, rest, ht, hst⟩
  rcases isAsleep_iff.1 (h.asleep ht hst hd) with hm | hm
  · exact .inl ⟨Option.some.inj (htop.symm.trans (hs.taker t hm)), hm⟩
  · obtain ⟨k, hk⟩ := hs.giver t hm
    exact .inr ⟨⟨k, Option.some.inj (htop.symm.trans hk)⟩, hm⟩

/-- At rest, whoever could always go on is asleep at one end of the backlog. -/
theorem State.AtRest.waits (h : s.AtRest) (hs : s.Shaped) (ht : s.threads[t]? = some th)
    (hst : th.stack = a :: rest) (ha : a.Able B) :
    a = .work .await ∧ t ∈ s.backlog.takers ∨
      (∃ k, a = .submit k .push) ∧ t ∈ s.backlog.givers := by
  obtain ⟨c, turn, hd⟩ := ha s t th fun p hp => (hs.thread t th ht).worker p (by simp [hst, hp])
  exact h.waits_of_deed hs ht hst hd

end

end WorkerPool
