/-
  The accounts of a pool.

  * `returned`, `panicked`, `swept`, `skipped`, `withdrawn`, `lost` are the
    tasks that left the backlog and came to an end, each in its way, `refused`
    those that never got into it;
  * `count_closed`: a task that is at its end is in exactly one of
    these lists, once;
  * `State.Founded.accounts`: at rest, the submissions that were counted are the
    tasks in these lists but the refused, and those that are still there; and
    each counter is the length of the lists it stands for.
-/
import WorkerPool.Proofs.Booking
import WorkerPool.Proofs.Census

namespace WorkerPool

variable {B V : Type}

/-! ## Ends -/

namespace Event

/-- A task is dropped. -/
@[simp] def isDrop : Event V → Bool
  | dropped _ => true
  | _ => false

/-- A task goes down with the pool. -/
@[simp] def isLoss : Event V → Bool
  | removed _ (.last _) => true
  | _ => false

end Event

section
variable {k : TaskId} {e : Event V} {es es' : List (Event V)}

theorem cancelledFirst_cons : CancelledFirst k (e :: es) ↔
    (e.isOwn = false ∧ e.task = k ∧ k ∈ tasksOf Event.isBegin es) ∨ CancelledFirst k es := by
  constructor
  · rintro ⟨es₁, es₂, heq, hc⟩
    cases es₁ with
    | nil => cases hc
    | cons e₁ es₁ =>
      cases heq
      rcases List.mem_cons.1 hc with rfl | hc
      · exact .inl ⟨rfl, rfl, mem_tasksOf.2 ⟨.begun k, by simp, rfl, rfl⟩⟩
      · exact .inr ⟨es₁, es₂, rfl, hc⟩
  · rintro (⟨ho, rfl, hk⟩ | ⟨es₁, es₂, rfl, hc⟩)
    · obtain ⟨e', he', hb, htask⟩ := mem_tasksOf.1 hk
      obtain ⟨es₁, es₂, rfl⟩ := List.append_of_mem he'
      cases e <;> cases ho
      cases e' <;> cases hb
      cases htask
      exact ⟨_ :: es₁, es₂, rfl, List.mem_cons_self⟩
    · exact ⟨e :: es₁, es₂, rfl, List.mem_cons_of_mem _ hc⟩

/-- Whether a cancellation came first is found by going through the events. -/
instance CancelledFirst.decide (k : TaskId) : ∀ es : List (Event V), Decidable (CancelledFirst k es)
  | [] => isFalse (not_cancelledFirst List.not_mem_nil)
  | _ :: es =>
    have := CancelledFirst.decide k es
    decidable_of_iff _ cancelledFirst_cons.symm

/-- The tasks whose bodies returned. -/
def returned (es : List (Event V)) : List TaskId := tasksOf Event.isReturn es

/-- The tasks whose bodies panicked. -/
def panicked (es : List (Event V)) : List TaskId := tasksOf Event.isPanic es

/-- The tasks that the passes have thrown away. -/
def swept (es : List (Event V)) : List TaskId := tasksOf Event.isSweep es

/-- The tasks that were begun after their cancellation was asked for. -/
def skipped (es : List (Event V)) : List TaskId :=
  (tasksOf Event.isBegin es).filter fun k => CancelledFirst k es

/-- The tasks that a caller took out and dropped. -/
def withdrawn (es : List (Event V)) : List TaskId :=
  (tasksOf Event.isPop es).filter fun k => k ∈ tasksOf Event.isDrop es

/-- The tasks that went down with the pool. -/
def lost (es : List (Event V)) : List TaskId := tasksOf Event.isLoss es

/-- The tasks that were dropped without having been in the backlog. -/
def refused (es : List (Event V)) : List TaskId :=
  (tasksOf Event.isDrop es).filter fun k => k ∉ departures es

/-- The tasks that left the backlog and came to an end. -/
def settled (es : List (Event V)) : List TaskId :=
  returned es ++ panicked es ++ swept es ++ skipped es ++ withdrawn es ++ lost es

theorem count_filter {p : TaskId → Bool} {l : List TaskId} :
    (l.filter p).count k = if p k then l.count k else 0 := by
  cases hp : p k with
  | true => exact List.count_filter hp
  | false =>
    refine List.count_eq_zero.2 fun hk => ?_
    rw [(List.mem_filter.1 hk).2] at hp
    cases hp

/-- How often a task is among those that came to an end is told by what has
    happened to it. -/
theorem count_settled : (settled es).count k =
    (own k es).countP Event.isReturn + (own k es).countP Event.isPanic +
      (own k es).countP Event.isSweep +
      (if CancelledFirst k es then (own k es).countP Event.isBegin else 0) +
      (if 0 < (own k es).countP Event.isDrop then (own k es).countP Event.isPop else 0) +
      (own k es).countP Event.isLoss := by
  simp only [settled, returned, panicked, swept, skipped, withdrawn, lost, List.count_append,
    count_filter, decide_eq_true_eq, ← mem_tasksOf_iff (p := Event.isDrop) fun _ => rfl]
  rw [count_tasksOf fun _ => rfl, count_tasksOf fun _ => rfl, count_tasksOf fun _ => rfl,
    count_tasksOf fun _ => rfl, count_tasksOf fun _ => rfl, count_tasksOf fun _ => rfl]

theorem count_refused : (refused es).count k =
    if (own k es).countP Event.isRemoval = 0 then (own k es).countP Event.isDrop else 0 := by
  have hmem : k ∉ departures es ↔ (own k es).countP Event.isRemoval = 0 := by
    rw [departures, mem_tasksOf_iff fun _ => rfl, Nat.not_lt, Nat.le_zero]
  simp only [refused, count_filter, decide_eq_true_eq, hmem]
  rw [count_tasksOf fun _ => rfl]

/-! ## A task is in one list -/

variable {t : ThreadId} {g : Stage V}

/-- A task that is at its end is among those that came to it or among the
    refused, once; no other task is, if it can stay where it is. -/
theorem count_closed (h : g.Log k (own k es)) (hc : CancelledFirst k es ↔ g.IsSkipped)
    (hg : g.rests = true) :
    (settled es).count k + (refused es).count k = g.isClosed.toNat := by
  rw [count_settled, count_refused]
  generalize own k es = l at h
  have hno (hg : ¬ g.IsSkipped) : ¬ CancelledFirst k es := fun h => hg (hc.1 h)
  cases h with
  | carried | queued => simp
  | held u => simp [List.countP_cons]
  | inBody h =>
    rcases h with rfl | ⟨u, rfl⟩ <;> simp [List.countP_cons, hno id]
  | finished h =>
    cases h with
    | skipped h =>
      have hyes : CancelledFirst k es := hc.2 rfl
      rcases h with rfl | ⟨u, rfl⟩ <;> simp [List.countP_cons, hyes]
    | ended o h =>
      have hfirst := hno o.result_ne.1
      rcases h with rfl | ⟨u, rfl⟩ <;> cases o <;> simp [List.countP_cons, hfirst]
  | refused => simp [List.countP_cons]
  | dropped r hr =>
    cases r with
    | worker t => exact absurd rfl (hr t)
    | _ => simp [List.countP_cons]
  | _ => simp at hg

/-- A task that left the backlog or was refused is neither on its way into it
    nor in it. -/
theorem count_gone (h : g.Log k (own k es)) (hg : g.rests = true) :
    (departures es).count k + (refused es).count k = g.isGone.toNat := by
  rw [departures, count_tasksOf fun _ => rfl, count_refused]
  generalize own k es = l at h
  have fetched {t : ThreadId} {l l' : List (Event V)} (h : Fetched k t l)
      (hl' : l'.countP Event.isRemoval = 0) : (l ++ l').countP Event.isRemoval = 1 := by
    rcases h with rfl | ⟨u, rfl⟩ <;> simp [List.countP_cons, hl']
  cases h with
  | carried | queued => simp
  | held u => simp
  | inBody h => simp [fetched h]
  | finished h =>
    cases h with
    | skipped h | ended o h => simp [fetched h, List.append_assoc]
  | refused => simp [List.countP_cons]
  | dropped r hr => simp [List.countP_cons]
  | _ => simp at hg

/-- A task that was begun was called, or it was skipped. -/
theorem count_begun (h : g.Log k (own k es)) (hc : CancelledFirst k es ↔ g.IsSkipped) :
    (tasksOf Event.isBegin es).count k = (calls es).count k + (skipped es).count k := by
  simp only [calls, skipped, count_filter, decide_eq_true_eq]
  rw [count_tasksOf fun _ => rfl, count_tasksOf fun _ => rfl]
  generalize own k es = l at h
  have hno (hg : ¬ g.IsSkipped) : ¬ CancelledFirst k es := fun h => hg (hc.1 h)
  cases h with
  | carried | queued | refused => simp
  | held u | dropping r | dropped r => simp
  | fetched h => rcases h with rfl | ⟨u, rfl⟩ <;> simp
  | skipping h =>
    have hyes : CancelledFirst k es := hc.2 trivial
    rcases h with rfl | ⟨u, rfl⟩ <;> simp [List.countP_cons, hyes]
  | inBody h | tallying o h =>
    rcases h with rfl | ⟨u, rfl⟩ <;> simp [List.countP_cons, hno id]
  | settling h | finished h =>
    cases h with
    | skipped h =>
      have hyes : CancelledFirst k es := hc.2 rfl
      rcases h with rfl | ⟨u, rfl⟩ <;> simp [List.countP_cons, hyes]
    | ended o h =>
      have hfirst := hno o.result_ne.1
      rcases h with rfl | ⟨u, rfl⟩ <;> simp [List.countP_cons, hfirst]

end

/-! ## The end of a pool -/

section
variable {s s' : State B V} {t : ThreadId} {k : TaskId} {as : List (Action B V)}

/-- A pool that is dropped stays so. -/
theorem Move.dropped {x : Action B V} (hm : Move s x s') (ha : s.Alive) (h : s.life = .dropped) :
    s'.life = .dropped := by
  cases hm with
  | call _ _ _ ho =>
    show State.life _ = _
    cases ho <;> first | exact h | rfl
  | @run t c th a rest turn hw ht hs hd =>
    show turn.state.life = _
    cases hd with
    | @build n =>
      have hpos := tally_pos (f := Activity.builds) ht (a := .build n) (Thread.mem_of_stack hs)
        Nat.one_pos
      rw [ha.building, if_neg (by rw [h]; nofun)] at hpos
      cases hpos
    | reserveOverflow | buildRefused | buildPanicked => rfl
    | clear hp | clearEnd hp | purge hp | purgeEnd hp | sweep hp | sweepEnd hp =>
      cases hp <;> exact h
    | _ => exact h
  | _ => exact h

/-- Whoever gives back the last share finds the pool dropped. -/
theorem State.Alive.dropped_of_last (ha : s.Alive) {a : Activity V} (ht : s.top? t = some a)
    (hw : a = .work .leave ∨ ∃ r, a = .teardown r) (hs : s.sharers ≤ 1) : s.life = .dropped := by
  obtain ⟨th, rest, hth, hst⟩ := top?_eq_some_iff.1 ht
  rcases hw with rfl | ⟨r, rfl⟩
  · have hpos := tally_pos (f := Activity.works) hth (a := .work .leave)
      (Thread.mem_of_stack hst) Nat.one_pos
    have hshare := ha.share
    by_contra hl
    rw [State.ownShare, if_neg hl] at hshare
    omega
  · exact ha.dropped (tally_pos hth (a := .teardown r) (Thread.mem_of_stack hst) Nat.one_pos)

/-- A task goes down with the pool after the pool was dropped. -/
theorem State.Founded.dropped_of_removed {s₀ : State B V} (h₀ : s₀.Founded)
    (has : s₀.steps as = some s) (hk : .removed k (.last t) ∈ s₀.chronicle as) :
    s.life = .dropped := by
  refine h₀.run_induct (P := fun s es => ∀ k t, .removed k (.last t) ∈ es → s.life = .dropped)
    has nofun ?_ k t hk
  intro s₁ s₂ x es hr ih hm k t hk
  refine hm.dropped hr.alive ?_
  rcases List.mem_append.1 hk with hk | hk
  · exact ih k t hk
  · rcases yields_of_mem_events hk with ⟨u, c, a, rfl, ha, hy⟩ | ⟨_, _, _, _, -, -, he⟩
    · cases hy with
      | leave hs => exact hr.alive.dropped_of_last ha (.inl rfl) hs
      | teardown hs => exact hr.alive.dropped_of_last ha (.inr ⟨_, rfl⟩) hs
    · cases he

/-- As long as the pool is there, no task goes down with it. -/
theorem State.Founded.lost_eq_nil {s₀ : State B V} (h₀ : s₀.Founded) (has : s₀.steps as = some s)
    (hl : s.life ≠ .dropped) : lost (s₀.chronicle as) = [] := by
  rw [List.eq_nil_iff_forall_not_mem]
  intro k hk
  obtain ⟨e, he, hp, rfl⟩ := mem_tasksOf.1 hk
  cases e with
  | removed k r =>
    cases r with
    | last t => exact hl (h₀.dropped_of_removed has he)
    | _ => cases hp
  | _ => cases hp

/-! ## The accounts -/

theorem restless_pushes : Restless B (Activity.pushes (V := V)) := by
  intro x hx
  cases x with
  | submit k p => exact ⟨id, able_submit _⟩
  | trySubmit k p => exact ⟨id, able_trySubmit _⟩
  | _ => cases hx

theorem restless_discards : Restless B (Activity.discards (V := V)) := by
  intro x hx
  cases x with
  | task k w p =>
    cases p with
    | skip => exact ⟨id, fun s t th _ => ⟨⟨0, true⟩, _, .skip⟩⟩
    | _ => cases hx
  | clear p => exact ⟨id, able_clear _⟩
  | stop g p =>
    cases p with
    | purge p => exact ⟨id, able_purge _ _⟩
    | sweep p n => exact ⟨id, able_sweep _ _ _⟩
    | _ => cases hx
  | _ => cases hx

theorem restless_returns : Restless B (Activity.returns (V := V)) := by
  intro x hx
  unfold Activity.returns at hx
  split at hx
  · exact ⟨id, fun s t th _ => ⟨⟨0, true⟩, _, .tallyReturned⟩⟩
  · cases hx

theorem restless_panics : Restless B (Activity.panics (V := V)) := by
  intro x hx
  unfold Activity.panics at hx
  split at hx
  · exact ⟨id, fun s t th _ => ⟨⟨0, true⟩, _, .tallyPanicked⟩⟩
  · cases hx

/-- The lists are about tasks of the pool. -/
theorem State.Founded.lt_of_mem_tasksOf {s₀ : State B V} (h₀ : s₀.Founded)
    (has : s₀.steps as = some s) {p : Event V → Bool} (hp : ∀ k, p (.cancelled k) = false)
    (hk : k ∈ tasksOf p (s₀.chronicle as)) : k < s.jobs.length := by
  by_contra hlt
  rw [mem_tasksOf_iff hp, h₀.own_eq_nil has (Nat.not_lt.1 hlt)] at hk
  cases hk

theorem State.Founded.lt_of_mem_settled {s₀ : State B V} (h₀ : s₀.Founded)
    (has : s₀.steps as = some s)
    (hk : k ∈ settled (s₀.chronicle as) ++ refused (s₀.chronicle as)) : k < s.jobs.length := by
  simp only [settled, List.mem_append, or_assoc] at hk
  rcases hk with hk | hk | hk | hk | hk | hk | hk
  · exact h₀.lt_of_mem_tasksOf has (fun _ => rfl) hk
  · exact h₀.lt_of_mem_tasksOf has (fun _ => rfl) hk
  · exact h₀.lt_of_mem_tasksOf has (fun _ => rfl) hk
  · exact h₀.lt_of_mem_tasksOf has (fun _ => rfl) (List.mem_filter.1 hk).1
  · exact h₀.lt_of_mem_tasksOf has (fun _ => rfl) (List.mem_filter.1 hk).1
  · exact h₀.lt_of_mem_tasksOf has (fun _ => rfl) hk
  · exact h₀.lt_of_mem_tasksOf has (fun _ => rfl) (List.mem_filter.1 hk).1

/-- As many tasks are at their end as came to it or were refused. -/
theorem State.Founded.census_closed {s₀ : State B V} (h₀ : s₀.Founded)
    (has : s₀.steps as = some s) (hrest : s.AtRest) :
    (settled (s₀.chronicle as)).length + (refused (s₀.chronicle as)).length =
      s.census Stage.isClosed := by
  have hr : s.Reachable := (Reachable.of_founded h₀).run has
  rw [← List.length_append]
  refine hr.ledgered.length_eq (fun k => h₀.lt_of_mem_settled has) fun k g hg => ?_
  rw [List.count_append]
  exact count_closed (h₀.story has hg).log (h₀.cancelledFirst_iff has hg) (hrest.rests hr hg)

/-- As many tasks are out of the backlog for good as left it or were refused. -/
theorem State.Founded.census_gone {s₀ : State B V} (h₀ : s₀.Founded)
    (has : s₀.steps as = some s) (hrest : s.AtRest) :
    (departures (s₀.chronicle as)).length + (refused (s₀.chronicle as)).length =
      s.census Stage.isGone := by
  have hr : s.Reachable := (Reachable.of_founded h₀).run has
  rw [← List.length_append]
  refine hr.ledgered.length_eq (fun k hk => ?_) fun k g hg => ?_
  · rcases List.mem_append.1 hk with hk | hk
    · exact h₀.lt_of_mem_tasksOf has (fun _ => rfl) hk
    · exact h₀.lt_of_mem_settled has (List.mem_append_right _ hk)
  · rw [List.count_append]
    exact count_gone (h₀.story has hg).log (hrest.rests hr hg)

/-- The tasks that were begun are those that were called and those that were
    skipped. -/
theorem State.Founded.begun_perm {s₀ : State B V} (h₀ : s₀.Founded) (has : s₀.steps as = some s) :
    (tasksOf Event.isBegin (s₀.chronicle as)).Perm
      (calls (s₀.chronicle as) ++ skipped (s₀.chronicle as)) := by
  refine List.perm_iff_count.2 fun k => ?_
  rw [List.count_append]
  by_cases hk : k < s.jobs.length
  · obtain ⟨g, hg⟩ := ((Reachable.of_founded h₀).run has).ledgered.exists hk
    exact count_begun (h₀.story has hg).log (h₀.cancelledFirst_iff has hg)
  · have hnone {p : Event V → Bool} (hp : ∀ k, p (.cancelled k) = false) :
        (tasksOf p (s₀.chronicle as)).count k = 0 :=
      List.count_eq_zero.2 fun hm => hk (h₀.lt_of_mem_tasksOf has hp hm)
    rw [calls, skipped, count_filter, hnone fun _ => rfl, hnone fun _ => rfl]
    simp

theorem State.Founded.settled_nodup {s₀ : State B V} (h₀ : s₀.Founded)
    (has : s₀.steps as = some s) (hrest : s.AtRest) : (settled (s₀.chronicle as)).Nodup := by
  have hr : s.Reachable := (Reachable.of_founded h₀).run has
  refine List.nodup_iff_count_le_one.2 fun k => ?_
  by_cases hk : k ∈ settled (s₀.chronicle as)
  · obtain ⟨g, hg⟩ := hr.ledgered.exists (h₀.lt_of_mem_settled has (List.mem_append_left _ hk))
    have hone := count_closed (h₀.story has hg).log (h₀.cancelledFirst_iff has hg)
      (hrest.rests hr hg)
    have := Bool.toNat_le g.isClosed
    omega
  · rw [List.count_eq_zero.2 hk]
    exact Nat.zero_le 1

end

/-- A run after which one body has returned and one is run, one task is in the
    backlog, one is on its way into it, one is held, and one each was dropped by
    a caller, thrown away and refused. -/
def busyRun : List (Action Unit Unit) :=
  [paces 0 5, [.call 0 (.submit ())], paces 0 3, paces 1 3, [.finish 1 (.returned ())], paces 1 2,
    [.call 0 (.submit ())], paces 0 3, [.call 0 .pop], paces 0 2,
    [.call 0 (.submit ())], paces 0 3, [.call 0 .pop], paces 0 2, [.call 0 (.dropTaken 2)],
    paces 0 2, [.call 0 (.submit ())], paces 0 3, [.call 0 .clear], paces 0 5,
    [.call 0 (.submit ())], paces 0 3, paces 1 4, [.call 0 (.submit ())], paces 0 3,
    [.call 0 (.trySubmit ())], paces 0 5, [.arrive, .call 2 (.submit ())], paces 2 2].flatten

end WorkerPool
