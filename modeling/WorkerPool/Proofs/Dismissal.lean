/-
  A worker that was told to leave.

  * `steps_laps`: it takes a bounded number of steps of its loop, whatever is in
    the backlog;
  * `State.Reachable.takes_eq_zero`: if it runs a task when it is told, it takes
    no other one;
  * `Move.resize_frame`: no step of a resize moves a task;
  * `State.Founded.dismissal`: a worker that was told to leave takes at most one
    task more, runs what it has taken to its end, and is not heard of again.
-/
import WorkerPool.Proofs.Accounts
import WorkerPool.Proofs.Duty
import WorkerPool.Proofs.ForcedStop

namespace WorkerPool

variable {B V : Type}

/-! ## The last laps -/

/-- How many steps of its loop a worker that was told to leave can have before
    it, at most. -/
def Activity.toil : Activity V → Nat
  | work .hook | work .fetch => 13
  | work .mark => 12
  | work (.clock .settle) => 11
  | work (.shift .settle _) => 10
  | work (.report .settle _) => 9
  | work .await => 8
  | work (.awaited _) => 7
  | work (.clock (.resume _)) => 6
  | work (.shift (.resume _) _) => 5
  | work (.report (.resume _) _) => 4
  | work (.fetched _) | work (.unmark _) => 3
  | work .check => 2
  | work .leave => 1
  | _ => 0

/-- One for an action that is a step of the loop of this worker. -/
def State.laps (v : ThreadId) (s : State B V) : Action B V → Nat
  | .run t _ => if t = v then ((s.top? t).map Activity.works).getD 0 else 0
  | _ => 0

section
variable {s s' : State B V} {t v : ThreadId} {th : Thread V} {c : Chance} {a : Activity V}
  {turn : Turn B V} {k : TaskId} {i : Nat} {f : Activity V → Nat} {bs : List (Action B V)}

/-- What only loops weigh, weighs nothing where there is none. -/
theorem sum_map_of_work_not_mem (hf : ∀ a, (∀ q, a ≠ .work q) → f a = 0) {l : List (Activity V)}
    (hl : ∀ q, .work q ∉ l) : (l.map f).sum = 0 := by
  refine List.sum_eq_zero_iff_forall_eq_nat.2 ?_
  intro n hn
  obtain ⟨a, ha, rfl⟩ := List.mem_map.1 hn
  exact hf a fun q hq => hl q (hq ▸ ha)

/-- What only loops weigh, a worker that runs a task has where it looks at its
    orders. -/
theorem OnDuty.tally_eq (h : OnDuty th.stack) {p : TaskPoint V} (ha : .task k i p ∈ th.stack)
    (hf : ∀ a, (∀ q, a ≠ .work q) → f a = 0) : th.tally f = f (.work .check) := by
  obtain ⟨l, k, i, p, hl, hst⟩ := h.busy ha
  have htask : f (.task k i p) = 0 := hf _ nofun
  rw [Thread.tally, hst]
  simp [sum_map_of_work_not_mem hf hl, htask]

theorem toil_of_ne_work (a : Activity V) (h : ∀ q, a ≠ .work q) : a.toil = 0 := by
  cases a with
  | work q => exact absurd rfl (h q)
  | _ => rfl

theorem takes_of_ne_work (a : Activity V) (h : ∀ q, a ≠ .work q) : a.takes = 0 := by
  cases a with
  | work q => exact absurd rfl (h q)
  | _ => rfl

theorem toil_le (p : WorkPoint) : (Activity.work (V := V) p).toil ≤ 13 := by
  unfold Activity.toil
  split <;> omega

theorem OnDuty.toil_le (h : OnDuty th.stack) : th.tally Activity.toil ≤ 13 := by
  by_cases hbusy : ∃ k i p, .task k i p ∈ th.stack
  · obtain ⟨k, i, p, ha⟩ := hbusy
    rw [h.tally_eq ha toil_of_ne_work]
    exact WorkerPool.toil_le .check
  · unfold Thread.tally
    generalize th.stack = st at h hbusy
    cases h with
    | ended | leaving => exact Nat.zero_le _
    | looping p => simpa using WorkerPool.toil_le p
    | @running l k i p => exact absurd ⟨k, i, p, by simp⟩ hbusy

/-- A worker that was told to leave gets closer to it with every step of its
    loop. -/
theorem Deed.toil (hd : Deed s t th c a turn) (htold : ∀ b, th.badge = some b → b.told = true) :
    (turn.next.map Activity.toil).sum + a.works ≤ a.toil := by
  cases hd with
  | check hb =>
    rw [htold _ hb]
    exact Nat.le_refl _
  | awaitSleep hb _ _ hnot =>
    rw [htold _ hb] at hnot
    cases hnot
  | @clock b sh => cases sh <;> exact Nat.le_of_ble_eq_true rfl
  | @shift b sh now m r => cases sh <;> cases r <;> exact Nat.le_of_ble_eq_true rfl
  | @report b sh h => cases sh <;> exact Nat.le_of_ble_eq_true rfl
  | @resizeGrow n | @spawn n =>
    simp only [List.map_cons, List.map_nil, List.sum_cons, List.sum_nil]
    exact Nat.le_refl 0
  | _ => exact Nat.le_of_ble_eq_true rfl

theorem Move.laps {x : Action B V} (hm : Move s x s') (hv : s.IsTold v) :
    s'.load Activity.toil v + s.laps v x ≤ s.load Activity.toil v := by
  obtain ⟨b, hb, htold⟩ := hv
  obtain ⟨w, hw, -⟩ := isSome_badge?_iff.1 (Option.isSome_of_eq_some hb)
  refine hm.draws hw ?_ ?_ (fun ho => by cases ho <;> rfl) (fun _ _ _ => Nat.le_refl 0)
    (Nat.le_refl 13) (Nat.le_of_ble_eq_true rfl)
  · rintro c a turn rfl htop hd
    simp only [State.laps, htop, if_true, Option.map_some, Option.getD_some]
    refine hd.toil fun b' hb' => ?_
    rw [badge?_eq, hw, Option.bind_some, hb'] at hb
    cases hb
    exact htold
  · intro hx
    cases x with
    | run t c =>
      refine if_neg ?_
      rintro rfl
      exact hx c rfl
    | _ => rfl

/-- **A worker that was told to leave does not stay long**, however many tasks
    are in the backlog. -/
theorem steps_laps (hr : s.Reachable) (hv : s.IsTold v) (hbs : s.steps bs = some s') :
    s.total (State.laps v) bs ≤ 13 := by
  have htotal := steps_total (P := fun s : State B V => s.IsTold v) (f := State.laps v)
    (g := fun s => s.load Activity.toil v)
    (fun _ _ _ h hm => ⟨hm.isTold h, hm.laps h⟩) hv hbs
  obtain ⟨b, hb, -⟩ := hv
  obtain ⟨w, hw, hbadge⟩ := isSome_badge?_iff.1 (Option.isSome_of_eq_some hb)
  have hle := (hr.onDuty hw hbadge).toil_le
  rw [load_eq hw] at htotal
  omega

/-- **A worker that was told to leave while it ran a task takes no other one.** -/
theorem State.Reachable.takes_eq_zero (hr : s.Reachable) (hv : s.IsTold v) (hbusy : s.IsBusy v)
    (hbs : s.steps bs = some s') : (s.chronicle bs).countP (Event.isTakenBy v) = 0 := by
  have hquota := steps_quota hv hbs
  obtain ⟨b, hb, -⟩ := hv
  obtain ⟨w, hw, k, i, p, ha⟩ := hbusy
  have hbadge : w.badge.isSome = true := by
    rw [badge?_eq, hw, Option.bind_some] at hb
    exact Option.isSome_of_eq_some hb
  have hzero : w.tally Activity.takes = 0 := (hr.onDuty hw hbadge).tally_eq ha takes_of_ne_work
  rw [load_eq hw, hzero] at hquota
  omega

theorem State.HasEnded.steps (h : s.HasEnded v) (hbs : s.steps bs = some s') :
    s'.HasEnded v ∧ ∀ x ∈ bs, x.actor? ≠ some v := by
  induction bs generalizing s with
  | nil =>
    cases hbs
    exact ⟨h, nofun⟩
  | cons x bs ih =>
    obtain ⟨s₁, hm, hbs⟩ := steps_cons.1 hbs
    obtain ⟨hend, hrest⟩ := ih (hm.hasEnded h) hbs
    refine ⟨hend, ?_⟩
    simp only [List.forall_mem_cons]
    exact ⟨hm.actor_ne_of_hasEnded h, hrest⟩

/-! ## Resizes -/

/-- A resize moves no task. -/
theorem Deed.resize_frame {n : Nat} {p : ResizePoint} (hd : Deed s t th c (.resize n p) turn) :
    (turn.state.backlog.tasks = s.backlog.tasks ∧ turn.state.jobs = s.jobs ∧
      turn.state.taken = s.taken ∧ turn.state.counters = s.counters) ∧
    turn.next.flatMap (Activity.hand t) = [] := by
  cases hd <;> exact ⟨⟨rfl, rfl, rfl, rfl⟩, rfl⟩

/-- **No step of a resize drops, discards or reorders a task**, in the backlog or
    anywhere else. -/
theorem Move.resize_frame {n : Nat} {p : ResizePoint} (hm : Move s (.run t c) s')
    (ht : s.top? t = some (.resize n p)) :
    s'.backlog.tasks = s.backlog.tasks ∧ s'.ledger = s.ledger ∧ s'.jobs = s.jobs ∧
      s'.counters = s.counters ∧ s.events (.run t c) = [] := by
  cases hm with
  | @run _ _ th a rest turn _ hth hs hd =>
    cases (top?_eq_some_iff.2 ⟨th, rest, hth, hs⟩).symm.trans ht
    obtain ⟨⟨htasks, hjobs, htaken, hcount⟩, hnext⟩ := hd.resize_frame
    obtain ⟨C, hC, hC'⟩ := hd.hands hth hs
    rw [hnext] at hC'
    refine ⟨htasks, ?_, hjobs, hcount, ?_⟩
    · have hhands := hC'.trans hC.symm
      rw [State.ledger, State.ledger, hhands]
      show State.ledgerWith turn.state _ = _
      simp only [State.ledgerWith, htasks, hjobs, htaken]
    · simp only [State.events, ht, State.doing]

/-! ## The worker's end -/

/-- **A worker that was told to leave takes at most one task more and abandons
    none.**  Let it be told by a resize or by a forced stop, wherever in its loop
    it is.  From then on it takes at most one task out of the backlog, and none if
    it runs one; it takes a bounded number of steps of its loop, however many
    tasks there are.  What it has ever taken it runs, or has run.  At rest it has
    ended, with all that it took finished, or it is in the body of a task or in
    its start hook; and when it has ended it never acts again.  A resize itself
    leaves all tasks where they are. -/
theorem State.Founded.dismissal {s₀ s : State B V} (h₀ : s₀.Founded) {as : List (Action B V)}
    (has : s₀.steps as = some s) :
    (∀ v, s.IsTold v → ∀ bs s', s.steps bs = some s' →
      (s.chronicle bs).countP (Event.isTakenBy v) ≤ 1 ∧
      (s.IsBusy v → (s.chronicle bs).countP (Event.isTakenBy v) = 0) ∧
      s.total (State.laps v) bs ≤ 13 ∧
      (∀ k, .removed k (.worker v) ∈ s₀.chronicle (as ++ bs) →
        s'.places k = {.running v} ∨ s'.places k = {.finished}) ∧
      (∀ k, .removed k (.last v) ∈ s₀.chronicle (as ++ bs) → s'.life = .dropped) ∧
      (s'.AtRest → s'.HasEnded v ∨ s'.IsInTask v ∨ s'.top? v = some (.work .hook)) ∧
      (s'.HasEnded v →
        (∀ k, .removed k (.worker v) ∈ s₀.chronicle (as ++ bs) → s'.places k = {.finished}) ∧
        ∀ cs s'', s'.steps cs = some s'' → s''.HasEnded v ∧ ∀ x ∈ cs, x.actor? ≠ some v)) ∧
    (∀ t c n p s', s.top? t = some (.resize n p) → s.run t c = some s' →
      s'.backlog.tasks = s.backlog.tasks ∧ s'.ledger = s.ledger ∧ s'.jobs = s.jobs ∧
        s'.counters = s.counters ∧ s.events (.run t c) = []) := by
  have hr : s.Reachable := (Reachable.of_founded h₀).run has
  constructor
  · intro v hv bs s' hbs
    have hr' : s'.Reachable := hr.run hbs
    have hall : s₀.steps (as ++ bs) = some s' := steps_append.2 ⟨s, has, hbs⟩
    have htold : s'.IsTold v := steps_keep (fun _ _ _ h hm => hm.isTold h) hv hbs
    obtain ⟨b, hb, -⟩ := id htold
    refine ⟨hr.takes_le_one hv hbs, fun hbusy => hr.takes_eq_zero hv hbusy hbs,
      steps_laps hr hv hbs, ?_, ?_, ?_, ?_⟩
    · intro k hk
      have hlt : k < s'.jobs.length := h₀.own_lt hall hk rfl
      obtain ⟨g, hg⟩ := hr'.ledgered.exists hlt
      rw [hr'.ledgered.places_eq hg]
      have hplace := (h₀.story hall hg).log.place_of_worker (mem_own.2 ⟨hk, rfl, rfl⟩)
      rcases hplace with hplace | hplace
      · exact .inl (by rw [hplace])
      · exact .inr (by rw [hplace])
    · intro k hk
      exact h₀.dropped_of_removed hall hk
    · intro hrest
      rcases hrest.sent_away hr' (Option.isSome_of_eq_some hb) (.inr htold) with h | h | h
      exacts [.inl h, .inr (.inr h), .inr (.inl h)]
    · intro hend
      exact ⟨fun k hk => (h₀.finished_of_worker hall hend hk).1, fun cs s'' hcs => hend.steps hcs⟩
  · intro t c n p s' ht hrun
    exact (step_iff.1 hrun : Move s (.run t c) s').resize_frame ht

end

/-- A run in which a worker runs a task, another one is in the backlog, and a
    resize has told the worker to leave. -/
def shrinkingRun : List (Action Unit Unit) :=
  [paces 0 5, [.call 0 (.submit ())], paces 0 3, paces 1 3, [.call 0 (.submit ())], paces 0 3,
    [.call 0 (.resize 0)], paces 0 2].flatten

/-- The rest of it: the resize returns, and the worker ends its task and leaves. -/
def partingRun : List (Action Unit Unit) :=
  [paces 0 3, [.finish 1 (.returned ())], paces 1 5].flatten

theorem dismissal_partingRun : ∃ s s' : State Unit Unit,
    (State.founding "pool" false none 1 1).steps shrinkingRun = some s ∧ s.IsTold 1 ∧ s.IsBusy 1 ∧
    s.steps partingRun = some s' ∧ s.backlog.tasks = [1] ∧ s'.backlog.tasks = [1] ∧
    (s.chronicle partingRun).countP (Event.isTakenBy 1) = 0 ∧
    s.total (State.laps 1) partingRun ≤ 13 ∧ s'.HasEnded 1 ∧ s'.places 0 = {.finished} ∧
    ∃ s₁, s.run 0 ⟨0, true⟩ = some s₁ ∧ s₁.ledger = s.ledger := by
  have h₀ : (State.founding "pool" false none 1 1 : State Unit Unit).Founded :=
    State.founded_founding
  have hrun : ((State.founding "pool" false none 1 1).steps shrinkingRun).isSome = true := rfl
  obtain ⟨s, hs⟩ := Option.isSome_iff_exists.1 hrun
  have hrun' : (s.steps partingRun).isSome = true := by cases hs; rfl
  obtain ⟨s', hs'⟩ := Option.isSome_iff_exists.1 hrun'
  have hrun₁ : (s.run 0 ⟨0, true⟩).isSome = true := by cases hs; rfl
  obtain ⟨s₁, hs₁⟩ := Option.isSome_iff_exists.1 hrun₁
  have htold : s.IsTold 1 := by cases hs; exact ⟨_, rfl, rfl⟩
  have hbusy : s.IsBusy 1 := by
    cases hs
    exact ⟨_, rfl, _, _, _, List.mem_cons_self⟩
  have hend : s'.HasEnded 1 := by cases hs; cases hs'; exact ⟨_, rfl, rfl⟩
  have htop : s.top? 0 = some (.resize 0 (.tell [] 1)) := by cases hs; rfl
  have hrem : .removed 0 (.worker 1) ∈
      (State.founding "pool" false none 1 1).chronicle (shrinkingRun ++ partingRun) :=
    List.mem_cons_self
  obtain ⟨hworker, hresize⟩ := h₀.dismissal hs
  obtain ⟨-, hnone, hlaps, -, -, -, hended⟩ := hworker 1 htold partingRun s' hs'
  exact ⟨s, s', hs, htold, hbusy, hs', by cases hs; rfl, by cases hs; cases hs'; rfl, hnone hbusy,
    hlaps, hend, (hended hend).1 0 hrem, s₁, hs₁, (hresize 0 _ 0 _ s₁ htop hs₁).2.1⟩

end WorkerPool
