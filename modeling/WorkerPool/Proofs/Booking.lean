/-
  What the counters count.

  Each counter is changed at a point of its own, after or before that which it
  counts.  What has happened and is not counted yet, and what is counted and
  has not happened yet, is in the hands of a thread.

  * the weights say how much of it an activity holds;
  * `State.Booked`: together with what the threads hold, the counters say how
    many tasks were appended to the backlog, how many bodies returned or
    panicked, and how many tasks were thrown away or skipped;
  * `State.Founded.booked`: so it is after every run.
-/
import WorkerPool.Proofs.Arrivals

namespace WorkerPool

variable {B V : Type}

/-! ## Kinds of events -/

namespace Event

/-- A body ends by returning. -/
@[simp] def isReturn : Event V → Bool
  | ended _ (.returned _) => true
  | _ => false

/-- A body ends by a panic. -/
@[simp] def isPanic : Event V → Bool
  | ended _ (.panicked _) => true
  | _ => false

/-- Someone begins to run a task. -/
@[simp] def isBegin : Event V → Bool
  | begun _ => true
  | _ => false

/-- A pass that clears the backlog throws a task away. -/
@[simp] def isSweep : Event V → Bool
  | removed _ (.clearing _) | removed _ (.stop ..) => true
  | _ => false

end Event

/-! ## Weights -/

/-- One for a submission that is counted and has not got its task into the
    backlog. -/
def Activity.pushes : Activity V → Nat
  | submit _ .push | trySubmit _ .push | trySubmit _ .uncount => 1
  | _ => 0

/-- One for a body that returned and is not counted yet. -/
def Activity.returns : Activity V → Nat
  | task _ _ (.tally (.returned _)) => 1
  | _ => 0

/-- One for a body that panicked and is not counted yet. -/
def Activity.panics : Activity V → Nat
  | task _ _ (.tally (.panicked _)) => 1
  | _ => 0

/-- How many tasks a pass has thrown away without having counted them. -/
def Clearing.uncounted : Clearing → Nat
  | drain => 0
  | wake ks => ks.length
  | drop _ n | count n => n

/-- How many tasks that were thrown away or skipped are not counted yet. -/
def Activity.discards : Activity V → Nat
  | task _ _ .skip => 1
  | clear p | stop _ (.purge p) | stop _ (.sweep p _) => p.uncounted
  | _ => 0

/-- The counters agree with the arrivals and with the chronicle but for what
    the threads hold. -/
structure State.Booked (s : State B V) (arrived : Nat) (es : List (Event V)) : Prop where
  submitted : s.counters.submitted = arrived + tally Activity.pushes s.threads
  completed : s.counters.completed + tally Activity.returns s.threads = es.countP Event.isReturn
  failed : s.counters.failed + tally Activity.panics s.threads = es.countP Event.isPanic
  discarded : s.counters.discarded + tally Activity.discards s.threads + es.countP Event.isCall =
    es.countP Event.isSweep + es.countP Event.isBegin

/-! ## A step of a thread -/

section
variable {s s' : State B V} {t : ThreadId} {th : Thread V} {c : Chance} {a : Activity V}
  {turn : Turn B V} {rest : List (Activity V)}

/-- A step changes no counter but by what the thread held or holds then. -/
theorem Deed.submits (hd : Deed s t th c a turn) (ha : a.pushes ≤ s.counters.submitted) :
    turn.state.counters.submitted + a.pushes =
      s.counters.submitted + (turn.next.map Activity.pushes).sum + (s.appending a).length := by
  cases hd with
  | submitPush hr | tryPush hr => simp [Activity.pushes, State.appending, Backlog.hasRoom, hr]
  | submitSleep hr | tryFull hr =>
    simp [Activity.pushes, State.appending, Backlog.hasRoom, Nat.not_lt.2 hr]
  | tryUncount => exact Nat.sub_add_cancel ha
  | clear hp | clearEnd hp | purge hp | purgeEnd hp | sweep hp | sweepEnd hp => cases hp <;> rfl
  | _ => rfl

theorem Deed.completes (hd : Deed s t th c a turn) :
    turn.state.counters.completed + (turn.next.map Activity.returns).sum =
      s.counters.completed + a.returns := by
  cases hd with
  | @inspect k w job => cases job.cancelled <;> rfl
  | clear hp | clearEnd hp | purge hp | purgeEnd hp | sweep hp | sweepEnd hp => cases hp <;> rfl
  | _ => rfl

theorem Deed.fails (hd : Deed s t th c a turn) :
    turn.state.counters.failed + (turn.next.map Activity.panics).sum =
      s.counters.failed + a.panics := by
  cases hd with
  | @inspect k w job => cases job.cancelled <;> rfl
  | clear hp | clearEnd hp | purge hp | purgeEnd hp | sweep hp | sweepEnd hp => cases hp <;> rfl
  | _ => rfl

theorem countP_doing {p : Event V → Bool} (h : ∀ e, Yields s t a e → p e = false) :
    (s.doing t a).countP p = 0 :=
  List.countP_eq_zero.2 fun e he => by simp [h e (yields_of_mem he)]

/-- What a pass takes out of the backlog it counts, sooner or later. -/
theorem Sweep.discards {p : Clearing} {o : Clearing ⊕ Nat} (hp : Sweep s p s' o) {r : Remover}
    {q : Event V → Bool} (hr : ∀ k, q (.removed k r) = true) (hd : ∀ k, q (.dropped k) = false) :
    s'.counters.discarded + o.elim Clearing.uncounted (fun _ => 0) =
      s.counters.discarded + p.uncounted + (s.cleared r p).countP q := by
  cases hp with
  | drain =>
    have hall : (s.emptied r).countP q = s.backlog.tasks.length := by
      rw [State.emptied, List.countP_map]
      exact List.countP_eq_length.2 fun k _ => hr k
    exact congrArg (s.counters.discarded + ·) hall.symm
  | drop k ks n =>
    rw [State.cleared, List.countP_singleton, hd]
    rfl
  | _ => rfl

theorem Deed.discards (hd : Deed s t th c a turn) :
    turn.state.counters.discarded + (turn.next.map Activity.discards).sum +
        (s.doing t a).countP Event.isCall =
      s.counters.discarded + a.discards + (s.doing t a).countP Event.isSweep +
        (s.doing t a).countP Event.isBegin := by
  -- nobody is begun but by who looks at its flag, and nobody is called but then
  have quiet (ha : ∀ k w, a ≠ .task k w .inspect) :
      (s.doing t a).countP Event.isCall = 0 ∧ (s.doing t a).countP Event.isBegin = 0 := by
    constructor <;> refine countP_doing fun e hy => ?_
    · cases hy <;> first | rfl | exact absurd rfl (ha _ _)
    · cases hy <;> first | rfl | exact absurd rfl (ha _ _)
  cases hd with
  | fetch | fetchNone | await | awaitStop | awaitSleep | pop | popNone | leave | leaveLast
  | teardown | teardownLast =>
    obtain ⟨hc, hb⟩ := quiet (by simp)
    rw [hc, hb, countP_doing fun e hy => by cases hy <;> rfl]
    rfl
  | @inspect k w job hj =>
    have hc : s.isCancelled k = job.cancelled := by simp [State.isCancelled, hj]
    simp only [State.doing, hc]
    cases job.cancelled <;> rfl
  | clear hp | purge hp | sweep hp =>
    obtain ⟨hc, hb⟩ := quiet (by simp)
    rw [hc, hb]
    exact hp.discards (fun _ => rfl) fun _ => rfl
  | clearEnd hp | purgeEnd hp | sweepEnd hp => cases hp; rfl
  | _ => rfl

/-! ## Every action -/

theorem Deed.booked (hd : Deed s t th c a turn) (ht : s.threads[t]? = some th)
    (hs : th.stack = a :: rest) {n : Nat} {es : List (Event V)} (h : s.Booked n es) :
    (State.settleTurn t turn).Booked (n + (s.appending a).length) (es ++ s.doing t a) where
  submitted := by
    have htally := hd.tally (f := Activity.pushes) ht hs rfl rfl
    have hmine : a.pushes ≤ th.tally Activity.pushes := by simp [Thread.tally, hs]
    have hall := le_tally (f := Activity.pushes) ht
    have := h.submitted
    have hstep := hd.submits (by omega)
    show turn.state.counters.submitted = _
    omega
  completed := by
    have htally := hd.tally (f := Activity.returns) ht hs rfl rfl
    have hstep := hd.completes
    have := h.completed
    have hnone : (s.doing t a).countP Event.isReturn = 0 :=
      countP_doing fun e hy => by cases hy <;> rfl
    rw [List.countP_append, hnone]
    show turn.state.counters.completed + _ = _
    omega
  failed := by
    have htally := hd.tally (f := Activity.panics) ht hs rfl rfl
    have hstep := hd.fails
    have := h.failed
    have hnone : (s.doing t a).countP Event.isPanic = 0 :=
      countP_doing fun e hy => by cases hy <;> rfl
    rw [List.countP_append, hnone]
    show turn.state.counters.failed + _ = _
    omega
  discarded := by
    have htally := hd.tally (f := Activity.discards) ht hs rfl rfl
    have hstep := hd.discards
    have := h.discarded
    simp only [List.countP_append]
    show turn.state.counters.discarded + _ + _ = _
    omega

/-- An action in which no counter changes and nobody holds more or less. -/
theorem State.Booked.congr {n : Nat} {es : List (Event V)} (h : s.Booked n es)
    (hc : s'.counters = s.counters)
    (hp : tally Activity.pushes s'.threads = tally Activity.pushes s.threads)
    (hr : tally Activity.returns s'.threads = tally Activity.returns s.threads)
    (hf : tally Activity.panics s'.threads = tally Activity.panics s.threads)
    (hd : tally Activity.discards s'.threads = tally Activity.discards s.threads) :
    s'.Booked n es :=
  ⟨by rw [hc, hp, h.submitted], by rw [hc, hr, h.completed], by rw [hc, hf, h.failed],
    by rw [hc, hd, h.discarded]⟩

theorem tally_settleTurn_same {f : Activity V → Nat} {next : List (Activity V)}
    {r : Option (Reply V)} (ht : s.threads[t]? = some th) (hs : th.stack = a :: rest)
    (hf : (next.map f).sum = f a) :
    tally f (State.settleTurn t ⟨s, next, r⟩).threads = tally f s.threads := by
  have h : tally f (State.settleTurn t ⟨s, next, r⟩).threads + f a =
      tally f s.threads + (next.map f).sum := tally_settleTurn ht hs
  omega

theorem Opening.booked {cl : Call B} {next : List (Activity V)} (ho : Opening s cl s' next)
    (ht : s.threads[t]? = some th) {n : Nat} {es : List (Event V)} (h : s.Booked n es) :
    (s'.modifyThread t fun th => { th with stack := next ++ th.stack, reply := none }).Booked n
      es := by
  have same {f : Activity V → Nat} (hf : (next.map f).sum = 0) :=
    (ho.tally (f := f) ht).trans (by rw [hf, Nat.add_zero])
  cases ho <;> exact h.congr rfl (same rfl) (same rfl) (same rfl) (same rfl)

/-- The body of a task ends. -/
theorem State.Booked.finish {n : Nat} {es : List (Event V)} (h : s.Booked n es) {k : TaskId}
    {w : Nat} (ht : s.threads[t]? = some th) (hs : th.stack = .task k w .body :: rest)
    (o : Outcome V) :
    (State.settleTurn t ⟨s, [.task k w (.tally o)], none⟩).Booked n (es ++ [.ended k o]) := by
  have same {f : Activity V → Nat} (hf : ([.task k w (.tally o)].map f).sum = f (.task k w .body)) :
      tally f (State.settleTurn t ⟨s, [.task k w (.tally o)], none⟩).threads = tally f s.threads :=
    tally_settleTurn_same ht hs hf
  have hcom := h.completed
  have hfail := h.failed
  refine ⟨h.submitted.trans (congrArg _ (same rfl).symm), ?_, ?_, ?_⟩
  · rw [List.countP_append]
    cases o with
    | returned v =>
      have htally : tally Activity.returns
          (State.settleTurn t ⟨s, [.task k w (.tally (.returned v))], none⟩).threads + 0 =
        tally Activity.returns s.threads + 1 := tally_settleTurn ht hs
      show s.counters.completed + _ = _ + 1
      omega
    | panicked p =>
      rw [tally_settleTurn_same ht hs rfl]
      exact hcom
  · rw [List.countP_append]
    cases o with
    | returned v =>
      rw [tally_settleTurn_same ht hs rfl]
      exact hfail
    | panicked p =>
      have htally : tally Activity.panics
          (State.settleTurn t ⟨s, [.task k w (.tally (.panicked p))], none⟩).threads + 0 =
        tally Activity.panics s.threads + 1 := tally_settleTurn ht hs
      show s.counters.failed + _ = _ + 1
      omega
  · rw [List.countP_append, List.countP_append, List.countP_append, same rfl]
    exact h.discarded

theorem Move.booked {x : Action B V} (hm : Move s x s') {n : Nat} {es : List (Event V)}
    (h : s.Booked n es) : s'.Booked (n + (s.appended x).length) (es ++ s.events x) := by
  -- where nothing is told and nothing appended
  have still (h : s'.Booked n es) : s'.Booked (n + ([] : List TaskId).length) (es ++ []) := by
    rwa [List.append_nil]
  cases hm with
  | arrive =>
    have same (f : Activity V → Nat) : tally f (s.threads ++ [.outside]) = tally f s.threads := by
      rw [tally_append]
      rfl
    exact still (h.congr rfl (same _) (same _) (same _) (same _))
  | call ht hf hl ho => exact still (ho.booked ht h)
  | @finish t o th k w rest ht hs =>
    simp only [State.appended, State.events, top?_eq_some_iff.2 ⟨_, _, ht, hs⟩]
    exact h.finish ht hs o
  | hook ht hs | expire ht hs =>
    exact still (h.congr rfl (tally_settleTurn_same ht hs rfl) (tally_settleTurn_same ht hs rfl)
      (tally_settleTurn_same ht hs rfl) (tally_settleTurn_same ht hs rfl))
  | @hookPanic t th rest ht hs =>
    have same {f : Activity V → Nat} (hf : ([.work .leave].map f).sum = f (.work .hook)) :
        tally f ((State.settleTurn t ⟨s, [.work .leave], none⟩).modifyThread t
          ({ · with died := true })).threads = tally f s.threads := by
      refine (tally_modify_stack ?_).trans (tally_settleTurn_same ht hs hf)
      exact fun _ => rfl
    exact still (h.congr rfl (same rfl) (same rfl) (same rfl) (same rfl))
  | run _ ht hs hd =>
    simp only [State.appended, State.events, top?_eq_some_iff.2 ⟨_, _, ht, hs⟩]
    exact hd.booked ht hs h
  | rouse | tick => exact still (h.congr rfl rfl rfl rfl rfl)

/-- **The counters agree with the chronicle** but for what the threads hold. -/
theorem State.Founded.booked {s₀ : State B V} (h₀ : s₀.Founded) {as : List (Action B V)}
    (has : s₀.steps as = some s) : s.Booked (s₀.arrivals as).length (s₀.chronicle as) := by
  induction as using List.reverseRecOn generalizing s with
  | nil =>
    cases has
    obtain ⟨name, hooked, capacity, interval, workers, rfl⟩ := h₀
    exact ⟨rfl, rfl, rfl, rfl⟩
  | append_singleton as x ih =>
    obtain ⟨s₁, has₁, hm⟩ := steps_concat.1 has
    rw [chronicle_concat has₁ hm, arrivals_append has₁, arrivals_cons hm, List.length_append,
      List.length_append]
    exact hm.booked (ih has₁)

end

end WorkerPool
