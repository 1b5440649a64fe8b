/-
  An offer that finds no room is refused, and nothing has happened.

  `trySubmit` makes the task and counts it before it looks for room; without
  room it takes the count back, reads the capacity for its answer and drops the
  task.  It never waits.

  * `State.accepted` and `State.refused` are the states that an undisturbed call
    leaves behind; `steps_accepted`, `steps_refused`: that it does so;
  * `TrySubmitPoint.Next`, `Move.offering`, `steps_offering`: how an offer goes on
    while others act: at most five steps, each possible at once, to a handle if
    it found room and to its refusal if not;
  * `State.SameBut`, `Move.refusing`: a step of an offer that is refused touches
    nothing but its task, its thread and the count;
  * `State.Founded.called_not_mem_refused`: the body of a refused task is never
    called;
  * `State.Founded.offer`: all of this, and that an offer which finds room is a
    submission.
-/
import WorkerPool.Proofs.Calls
import WorkerPool.Proofs.Fate
import WorkerPool.Proofs.Offers

namespace WorkerPool

variable {B V : Type}

/-! ## Undisturbed calls -/

namespace State

/-- Thread `t` is at a point of a call that it has begun in this state. -/
def calling (s : State B V) (t : ThreadId) (a : Activity V) : State B V :=
  s.modifyThread t fun th => { th with stack := a :: th.stack, reply := none }

/-- Thread `t` has been answered. -/
def answered (s : State B V) (t : ThreadId) (r : Reply V) : State B V :=
  s.modifyThread t ({ · with reply := some r })

/-- A task is in the backlog, and the worker that chance picked is awake. -/
def accepted (s : State B V) (t : ThreadId) (body : B) (c : Chance) : State B V :=
  { s with
      jobs := s.jobs ++ [Job.ofBody body]
      counters := { s.counters with submitted := s.counters.submitted + 1 }
      backlog := { s.backlog with
        tasks := s.backlog.tasks ++ [s.jobs.length]
        takers := Backlog.wakeOne s.backlog.takers c.pick } : State B V}.answered t
    (.handle s.jobs.length)

/-- A task was made and dropped. -/
def refused (s : State B V) (t : ThreadId) (body : B) : State B V :=
  { s with jobs := s.jobs ++ [⟨body, false, Promise.fresh.close⟩] : State B V}.answered t
    (.full s.backlog.capacity)

end State

section
variable {s s' : State B V} {t : ThreadId} {th : Thread V} {body : B} {a a' : Activity V}
  {c : Chance} {r : Reply V}

theorem modifyThread_modifyThread (s : State B V) (t : ThreadId) (f g : Thread V → Thread V) :
    (s.modifyThread t f).modifyThread t g = s.modifyThread t (g ∘ f) := by
  simp only [State.modifyThread, List.modify_modify_eq]

/-- A call goes on. -/
theorem Move.calling_go (hw : s.backlog.isAsleep t = false) (ht : s.threads[t]? = some th)
    (hd : Deed (s.calling t a) t { th with stack := a :: th.stack, reply := none } c a
      ⟨s'.calling t a, [a'], none⟩) :
    Move (s.calling t a) (.run t c) (s'.calling t a') := by
  have hsettle : State.settleTurn t ⟨s'.calling t a, [a'], none⟩ = s'.calling t a' :=
    modifyThread_modifyThread s' t _ _
  rw [← hsettle]
  exact .run hw (getElem?_modifyThread_self ht) rfl hd

/-- A call returns. -/
theorem Move.calling_answer (hw : s.backlog.isAsleep t = false) (ht : s.threads[t]? = some th)
    (hd : Deed (s.calling t a) t { th with stack := a :: th.stack, reply := none } c a
      ⟨s'.calling t a, [], some r⟩) :
    Move (s.calling t a) (.run t c) (s'.answered t r) := by
  have hsettle : State.settleTurn t ⟨s'.calling t a, [], some r⟩ = s'.answered t r :=
    modifyThread_modifyThread s' t _ _
  rw [← hsettle]
  exact .run hw (getElem?_modifyThread_self ht) rfl hd

variable (hw : s.backlog.isAsleep t = false) (ht : s.threads[t]? = some th)
  (hf : th.isFree = true) (hl : s.life = .serving)
include hw ht hf hl

/-- **Undisturbed, an offer that finds room and a submission do the same.** -/
theorem steps_accepted (hroom : s.backlog.hasRoom = true) (c₁ c₂ c₃ : Chance) :
    s.steps [.call t (.trySubmit body), .run t c₁, .run t c₂, .run t c₃] =
      some (s.accepted t body c₃) ∧
    s.steps [.call t (.submit body), .run t c₁, .run t c₂, .run t c₃] =
      some (s.accepted t body c₃) := by
  have hlt : s.backlog.tasks.length < s.backlog.capacity := by
    simpa [Backlog.hasRoom] using hroom
  -- made, counted and in the backlog
  let s₁ : State B V := { s with jobs := s.jobs ++ [.ofBody body] }
  let s₂ : State B V :=
    { s₁ with counters := { s.counters with submitted := s.counters.submitted + 1 } }
  let s₃ : State B V :=
    { s₂ with backlog := { s.backlog with tasks := s.backlog.tasks ++ [s.jobs.length] } }
  have tries₁ : Move (s₁.calling t (.trySubmit s.jobs.length .count)) (.run t c₁)
    (s₂.calling t (.trySubmit s.jobs.length .push)) := .calling_go hw ht .tryCount
  have tries₂ : Move (s₂.calling t (.trySubmit s.jobs.length .push)) (.run t c₂)
    (s₃.calling t (.trySubmit s.jobs.length .wake)) := .calling_go hw ht (.tryPush hlt)
  have tries₃ : Move (s₃.calling t (.trySubmit s.jobs.length .wake)) (.run t c₃)
    (s.accepted t body c₃) := .calling_answer hw ht .tryWake
  have waits₁ : Move (s₁.calling t (.submit s.jobs.length .count)) (.run t c₁)
    (s₂.calling t (.submit s.jobs.length .push)) := .calling_go hw ht .submitCount
  have waits₂ : Move (s₂.calling t (.submit s.jobs.length .push)) (.run t c₂)
    (s₃.calling t (.submit s.jobs.length .wake)) := .calling_go hw ht (.submitPush hlt)
  have waits₃ : Move (s₃.calling t (.submit s.jobs.length .wake)) (.run t c₃)
    (s.accepted t body c₃) := .calling_answer hw ht .submitWake
  exact ⟨steps_cons.2 ⟨_, .call ht hf (fun _ => hl) .trySubmit, steps_cons.2 ⟨_, tries₁,
      steps_cons.2 ⟨_, tries₂, steps_cons.2 ⟨_, tries₃, rfl⟩⟩⟩⟩,
    steps_cons.2 ⟨_, .call ht hf (fun _ => hl) .submit, steps_cons.2 ⟨_, waits₁,
      steps_cons.2 ⟨_, waits₂, steps_cons.2 ⟨_, waits₃, rfl⟩⟩⟩⟩⟩

/-- **Undisturbed, an offer that finds no room** leaves nothing behind but its answer
    and a task that was dropped. -/
theorem steps_refused (hroom : s.backlog.hasRoom = false) (c₁ c₂ c₃ c₄ c₅ : Chance) :
    s.steps [.call t (.trySubmit body), .run t c₁, .run t c₂, .run t c₃, .run t c₄, .run t c₅] =
      some (s.refused t body) := by
  have hle : s.backlog.capacity ≤ s.backlog.tasks.length := by
    simpa [Backlog.hasRoom] using hroom
  -- made, and counted until it is refused
  let s₁ : State B V := { s with jobs := s.jobs ++ [.ofBody body] }
  let s₂ : State B V :=
    { s₁ with counters := { s.counters with submitted := s.counters.submitted + 1 } }
  have hdrop : s₁.abandon s.jobs.length =
      { s with jobs := s.jobs ++ [⟨body, false, Promise.fresh.close⟩] } := by
    simp [s₁, State.abandon, State.modifyJob, Job.ofBody, List.modify_eq_set_getElem?]
  have h₁ : Move (s₁.calling t (.trySubmit s.jobs.length .count)) (.run t c₁)
    (s₂.calling t (.trySubmit s.jobs.length .push)) := .calling_go hw ht .tryCount
  have h₂ : Move (s₂.calling t (.trySubmit s.jobs.length .push)) (.run t c₂)
    (s₂.calling t (.trySubmit s.jobs.length .uncount)) := .calling_go hw ht (.tryFull hle)
  have h₃ : Move (s₂.calling t (.trySubmit s.jobs.length .uncount)) (.run t c₃)
    (s₁.calling t (.trySubmit s.jobs.length .refuse)) := .calling_go hw ht .tryUncount
  have h₄ : Move (s₁.calling t (.trySubmit s.jobs.length .refuse)) (.run t c₄)
    (s₁.calling t (.trySubmit s.jobs.length (.drop s.backlog.capacity))) :=
    .calling_go hw ht .tryRefuse
  have h₅ : Move (s₁.calling t (.trySubmit s.jobs.length (.drop s.backlog.capacity))) (.run t c₅)
    ((s₁.abandon s.jobs.length).answered t (.full s.backlog.capacity)) :=
    .calling_answer hw ht .tryDrop
  rw [hdrop] at h₅
  exact steps_cons.2 ⟨_, .call ht hf (fun _ => hl) .trySubmit, steps_cons.2 ⟨_, h₁,
    steps_cons.2 ⟨_, h₂, steps_cons.2 ⟨_, h₃, steps_cons.2 ⟨_, h₄, steps_cons.2 ⟨_, h₅, rfl⟩⟩⟩⟩⟩⟩

end

/-! ## Offers among others -/

namespace TrySubmitPoint

/-- How many steps an offer takes at most from a point on. -/
def left : TrySubmitPoint → Nat
  | count => 5
  | push => 4
  | uncount => 3
  | refuse => 2
  | drop _ | wake => 1

/-- The answer that is given at the last point of an offer. -/
def answer? (k : TaskId) : TrySubmitPoint → Option (Reply V)
  | wake => some (.handle k)
  | drop n => some (.full n)
  | _ => none

/-- The offer has found no room. -/
def IsRefused : TrySubmitPoint → Prop
  | uncount | refuse | drop _ => True
  | count | push | wake => False

/-- The count of submissions after a step of an offer that is not let in. -/
def counted (n : Nat) : TrySubmitPoint → Nat
  | count => n + 1
  | uncount => n - 1
  | _ => n

/-- How an offer goes on. -/
inductive Next (s : State B V) : TrySubmitPoint → TrySubmitPoint → Prop where
  | count : Next s .count .push
  | push (hr : s.backlog.hasRoom = true) : Next s .push .wake
  | full (hr : s.backlog.hasRoom = false) : Next s .push .uncount
  | uncount : Next s .uncount .refuse
  | refuse : Next s .refuse (.drop s.backlog.capacity)

end TrySubmitPoint

namespace State

/-- A state as it was but for a task, a thread, and the count of submissions. -/
structure SameBut (s : State B V) (k : TaskId) (t : ThreadId) (s' : State B V) : Prop where
  shared : { s' with counters := s.counters, jobs := s.jobs, threads := s.threads } = s
  counters : { s'.counters with submitted := s.counters.submitted } = s.counters
  jobs : ∀ j ≠ k, s'.jobs[j]? = s.jobs[j]?
  threads : ∀ u ≠ t, s'.threads[u]? = s.threads[u]?

/-- The backlog has had this capacity at some time in a run. -/
def HadCapacity (s : State B V) (as : List (Action B V)) (n : Nat) : Prop :=
  ∃ bs s', bs <+: as ∧ s.steps bs = some s' ∧ s'.backlog.capacity = n

end State

/-- What the offer of task `k` that was begun in state `s` has found in a run when it is at a
    point. -/
def TrySubmitPoint.Found (s : State B V) (k : TaskId) (as : List (Action B V)) :
    TrySubmitPoint → Prop
  | count | push | wake => s.FindsRoom k as
  | uncount | refuse => ¬ s.FindsRoom k as
  | drop n => ¬ s.FindsRoom k as ∧ s.HadCapacity as n

/-- What the offer of task `k` that was begun in state `s` comes to in a run: a handle if it
    finds room, and otherwise its refusal, with a capacity that the backlog has had. -/
inductive Verdict (s : State B V) (k : TaskId) (as : List (Action B V)) : Reply V → Prop where
  | handle (hroom : s.FindsRoom k as) : Verdict s k as (.handle k)
  | full {n : Nat} (hroom : ¬ s.FindsRoom k as) (hn : s.HadCapacity as n) :
      Verdict s k as (.full n)

section
variable {s s' s₁ s₂ : State B V} {t u : ThreadId} {th : Thread V} {c : Chance} {x : Action B V}
  {turn : Turn B V} {rest : List (Activity V)} {k : TaskId} {p p' : TrySubmitPoint}
  {as : List (Action B V)} {n : Nat}

theorem State.HadCapacity.concat (h : s.HadCapacity as n) : s.HadCapacity (as ++ [x]) n := by
  obtain ⟨bs, s', hbs, hsteps, hn⟩ := h
  exact ⟨bs, s', hbs.trans (List.prefix_append ..), hsteps, hn⟩

theorem findsRoom_concat (has : s.steps as = some s₁) (hm : Move s₁ x s₂) :
    s.FindsRoom k (as ++ [x]) ↔ s.FindsRoom k as ∧
      ((∃ t c, x = .run t c ∧ s₁.top? t = some (.trySubmit k .push)) →
        s₁.backlog.hasRoom = true) := by
  induction as generalizing s with
  | nil =>
    cases has
    rw [List.nil_append, findsRoom_cons hm]
    exact ⟨fun h => ⟨trivial, h.1⟩, fun h => ⟨h.2, trivial⟩⟩
  | cons y as ih =>
    obtain ⟨s', hm', has⟩ := steps_cons.1 has
    rw [List.cons_append, findsRoom_cons hm', findsRoom_cons hm', ih has, and_assoc]

/-- A task is offered by one thread at most. -/
theorem State.StandsAt.unique (h : s.StandsAt t (.trySubmit k p) rest) (hr : s.Reachable)
    (hu : s.top? u = some (.trySubmit k p')) : u = t ∧ p' = p := by
  by_cases heq : u = t
  · rw [heq, h.top?] at hu
    cases hu
    exact ⟨heq, rfl⟩
  · obtain ⟨th, ht, hs⟩ := h
    obtain ⟨w, rest', hw, hs'⟩ := top?_eq_some_iff.1 hu
    have weight {th : Thread V} {p : TrySubmitPoint} {rest : List (Activity V)}
        (hs : th.stack = .trySubmit k p :: rest) : 0 < th.tally (Activity.offers k) :=
      Thread.tally_pos (Thread.mem_of_stack hs) (by simp [Activity.offers])
    have htwo := two_le_tally hw ht heq (weight hs') (weight hs)
    have hle := hr.offers_le k
    have := Bool.toNat_le (decide (k < s.jobs.length))
    omega

/-! ### One step -/

theorem Deed.tries (hd : Deed s t th c (.trySubmit k p) turn) :
    (∃ p', p.Next s p' ∧ turn.next = [.trySubmit k p']) ∨
      ∃ r, p.answer? k = some r ∧ turn.next = [] ∧ turn.reply = some r := by
  cases hd with
  | tryCount => exact .inl ⟨_, .count, rfl⟩
  | tryPush hr => exact .inl ⟨_, .push (by simpa [Backlog.hasRoom] using hr), rfl⟩
  | tryFull hr => exact .inl ⟨_, .full (by simpa [Backlog.hasRoom] using hr), rfl⟩
  | tryUncount => exact .inl ⟨_, .uncount, rfl⟩
  | tryRefuse => exact .inl ⟨_, .refuse, rfl⟩
  | tryWake | tryDrop => exact .inr ⟨_, rfl, rfl, rfl⟩

/-- **How an offer goes on**: it stays where it is while others act, and its own
    step leads to the next point or to its answer. -/
theorem Move.offering (hm : Move s x s') (h : s.StandsAt t (.trySubmit k p) rest) :
    x.actor? ≠ some t ∧ s'.StandsAt t (.trySubmit k p) rest ∨
      x.actor? = some t ∧ ((∃ p', p.Next s p' ∧ s'.StandsAt t (.trySubmit k p') rest) ∨
        ∃ r, p.answer? k = some r ∧ s'.HasAnswer t rest r) := by
  by_cases hx : x.actor? = some t
  · obtain ⟨th, ht, hs⟩ := h
    obtain ⟨c, turn, rfl, hd, rfl⟩ := hm.own_step hx ht hs rfl
    refine .inr ⟨hx, ?_⟩
    rcases hd.tries with ⟨p', hp, hnext⟩ | ⟨r, hr, hnext, hreply⟩
    · exact .inl ⟨p', hp, hd.standsAt ht hs hnext⟩
    · exact .inr ⟨r, hr, hd.hasAnswer ht hs hnext hreply⟩
  · exact .inl ⟨hx, hm.standsAt hx h⟩

/-- **An offer never waits**: wherever it stands, its next step is possible. -/
theorem State.StandsAt.offer_runs (h : s.StandsAt t (.trySubmit k p) rest) (hr : s.Reachable)
    (c : Chance) : ∃ s', s.run t c = some s' := by
  have hw := hr.shaped.awake h.top? nofun nofun
  obtain ⟨th, ht, hs⟩ := h
  obtain ⟨turn, hd⟩ : ∃ turn, Deed s t th c (.trySubmit k p) turn := by
    cases p with
    | count => exact ⟨_, .tryCount⟩
    | push =>
      by_cases hroom : s.backlog.tasks.length < s.backlog.capacity
      · exact ⟨_, .tryPush hroom⟩
      · exact ⟨_, .tryFull (Nat.not_lt.1 hroom)⟩
    | wake => exact ⟨_, .tryWake⟩
    | uncount => exact ⟨_, .tryUncount⟩
    | refuse => exact ⟨_, .tryRefuse⟩
    | drop n => exact ⟨_, .tryDrop⟩
  exact ⟨_, run_iff.2 ⟨hw, th, _, rest, turn, ht, hs, hd, rfl⟩⟩

/-! ### A run -/

theorem TrySubmitPoint.Next.left_lt (h : p.Next s p') : p'.left < p.left := by
  cases h <;> simp [TrySubmitPoint.left]

theorem TrySubmitPoint.left_pos (p : TrySubmitPoint) : 0 < p.left := by
  cases p <;> simp [TrySubmitPoint.left]

/-- What an action in which the offer does not look for room leaves as it was. -/
theorem TrySubmitPoint.Found.concat (h : p.Found s k as) (has : s.steps as = some s₁)
    (hm : Move s₁ x s₂) (hlook : ¬ ∃ t c, x = .run t c ∧ s₁.top? t = some (.trySubmit k .push)) :
    p.Found s k (as ++ [x]) := by
  have hiff : s.FindsRoom k (as ++ [x]) ↔ s.FindsRoom k as :=
    (findsRoom_concat has hm).trans (and_iff_left fun h => absurd h hlook)
  cases p with
  | count | push | wake => exact hiff.2 h
  | uncount | refuse => exact mt hiff.1 h
  | drop => exact ⟨mt hiff.1 h.1, h.2.concat⟩

/-- The offer finds room, or none, where it looks for it. -/
theorem TrySubmitPoint.Found.next (h : p.Found s k as) (has : s.steps as = some s₁)
    (hm : Move s₁ x s₂) (hp : p.Next s₁ p')
    (hlook : (∃ t c, x = .run t c ∧ s₁.top? t = some (.trySubmit k .push)) ↔ p = .push) :
    p'.Found s k (as ++ [x]) := by
  have hconcat := findsRoom_concat (k := k) has hm
  rw [hlook] at hconcat
  cases hp with
  | count => exact hconcat.2 ⟨h, nofun⟩
  | push hr => exact hconcat.2 ⟨h, fun _ => hr⟩
  | full hr =>
    intro hroom
    rw [(hconcat.1 hroom).2 rfl] at hr
    cases hr
  | uncount => exact fun hroom => h (hconcat.1 hroom).1
  | refuse =>
    exact ⟨fun hroom => h (hconcat.1 hroom).1, as, s₁, List.prefix_append .., has, rfl⟩

/-- **An offer among others** takes at most five steps and comes to its answer. -/
theorem steps_offering (hr : s.Reachable) (h : s.StandsAt t (.trySubmit k .count) rest)
    (has : s.steps as = some s') :
    (∃ p, (s'.StandsAt t (.trySubmit k p) rest ∧ p.Found s k as) ∧ p.left + actionsOf t as ≤ 5) ∨
      ∃ cs s₁, cs <+: as ∧ s.steps cs = some s₁ ∧
        (∃ r, s₁.HasAnswer t rest r ∧ Verdict s k cs r) ∧ actionsOf t cs ≤ 5 := by
  refine steps_answer (P := fun cs s' p => s'.StandsAt t (.trySubmit k p) rest ∧ p.Found s k cs)
    (Q := fun cs s' => ∃ r, s'.HasAnswer t rest r ∧ Verdict s k cs r) TrySubmitPoint.left
    (p := .count) ⟨h, trivial⟩ has ?_
  rintro cs x s₁ s₂ p - hcs hm ⟨h, hfound⟩
  have hlooks : (∃ u c, x = .run u c ∧ s₁.top? u = some (.trySubmit k .push)) →
      x.actor? = some t ∧ p = .push := by
    rintro ⟨u, c, rfl, hu⟩
    obtain ⟨rfl, rfl⟩ := h.unique (hr.run hcs) hu
    exact ⟨rfl, rfl⟩
  rcases hm.offering h with ⟨hx, h'⟩ | ⟨hx, ⟨p', hp, h'⟩ | ⟨r, hp, h'⟩⟩
  · exact .inl ⟨hx, h', hfound.concat hcs hm fun hl => hx (hlooks hl).1⟩
  · refine .inr ⟨hx, p.left_pos, .inl ⟨p', hp.left_lt, h', hfound.next hcs hm hp ?_⟩⟩
    refine ⟨fun hl => (hlooks hl).2, ?_⟩
    rintro rfl
    obtain ⟨th, ht, hs⟩ := id h
    obtain ⟨c, turn, rfl, -⟩ := hm.own_step hx ht hs rfl
    exact ⟨t, c, rfl, h.top?⟩
  · refine .inr ⟨hx, p.left_pos, .inr ⟨r, h', ?_⟩⟩
    cases p with
    | wake =>
      cases hp
      exact .handle (hfound.concat hcs hm fun hl => nomatch (hlooks hl).2)
    | drop n =>
      cases hp
      obtain ⟨hroom, hn⟩ := hfound.concat hcs hm fun hl => nomatch (hlooks hl).2
      exact .full hroom hn
    | _ => cases hp

/-! ## What a refused offer touches -/

/-- **A step of an offer that is not let in** touches nothing but its task, its
    thread and the count, which it raises once and takes back once. -/
theorem Move.refusing (hm : Move s (.run t c) s') (h : s.StandsAt t (.trySubmit k p) rest)
    (hfull : p = .push → s.backlog.hasRoom = false) (hwake : p ≠ .wake) :
    s.SameBut k t s' ∧ s'.counters.submitted = p.counted s.counters.submitted := by
  obtain ⟨th, ht, hs⟩ := h
  obtain ⟨c, turn, -, hd, rfl⟩ := hm.own_step rfl ht hs rfl
  have hothers {f : Thread V → Thread V} (u : ThreadId) (hu : u ≠ t) :
      (s.threads.modify t f)[u]? = s.threads[u]? := by
    rw [List.getElem?_modify]
    simp [hu.symm]
  cases hd with
  | tryPush hr =>
    have := hfull rfl
    simp [Backlog.hasRoom, hr] at this
  | tryWake => exact absurd rfl hwake
  | tryDrop =>
    refine ⟨⟨rfl, rfl, fun j hj => ?_, hothers⟩, rfl⟩
    show (s.jobs.modify k _)[j]? = _
    rw [List.getElem?_modify]
    simp [hj.symm]
  | _ => exact ⟨⟨rfl, rfl, fun _ _ => rfl, hothers⟩, rfl⟩

/-! ## The task of a refused offer -/

theorem State.StandsAt.carried (h : s.StandsAt t (.trySubmit k p) rest) (hp : p ≠ .wake) :
    (k, .carried t) ∈ s.ledger := by
  obtain ⟨th, ht, hs⟩ := h
  refine mem_ledger.2 (.inl ⟨t, th, ht, _, Thread.mem_of_stack hs, ?_⟩)
  cases p with
  | wake => exact absurd rfl hp
  | _ => exact List.mem_singleton_self _

/-- What is being taken back has been counted. -/
theorem State.StandsAt.submitted_pos (h : s.StandsAt t (.trySubmit k .uncount) rest)
    (hr : s.Reachable) : 0 < s.counters.submitted := by
  obtain ⟨s₀, as, h₀, has⟩ := hr
  obtain ⟨th, ht, hs⟩ := h
  rw [(h₀.booked has).submitted]
  have hpos := tally_pos (f := Activity.pushes) ht (Thread.mem_of_stack hs) Nat.one_pos
  omega

/-- The task of an offer that is refused is dropped and nothing else. -/
theorem Move.refused_task (hm : Move s x s') (hr : s.Reachable)
    (h : (∃ p, p.IsRefused ∧ s.StandsAt t (.trySubmit k p) rest) ∨ (k, .dropped) ∈ s.ledger) :
    (∃ p, p.IsRefused ∧ s'.StandsAt t (.trySubmit k p) rest) ∨ (k, .dropped) ∈ s'.ledger := by
  rcases h with ⟨p, hrefused, h⟩ | h
  · rcases hm.offering h with ⟨-, h'⟩ | ⟨hx, ⟨p', hp, h'⟩ | ⟨r, hp, -⟩⟩
    · exact .inl ⟨p, hrefused, h'⟩
    · refine .inl ⟨p', ?_, h'⟩
      cases hp with
      | uncount | refuse => trivial
      | count | push | full => exact hrefused.elim
    · cases p with
      | drop n =>
        obtain ⟨g, hg, hnext⟩ := hm.stage hr.ledgered (h.carried nofun)
        have htop := h.top?
        obtain ⟨th, ht, hs⟩ := h
        obtain ⟨c, turn, rfl, -⟩ := hm.own_step hx ht hs rfl
        have hevents : own k (s.events (.run t c)) = [.dropped k] := by
          simp only [State.events, htop, State.doing]
          exact own_self (by simp)
        rw [hevents] at hnext
        cases hnext
        exact .inr hg
      | wake => exact hrefused.elim
      | _ => cases hp
  · obtain ⟨g, hg, hnext⟩ := hm.stage hr.ledgered h
    generalize own k (s.events x) = es at hnext
    cases hnext
    exact .inr hg

/-- **The body of a refused task is never called**, before or after. -/
theorem State.Founded.called_not_mem_refused {s₀ : State B V} (h₀ : s₀.Founded)
    {bs : List (Action B V)} (has : s₀.steps as = some s) (h : s.StandsAt t (.trySubmit k p) rest)
    (hp : p.IsRefused) (hbs : s.steps bs = some s') : .called k ∉ s₀.chronicle (as ++ bs) := by
  have hr : s.Reachable := (Reachable.of_founded h₀).run has
  have hend : (∃ p, p.IsRefused ∧ s'.StandsAt t (.trySubmit k p) rest) ∨
      (k, .dropped) ∈ s'.ledger :=
    hr.keep (fun _ _ _ hr h hm => hm.refused_task hr h) (.inl ⟨p, hp, h⟩) hbs
  have hall : s₀.steps (as ++ bs) = some s' := steps_append.2 ⟨s, has, hbs⟩
  intro hcalled
  have hown : .called k ∈ own k (s₀.chronicle (as ++ bs)) := mem_own.2 ⟨hcalled, rfl, rfl⟩
  rcases hend with ⟨p', hp', h'⟩ | hdropped
  · have hlog := (h₀.story hall (h'.carried (by rintro rfl; exact hp'))).log
    generalize own k (s₀.chronicle (as ++ bs)) = es at hlog hown
    cases hlog
    cases hown
  · have hlog := (h₀.story hall hdropped).log
    generalize own k (s₀.chronicle (as ++ bs)) = es at hlog hown
    cases hlog <;> simp at hown

end

/-! ## The promise of an offer -/

/-- What is promised of the offer that thread `t` begins in state `s`, to which a run
    `as` from `s₀` has led; `s₁` is the state in which the offer has begun, on top of
    `rest`. -/
structure Offer (s₀ : State B V) (as : List (Action B V)) (s s₁ : State B V) (t : ThreadId)
    (body : B) (rest : List (Activity V)) : Prop where
  begun : s₁.StandsAt t (.trySubmit s.jobs.length .count) rest
  /-- undisturbed and with room, it does the same as a submission, in all parts of the
      state -/
  accepted : s.backlog.hasRoom = true → ∀ c₁ c₂ c₃,
    s.steps [.call t (.trySubmit body), .run t c₁, .run t c₂, .run t c₃] =
      some (s.accepted t body c₃) ∧
    s.steps [.call t (.submit body), .run t c₁, .run t c₂, .run t c₃] =
      some (s.accepted t body c₃)
  /-- undisturbed and without room, it leaves the state as it was but for its answer and
      a dropped task -/
  refused : s.backlog.hasRoom = false → ∀ c₁ c₂ c₃ c₄ c₅,
    s.steps [.call t (.trySubmit body), .run t c₁, .run t c₂, .run t c₃, .run t c₄, .run t c₅] =
      some (s.refused t body)
  /-- whatever others do, it can go on at once until it has its answer, after five
      steps at most: a handle if it found room, and its refusal if not, with a capacity
      that the backlog had during the call -/
  prompt : ∀ bs s', s₁.steps bs = some s' →
    (∃ p, s'.StandsAt t (.trySubmit s.jobs.length p) rest ∧ actionsOf t bs < 5 ∧
      ∀ c, ∃ s'', s'.run t c = some s'') ∨
    ∃ cs s'' r, cs <+: bs ∧ s₁.steps cs = some s'' ∧ s''.HasAnswer t rest r ∧
      actionsOf t cs ≤ 5 ∧ Verdict s₁ s.jobs.length cs r
  /-- whatever others do, if it finds room, the same run with a submission in its place
      leads to the same state -/
  submitted : ∀ bs s', s₁.steps bs = some s' → s₁.FindsRoom s.jobs.length bs →
    (∀ u p, s'.top? u ≠ some (.trySubmit s.jobs.length p)) →
    s.steps (.call t (.submit body) :: bs) = some s'
  /-- whatever others do, a step that does not let the task in touches nothing but the
      task, the thread, and the count of submissions, which is raised once and taken
      back once -/
  untouched : ∀ bs s' p c s'', s₁.steps bs = some s' →
    s'.StandsAt t (.trySubmit s.jobs.length p) rest → s'.run t c = some s'' →
    (p = .push → s'.backlog.hasRoom = false) → p ≠ .wake →
    s'.SameBut s.jobs.length t s'' ∧
    s''.counters.submitted = p.counted s'.counters.submitted ∧
    (p = .uncount → 0 < s'.counters.submitted)
  /-- the body of a task that is refused is never called -/
  uncalled : ∀ bs s' p cs s'', s₁.steps bs = some s' →
    s'.StandsAt t (.trySubmit s.jobs.length p) rest → p.IsRefused → s'.steps cs = some s'' →
    .called s.jobs.length ∉ s₀.chronicle (as ++ .call t (.trySubmit body) :: (bs ++ cs))

/-- **An offer is a submission if there is room, and nothing at all if there is
    none**, in every state that a run can reach and for every task. -/
theorem State.Founded.offer {s₀ s s₁ : State B V} {as : List (Action B V)} {t : ThreadId} {body : B}
    (h₀ : s₀.Founded) (has : s₀.steps as = some s)
    (hcall : s.step (.call t (.trySubmit body)) = some s₁) :
    ∃ rest, Offer s₀ as s s₁ t body rest := by
  have hr : s.Reachable := (Reachable.of_founded h₀).run has
  have hm : Move s (.call t (.trySubmit body)) s₁ := step_iff.1 hcall
  have hr₁ := hr.next hm
  obtain ⟨th, ht, hf, hl, hbegun⟩ : ∃ th, s.threads[t]? = some th ∧ th.isFree = true ∧
      s.life = .serving ∧ s₁.StandsAt t (.trySubmit s.jobs.length .count) th.stack := by
    cases hm with
    | call ht hf hl ho =>
      cases ho
      exact ⟨_, ht, hf, hl rfl, _, getElem?_modifyThread_self ht, rfl⟩
  have hawake : s.backlog.isAsleep t = false := hm.awake hr.shaped rfl
  refine ⟨th.stack, hbegun, steps_accepted hawake ht hf hl, steps_refused hawake ht hf hl,
    fun bs s' hbs => ?_, fun bs s' hbs hroom hreturned => ?_,
    fun bs s' p c s'' hbs h hrun hfull hwake => ?_, fun bs s' p cs s'' hbs h hp hcs => ?_⟩
  · rcases steps_offering hr₁ hbegun hbs with
      ⟨p, ⟨h, -⟩, hle⟩ | ⟨cs, s₂, hcs, hsteps, ⟨r, hanswer, hverdict⟩, hle⟩
    · have hpos := p.left_pos
      exact .inl ⟨p, h, by omega, h.offer_runs (hr₁.run hbs)⟩
    · exact .inr ⟨cs, s₂, r, hcs, hsteps, hanswer, hle, hverdict⟩
  · refine hr.steps_submit (steps_cons.2 ⟨s₁, hm, hbs⟩) ((findsRoom_cons hm).2 ⟨?_, hroom⟩)
      hreturned
    rintro ⟨_, _, hx, -⟩
    cases hx
  · obtain ⟨hsame, hcount⟩ := (step_iff.1 hrun : Move s' (.run t c) s'').refusing h hfull hwake
    refine ⟨hsame, hcount, ?_⟩
    rintro rfl
    exact h.submitted_pos (hr₁.run hbs)
  · have hall : s₀.steps (as ++ .call t (.trySubmit body) :: bs) = some s' :=
      steps_append.2 ⟨s, has, steps_cons.2 ⟨s₁, hm, hbs⟩⟩
    have hnot := h₀.called_not_mem_refused hall h hp hcs
    rwa [List.append_assoc, List.cons_append] at hnot

/-- A run to a pool whose backlog is full, one producer being asleep for want of room, and
    a third thread. -/
def waitingRun : List (Action Unit Unit) :=
  [paces 0 4, [.call 0 (.submit ())], paces 0 3, [.arrive, .call 1 (.submit ())], paces 1 2,
    [.arrive]].flatten

theorem offer_waitingRun : ∃ (s s₁ : State Unit Unit) (rest : List (Activity Unit)),
    (State.founding "pool" false (some 1) 1 0).steps waitingRun = some s ∧
    s.step (.call 2 (.trySubmit ())) = some s₁ ∧
    Offer (State.founding "pool" false (some 1) 1 0) waitingRun s s₁ 2 () rest ∧
    s.backlog.hasRoom = false ∧ s.backlog.tasks = [0] ∧ s.backlog.givers = [1] ∧
    s.steps (.call 2 (.trySubmit ()) :: paces 2 5) = some (s.refused 2 ()) ∧
    (s.refused 2 ()).threads[2]?.bind Thread.reply = some (.full 1) := by
  have hrun : ((State.founding "pool" false (some 1) 1 0).steps waitingRun).isSome = true := rfl
  obtain ⟨s, hs⟩ := Option.isSome_iff_exists.1 hrun
  have hstep : (s.step (.call 2 (.trySubmit ()))).isSome = true := by cases hs; rfl
  obtain ⟨s₁, hs₁⟩ := Option.isSome_iff_exists.1 hstep
  have hfull : s.backlog.hasRoom = false ∧ s.backlog.tasks = [0] ∧ s.backlog.givers = [1] := by
    cases hs
    exact ⟨rfl, rfl, rfl⟩
  obtain ⟨hroom, htasks, hgivers⟩ := hfull
  have h₀ : (State.founding "pool" false (some 1) 1 0 : State Unit Unit).Founded :=
    State.founded_founding
  obtain ⟨rest, hoffer⟩ := h₀.offer hs hs₁
  refine ⟨s, s₁, rest, hs, hs₁, hoffer, hroom, htasks, hgivers, hoffer.refused hroom _ _ _ _ _, ?_⟩
  cases hs
  rfl

end WorkerPool
