/-
  Runs in which some bodies return instead of panicking.

  * `amendResult v` puts the value `v k` in the place of a panic of task `k`,
    for the tasks for which `v` has one; `Promise.map`: promises do not look at
    what is sent through them;
  * `State.amended` makes the bodies of these tasks return instead of
    panicking, and changes nothing else in a run, not even its bursts;
  * `State.Alike`: two states that differ in the results of these tasks, in
    what was counted of them, and in what was told of either;
  * the effects from which the steps are made keep states alike.
-/
import WorkerPool.Pool.Burst
import WorkerPool.Proofs.Chronicle

namespace WorkerPool

variable {B V : Type}

/-! ## Promises -/

section
variable {α β : Type} {f : α → β}

/-- What was sent, changed by a function. -/
def Sender.map (f : α → β) : Sender α → Sender β
  | unsent => unsent
  | sent a => sent (f a)
  | closed => closed

/-- The result on a promise, changed by a function. -/
def Promise.map (f : α → β) (p : Promise α) : Promise β := ⟨p.sender.map f, p.spent⟩

/-- The answer to a question, changed by a function. -/
def Poll.map (f : α → β) : Poll α → Poll β
  | pending => pending
  | ready a => ready (f a)
  | misuse => misuse

theorem Promise.map_send (p : Promise α) (a : α) : (p.send a).map f = (p.map f).send (f a) := by
  obtain ⟨sender, spent⟩ := p
  cases sender <;> rfl

theorem Promise.map_close (p : Promise α) : p.close.map f = (p.map f).close := by
  obtain ⟨sender, spent⟩ := p
  cases sender <;> rfl

theorem Promise.isOpen_map (p : Promise α) : (p.map f).isOpen = p.isOpen := by
  obtain ⟨sender, spent⟩ := p
  cases sender <;> rfl

theorem Promise.tryTake_map (p : Promise α) (lost : α) :
    (p.map f).tryTake (f lost) = ((p.tryTake lost).1.map f, (p.tryTake lost).2.map f) := by
  obtain ⟨sender, spent⟩ := p
  cases sender <;> cases spent <;> rfl

theorem Promise.poll_map (p : Promise α) (lost : α) :
    (p.map f).poll (f lost) = ((p.poll lost).1.map f, (p.poll lost).2.map f) := by
  obtain ⟨sender, spent⟩ := p
  cases sender <;> cases spent <;> rfl

end

/-! ## Amending -/

/-- The result of a task whose body returns instead of panicking. -/
def amendResult (v : TaskId → Option V) (k : TaskId) : TaskResult V → TaskResult V
  | .error (.panicked m) => ((v k).map Except.ok).getD (.error (.panicked m))
  | r => r

/-- The end of a body that returns instead of panicking. -/
def Outcome.amend (v : TaskId → Option V) (k : TaskId) : Outcome V → Outcome V
  | panicked p => ((v k).map returned).getD (panicked p)
  | returned x => returned x

/-- A task whose body returns instead of panicking: only its promise shows it. -/
def Job.amend (v : TaskId → Option V) (k : TaskId) (job : Job B V) : Job B V :=
  { job with promise := job.promise.map (amendResult v k) }

/-- What happens to a task whose body returns instead of panicking. -/
def Event.amend (v : TaskId → Option V) : Event V → Event V
  | ended k o => ended k (o.amend v k)
  | sent k r => sent k (amendResult v k r)
  | e => e

/-- The action in the place of which a body returns, if it ends by a panic and
    there is a value for it. -/
def State.amend (v : TaskId → Option V) (s : State B V) : Action B V → Action B V
  | .finish t o =>
    match s.top? t with
    | some (.task k _ .body) => .finish t (o.amend v k)
    | _ => .finish t o
  | x => x

/-- An incident with another action in the place of its own; a burst stays. -/
def Incident.map (f : Action B V → Action B V) : Incident B V → Incident B V
  | action x => action (f x)
  | burst t message => burst t message

/-- **The same run, but that bodies for which there is a value return it instead
    of panicking.**  Nobody acts otherwise for that: all other actions, the calls
    and the ends of the other bodies among them, stay what they are, and a body
    that bursts does so in both. -/
def State.amended (v : TaskId → Option V) (s : State B V) :
    List (Incident B V) → List (Incident B V)
  | [] => []
  | i :: is =>
    i.map (s.amend v) ::
      match s.meet i with
      | some s' => s'.amended v is
      | none => is

section
variable {v : TaskId → Option V} {k : TaskId}

theorem Outcome.result_amend (o : Outcome V) : (o.amend v k).result = amendResult v k o.result := by
  cases o with
  | returned x => rfl
  | panicked p => cases h : v k <;> simp [amend, amendResult, Outcome.result, h]

/-- The handles of all other tasks hold what they held. -/
theorem amendResult_of_none (h : v k = none) (r : TaskResult V) : amendResult v k r = r := by
  unfold amendResult
  split
  · rw [h]
    rfl
  · rfl

theorem Job.amend_of_none (h : v k = none) (job : Job B V) : job.amend v k = job := by
  obtain ⟨body, cancelled, ⟨sender, spent⟩⟩ := job
  cases sender <;> simp [amend, Promise.map, Sender.map, amendResult_of_none h]

end

/-! ## Parts that are alike -/

/-- Whether a reply carries neither a result nor a snapshot. -/
def Reply.isMute : Reply V → Bool
  | result _ | results _ | metrics _ => false
  | _ => true

/-- Whether an activity carries neither a result nor a snapshot. -/
def Activity.isMute : Activity V → Bool
  | task _ _ (.tally _) | task _ _ (.settle _) | measure .. | joinAll _ => false
  | teardown r | discard _ r => r.isMute
  | _ => true

/-- Two snapshots that differ in how many bodies returned and how many
    panicked. -/
inductive Metrics.Alike (m : Metrics) : Metrics → Prop where
  | intro {completed failed} : Alike m { m with completed, failed }

/-- Two replies to the same call in two runs of which one is the amended other: they differ
    in the results of amended tasks and in what a snapshot says of the ends of bodies. -/
inductive Reply.Alike (v : TaskId → Option V) : Reply V → Reply V → Prop where
  | mute {r} (hr : r.isMute = true) : Alike v r r
  | result {k r} : Alike v (.result r) (.result (amendResult v k r))
  | results {rs rs'} (h : List.Forall₂ (fun r r' => ∃ k, r' = amendResult v k r) rs rs') :
      Alike v (.results rs) (.results rs')
  | metrics {m m'} (h : m.Alike m') : Alike v (.metrics m) (.metrics m')

/-- Two handles of a joint wait: both have their result or neither has. -/
inductive Slot.Alike (v : TaskId → Option V) : Slot V → Slot V → Prop where
  | waiting {k} : Alike v (.waiting k) (.waiting k)
  | got {k r} : Alike v (.got r) (.got (amendResult v k r))

/-- Two activities at the same point, which differ in the results and snapshots that they
    carry. -/
inductive Activity.Alike (v : TaskId → Option V) : Activity V → Activity V → Prop where
  | mute {a} (ha : a.isMute = true) : Alike v a a
  | tally {k w o} : Alike v (.task k w (.tally o)) (.task k w (.tally (o.amend v k)))
  | settle {k w r} :
      Alike v (.task k w (.settle r)) (.task k w (.settle (amendResult v k r)))
  | measure {g m m'} (h : m.Alike m') : Alike v (.measure g m) (.measure g m')
  | joinAll {slots slots'} (h : List.Forall₂ (Slot.Alike v) slots slots') :
      Alike v (.joinAll slots) (.joinAll slots')

/-- Two threads that stand at the same points and differ in results and
    snapshots. -/
inductive Thread.Alike (v : TaskId → Option V) (th : Thread V) : Thread V → Prop where
  | intro {stack reply} (hs : List.Forall₂ (Activity.Alike v) th.stack stack)
      (hr : Option.Rel (Reply.Alike v) th.reply reply) : Alike v th { th with stack, reply }

/-- Two counts that differ in how many bodies returned and how many panicked. -/
inductive Counters.Alike (c : Counters) : Counters → Prop where
  | intro {completed failed} : Alike c { c with completed, failed }

/-- **Two states that differ in the results of some tasks**, in how many bodies
    were counted as returned and how many as panicked, and in the results and
    snapshots that threads have got.  Everything else is the same, and the
    threads stand at the same points. -/
inductive State.Alike (v : TaskId → Option V) (s : State B V) : State B V → Prop where
  | intro {counters jobs threads} (hc : s.counters.Alike counters)
      (hj : ∀ k : TaskId, jobs[k]? = s.jobs[k]?.map (Job.amend v k))
      (ht : List.Forall₂ (Thread.Alike v) s.threads threads) :
      Alike v s { s with counters, jobs, threads }

/-- Two steps that are alike. -/
structure Turn.Alike (v : TaskId → Option V) (turn turn' : Turn B V) : Prop where
  state : turn.state.Alike v turn'.state
  next : List.Forall₂ (Activity.Alike v) turn.next turn'.next
  reply : Option.Rel (Reply.Alike v) turn.reply turn'.reply

/-! ## Lists that are alike -/

section
variable {α β : Type} {R : α → β → Prop} {l : List α} {l' : List β}

theorem getElem?_of_forall₂ (h : List.Forall₂ R l l') (i : Nat) : Option.Rel R l[i]? l'[i]? := by
  induction h generalizing i with
  | nil => exact .none
  | cons hx _ ih =>
    cases i with
    | zero => exact .some hx
    | succ i => exact ih i

theorem forall₂_modify {g : α → α} {g' : β → β} (hg : ∀ x y, R x y → R (g x) (g' y))
    (h : List.Forall₂ R l l') (i : Nat) : List.Forall₂ R (l.modify i g) (l'.modify i g') := by
  induction h generalizing i with
  | nil => simp
  | cons hx hl ih =>
    cases i with
    | zero => exact .cons (hg _ _ hx) hl
    | succ i => exact .cons hx (ih i)

theorem any_of_forall₂ {p : α → Bool} {q : β → Bool} (hp : ∀ x y, R x y → q y = p x)
    (h : List.Forall₂ R l l') : l'.any q = l.any p := by
  induction h with
  | nil => rfl
  | cons hx _ ih => rw [List.any_cons, List.any_cons, hp _ _ hx, ih]

theorem all_of_forall₂ {p : α → Bool} {q : β → Bool} (hp : ∀ x y, R x y → q y = p x)
    (h : List.Forall₂ R l l') : l'.all q = l.all p := by
  induction h with
  | nil => rfl
  | cons hx _ ih => rw [List.all_cons, List.all_cons, hp _ _ hx, ih]

end

/-! ## Reading -/

section
variable {v : TaskId → Option V} {s s' s₁ : State B V} {t u : ThreadId} {th th' : Thread V}
  {a a' : Activity V} {k : TaskId} {r r' : Reply V}

theorem Reply.Alike.eq (h : r.Alike v r') (hr : r.isMute = true) : r' = r := by
  cases h with
  | mute => rfl
  | result | results | metrics => cases hr

theorem Reply.Alike.eq_of_mute (h : r.Alike v r') (hr : r'.isMute = true) : r' = r := by
  cases h with
  | mute => rfl
  | result | results | metrics => cases hr

/-- Two threads have got the same reply if either has got one without a result
    or a snapshot. -/
theorem reply_eq_iff {o o' : Option (Reply V)} (h : Option.Rel (Reply.Alike v) o o')
    (hr : r.isMute = true) : o' = some r ↔ o = some r := by
  cases h with
  | none => exact Iff.rfl
  | some h =>
    constructor
    · rintro heq
      cases heq
      rw [h.eq_of_mute hr]
    · rintro heq
      cases heq
      rw [h.eq hr]

theorem alike_of_isMute {next : List (Activity V)} (h : next.all Activity.isMute = true) :
    List.Forall₂ (Activity.Alike v) next next :=
  List.forall₂_same.2 fun a ha => .mute (List.all_eq_true.1 h a ha)

/-- A step that carries neither a result nor a snapshot. -/
theorem Turn.Alike.mute {next : List (Activity V)} {o : Option (Reply V)} (h : s.Alike v s')
    (hn : next.all Activity.isMute = true) (hr : o.all Reply.isMute = true) :
    Turn.Alike v ⟨s, next, o⟩ ⟨s', next, o⟩ := by
  refine ⟨h, alike_of_isMute hn, ?_⟩
  cases o with
  | none => exact .none
  | some r => exact .some (.mute hr)

theorem Activity.Alike.usesPool (h : a.Alike v a') : a'.usesPool = a.usesPool := by
  cases h <;> rfl

theorem Activity.Alike.eq (h : a.Alike v a') (ha : a.isMute = true) : a' = a := by
  cases h with
  | mute => rfl
  | tally | settle | measure | joinAll => cases ha

theorem Thread.Alike.exists_cons (h : th.Alike v th') {rest : List (Activity V)}
    (hs : th.stack = a :: rest) : ∃ a' rest', th'.stack = a' :: rest' ∧ a.Alike v a' := by
  cases h with
  | @intro stack _ hlike =>
    rw [hs] at hlike
    cases hlike with
    | cons ha => exact ⟨_, _, rfl, ha⟩

theorem Thread.Alike.isFree (h : th.Alike v th') : th'.isFree = th.isFree := by
  cases h with
  | @intro stack _ hs =>
    simp only [Thread.isFree]
    generalize th.stack = l at hs
    cases hs with
    | nil => rfl
    | @cons a _ _ _ ha =>
      cases ha with
      | mute =>
        cases a with
        | task k w p => cases p <;> rfl
        | _ => rfl
      | _ => rfl

theorem Thread.Alike.hasEnded (h : th.Alike v th') : th'.hasEnded = th.hasEnded := by
  cases h with
  | @intro stack _ hs =>
    simp only [Thread.hasEnded]
    generalize th.stack = l at hs
    cases hs <;> rfl

namespace State.Alike

theorem thread (h : s.Alike v s') (t : ThreadId) :
    Option.Rel (Thread.Alike v) s.threads[t]? s'.threads[t]? := by
  cases h with
  | intro hc hj ht => exact getElem?_of_forall₂ ht t

theorem exists_thread (h : s.Alike v s') (ht : s.threads[t]? = some th) :
    ∃ th', s'.threads[t]? = some th' ∧ th.Alike v th' := by
  have hthread := h.thread t
  rw [ht] at hthread
  generalize s'.threads[t]? = o at hthread
  cases hthread with
  | some hth => exact ⟨_, rfl, hth⟩

theorem job (h : s.Alike v s') (k : TaskId) : s'.jobs[k]? = s.jobs[k]?.map (Job.amend v k) := by
  cases h with
  | intro hc hj ht => exact hj k

theorem jobs_length (h : s.Alike v s') : s'.jobs.length = s.jobs.length := by
  have hjobs : s'.jobs = s.jobs.mapIdx (Job.amend v) :=
    List.ext_getElem? fun k => by rw [h.job, List.getElem?_mapIdx]
  rw [hjobs, List.length_mapIdx]

theorem threads_length (h : s.Alike v s') : s'.threads.length = s.threads.length := by
  cases h with
  | intro hc hj ht => exact ht.length_eq.symm

theorem badge? (h : s.Alike v s') (t : ThreadId) : s'.badge? t = s.badge? t := by
  rw [badge?_eq, badge?_eq]
  have hth := h.thread t
  generalize s.threads[t]? = o, s'.threads[t]? = o' at hth
  cases hth with
  | none => rfl
  | some hth => cases hth; rfl

theorem idleCount (h : s.Alike v s') : s'.idleCount = s.idleCount := by
  have hroster : s'.roster = s.roster := by cases h; rfl
  simp only [State.idleCount, hroster, h.badge?]

theorem isCancelled (h : s.Alike v s') (k : TaskId) : s'.isCancelled k = s.isCancelled k := by
  simp only [State.isCancelled, h.job]
  cases s.jobs[k]? <;> rfl

theorem isPending (h : s.Alike v s') (k : TaskId) : s'.isPending k = s.isPending k := by
  simp only [State.isPending, h.job]
  cases s.jobs[k]? with
  | none => rfl
  | some job =>
    show ((job.promise.map (amendResult v k)).isOpen && !job.promise.spent) = _
    rw [Promise.isOpen_map]
    rfl

theorem inUse (h : s.Alike v s') : s'.inUse = s.inUse := by
  cases h with
  | intro hc hj ht =>
    refine any_of_forall₂ (fun th th' hth => ?_) ht
    cases hth with
    | intro hs => exact any_of_forall₂ (fun _ _ ha => ha.usesPool) hs

theorem top? (h : s.Alike v s') (t : ThreadId) :
    Option.Rel (Activity.Alike v) (s.top? t) (s'.top? t) := by
  have hth := h.thread t
  simp only [State.top?]
  generalize s.threads[t]? = o, s'.threads[t]? = o' at hth
  cases hth with
  | none => exact .none
  | @some th _ hth =>
    cases hth with
    | @intro stack _ hs =>
      generalize hst : th.stack = l at hs
      cases hs with
      | nil => simp [hst]
      | cons ha => simpa [hst] using Option.Rel.some ha

/-! ## Effects -/

theorem modifyJob (h : s.Alike v s') {g g' : Job B V → Job B V}
    (hg : ∀ job, Job.amend v k (g job) = g' (job.amend v k)) :
    (s.modifyJob k g).Alike v (s'.modifyJob k g') := by
  cases h with
  | intro hc hj ht =>
    refine .intro hc (fun u => ?_) ht
    simp only [State.modifyJob, List.getElem?_modify, hj]
    by_cases hu : k = u
    · subst hu
      cases s.jobs[k]? <;> simp [hg]
    · simp [hu]

theorem modifyThread (h : s.Alike v s') {g g' : Thread V → Thread V}
    (hg : ∀ th th', th.Alike v th' → (g th).Alike v (g' th')) (t : ThreadId) :
    (s.modifyThread t g).Alike v (s'.modifyThread t g') := by
  cases h with
  | intro hc hj ht => exact .intro hc hj (forall₂_modify hg ht t)

theorem modifyBadge (h : s.Alike v s') (t : ThreadId) (g : Badge → Badge) :
    (s.modifyBadge t g).Alike v (s'.modifyBadge t g) := by
  refine h.modifyThread (fun th th' hth => ?_) t
  cases hth with
  | intro hs hr => exact .intro hs hr

theorem abandon (h : s.Alike v s') (k : TaskId) : (s.abandon k).Alike v (s'.abandon k) :=
  h.modifyJob fun job => by simp only [Job.amend, Promise.map_close]

theorem cancel (h : s.Alike v s') (k : TaskId) : (s.cancel k).Alike v (s'.cancel k) :=
  h.modifyJob fun _ => rfl

theorem settle (h : s.Alike v s') (k : TaskId) (r : TaskResult V) :
    (s.settle k r).Alike v (s'.settle k (amendResult v k r)) :=
  h.modifyJob fun job => by simp only [Job.amend, Promise.map_send]

theorem setPromise (h : s.Alike v s') (k : TaskId) (p : Promise (TaskResult V)) :
    (s.setPromise k p).Alike v (s'.setPromise k (p.map (amendResult v k))) :=
  h.modifyJob fun _ => rfl

/-- A new thread, alike in both. -/
theorem arrive (h : s.Alike v s') :
    State.Alike v { s with threads := s.threads ++ [.outside] }
      { s' with threads := s'.threads ++ [.outside] } := by
  cases h with
  | intro hc hj ht =>
    exact .intro hc hj (List.rel_append ht (.cons (.intro .nil .none) .nil))

theorem spawn (h : s.Alike v s') (i : Nat) : (s.spawn i).Alike v (s'.spawn i) := by
  have hlen := h.threads_length
  cases h with
  | intro hc hj ht =>
    simp only [State.spawn, hlen]
    refine .intro hc hj (List.rel_append ht (.cons (.intro (alike_of_isMute ?_) .none) .nil))
    rfl

/-- A new task, alike in both. -/
theorem submit (h : s.Alike v s') (body : B) :
    State.Alike v { s with jobs := s.jobs ++ [.ofBody body] }
      { s' with jobs := s'.jobs ++ [.ofBody body] } := by
  have hlen := h.jobs_length
  cases h with
  | intro hc hj ht =>
    refine .intro hc (fun k => ?_) ht
    rw [List.getElem?_append, List.getElem?_append, hlen, hj]
    split
    · rfl
    · cases hi : ([Job.ofBody body] : List (Job B V))[k - s.jobs.length]? with
      | none => rfl
      | some job =>
        obtain rfl := List.mem_singleton.1 (List.mem_of_getElem? hi)
        rfl

end State.Alike

/-- A step that is taken keeps the threads alike. -/
theorem Turn.Alike.settleTurn {turn turn' : Turn B V} (h : turn.Alike v turn') (t : ThreadId) :
    (State.settleTurn t turn).Alike v (State.settleTurn t turn') := by
  refine h.state.modifyThread (fun th th' hth => ?_) t
  cases hth with
  | @intro stack reply hs hr =>
    refine .intro (List.rel_append h.next ?_) ?_
    · generalize th.stack = l at hs
      cases hs with
      | nil => exact .nil
      | cons _ hs => exact hs
    · have hreply := h.reply
      generalize turn.reply = o, turn'.reply = o' at hreply
      cases hreply with
      | none => exact hr
      | some hr' => exact .some hr'

theorem State.Founded.alike (h : s.Founded) : s.Alike v s := by
  obtain ⟨name, hooked, capacity, interval, n, rfl⟩ := h
  exact .intro .intro (fun _ => rfl) (.cons (.intro (.cons (.mute rfl) .nil) .none) .nil)

end

end WorkerPool
