/-
  The ledger of tasks: for every task, at which stage of its life it is and
  who holds it.

  * `Stage` are the stages, `Activity.hand` the tasks that an activity holds;
  * `State.ledger` gathers what all threads hold, the backlog, what callers
    hold, and the promises whose sending end is used up;
  * `Stage.Next` says how a task goes from one stage to another, and in which
    events;
  * `Transfer` says that a ledger changes entry by entry, each task going on
    by itself.
-/
import WorkerPool.Proofs.Answers
import WorkerPool.Proofs.Chronicle

namespace WorkerPool

variable {B V : Type}

/-! ## Stages -/

/-- The stages in the life of a task. -/
inductive Stage (V : Type) where
  /-- a producer has not got it into the backlog -/
  | carried (t : ThreadId)
  /-- at a position of the backlog -/
  | queued (i : Nat)
  /-- a caller has taken it out -/
  | held
  /-- a thread is about to run it -/
  | fetched (t : ThreadId)
  /-- a thread has found it cancelled -/
  | skipping (t : ThreadId)
  /-- a thread is in its body -/
  | inBody (t : ThreadId)
  /-- its body has ended -/
  | tallying (t : ThreadId) (o : Outcome V)
  /-- its result is about to be sent -/
  | settling (t : ThreadId) (r : TaskResult V)
  /-- its result has been sent -/
  | finished (r : TaskResult V)
  /-- it is about to be dropped -/
  | dropping
  /-- it was dropped without having been run -/
  | dropped

/-- **How a task goes on**, and the events that happen to it on the way. -/
inductive Stage.Next (k : TaskId) : Stage V → List (Event V) → Stage V → Prop where
  | stay (g) : Next k g [] g
  | enqueue (t i) : Next k (.carried t) [] (.queued i)
  | refuse (t) : Next k (.carried t) [.dropped k] .dropped
  | advance (i) : Next k (.queued (i + 1)) [] (.queued i)
  | fetch (t) : Next k (.queued 0) [.removed k (.worker t)] (.fetched t)
  | takeOut (t) : Next k (.queued 0) [.removed k (.caller t)] .held
  | clear (i t) : Next k (.queued i) [.removed k (.clearing t)] .dropping
  | stop (i t g) : Next k (.queued i) [.removed k (.stop t g)] .dropping
  | last (i t) : Next k (.queued i) [.removed k (.last t)] .dropping
  | run (t) : Next k .held [] (.fetched t)
  | discard : Next k .held [] .dropping
  | skip (t) : Next k (.fetched t) [.begun k] (.skipping t)
  | call (t) : Next k (.fetched t) [.begun k, .called k] (.inBody t)
  | finish (t o) : Next k (.inBody t) [.ended k o] (.tallying t o)
  | tally (t o) : Next k (.tallying t o) [] (.settling t o.result)
  | skipped (t) : Next k (.skipping t) [] (.settling t (.error .cancelled))
  | send (t r) : Next k (.settling t r) [.sent k r] (.finished r)
  | drop : Next k .dropping [.dropped k] .dropped

/-! ## What an activity holds -/

/-- The task that a worker brings back from its wait. -/
def Shift.task? : Shift → Option TaskId
  | settle => none
  | resume next => next

/-- The task that a worker's loop holds. -/
def WorkPoint.task? : WorkPoint → Option TaskId
  | fetched k | awaited k => some k
  | clock sh | shift sh _ | report sh _ => sh.task?
  | unmark next => next
  | hook | fetch | check | mark | await | leave => none

/-- The tasks that a clearing pass is about to drop. -/
def Clearing.tasks : Clearing → List TaskId
  | wake ks | drop ks _ => ks
  | drain | count _ => []

/-- These tasks with their stage. -/
def Clearing.hand (p : Clearing) : List (TaskId × Stage V) := p.tasks.map (·, .dropping)

/-- The stage of a task that is run. -/
def TaskPoint.stage (t : ThreadId) : TaskPoint V → Stage V
  | inspect => .fetched t
  | skip => .skipping t
  | body => .inBody t
  | tally o => .tallying t o
  | settle r => .settling t r

/-- The tasks that an activity of a thread holds, and their stages. -/
def Activity.hand (t : ThreadId) : Activity V → List (TaskId × Stage V)
  | work p => p.task?.toList.map (·, .fetched t)
  | task k _ p => [(k, p.stage t)]
  | submit _ .wake | trySubmit _ .wake => []
  | submit k _ | trySubmit k _ => [(k, .carried t)]
  | pop taken => taken.toList.map (·, .held)
  | clear p | stop _ (.purge p) | stop _ (.sweep p _) => p.hand
  | discard ks _ => ks.map (·, .dropping)
  | _ => []

/-- Who holds a task at which stage. -/
inductive Holds (t : ThreadId) : Activity V → TaskId → Stage V → Prop where
  | work {p k} (hp : p.task? = some k) : Holds t (.work p) k (.fetched t)
  | task {k w p} : Holds t (.task k w p) k (p.stage t)
  | submit {k p} (hp : p ≠ .wake) : Holds t (.submit k p) k (.carried t)
  | trySubmit {k p} (hp : p ≠ .wake) : Holds t (.trySubmit k p) k (.carried t)
  | pop {k} : Holds t (.pop (some k)) k .held
  | clear {p k} (hk : k ∈ p.tasks) : Holds t (.clear p) k .dropping
  | purge {g p k} (hk : k ∈ p.tasks) : Holds t (.stop g (.purge p)) k .dropping
  | sweep {g p n k} (hk : k ∈ p.tasks) : Holds t (.stop g (.sweep p n)) k .dropping
  | discard {ks r k} (hk : k ∈ ks) : Holds t (.discard ks r) k .dropping

theorem holds_of_mem {t : ThreadId} {a : Activity V} {k : TaskId} {g : Stage V}
    (h : (k, g) ∈ a.hand t) : Holds t a k g := by
  cases a with
  | work p =>
    obtain ⟨k', hk, heq⟩ := List.mem_map.1 h
    cases heq
    exact .work (Option.mem_toList.1 hk)
  | task k' w p =>
    cases List.mem_singleton.1 h
    exact .task
  | submit k' p =>
    cases p with
    | wake => cases h
    | _ => cases List.mem_singleton.1 h; exact .submit nofun
  | trySubmit k' p =>
    cases p with
    | wake => cases h
    | _ => cases List.mem_singleton.1 h; exact .trySubmit nofun
  | pop taken =>
    cases taken with
    | none => cases h
    | some k' => cases List.mem_singleton.1 h; exact .pop
  | clear p =>
    obtain ⟨k', hk, heq⟩ := List.mem_map.1 h
    cases heq
    exact .clear hk
  | stop g p =>
    cases p with
    | purge p =>
      obtain ⟨k', hk, heq⟩ := List.mem_map.1 h
      cases heq
      exact .purge hk
    | sweep p n =>
      obtain ⟨k', hk, heq⟩ := List.mem_map.1 h
      cases heq
      exact .sweep hk
    | _ => cases h
  | discard ks r =>
    obtain ⟨k', hk, heq⟩ := List.mem_map.1 h
    cases heq
    exact .discard hk
  | _ => cases h

/-- The tasks that a thread holds. -/
def Thread.hand (t : ThreadId) (th : Thread V) : List (TaskId × Stage V) :=
  th.stack.flatMap (Activity.hand t)

/-- What the promise of a task says of it. -/
def Job.entry (k : TaskId) (job : Job B V) : List (TaskId × Stage V) :=
  match job.sender with
  | .unsent => []
  | .sent r => [(k, .finished r)]
  | .closed => [(k, .dropped)]

/-! ## Gathering -/

section gather
variable {α β : Type} {f : Nat → α → List β} {l : List α}

/-- All that the elements of a list hold, each knowing its position. -/
def gather (f : Nat → α → List β) (l : List α) : Multiset β := ((l.mapIdx f).flatten : List β)

theorem mem_gather {b : β} : b ∈ gather f l ↔ ∃ i x, l[i]? = some x ∧ b ∈ f i x := by
  simp only [gather, Multiset.mem_coe, List.mem_flatten, List.mem_mapIdx]
  constructor
  · rintro ⟨_, ⟨i, hi, rfl⟩, hb⟩
    exact ⟨i, _, List.getElem?_eq_getElem hi, hb⟩
  · rintro ⟨i, x, hx, hb⟩
    obtain ⟨hi, rfl⟩ := List.getElem?_eq_some_iff.1 hx
    exact ⟨_, ⟨i, hi, rfl⟩, hb⟩

theorem gather_concat (x : α) : gather f (l ++ [x]) = gather f l + (f l.length x : List β) := by
  simp [gather, List.mapIdx_append, ← Multiset.coe_add]

theorem gather_congr {l' : List α} (h : ∀ i, l'[i]?.map (f i) = l[i]?.map (f i)) :
    gather f l' = gather f l := by
  have : l'.mapIdx f = l.mapIdx f := List.ext_getElem? fun i => by
    simpa only [List.getElem?_mapIdx] using h i
  rw [gather, gather, this]

/-- What one element holds, and what the others hold. -/
theorem gather_modify {i : Nat} {x : α} (h : l[i]? = some x) :
    ∃ C : Multiset β, gather f l = (f i x : List β) + C ∧
      ∀ g, gather f (l.modify i g) = (f i (g x) : List β) + C := by
  induction l generalizing i f with
  | nil => cases h
  | cons y l ih =>
    cases i with
    | zero =>
      cases h
      refine ⟨gather (fun i => f (i + 1)) l, ?_, fun g => ?_⟩ <;>
        simp [gather, List.mapIdx_cons, ← Multiset.coe_add]
    | succ i =>
      obtain ⟨C, hC, hg⟩ := ih (f := fun i => f (i + 1)) h
      have hcons (l : List α) :
          gather f (y :: l) = (f 0 y : List β) + gather (fun i => f (i + 1)) l := by
        simp [gather, List.mapIdx_cons, ← Multiset.coe_add]
      refine ⟨(f 0 y : List β) + C, ?_, fun g => ?_⟩
      · rw [hcons, hC, add_left_comm]
      · rw [List.modify_succ_cons, hcons, hg, add_left_comm]

end gather

/-! ## The ledger -/

/-- The entries of the backlog, the first of its tasks at position `i`. -/
def queueEntries (i : Nat) : List TaskId → Multiset (TaskId × Stage V)
  | [] => 0
  | k :: ks => (k, .queued i) ::ₘ queueEntries (i + 1) ks

/-- The entries of the tasks that callers hold. -/
def heldEntries (ks : List TaskId) : Multiset (TaskId × Stage V) :=
  (ks : Multiset TaskId).map (·, .held)

/-- Some entries beside others. -/
def beside (l : List (TaskId × Stage V)) (C : Multiset (TaskId × Stage V)) :
    Multiset (TaskId × Stage V) := l.foldr Multiset.cons C

theorem beside_eq (l : List (TaskId × Stage V)) (C : Multiset (TaskId × Stage V)) :
    beside l C = (l : Multiset (TaskId × Stage V)) + C := by
  induction l with
  | nil => exact (Multiset.zero_add C).symm
  | cons e l ih =>
    rw [beside, List.foldr_cons, ← beside, ih, ← Multiset.cons_coe, Multiset.cons_add]

/-- Where all tasks are if the threads hold these. -/
def State.ledgerWith (s : State B V) (H : Multiset (TaskId × Stage V)) :
    Multiset (TaskId × Stage V) :=
  H + queueEntries 0 s.backlog.tasks + heldEntries s.taken + gather Job.entry s.jobs

/-- **Where all tasks are.** -/
def State.ledger (s : State B V) : Multiset (TaskId × Stage V) :=
  s.ledgerWith (gather Thread.hand s.threads)

theorem mem_queueEntries {i : Nat} {ks : List TaskId} {e : TaskId × Stage V} :
    e ∈ queueEntries i ks ↔ ∃ j : Nat, ks[j]? = some e.1 ∧ e.2 = .queued (i + j) := by
  induction ks generalizing i with
  | nil => simp [queueEntries]
  | cons k ks ih =>
    rw [queueEntries, Multiset.mem_cons, ih]
    constructor
    · rintro (rfl | ⟨j, hj, he⟩)
      · exact ⟨0, rfl, rfl⟩
      · exact ⟨j + 1, hj, by rw [he, Nat.add_assoc, Nat.add_comm 1]⟩
    · rintro ⟨_ | j, hj, he⟩
      · cases hj
        exact .inl (Prod.ext rfl he)
      · exact .inr ⟨j, hj, by rw [he, Nat.add_assoc, Nat.add_comm 1]⟩

theorem mem_entry {k : TaskId} {job : Job B V} {e : TaskId × Stage V} :
    e ∈ job.entry k ↔ e.1 = k ∧
      ((∃ r, job.sender = .sent r ∧ e.2 = .finished r) ∨
        job.sender = .closed ∧ e.2 = .dropped) := by
  obtain ⟨k', g⟩ := e
  cases hs : job.sender <;> simp [Job.entry, hs]

/-- Where an entry of the ledger stands. -/
theorem mem_ledger {s : State B V} {k : TaskId} {g : Stage V} :
    (k, g) ∈ s.ledger ↔
      (∃ (t : ThreadId) (th : Thread V), s.threads[t]? = some th ∧
        ∃ a ∈ th.stack, (k, g) ∈ a.hand t) ∨
      (∃ i : Nat, s.backlog.tasks[i]? = some k ∧ g = .queued i) ∨
      (k ∈ s.taken ∧ g = .held) ∨
      ∃ job, s.jobs[k]? = some job ∧
        ((∃ r, job.sender = .sent r ∧ g = .finished r) ∨ job.sender = .closed ∧ g = .dropped) := by
  simp only [State.ledger, State.ledgerWith, Multiset.mem_add, mem_gather, Thread.hand,
    List.mem_flatMap, mem_queueEntries, Nat.zero_add, mem_entry, heldEntries, Multiset.mem_map,
    Multiset.mem_coe, or_assoc, Prod.mk.injEq]
  refine or_congr Iff.rfl (or_congr Iff.rfl (or_congr ?_ ?_))
  · constructor
    · rintro ⟨_, hk, rfl, rfl⟩
      exact ⟨hk, rfl⟩
    · rintro ⟨hk, rfl⟩
      exact ⟨k, hk, rfl, rfl⟩
  · constructor
    · rintro ⟨_, job, hj, rfl, h⟩
      exact ⟨job, hj, h⟩
    · rintro ⟨job, hj, h⟩
      exact ⟨k, job, hj, rfl, h⟩

/-- The entries of some tasks before and after they go on. -/
def befores (P : List (TaskId × Stage V × Stage V)) : Multiset (TaskId × Stage V) :=
  (P : Multiset (TaskId × Stage V × Stage V)).map fun p => (p.1, p.2.1)

/-- The entries of these tasks afterwards. -/
def afters (P : List (TaskId × Stage V × Stage V)) : Multiset (TaskId × Stage V) :=
  (P : Multiset (TaskId × Stage V × Stage V)).map fun p => (p.1, p.2.2)

theorem befores_cons (k : TaskId) (g g' : Stage V) (P : List (TaskId × Stage V × Stage V)) :
    befores ((k, g, g') :: P) = (k, g) ::ₘ befores P := rfl

theorem afters_cons (k : TaskId) (g g' : Stage V) (P : List (TaskId × Stage V × Stage V)) :
    afters ((k, g, g') :: P) = (k, g') ::ₘ afters P := rfl

/-- A ledger changes entry by entry: some tasks go on, the others stay, and
    what happens happens to those that go on. -/
def Transfer (es : List (Event V)) (l l' : Multiset (TaskId × Stage V)) : Prop :=
  ∃ (P : List (TaskId × Stage V × Stage V)) (C : Multiset (TaskId × Stage V)),
    l = befores P + C ∧ l' = afters P + C ∧
    (∀ p ∈ P, Stage.Next p.1 p.2.1 (own p.1 es) p.2.2) ∧
    ∀ e ∈ es, e.isOwn = true → e.task ∈ P.map (·.1)

namespace Transfer

variable {es : List (Event V)} {l l' C : Multiset (TaskId × Stage V)} {k : TaskId}
  {g g' : Stage V}

/-- No task goes on. -/
theorem none (hl : l' = l) (he : ∀ e ∈ es, e.isOwn = false) : Transfer es l l' := by
  refine ⟨[], l, by simp [befores], by simp [afters, hl], List.forall_mem_nil _, fun e h ho => ?_⟩
  rw [he e h] at ho
  cases ho

/-- Nothing happens. -/
theorem still (he : es = []) (hl : l' = l) : Transfer es l l' :=
  .none hl (he ▸ List.forall_mem_nil _)

/-- One task goes on. -/
theorem single (hl : l = (k, g) ::ₘ C) (hl' : l' = (k, g') ::ₘ C)
    (hn : Stage.Next k g (own k es) g') (he : ∀ e ∈ es, e.task = k) : Transfer es l l' := by
  refine ⟨[(k, g, g')], C, by simp [befores, hl], by simp [afters, hl'], by simpa using hn,
    fun e h _ => ?_⟩
  rw [he e h]
  exact List.mem_cons_self

end Transfer

/-! ## The backlog -/

theorem queueEntries_concat (i : Nat) (ks : List TaskId) (k : TaskId) :
    queueEntries (V := V) i (ks ++ [k]) =
      (k, .queued (i + ks.length)) ::ₘ queueEntries i ks := by
  induction ks generalizing i with
  | nil => rfl
  | cons k' ks ih =>
    simp only [List.cons_append, queueEntries, ih, List.length_cons, Multiset.cons_swap (k', _)]
    rw [Nat.add_assoc, Nat.add_comm 1]

/-- The tasks of a backlog that is emptied. -/
theorem queueEntries_drained (i : Nat) (ks : List TaskId) :
    ∃ P : List (TaskId × Stage V × Stage V),
      queueEntries i ks = befores P ∧
      (ks : Multiset TaskId).map (·, .dropping) = afters P ∧
      (∀ p ∈ P, ∃ j, p.2.1 = .queued j ∧ p.2.2 = .dropping) ∧ P.map (·.1) = ks := by
  induction ks generalizing i with
  | nil => exact ⟨[], rfl, rfl, nofun, rfl⟩
  | cons k ks ih =>
    obtain ⟨P, h₁, h₂, h₃, h₄⟩ := ih (i + 1)
    refine ⟨(k, .queued i, .dropping) :: P, ?_, ?_, ?_, ?_⟩
    · rw [queueEntries, h₁, befores_cons]
    · rw [afters_cons, ← h₂]; rfl
    · intro p hp
      rcases List.mem_cons.1 hp with rfl | hp
      exacts [⟨i, rfl, rfl⟩, h₃ p hp]
    · rw [List.map_cons, h₄]

/-- The tasks of a backlog that move one place forward. -/
theorem queueEntries_advanced (i : Nat) (ks : List TaskId) :
    ∃ P : List (TaskId × Stage V × Stage V),
      queueEntries (i + 1) ks = befores P ∧
      queueEntries i ks = afters P ∧
      (∀ p ∈ P, ∃ j, p.2.1 = .queued (j + 1) ∧ p.2.2 = .queued j) ∧ P.map (·.1) = ks := by
  induction ks generalizing i with
  | nil => exact ⟨[], rfl, rfl, nofun, rfl⟩
  | cons k ks ih =>
    obtain ⟨P, h₁, h₂, h₃, h₄⟩ := ih (i + 1)
    refine ⟨(k, .queued (i + 1), .queued i) :: P, ?_, ?_, ?_, ?_⟩
    · rw [queueEntries, h₁, befores_cons]
    · rw [queueEntries, h₂, afters_cons]
    · intro p hp
      rcases List.mem_cons.1 hp with rfl | hp
      exacts [⟨i, rfl, rfl⟩, h₃ p hp]
    · rw [List.map_cons, h₄]

theorem own_removed {ks : List TaskId} (h : ks.Nodup) {k : TaskId} (hk : k ∈ ks) (r : Remover) :
    own k (ks.map (.removed · r) : List (Event V)) = [.removed k r] := by
  induction ks with
  | nil => cases hk
  | cons k' ks ih =>
    obtain ⟨hn, hks⟩ := List.nodup_cons.1 h
    rcases List.mem_cons.1 hk with rfl | hk
    · have hrest : own k (ks.map (.removed · r) : List (Event V)) = [] := by
        simp only [own, List.filter_eq_nil_iff, List.mem_map]
        rintro _ ⟨k', hk', rfl⟩
        simp only [Event.befalls, Event.isOwn, Event.task, Bool.true_and, beq_iff_eq]
        rintro rfl
        exact hn hk'
      rw [List.map_cons, own, List.filter_cons_of_pos (by simp),
        ← own, hrest]
    · rw [List.map_cons, own, List.filter_cons_of_neg, ← own, ih hks hk]
      simp only [Event.befalls, Event.isOwn, Event.task, Bool.true_and, beq_iff_eq]
      rintro rfl
      exact hn hk

namespace Transfer

variable {es : List (Event V)} {l l' C : Multiset (TaskId × Stage V)} {k : TaskId}
  {ks : List TaskId}

/-- The backlog is emptied. -/
theorem drain {r : Remover} (hks : ks.Nodup)
    (hl : l = queueEntries 0 ks + C)
    (hl' : l' = (ks : Multiset TaskId).map (·, .dropping) + C)
    (hr : ∀ (k : TaskId) i, Stage.Next k (.queued i) [.removed k r] (.dropping : Stage V)) :
    Transfer (ks.map (.removed · r)) l l' := by
  obtain ⟨P, h₁, h₂, h₃, h₄⟩ := queueEntries_drained (V := V) 0 ks
  refine ⟨P, C, by rw [hl, h₁], by rw [hl', h₂], fun p hp => ?_, fun e he _ => ?_⟩
  · obtain ⟨j, hj, hj'⟩ := h₃ p hp
    rw [own_removed hks (h₄ ▸ List.mem_map_of_mem hp), hj, hj']
    exact hr p.1 j
  · rw [h₄]
    obtain ⟨k, hk, rfl⟩ := List.mem_map.1 he
    exact hk

/-- The oldest task leaves the backlog, the others move on. -/
theorem take {r : Remover} {g : Stage V} (hks : (k :: ks).Nodup)
    (hl : l = queueEntries 0 (k :: ks) + C) (hl' : l' = (k, g) ::ₘ (queueEntries 0 ks + C))
    (hr : Stage.Next k (.queued 0) [.removed k r] g) : Transfer [.removed k r] l l' := by
  obtain ⟨P, h₁, h₂, h₃, h₄⟩ := queueEntries_advanced (V := V) 0 ks
  have hk := (List.nodup_cons.1 hks).1
  refine ⟨(k, .queued 0, g) :: P, C, ?_, ?_, fun p hp => ?_, fun e he _ => ?_⟩
  · rw [hl, queueEntries, h₁, befores_cons]
  · rw [hl', h₂, afters_cons, Multiset.cons_add]
  · rcases List.mem_cons.1 hp with rfl | hp
    · simpa [own] using hr
    · have hne : k ≠ p.1 := fun h => hk (by rw [h, ← h₄]; exact List.mem_map_of_mem hp)
      obtain ⟨j, hj, hj'⟩ := h₃ p hp
      have hown : own p.1 [(.removed k r : Event V)] = [] := by
        simpa [own] using hne
      rw [hown, hj, hj']
      exact .advance j
  · rw [List.mem_singleton.1 he]
    exact List.mem_cons_self

end Transfer

end WorkerPool
