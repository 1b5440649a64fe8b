/-
  The chronicle of a run: what happens to the tasks, in the order in which it
  happens.

  An `Event` is about one task: it leaves the backlog, its cancellation is
  asked for, it is begun, its body is called and ends, its result is sent, or
  it is dropped.  `State.events` are the events of one action, read off the
  activity of the thread that acts; `State.chronicle` are those of a run.

  `Event.isOwn`: a cancellation can be asked for at any time; all other events
  of a task happen to the task itself.  `Yields`: which step yields which event.
-/
import WorkerPool.Proofs.Shape

namespace WorkerPool

variable {B V : Type}

/-! ## Events -/

/-- Who took a task out of the backlog. -/
inductive Remover where
  /-- a worker that will run it -/
  | worker (t : ThreadId)
  /-- a caller that will hold it -/
  | caller (t : ThreadId)
  /-- a call that clears the backlog -/
  | clearing (t : ThreadId)
  /-- a pass of a stop -/
  | stop (t : ThreadId) (graceful : Bool)
  /-- the last one to hold a share of the pool -/
  | last (t : ThreadId)
  deriving DecidableEq, Repr

/-- What happens to a task in a step. -/
inductive Event (V : Type) where
  /-- the task leaves the backlog -/
  | removed (k : TaskId) (r : Remover)
  /-- a handle asks for its cancellation -/
  | cancelled (k : TaskId)
  /-- someone begins to run it and looks whether it was cancelled -/
  | begun (k : TaskId)
  /-- its body is called -/
  | called (k : TaskId)
  /-- its body ends -/
  | ended (k : TaskId) (o : Outcome V)
  /-- its result is sent to the handle -/
  | sent (k : TaskId) (r : TaskResult V)
  /-- it is dropped without having been run -/
  | dropped (k : TaskId)

namespace Event

/-- The task that an event is about. -/
@[simp] def task : Event V → TaskId
  | removed k _ | cancelled k | begun k | called k | ended k _ | sent k _ | dropped k => k

/-- Whether an event happens to the task itself. -/
@[simp] def isOwn : Event V → Bool
  | cancelled _ => false
  | _ => true

/-- Whether an event happens to this task itself. -/
@[simp] def befalls (k : TaskId) (e : Event V) : Bool := e.isOwn && e.task == k

end Event

/-- What happens to a task in a chronicle. -/
def own (k : TaskId) (es : List (Event V)) : List (Event V) := es.filter (Event.befalls k)

theorem own_append (k : TaskId) (es es' : List (Event V)) :
    own k (es ++ es') = own k es ++ own k es' := List.filter_append ..

theorem own_self {k : TaskId} {e : Event V} (he : e.befalls k = true) : own k [e] = [e] :=
  List.filter_cons_of_pos he

theorem mem_own {k : TaskId} {es : List (Event V)} {e : Event V} :
    e ∈ own k es ↔ e ∈ es ∧ e.isOwn = true ∧ e.task = k := by
  simp [own]

/-! ## The events of an action -/

namespace State

/-- The tasks in the backlog leave it together. -/
def emptied (s : State B V) (r : Remover) : List (Event V) :=
  s.backlog.tasks.map (.removed · r)

/-- The oldest task, if there is one, leaves the backlog. -/
def relieved (s : State B V) (r : Remover) : List (Event V) :=
  s.backlog.tasks.head?.toList.map (.removed · r)

/-- The events of a step of a clearing pass. -/
def cleared (s : State B V) (r : Remover) : Clearing → List (Event V)
  | .drain => s.emptied r
  | .drop (k :: _) _ => [.dropped k]
  | _ => []

/-- The events of the next step of thread `t` with this innermost activity. -/
def doing (s : State B V) (t : ThreadId) : Activity V → List (Event V)
  | .work .fetch | .work .await => s.relieved (.worker t)
  | .pop none => s.relieved (.caller t)
  | .work .leave | .teardown _ => if s.sharers ≤ 1 then s.emptied (.last t) else []
  | .task k _ .inspect => if s.isCancelled k then [.begun k] else [.begun k, .called k]
  | .task k _ (.settle r) => [.sent k r]
  | .trySubmit k (.drop _) => [.dropped k]
  | .clear p => s.cleared (.clearing t) p
  | .stop g (.purge p) | .stop g (.sweep p _) => s.cleared (.stop t g) p
  | .discard (k :: _) _ => [.dropped k]
  | .cancel k => [.cancelled k]
  | _ => []

/-- The events of an action. -/
def events (s : State B V) : Action B V → List (Event V)
  | .run t _ =>
    match s.top? t with
    | some a => s.doing t a
    | none => []
  | .finish t o =>
    match s.top? t with
    | some (.task k _ .body) => [.ended k o]
    | _ => []
  | _ => []

/-- The events of a run. -/
def chronicle (s : State B V) : List (Action B V) → List (Event V)
  | [] => []
  | a :: as =>
    match s.step a with
    | some s' => s.events a ++ s'.chronicle as
    | none => []

end State

section
variable {s s' : State B V}

theorem chronicle_cons {a : Action B V} {as : List (Action B V)} (h : s.step a = some s') :
    s.chronicle (a :: as) = s.events a ++ s'.chronicle as := by
  simp only [State.chronicle, h]

theorem chronicle_append {as bs : List (Action B V)} (h : s.steps as = some s') :
    s.chronicle (as ++ bs) = s.chronicle as ++ s'.chronicle bs := by
  induction as generalizing s with
  | nil => cases h; rfl
  | cons a as ih =>
    obtain ⟨s₁, hm, has⟩ := steps_cons.1 h
    rw [List.cons_append, chronicle_cons (step_iff.2 hm), chronicle_cons (step_iff.2 hm), ih has,
      List.append_assoc]

theorem chronicle_concat {as : List (Action B V)} {a : Action B V} (h : s.steps as = some s')
    {s'' : State B V} (hm : Move s' a s'') :
    s.chronicle (as ++ [a]) = s.chronicle as ++ s'.events a := by
  rw [chronicle_append h, chronicle_cons (step_iff.2 hm)]
  simp only [State.chronicle, List.append_nil]

/-- Induction on a run from a founding, with its chronicle. -/
theorem State.Founded.run_induct {P : State B V → List (Event V) → Prop} (h₀ : s.Founded)
    {as : List (Action B V)} (has : s.steps as = some s') (founded : P s [])
    (move : ∀ s₁ s₂ a es, s₁.Reachable → P s₁ es → Move s₁ a s₂ → P s₂ (es ++ s₁.events a)) :
    P s' (s.chronicle as) := by
  induction as using List.reverseRecOn generalizing s' with
  | nil => cases has; exact founded
  | append_singleton as a ih =>
    obtain ⟨s₁, has₁, hm⟩ := steps_concat.1 has
    rw [chronicle_concat has₁ hm]
    exact move s₁ s' a _ ((Reachable.of_founded h₀).run has₁) (ih has₁) hm

end

/-! ## Which step yields which event -/

/-- The next step of thread `t` with this innermost activity can yield this
    event. -/
inductive Yields (s : State B V) (t : ThreadId) : Activity V → Event V → Prop where
  | fetch {k} : Yields s t (.work .fetch) (.removed k (.worker t))
  | await {k} : Yields s t (.work .await) (.removed k (.worker t))
  | pop {k} : Yields s t (.pop none) (.removed k (.caller t))
  | leave {k} (hs : s.sharers ≤ 1) : Yields s t (.work .leave) (.removed k (.last t))
  | teardown {k r} (hs : s.sharers ≤ 1) : Yields s t (.teardown r) (.removed k (.last t))
  | clear {k} : Yields s t (.clear .drain) (.removed k (.clearing t))
  | purge {k g} : Yields s t (.stop g (.purge .drain)) (.removed k (.stop t g))
  | sweep {k g n} : Yields s t (.stop g (.sweep .drain n)) (.removed k (.stop t g))
  | begun {k w} : Yields s t (.task k w .inspect) (.begun k)
  | called {k w} (hc : s.isCancelled k = false) : Yields s t (.task k w .inspect) (.called k)
  | sent {k w r} : Yields s t (.task k w (.settle r)) (.sent k r)
  | cancelled {k} : Yields s t (.cancel k) (.cancelled k)
  | dropped {a k} : Yields s t a (.dropped k)

theorem mem_cleared {s : State B V} {r : Remover} {p : Clearing} {e : Event V}
    (h : e ∈ s.cleared r p) : (p = .drain ∧ ∃ k, e = .removed k r) ∨ ∃ k, e = .dropped k := by
  cases p with
  | drain =>
    obtain ⟨k, -, rfl⟩ := List.mem_map.1 h
    exact .inl ⟨rfl, k, rfl⟩
  | drop ks n =>
    cases ks with
    | nil => cases h
    | cons k ks => exact .inr ⟨k, List.mem_singleton.1 h⟩
  | wake | count => cases h

theorem yields_of_mem {s : State B V} {t : ThreadId} {a : Activity V} {e : Event V}
    (h : e ∈ s.doing t a) : Yields s t a e := by
  unfold State.doing at h
  split at h
  · obtain ⟨k, -, rfl⟩ := List.mem_map.1 h
    exact .fetch
  · obtain ⟨k, -, rfl⟩ := List.mem_map.1 h
    exact .await
  · obtain ⟨k, -, rfl⟩ := List.mem_map.1 h
    exact .pop
  · split at h
    · obtain ⟨k, -, rfl⟩ := List.mem_map.1 h
      exact .leave ‹_›
    · cases h
  · split at h
    · obtain ⟨k, -, rfl⟩ := List.mem_map.1 h
      exact .teardown ‹_›
    · cases h
  · split at h
    · cases List.mem_singleton.1 h
      exact .begun
    · rename_i hc
      rcases List.mem_cons.1 h with rfl | h
      · exact .begun
      · cases List.mem_singleton.1 h
        exact .called (by simpa using hc)
  · cases List.mem_singleton.1 h
    exact .sent
  · cases List.mem_singleton.1 h
    exact .dropped
  · rcases mem_cleared h with ⟨rfl, k, rfl⟩ | ⟨k, rfl⟩
    exacts [.clear, .dropped]
  · rcases mem_cleared h with ⟨rfl, k, rfl⟩ | ⟨k, rfl⟩
    exacts [.purge, .dropped]
  · rcases mem_cleared h with ⟨rfl, k, rfl⟩ | ⟨k, rfl⟩
    exacts [.sweep, .dropped]
  · cases List.mem_singleton.1 h
    exact .dropped
  · cases List.mem_singleton.1 h
    exact .cancelled
  · cases h

theorem yields_of_mem_events {s : State B V} {x : Action B V} {e : Event V} (h : e ∈ s.events x) :
    (∃ t c a, x = .run t c ∧ s.top? t = some a ∧ Yields s t a e) ∨
      ∃ t o k w, x = .finish t o ∧ s.top? t = some (.task k w .body) ∧ e = .ended k o := by
  cases x with
  | run t c =>
    simp only [State.events] at h
    split at h
    · rename_i a ht
      exact .inl ⟨t, c, a, rfl, ht, yields_of_mem h⟩
    · cases h
  | finish t o =>
    simp only [State.events] at h
    split at h
    · rename_i k w ht
      exact .inr ⟨t, o, k, w, rfl, ht, List.mem_singleton.1 h⟩
    · cases h
  | _ => cases h

end WorkerPool
