/-
  The table of actions, and the states that a run reaches.

  * `Opening` are the calls that a free thread can begin, `Move` the actions
    of threads and of the world; `step_iff`: the table says what `State.step`
    does, no more and no less;
  * `State.Founded` are the states in which a pool has just begun to be built,
    `State.Reachable` the states of its runs, with the induction on a run;
  * `State.total` adds up over a run, `steps_total` bounds the sum by what the
    actions take it from.
-/
import WorkerPool.Proofs.Deed

namespace WorkerPool

variable {B V : Type}

/-! ## Beginning a call -/

/-- The call `c` can be begun: the state and the activities it begins with. -/
inductive Opening (s : State B V) : Call B → State B V → List (Activity V) → Prop where
  | submit {body} : Opening s (.submit body) { s with jobs := s.jobs ++ [.ofBody body] }
      [.submit s.jobs.length .count]
  | trySubmit {body} : Opening s (.trySubmit body) { s with jobs := s.jobs ++ [.ofBody body] }
      [.trySubmit s.jobs.length .count]
  | pop : Opening s .pop s [.pop none]
  | clear : Opening s .clear s [.clear .drain]
  | setCapacity {n} :
      Opening s (.setCapacity n) s [.setCapacity n (if n = 0 then .warn else .set)]
  | resize {n} : Opening s (.resize n) s [.resize n .enter]
  | stop {g} : Opening s (.stop g) s [.stop g .enter]
  | drop (hu : s.inUse = false) :
      Opening s .drop { s with life := .dropped } [.stop true .enter, .teardown .done]
  | ask {q} : Opening s (.ask q) s [.ask q]
  | metrics : Opening s .metrics s [.measure .roster .zero]
  | cancel {k} (hk : k < s.jobs.length) : Opening s (.cancel k) s [.cancel k]
  | isCancelled {k} (hk : k < s.jobs.length) : Opening s (.isCancelled k) s [.isCancelled k]
  | receive {k how} (hk : k < s.jobs.length) : Opening s (.receive k how) s [.receive k how]
  | joinAll {ks} (hk : ∀ k ∈ ks, k < s.jobs.length) :
      Opening s (.joinAll ks) s [.joinAll (ks.map .waiting)]
  | runTaken {k w} (hk : k ∈ s.taken) :
      Opening s (.runTaken k w) { s with taken := s.taken.erase k }
        [.task k w .inspect, .inline]
  | dropTaken {k} (hk : k ∈ s.taken) :
      Opening s (.dropTaken k) { s with taken := s.taken.erase k } [.discard [k] .done]

theorem opening_iff {s s' : State B V} {c : Call B} {next : List (Activity V)} :
    s.opening c = some (s', next) ↔ Opening s c s' next := by
  constructor
  · intro h
    cases c <;> simp only [State.opening, Option.ite_none_right_eq_some,
      Option.ite_none_left_eq_some] at h
    case submit => cases h; exact .submit
    case trySubmit => cases h; exact .trySubmit
    case pop => cases h; exact .pop
    case clear => cases h; exact .clear
    case setCapacity => cases h; exact .setCapacity
    case resize => cases h; exact .resize
    case stop => cases h; exact .stop
    case drop => obtain ⟨hu, h⟩ := h; cases h; exact .drop (by simpa using hu)
    case ask => cases h; exact .ask
    case metrics => cases h; exact .metrics
    case cancel => obtain ⟨hk, h⟩ := h; cases h; exact .cancel hk
    case isCancelled => obtain ⟨hk, h⟩ := h; cases h; exact .isCancelled hk
    case receive => obtain ⟨hk, h⟩ := h; cases h; exact .receive hk
    case joinAll => obtain ⟨hk, h⟩ := h; cases h; exact .joinAll (by simpa using hk)
    case runTaken => obtain ⟨hk, h⟩ := h; cases h; exact .runTaken hk
    case dropTaken => obtain ⟨hk, h⟩ := h; cases h; exact .dropTaken hk
  · intro h
    cases h with
    | drop hu => simp [State.opening, hu, Activity.ending]
    | joinAll hk => simpa [State.opening] using hk
    | cancel hk | isCancelled hk | receive hk | runTaken hk | dropTaken hk =>
      simp [State.opening, hk]
    | _ => rfl

/-! ## The table -/

/-- One action and the state after it. -/
inductive Move (s : State B V) : Action B V → State B V → Prop where
  | arrive : Move s .arrive { s with threads := s.threads ++ [.outside] }
  | call {t c th s₁ next} (ht : s.threads[t]? = some th) (hf : th.isFree = true)
      (hl : c.usesPool = true → s.life = .serving) (ho : Opening s c s₁ next) :
      Move s (.call t c)
        (s₁.modifyThread t fun th => { th with stack := next ++ th.stack, reply := none })
  | finish {t o th k w rest} (ht : s.threads[t]? = some th)
      (hs : th.stack = .task k w .body :: rest) :
      Move s (.finish t o) (State.settleTurn t ⟨s, [.task k w (.tally o)], none⟩)
  | hook {t th rest} (ht : s.threads[t]? = some th) (hs : th.stack = .work .hook :: rest) :
      Move s (.hook t false) (State.settleTurn t ⟨s, [.work .fetch], none⟩)
  | hookPanic {t th rest} (ht : s.threads[t]? = some th) (hs : th.stack = .work .hook :: rest) :
      Move s (.hook t true)
        ((State.settleTurn t ⟨s, [.work .leave], none⟩).modifyThread t ({ · with died := true }))
  | run {t c th a rest turn} (hw : s.backlog.isAsleep t = false) (ht : s.threads[t]? = some th)
      (hs : th.stack = a :: rest) (hd : Deed s t th c a turn) :
      Move s (.run t c) (State.settleTurn t turn)
  | expire {t th k rest} (ht : s.threads[t]? = some th)
      (hs : th.stack = .receive k .deadline :: rest) (hp : s.isPending k = true) :
      Move s (.expire t) (State.settleTurn t ⟨s, [], some (.result (.error .timedOut))⟩)
  | rouse {t} (hw : s.backlog.isAsleep t = true) :
      Move s (.rouse t) { s with backlog := s.backlog.rouse t }
  | tick {ns} : Move s (.tick ns) { s with clock := s.clock + ns }

@[simp] theorem settleTurn_backlog (t : ThreadId) (turn : Turn B V) :
    (State.settleTurn t turn).backlog = turn.state.backlog := rfl

theorem Thread.mem_of_stack {th : Thread V} {a : Activity V} {rest : List (Activity V)}
    (hs : th.stack = a :: rest) : a ∈ th.stack := by
  rw [hs]
  exact List.mem_cons_self

theorem top?_eq_some_iff {s : State B V} {t : ThreadId} {a : Activity V} :
    s.top? t = some a ↔ ∃ th rest, s.threads[t]? = some th ∧ th.stack = a :: rest := by
  cases ht : s.threads[t]? with
  | none => simp [State.top?, ht]
  | some th => simp [State.top?, ht, List.head?_eq_some_iff]

theorem run_iff {s s' : State B V} {t : ThreadId} {c : Chance} :
    s.run t c = some s' ↔ s.backlog.isAsleep t = false ∧ ∃ th a rest turn,
      s.threads[t]? = some th ∧ th.stack = a :: rest ∧ Deed s t th c a turn ∧
        s' = State.settleTurn t turn := by
  cases hw : s.backlog.isAsleep t with
  | true => simp [State.run, hw]
  | false =>
    cases ht : s.threads[t]? with
    | none => simp [State.run, hw, ht]
    | some th =>
      cases hs : th.stack with
      | nil => simp [State.run, hw, ht, hs]
      | cons a rest =>
        simp only [State.run, hw, ht, hs, Bool.false_eq_true, if_false, Option.map_eq_some_iff,
          act_iff, true_and, Option.some.injEq]
        constructor
        · rintro ⟨turn, hd, rfl⟩
          exact ⟨th, a, rest, turn, rfl, hs, hd, rfl⟩
        · rintro ⟨_, _, _, turn, rfl, hs', hd, rfl⟩
          cases hs.symm.trans hs'
          exact ⟨turn, hd, rfl⟩

/-- **The table says what an action does**, no more and no less. -/
theorem step_iff {s s' : State B V} {a : Action B V} : s.step a = some s' ↔ Move s a s' := by
  constructor
  · intro h
    cases a with
    | arrive => cases h; exact .arrive
    | call t c =>
      simp only [State.step, State.begin] at h
      split at h
      · cases h
      rename_i th ht
      simp only [Option.ite_none_right_eq_some, Bool.and_eq_true, Bool.or_eq_true,
        Bool.not_eq_true', beq_iff_eq, Option.map_eq_some_iff] at h
      obtain ⟨⟨hf, hl⟩, ⟨s₁, next⟩, ho, rfl⟩ := h
      exact .call ht hf (fun hu => hl.resolve_left (by simp [hu])) (opening_iff.1 ho)
    | finish t o =>
      simp only [State.step] at h
      split at h
      · rename_i hk
        obtain ⟨th, rest, ht, hs⟩ := top?_eq_some_iff.1 hk
        cases h
        exact .finish ht hs
      · cases h
    | hook t panics =>
      simp only [State.step] at h
      split at h
      · rename_i hk
        obtain ⟨th, rest, ht, hs⟩ := top?_eq_some_iff.1 hk
        cases panics with
        | true => cases h; exact .hookPanic ht hs
        | false => cases h; exact .hook ht hs
      · cases h
    | run t c =>
      obtain ⟨hw, th, a, rest, turn, ht, hs, hd, rfl⟩ := run_iff.1 h
      exact .run hw ht hs hd
    | expire t =>
      simp only [State.step] at h
      split at h
      · rename_i hk
        obtain ⟨th, rest, ht, hs⟩ := top?_eq_some_iff.1 hk
        simp only [Option.ite_none_right_eq_some] at h
        obtain ⟨hp, h⟩ := h
        cases h
        exact .expire ht hs hp
      · cases h
    | rouse t =>
      simp only [State.step, Option.ite_none_right_eq_some] at h
      obtain ⟨hw, h⟩ := h
      cases h
      exact .rouse hw
    | tick ns => cases h; exact .tick
  · intro h
    cases h with
    | arrive => rfl
    | @call t c th s₁ next ht hf hl ho =>
      have hu : (!c.usesPool || s.life == .serving) = true := by
        cases hc : c.usesPool with
        | false => rfl
        | true => simp [hl hc]
      simp [State.step, State.begin, ht, hf, hu, opening_iff.2 ho]
    | finish ht hs | hook ht hs | hookPanic ht hs =>
      rw [State.step, top?_eq_some_iff.2 ⟨_, _, ht, hs⟩]
      rfl
    | run hw ht hs hd => exact run_iff.2 ⟨hw, _, _, _, _, ht, hs, hd, rfl⟩
    | expire ht hs hp => simp [State.step, top?_eq_some_iff.2 ⟨_, _, ht, hs⟩, hp]
    | rouse hw => simp [State.step, hw]
    | tick => rfl

/-! ## Runs -/

/-- A pool that one thread has just begun to build, of any configuration. -/
def State.Founded (s : State B V) : Prop :=
  ∃ name hooked capacity interval workers, s = founding name hooked capacity interval workers

theorem State.founded_founding {name : String} {hooked : Bool} {capacity : Option Nat}
    {interval workers : Nat} :
    (State.founding name hooked capacity interval workers : State B V).Founded :=
  ⟨name, hooked, capacity, interval, workers, rfl⟩

/-- A state of some run of some pool. -/
def State.Reachable (s : State B V) : Prop :=
  ∃ (s₀ : State B V) (as : List (Action B V)), s₀.Founded ∧ s₀.steps as = some s

/-- A thread takes several steps in a row, in which threads are granted and
    the first of the sleepers is woken. -/
def paces (t : ThreadId) (n : Nat) : List (Action B V) := List.replicate n (.run t ⟨0, true⟩)

theorem steps_nil (s : State B V) : s.steps [] = some s := rfl

theorem steps_cons {s s' : State B V} {a : Action B V} {as : List (Action B V)} :
    s.steps (a :: as) = some s' ↔ ∃ s₁, Move s a s₁ ∧ s₁.steps as = some s' := by
  simp only [State.steps, List.foldlM_cons, Option.bind_eq_bind, Option.bind_eq_some_iff,
    step_iff]

theorem steps_append {s s' : State B V} {as bs : List (Action B V)} :
    s.steps (as ++ bs) = some s' ↔ ∃ s₁, s.steps as = some s₁ ∧ s₁.steps bs = some s' := by
  simp only [State.steps, List.foldlM_append, Option.bind_eq_bind, Option.bind_eq_some_iff]

theorem steps_concat {s s' : State B V} {as : List (Action B V)} {a : Action B V} :
    s.steps (as ++ [a]) = some s' ↔ ∃ s₁, s.steps as = some s₁ ∧ Move s₁ a s' := by
  simp only [steps_append, steps_cons, steps_nil, Option.some.injEq, exists_eq_right]

/-- What every action keeps, a run keeps. -/
theorem steps_keep {P : State B V → Prop} (move : ∀ s a s', P s → Move s a s' → P s')
    {s s' : State B V} {as : List (Action B V)} (h : P s) (has : s.steps as = some s') : P s' := by
  induction as generalizing s with
  | nil => cases has; exact h
  | cons a as ih =>
    obtain ⟨s₁, hm, has⟩ := steps_cons.1 has
    exact ih (move s a s₁ h hm) has

/-- A sum over the actions of a run. -/
def State.total (f : State B V → Action B V → Nat) (s : State B V) : List (Action B V) → Nat
  | [] => 0
  | a :: as =>
    match s.step a with
    | some s' => f s a + s'.total f as
    | none => 0

theorem total_cons {f : State B V → Action B V → Nat} {s s' : State B V} {a : Action B V}
    {as : List (Action B V)} (hm : Move s a s') :
    s.total f (a :: as) = f s a + s'.total f as := by
  simp only [State.total, step_iff.2 hm]

/-- What every action takes out of a store, a run takes out of it. -/
theorem steps_total {P : State B V → Prop} {f : State B V → Action B V → Nat}
    {g : State B V → Nat} (move : ∀ s a s', P s → Move s a s' → P s' ∧ g s' + f s a ≤ g s)
    {s s' : State B V} {as : List (Action B V)} (h : P s) (has : s.steps as = some s') :
    g s' + s.total f as ≤ g s := by
  induction as generalizing s with
  | nil => cases has; exact Nat.le_refl _
  | cons a as ih =>
    obtain ⟨s₁, hm, has⟩ := steps_cons.1 has
    obtain ⟨h₁, htake⟩ := move s a s₁ h hm
    have hrest := ih h₁ has
    rw [total_cons hm]
    omega

namespace State.Reachable

variable {s s' : State B V}

theorem of_founded (h : s.Founded) : s.Reachable := ⟨s, [], h, rfl⟩

theorem next {a : Action B V} (h : s.Reachable) (hm : Move s a s') : s'.Reachable := by
  obtain ⟨s₀, as, h₀, has⟩ := h
  exact ⟨s₀, as ++ [a], h₀, steps_concat.2 ⟨s, has, hm⟩⟩

theorem run {as : List (Action B V)} (h : s.Reachable) (has : s.steps as = some s') :
    s'.Reachable := by
  obtain ⟨s₀, bs, h₀, hbs⟩ := h
  exact ⟨s₀, bs ++ as, h₀, steps_append.2 ⟨s, hbs, has⟩⟩

/-- What every action of a reachable state keeps, a run from there keeps. -/
theorem keep {P : State B V → Prop} (h : s.Reachable)
    (move : ∀ s a s', s.Reachable → P s → Move s a s' → P s') (hP : P s)
    {as : List (Action B V)} (has : s.steps as = some s') : P s' :=
  (steps_keep (P := fun s => s.Reachable ∧ P s)
    (fun s a s' h hm => ⟨h.1.next hm, move s a s' h.1 h.2 hm⟩) ⟨h, hP⟩ has).2

/-- Induction on a run: what holds at the founding and is kept by every
    action of a reachable state holds in every reachable state. -/
theorem induct {P : State B V → Prop} (founded : ∀ s, s.Founded → P s)
    (move : ∀ s a s', s.Reachable → P s → Move s a s' → P s') (h : s.Reachable) : P s := by
  obtain ⟨s₀, as, h₀, has⟩ := h
  exact (of_founded h₀).keep move (founded s₀ h₀) has

end State.Reachable

end WorkerPool
