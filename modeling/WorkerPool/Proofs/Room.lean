/-
  How full the backlog gets.

  * `State.sets` is the capacity that an action sets, `State.lengthAtSet` how
    many tasks were in the backlog when a run last set one;
  * `Move.length_le`: the backlog grows only where there is room, and a new
    capacity takes nothing out of it;
  * `State.Founded.bounded`: so its length is at most the capacity, or what it
    was when the capacity was last set.
-/
import WorkerPool.Proofs.Arrivals
import WorkerPool.Proofs.Wakeups

namespace WorkerPool

variable {B V : Type}

/-! ## Setting the capacity -/

namespace State

/-- The number of tasks in the backlog. -/
def queued (s : State B V) : Nat := s.backlog.tasks.length

/-- The capacity that an action asks for, if it sets one. -/
def sets (s : State B V) : Action B V → Option Nat
  | .run t _ =>
    match s.top? t with
    | some (.setCapacity n .set) => some n
    | _ => none
  | _ => none

/-- How many tasks were in the backlog when a run last set the capacity; `n` if
    it has set none. -/
def lengthAtSet (s : State B V) (n : Nat) : List (Action B V) → Nat
  | [] => n
  | a :: as =>
    match s.step a with
    | some s' => s'.lengthAtSet (if (s.sets a).isSome then s.queued else n) as
    | none => n

end State

section
variable {s s' : State B V} {t : ThreadId} {th : Thread V} {c : Chance} {a : Activity V}
  {turn : Turn B V} {as : List (Action B V)} {n : Nat}

theorem lengthAtSet_cons {x : Action B V} (hm : Move s x s') :
    s.lengthAtSet n (x :: as) =
      s'.lengthAtSet (if (s.sets x).isSome then s.queued else n) as := by
  simp only [State.lengthAtSet, step_iff.2 hm]

theorem sets_run {rest : List (Activity V)} (ht : s.threads[t]? = some th)
    (hs : th.stack = a :: rest) :
    s.sets (.run t c) = match a with | .setCapacity n .set => some n | _ => none := by
  simp only [State.sets, top?_eq_some_iff.2 ⟨th, rest, ht, hs⟩]
  cases a with
  | setCapacity n p => cases p <;> rfl
  | _ => rfl

/-- A step that does not set the capacity leaves it alone. -/
theorem Deed.capacity (hd : Deed s t th c a turn) (ha : ∀ n, a ≠ .setCapacity n .set) :
    turn.state.backlog.capacity = s.backlog.capacity := by
  cases hd with
  | capacitySet => exact absurd rfl (ha _)
  | clear hp | clearEnd hp | purge hp | purgeEnd hp | sweep hp | sweepEnd hp => cases hp <;> rfl
  | _ => rfl

/-- **The capacity is what was asked for**, or one where that is zero; in any
    other action it stays. -/
theorem Move.capacity {x : Action B V} (hm : Move s x s') :
    s'.backlog.capacity = ((s.sets x).map (max · 1)).getD s.backlog.capacity := by
  cases hm with
  | call _ _ _ ho => exact congrArg Backlog.capacity ho.backlog
  | @run t c th a rest turn hw ht hs hd =>
    rw [sets_run ht hs, settleTurn_backlog]
    by_cases ha : ∃ n, a = .setCapacity n .set
    · obtain ⟨n, rfl⟩ := ha
      cases hd
      rfl
    · simp only [not_exists] at ha
      rw [hd.capacity ha]
      cases a with
      | setCapacity n p =>
        cases p with
        | set => exact absurd rfl (ha n)
        | _ => rfl
      | _ => rfl
  | _ => rfl

/-! ## The length of the backlog -/

/-- What an action appends is one task at most, and there is room for it. -/
theorem appended_eq (s : State B V) (x : Action B V) :
    s.appended x = [] ∨ (s.appended x).length = 1 ∧ s.queued < s.backlog.capacity ∧
      s.sets x = none := by
  cases x with
  | run t c =>
    simp only [State.appended, State.sets]
    cases s.top? t with
    | none => exact .inl rfl
    | some a =>
      by_cases hroom : s.backlog.hasRoom = true
      · cases a with
        | submit k p =>
          cases p with
          | push => exact .inr ⟨by simp [State.appending, hroom], of_decide_eq_true hroom, rfl⟩
          | _ => exact .inl rfl
        | trySubmit k p =>
          cases p with
          | push => exact .inr ⟨by simp [State.appending, hroom], of_decide_eq_true hroom, rfl⟩
          | _ => exact .inl rfl
        | _ => exact .inl rfl
      · left
        simp only [State.appending]
        split <;> simp [hroom]
  | _ => exact .inl rfl

theorem Move.queued {x : Action B V} (hm : Move s x s') :
    s'.queued + (departures (s.events x)).length = s.queued + (s.appended x).length := by
  have hlen := congrArg List.length hm.passage
  simp only [List.length_append] at hlen
  simp only [State.queued]
  omega

/-- **The backlog grows only where there is room.** -/
theorem Move.queued_le {x : Action B V} (hm : Move s x s') :
    s'.queued ≤ s.queued ∨ s.queued < s.backlog.capacity ∧ s'.queued ≤ s.backlog.capacity := by
  have hlen := hm.queued
  rcases appended_eq s x with hnone | ⟨hone, hroom, -⟩
  · rw [hnone] at hlen
    exact .inl (by simp at hlen; omega)
  · exact .inr ⟨hroom, by omega⟩

/-- Setting the capacity takes nothing out of the backlog. -/
theorem Move.tasks_of_sets {x : Action B V} (hm : Move s x s') (hn : s.sets x = some n) :
    s'.backlog.tasks = s.backlog.tasks := by
  cases hm with
  | @run t c th a rest turn hw ht hs hd =>
    rw [sets_run ht hs] at hn
    split at hn
    · cases hd
      rfl
    · cases hn
  | _ => cases hn

/-- The length of the backlog is bounded by the capacity, or by what it was
    when that was last set. -/
theorem queued_le_lengthAtSet (has : s.steps as = some s')
    (h : s.queued ≤ max s.backlog.capacity n) :
    s'.queued ≤ max s'.backlog.capacity (s.lengthAtSet n as) := by
  induction as generalizing s n with
  | nil => cases has; exact h
  | cons x as ih =>
    obtain ⟨s₁, hm, has⟩ := steps_cons.1 has
    rw [lengthAtSet_cons hm]
    apply ih has
    cases hx : s.sets x with
    | some m =>
      have hsame : s₁.queued = s.queued := congrArg List.length (hm.tasks_of_sets hx)
      simp only [Option.isSome_some, if_true]
      omega
    | none =>
      have hcap : s₁.backlog.capacity = s.backlog.capacity := by simpa [hx] using hm.capacity
      have hle := hm.queued_le
      simp only [Option.isSome_none, Bool.false_eq_true, if_false]
      omega

/-! ## The bound -/

theorem State.Reachable.one_le_capacity (h : s.Reachable) : 1 ≤ s.backlog.capacity := by
  refine h.induct (P := fun s => 1 ≤ s.backlog.capacity) ?_ fun s x s' _ ih hm => ?_
  · rintro s ⟨name, hooked, capacity, interval, workers, rfl⟩
    exact Nat.le_max_right _ _
  · rw [hm.capacity]
    cases s.sets x with
    | none => exact ih
    | some n => exact Nat.le_max_right _ _

/-- The backlog does not grow in a run in which there never is room. -/
theorem exists_room (has : s.steps as = some s') (h : s.queued < s'.queued) :
    ∃ bs cs s₁, as = bs ++ cs ∧ s.steps bs = some s₁ ∧ s₁.queued < s₁.backlog.capacity := by
  induction as generalizing s with
  | nil =>
    cases has
    exact absurd h (Nat.lt_irrefl _)
  | cons x as ih =>
    obtain ⟨s₁, hm, has⟩ := steps_cons.1 has
    by_cases hlt : s₁.queued < s'.queued
    · obtain ⟨bs, cs, s₂, rfl, hbs, hroom⟩ := ih has hlt
      exact ⟨x :: bs, cs, s₂, rfl, steps_cons.2 ⟨s₁, hm, hbs⟩, hroom⟩
    · refine ⟨[], x :: as, s, rfl, rfl, ?_⟩
      rcases hm.queued_le with hle | ⟨hroom, -⟩
      · omega
      · exact hroom

/-- Where no capacity is set below the length of the backlog, this stays within
    the capacity. -/
theorem queued_le_capacity (has : s.steps as = some s') (h : s.queued ≤ s.backlog.capacity)
    (hset : ∀ bs x cs s₁ n, as = bs ++ x :: cs → s.steps bs = some s₁ → s₁.sets x = some n →
      s₁.queued ≤ max n 1) : s'.queued ≤ s'.backlog.capacity := by
  induction as generalizing s with
  | nil => cases has; exact h
  | cons x as ih =>
    obtain ⟨s₁, hm, has⟩ := steps_cons.1 has
    refine ih has ?_ fun bs y cs s₂ n has hbs => ?_
    · rw [hm.capacity]
      cases hx : s.sets x with
      | none =>
        show s₁.queued ≤ s.backlog.capacity
        have := hm.queued_le
        omega
      | some n =>
        have hsame : s₁.queued = s.queued := congrArg List.length (hm.tasks_of_sets hx)
        rw [hsame]
        exact hset [] x as s n rfl rfl hx
    · exact hset (x :: bs) y cs s₂ n (by rw [has]; rfl) (steps_cons.2 ⟨s₁, hm, hbs⟩)

/-- A producer that looks for room and finds it puts its task into the backlog. -/
theorem run_push {k : TaskId} (hp : a = .submit k .push ∨ a = .trySubmit k .push)
    (ht : s.top? t = some a) (hw : s.backlog.isAsleep t = false)
    (hroom : s.queued < s.backlog.capacity) (c : Chance) :
    ∃ s', s.run t c = some s' ∧ s'.backlog.tasks = s.backlog.tasks ++ [k] := by
  obtain ⟨th, rest, hth, hs⟩ := top?_eq_some_iff.1 ht
  rcases hp with rfl | rfl
  · exact ⟨_, run_iff.2 ⟨hw, th, _, rest, _, hth, hs, .submitPush hroom, rfl⟩, rfl⟩
  · exact ⟨_, run_iff.2 ⟨hw, th, _, rest, _, hth, hs, .tryPush hroom, rfl⟩, rfl⟩

/-- In the middle of setting the capacity nobody touches the tasks. -/
theorem Deed.setCapacity {p : CapacityPoint} (hd : Deed s t th c (.setCapacity n p) turn) :
    turn.state.backlog.tasks = s.backlog.tasks ∧
      (p = .set → turn.state.backlog.capacity = max n 1) := by
  cases hd with
  | capacityWarn | capacityWake => exact ⟨rfl, nofun⟩
  | capacitySet => exact ⟨rfl, fun _ => rfl⟩

/-- **The backlog is bounded, whatever becomes of its capacity.**  There is room
    for one task at least.  A task is appended only where the backlog stays
    within the capacity of that moment, so its length is at most the capacity,
    or what it was when the capacity was last set.  It stays within the capacity
    as long as none is set below its length, and it does not grow before there
    is room.  Setting a capacity takes no task out.  A producer that finds the
    backlog empty gets its task in, and none waits beside an empty backlog when
    all is at rest. -/
theorem State.Founded.bounded {s₀ : State B V} (h₀ : s₀.Founded) (has : s₀.steps as = some s) :
    1 ≤ s.backlog.capacity ∧
    (∀ x s', s.step x = some s' → s.appended x ≠ [] →
      s'.queued ≤ s'.backlog.capacity ∧ s'.backlog.capacity = s.backlog.capacity) ∧
    s.queued ≤ max s.backlog.capacity (s₀.lengthAtSet 0 as) ∧
    (∀ bs s', s.steps bs = some s' →
      (s.queued ≤ s.backlog.capacity →
        (∀ cs x ds s₁ n, bs = cs ++ x :: ds → s.steps cs = some s₁ → s₁.sets x = some n →
          s₁.queued ≤ max n 1) → s'.queued ≤ s'.backlog.capacity) ∧
      (s.queued < s'.queued → ∃ cs ds s₁, bs = cs ++ ds ∧ s.steps cs = some s₁ ∧
        s₁.queued < s₁.backlog.capacity)) ∧
    (∀ t c n p s', s.top? t = some (.setCapacity n p) → s.run t c = some s' →
      s'.backlog.tasks = s.backlog.tasks ∧ (p = .set → s'.backlog.capacity = max n 1)) ∧
    (s.backlog.tasks = [] →
      (∀ t a k c, a = .submit k .push ∨ a = .trySubmit k .push → s.top? t = some a →
        s.backlog.isAsleep t = false → ∃ s', s.run t c = some s' ∧ s'.backlog.tasks = [k]) ∧
      (s.AtRest → ∀ t, ¬ s.Pushes t)) := by
  have hr : s.Reachable := (Reachable.of_founded h₀).run has
  have hcap := hr.one_le_capacity
  refine ⟨hcap, fun x s' hx hne => ?_, ?_,
    fun bs s' hbs => ⟨queued_le_capacity hbs, exists_room hbs⟩,
    fun t c n p s' ht hrun => ?_, fun hempty => ⟨fun t a k c ha ht hw => ?_, fun hrest t ht => ?_⟩⟩
  · have hm := step_iff.1 hx
    obtain ⟨hone, hroom, hsets⟩ := (appended_eq s x).resolve_left hne
    have hsame : s'.backlog.capacity = s.backlog.capacity := by simpa [hsets] using hm.capacity
    have hlen := hm.queued
    exact ⟨by omega, hsame⟩
  · refine queued_le_lengthAtSet has ?_
    rw [State.queued, h₀.tasks_nil]
    exact Nat.zero_le _
  · obtain ⟨-, th, a, rest, turn, hth, hs, hd, rfl⟩ := run_iff.1 hrun
    cases ht.symm.trans (top?_eq_some_iff.2 ⟨th, rest, hth, hs⟩)
    exact hd.setCapacity
  · have hroom : s.queued < s.backlog.capacity := by
      rw [State.queued, hempty]
      exact hcap
    simpa [hempty] using run_push ha ht hw hroom c
  · have hfull := hrest.capacity_le hr ht
    rw [hempty] at hfull
    exact Nat.not_succ_le_zero 0 (Nat.le_trans hcap hfull)

end

/-- A run in which the capacity is set to zero below the length of the backlog,
    and a producer then waits for room. -/
def loweringRun : List (Action Unit Unit) :=
  [paces 0 4, [.call 0 (.submit ())], paces 0 3, [.call 0 (.submit ())], paces 0 3,
    [.call 0 (.setCapacity 0)], paces 0 3, [.arrive, .call 1 (.submit ())], paces 1 2].flatten

/-- The rest of it: two tasks are taken out, and the producer gets in. -/
def refillingRun : List (Action Unit Unit) :=
  [[.call 0 .pop], paces 0 2, [.call 0 .pop], paces 0 2, paces 1 2].flatten

theorem bounded_loweringRun : ∃ s s' : State Unit Unit,
    (State.founding "pool" false (some 2) 1 0).steps loweringRun = some s ∧
    s.steps refillingRun = some s' ∧
    s.backlog.tasks = [0, 1] ∧ s.backlog.capacity = 1 ∧ s.Pushes 1 ∧
    (State.founding "pool" false (some 2) 1 0).lengthAtSet 0 loweringRun = 2 ∧
    s.queued ≤ max s.backlog.capacity
      ((State.founding "pool" false (some 2) 1 0).lengthAtSet 0 loweringRun) ∧
    s'.backlog.tasks = [2] ∧ 1 ≤ s'.backlog.capacity ∧ s'.queued ≤ max s'.backlog.capacity
      ((State.founding "pool" false (some 2) 1 0).lengthAtSet 0 (loweringRun ++ refillingRun)) := by
  have h₀ : (State.founding "pool" false (some 2) 1 0 : State Unit Unit).Founded :=
    State.founded_founding
  have hrun : ((State.founding "pool" false (some 2) 1 0).steps loweringRun).isSome = true := rfl
  obtain ⟨s, hs⟩ := Option.isSome_iff_exists.1 hrun
  have hrun' : (s.steps refillingRun).isSome = true := by cases hs; rfl
  obtain ⟨s', hs'⟩ := Option.isSome_iff_exists.1 hrun'
  obtain ⟨-, -, hle, -⟩ := h₀.bounded hs
  obtain ⟨hone, -, hle', -⟩ := h₀.bounded (steps_append.2 ⟨s, hs, hs'⟩)
  refine ⟨s, s', hs, hs', by cases hs; rfl, by cases hs; rfl, by cases hs; exact ⟨2, rfl⟩, rfl,
    hle, ?_, hone, hle'⟩
  cases hs
  cases hs'
  rfl

end WorkerPool
