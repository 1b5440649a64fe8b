/-
  What happens to a task happens to it once.

  * `Event.rank` orders the events of a task, `Stage.Log.ordered`: they happen
    in that order, each at most once;
  * `tasksOf p es` are the tasks of the events of a kind, in the order in which
    these happen;
  * `State.Founded.tasksOf_nodup`: no task of a run is among them twice.
-/
import WorkerPool.Proofs.Story

namespace WorkerPool

variable {B V : Type}

/-! ## The order of the events of a task -/

/-- How late an event comes in the life of a task; a cancellation, which can
    come at any time, apart. -/
@[simp] def Event.rank : Event V → Nat
  | removed .. => 0
  | begun _ => 1
  | called _ => 2
  | ended .. => 3
  | sent .. => 4
  | dropped _ => 5
  | cancelled _ => 6

section
variable {k : TaskId} {t : ThreadId} {g : Stage V} {es es' : List (Event V)}

theorem Fetched.exists_removed (h : Fetched k t es) : ∃ r, es = [.removed k r] := by
  rcases h with rfl | ⟨u, rfl⟩ <;> exact ⟨_, rfl⟩

theorem Ran.ordered {r : TaskResult V} (h : Ran k t r es) :
    es.Pairwise (·.rank < ·.rank) ∧ ∀ e ∈ es, e.rank < 4 := by
  cases h with
  | skipped h | ended o h =>
    obtain ⟨r, rfl⟩ := h.exists_removed
    simp

/-- **The events of a task come in one order**, none of them twice. -/
theorem Stage.Log.ordered (h : g.Log k es) : es.Pairwise (·.rank < ·.rank) := by
  cases h with
  | fetched h | skipping h | inBody h | tallying o h =>
    obtain ⟨r, rfl⟩ := h.exists_removed
    simp
  | settling h => exact h.ordered.1
  | finished h =>
    refine List.pairwise_append.2 ⟨h.ordered.1, List.pairwise_singleton .., fun e he e' he' => ?_⟩
    rw [List.mem_singleton.1 he']
    exact h.ordered.2 e he
  | _ => simp

theorem countP_le_one_of_ordered (h : es.Pairwise (·.rank < ·.rank)) {p : Event V → Bool} {n : Nat}
    (hp : ∀ e, p e = true → e.rank = n) : es.countP p ≤ 1 := by
  rw [List.countP_eq_length_filter]
  have hord := h.filter p
  match hes : es.filter p with
  | [] => exact Nat.zero_le 1
  | [e] => exact Nat.le_refl 1
  | e :: e' :: es' =>
    rw [hes] at hord
    have hrank {x : Event V} (hx : x ∈ es.filter p) : x.rank = n := hp x (List.mem_filter.1 hx).2
    have hlt := (List.pairwise_cons.1 hord).1 e' List.mem_cons_self
    rw [hrank (hes ▸ List.mem_cons_self),
      hrank (hes ▸ List.mem_cons_of_mem _ List.mem_cons_self)] at hlt
    exact absurd hlt (Nat.lt_irrefl n)

end

/-! ## Kinds of events -/

namespace Event

/-- A task leaves the backlog. -/
@[simp] def isRemoval : Event V → Bool
  | removed .. => true
  | _ => false

/-- A caller takes a task out. -/
@[simp] def isPop : Event V → Bool
  | removed _ (.caller _) => true
  | _ => false

/-- The body of a task is called. -/
@[simp] def isCall : Event V → Bool
  | called _ => true
  | _ => false

end Event

/-! ## The tasks of a kind of events -/

/-- The tasks to which something of a kind happens, in the order in which it
    happens. -/
def tasksOf (p : Event V → Bool) (es : List (Event V)) : List TaskId := (es.filter p).map Event.task

section
variable {p : Event V → Bool} {k : TaskId} {es es' : List (Event V)}

theorem tasksOf_append (p : Event V → Bool) (es es' : List (Event V)) :
    tasksOf p (es ++ es') = tasksOf p es ++ tasksOf p es' := by
  simp only [tasksOf, List.filter_append, List.map_append]

theorem mem_tasksOf : k ∈ tasksOf p es ↔ ∃ e ∈ es, p e = true ∧ e.task = k := by
  simp [tasksOf, and_assoc]

theorem length_tasksOf (p : Event V → Bool) (es : List (Event V)) :
    (tasksOf p es).length = es.countP p := by
  rw [tasksOf, List.length_map, List.countP_eq_length_filter]

/-- How often a task is among them is told by what happens to it. -/
theorem count_tasksOf (hp : ∀ k, p (.cancelled k) = false) :
    (tasksOf p es).count k = (own k es).countP p := by
  have hown {e : Event V} (he : p e = true) : e.isOwn = true := by
    cases e with
    | cancelled k =>
      rw [hp] at he
      cases he
    | _ => rfl
  rw [tasksOf, List.count_eq_countP, List.countP_map, List.countP_filter, own, List.countP_filter]
  refine List.countP_congr fun e _ => ?_
  simp only [Function.comp_apply, Event.befalls, Bool.and_eq_true, beq_iff_eq]
  constructor
  · rintro ⟨hk, he⟩
    exact ⟨he, hown he, hk⟩
  · rintro ⟨he, -, hk⟩
    exact ⟨hk, he⟩

theorem mem_tasksOf_iff (hp : ∀ k, p (.cancelled k) = false) :
    k ∈ tasksOf p es ↔ 0 < (own k es).countP p := by
  rw [← count_tasksOf hp, List.count_pos_iff]

/-- **What happens to a task happens to it once.** -/
theorem State.Founded.tasksOf_nodup {s₀ s : State B V} (h₀ : s₀.Founded)
    {as : List (Action B V)} (has : s₀.steps as = some s) {n : Nat}
    (hc : ∀ k, p (.cancelled k) = false) (hp : ∀ e, p e = true → e.rank = n) :
    (tasksOf p (s₀.chronicle as)).Nodup := by
  refine List.nodup_iff_count_le_one.2 fun k => ?_
  rw [count_tasksOf hc]
  by_cases hk : k < s.jobs.length
  · obtain ⟨g, hg⟩ := ((Reachable.of_founded h₀).run has).ledgered.exists hk
    exact countP_le_one_of_ordered (h₀.story has hg).log.ordered hp
  · rw [h₀.own_eq_nil has (Nat.not_lt.1 hk)]
    exact Nat.zero_le 1

end

end WorkerPool
