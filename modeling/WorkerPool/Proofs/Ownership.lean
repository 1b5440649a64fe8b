/-
  Exactly-once ownership of tasks.

  * `Place` is where a task can be; `State.places` are all places of a task,
    read off the ledger, with repetition;
  * `Place.Leads` says which place can come after which;
  * `State.Founded.exactly_once`: in every run each task is in exactly one
    place, moves on from there or stays, and has its body called at most once,
    and never if it was dropped.
-/
import WorkerPool.Proofs.Story

namespace WorkerPool

variable {B V : Type}

/-! ## Places -/

/-- Where a task can be. -/
inductive Place where
  /-- a producer carries it, still outside the backlog -/
  | carried (t : ThreadId)
  /-- at a position of the backlog -/
  | queued (i : Nat)
  /-- a caller has taken it out and holds it -/
  | held
  /-- a thread runs it -/
  | running (t : ThreadId)
  /-- it was run and its result is sent -/
  | finished
  /-- it was dropped without having been run, or is about to be -/
  | dropped
  deriving DecidableEq, Repr

/-- The way of a task: into the backlog, forward in it, out of it into the
    hands of a caller or of a worker, and to its end; or out of it all. -/
inductive Place.Leads : Place → Place → Prop where
  | enqueue (t i) : Leads (.carried t) (.queued i)
  | refuse (t) : Leads (.carried t) .dropped
  | advance (i) : Leads (.queued (i + 1)) (.queued i)
  | fetch (t) : Leads (.queued 0) (.running t)
  | takeOut : Leads (.queued 0) .held
  | clear (i) : Leads (.queued i) .dropped
  | run (t) : Leads .held (.running t)
  | discard : Leads .held .dropped
  | finish (t) : Leads (.running t) .finished

/-- The place of a task at a stage of its life. -/
def Stage.place : Stage V → Place
  | carried t => .carried t
  | queued i => .queued i
  | held => .held
  | fetched t | skipping t | inBody t | tallying t _ | settling t _ => .running t
  | finished _ => .finished
  | dropping | dropped => .dropped

/-- All places of a task. -/
def State.places (s : State B V) (k : TaskId) : Multiset Place :=
  (s.ledger.filter (·.1 = k)).map (·.2.place)

theorem Holds.place {t : ThreadId} {a : Activity V} {k : TaskId} {g : Stage V}
    (h : Holds t a k g) :
    g.place = .carried t ∨ g.place = .held ∨ g.place = .running t ∨ g.place = .dropped := by
  cases h with
  | @task _ _ p => cases p <;> exact .inr (.inr (.inl rfl))
  | work => exact .inr (.inr (.inl rfl))
  | submit | trySubmit => exact .inl rfl
  | pop => exact .inr (.inl rfl)
  | _ => exact .inr (.inr (.inr rfl))

theorem Stage.Next.leads {k : TaskId} {g g' : Stage V} {es : List (Event V)}
    (h : Stage.Next k g es g') : g'.place = g.place ∨ g.place.Leads g'.place := by
  cases h with
  | stay | skip | call | finish | tally | skipped | drop => exact .inl rfl
  | enqueue t i => exact .inr (.enqueue t i)
  | refuse t => exact .inr (.refuse t)
  | advance i => exact .inr (.advance i)
  | fetch t => exact .inr (.fetch t)
  | takeOut => exact .inr .takeOut
  | clear i | stop i | last i => exact .inr (.clear i)
  | run t => exact .inr (.run t)
  | discard => exact .inr .discard
  | send t => exact .inr (.finish t)

/-! ## One place at a time -/

section
variable {s s' : State B V} {k : TaskId}

theorem mem_places {p : Place} : p ∈ s.places k ↔ ∃ g, (k, g) ∈ s.ledger ∧ g.place = p := by
  simp only [State.places, Multiset.mem_map, Multiset.mem_filter]
  constructor
  · rintro ⟨⟨_, g⟩, ⟨hg, rfl⟩, rfl⟩
    exact ⟨g, hg, rfl⟩
  · rintro ⟨g, hg, rfl⟩
    exact ⟨(k, g), ⟨hg, rfl⟩, rfl⟩

theorem State.Ledgered.places_eq (h : s.Ledgered) {g : Stage V} (hg : (k, g) ∈ s.ledger) :
    s.places k = {g.place} := by
  have hcard : (s.places k).card = 1 := by
    have hcount : (s.places k).card = (s.ledger.map Prod.fst).count k := by
      rw [State.places, Multiset.card_map, Multiset.count_map]
      exact congrArg _ (Multiset.filter_congr fun _ _ => eq_comm)
    rw [hcount]
    exact Multiset.count_eq_one_of_mem h.nodup (Multiset.mem_map_of_mem Prod.fst hg)
  obtain ⟨p, hp⟩ := Multiset.card_eq_one.1 hcard
  have := mem_places.2 ⟨g, hg, rfl⟩
  rw [hp, Multiset.mem_singleton] at this
  rw [hp, this]

theorem exists_of_places {p : Place} (hp : s.places k = {p}) :
    ∃ g, (k, g) ∈ s.ledger ∧ g.place = p :=
  mem_places.1 (by rw [hp]; exact Multiset.mem_singleton_self p)

theorem mem_tasks_iff : k ∈ s.backlog.tasks ↔ ∃ i, (k, .queued i) ∈ s.ledger := by
  constructor
  · intro hk
    obtain ⟨i, hi⟩ := List.mem_iff_getElem?.1 hk
    exact ⟨i, mem_ledger.2 (.inr (.inl ⟨i, hi, rfl⟩))⟩
  · rintro ⟨i, hi⟩
    rcases mem_ledger.1 hi with ⟨t, th, -, a, -, ha⟩ | ⟨i, hi, -⟩ | ⟨-, hg⟩ | ⟨job, -, hent⟩
    · simpa [Stage.place] using (holds_of_mem ha).place
    · exact List.mem_of_getElem? hi
    · cases hg
    · rcases hent with ⟨r, -, hg⟩ | ⟨-, hg⟩ <;> cases hg

/-- **A task stays where it is or moves on.** -/
theorem Move.places {x : Action B V} (hm : Move s x s') (h : s.Ledgered) {p : Place}
    (hp : s.places k = {p}) : ∃ p', s'.places k = {p'} ∧ (p' = p ∨ p.Leads p') := by
  obtain ⟨g, hg, rfl⟩ := exists_of_places hp
  obtain ⟨g', hg', hn⟩ := hm.stage h hg
  exact ⟨g'.place, (hm.ledgered h).places_eq hg', hn.leads⟩

/-! ## Calls of the body -/

/-- Whether an event is a call of the body of this task. -/
def Event.calls (k : TaskId) : Event V → Bool
  | called k' => k' == k
  | _ => false

theorem countP_own {p : Event V → Bool} (hp : ∀ e, p e = true → e.befalls k = true)
    (es : List (Event V)) : (own k es).countP p = es.countP p := by
  rw [own, List.countP_filter]
  refine List.countP_congr fun e _ => ?_
  simp only [Bool.and_eq_true]
  exact ⟨And.left, fun h => ⟨h, hp e h⟩⟩

theorem Event.calls_befalls {e : Event V} (h : e.calls k = true) : e.befalls k = true := by
  cases e <;> simp_all [Event.calls]

theorem Fetched.countP_calls {t : ThreadId} {es : List (Event V)} (h : Fetched k t es) :
    es.countP (Event.calls k) = 0 := by
  rcases h with rfl | ⟨u, rfl⟩ <;> rfl

theorem Ran.countP_calls_le {t : ThreadId} {r : TaskResult V} {es : List (Event V)}
    (h : Ran k t r es) : es.countP (Event.calls k) ≤ 1 := by
  cases h with
  | skipped h | ended o h =>
    rw [List.countP_append, h.countP_calls]
    simp [Event.calls]

theorem Stage.Log.countP_calls_le {g : Stage V} {es : List (Event V)} (h : g.Log k es) :
    es.countP (Event.calls k) ≤ 1 := by
  cases h with
  | fetched h => simp [h.countP_calls]
  | skipping h | inBody h | tallying o h =>
    rw [List.countP_append, h.countP_calls]
    simp [Event.calls]
  | settling h => exact h.countP_calls_le
  | finished h =>
    rw [List.countP_append]
    exact h.countP_calls_le
  | _ => exact Nat.zero_le 1

theorem Stage.Log.countP_calls_dropped {g : Stage V} {es : List (Event V)} (h : g.Log k es)
    (hg : g.place = .dropped) : es.countP (Event.calls k) = 0 := by
  cases h with
  | dropping | refused | dropped => rfl
  | _ => cases hg

/-! ## Exactly once -/

/-- **Every task has exactly one owner, and its body is called at most once.**
    In every reachable state a task is in exactly one place; in every action
    it stays there or moves on along its way; its body is called at most once,
    and not at all if it was dropped. -/
theorem State.Founded.exactly_once {s₀ s : State B V} (h₀ : s₀.Founded) {as : List (Action B V)}
    (has : s₀.steps as = some s) :
    (∀ k < s.jobs.length, ∃ p, s.places k = {p}) ∧
    (∀ x s', s.step x = some s' → ∀ k p, s.places k = {p} →
      ∃ p', s'.places k = {p'} ∧ (p' = p ∨ p.Leads p')) ∧
    (∀ k, (s₀.chronicle as).countP (Event.calls k) ≤ 1) ∧
    (∀ k, s.places k = {.dropped} → (s₀.chronicle as).countP (Event.calls k) = 0) := by
  have hr : s.Reachable := (Reachable.of_founded h₀).run has
  refine ⟨fun k hk => ?_, fun x s' hx k p hp => ?_, fun k => ?_, fun k hk => ?_⟩
  · obtain ⟨g, hg⟩ := hr.ledgered.exists hk
    exact ⟨g.place, hr.ledgered.places_eq hg⟩
  · exact (step_iff.1 hx).places hr.ledgered hp
  · rw [← countP_own fun _ => Event.calls_befalls]
    by_cases hk : k < s.jobs.length
    · obtain ⟨g, hg⟩ := hr.ledgered.exists hk
      exact (h₀.story has hg).log.countP_calls_le
    · rw [h₀.own_eq_nil has (Nat.not_lt.1 hk)]
      exact Nat.zero_le 1
  · obtain ⟨g, hg, hp⟩ := exists_of_places hk
    rw [← countP_own fun _ => Event.calls_befalls]
    exact (h₀.story has hg).log.countP_calls_dropped hp

end

/-- A run in which one task is run to its end, one is taken out, one is thrown
    away, one waits in the backlog, and one is on its way into it. -/
def mixedRun : List (Action Unit Unit) :=
  [paces 0 5, [.call 0 (.submit ())], paces 0 3, paces 1 3,
    [.call 0 (.submit ())], paces 0 3, [.call 0 (.submit ())], paces 0 3,
    [.call 0 .pop], paces 0 2, [.call 0 .clear], paces 0 5,
    [.call 0 (.submit ())], paces 0 3, [.finish 1 (.returned ())], paces 1 2,
    [.call 0 (.submit ())]].flatten

theorem exactly_once_mixedRun : ∃ s : State Unit Unit,
    (State.founding "pool" false none 1 1).steps mixedRun = some s ∧
    s.places 0 = {.finished} ∧ s.places 1 = {.held} ∧ s.places 2 = {.dropped} ∧
    s.places 3 = {.queued 0} ∧ s.places 4 = {.carried 0} ∧ (∃ p, s.places 4 = {p}) ∧
    ((State.founding "pool" false none 1 1).chronicle mixedRun).countP (Event.calls 0) ≤ 1 ∧
    ((State.founding "pool" false none 1 1).chronicle mixedRun).countP (Event.calls 2) = 0 := by
  obtain ⟨s, hs, hfacts⟩ := Option.map_eq_some_iff.1
    (show ((State.founding "pool" false none 1 1).steps mixedRun).map
        (fun s => (s.jobs.length, (List.range 5).map s.places)) =
      some (5, [{.finished}, {.held}, {.dropped}, {.queued 0}, {.carried 0}]) by decide +kernel)
  obtain ⟨hlen, h0, h1, h2, h3, h4⟩ : s.jobs.length = 5 ∧ s.places 0 = {.finished} ∧
      s.places 1 = {.held} ∧ s.places 2 = {.dropped} ∧ s.places 3 = {.queued 0} ∧
      s.places 4 = {.carried 0} := by
    simpa [List.range_succ] using hfacts
  obtain ⟨hplace, -, hcalls, hnone⟩ :=
    State.Founded.exactly_once State.founded_founding hs
  exact ⟨s, hs, h0, h1, h2, h3, h4, hplace 4 (by rw [hlen]; exact Nat.le_refl 5), hcalls 0,
    hnone 2 h2⟩

end WorkerPool
