/-
  The story of a task: all that has happened to it, told by the stage at which
  it is.

  * `Story` follows a task from stage to stage, `State.Founded.story` finds
    one for every task of a run, with the events of the chronicle;
  * `Stage.Log` says which events have happened to a task that is at a given
    stage, `Story.log` that nothing else can have.
-/
import WorkerPool.Proofs.Handover

namespace WorkerPool

variable {B V : Type}

/-- What has happened to a task, from its submission to a stage. -/
inductive Story (k : TaskId) : List (Event V) → Stage V → Prop where
  | submitted (t) : Story k [] (.carried t)
  | next {es es' g g'} (h : Story k es g) (hn : Stage.Next k g es' g') : Story k (es ++ es') g'

/-- What a chronicle tells is about tasks that are there. -/
theorem State.Founded.own_lt {s₀ s : State B V} (h₀ : s₀.Founded) {as : List (Action B V)}
    (has : s₀.steps as = some s) {e : Event V} (he : e ∈ s₀.chronicle as)
    (ho : e.isOwn = true) : e.task < s.jobs.length := by
  refine h₀.run_induct (P := fun s es => ∀ e ∈ es, e.isOwn = true → e.task < s.jobs.length) has
    nofun ?_ e he ho
  intro s₁ s₂ a es hr ih hm e he ho
  have hle := hm.jobs_length_le hr.ledgered
  rcases List.mem_append.1 he with he | he
  · exact Nat.lt_of_lt_of_le (ih e he ho) hle
  · exact Nat.lt_of_lt_of_le (hm.own_lt hr.ledgered he ho) hle

/-- Nothing has happened to a task that is not there. -/
theorem State.Founded.own_eq_nil {s₀ s : State B V} (h₀ : s₀.Founded) {as : List (Action B V)}
    (has : s₀.steps as = some s) {k : TaskId} (hk : s.jobs.length ≤ k) :
    own k (s₀.chronicle as) = [] := by
  rw [List.eq_nil_iff_forall_not_mem]
  intro e he
  obtain ⟨he, ho, he'⟩ := mem_own.1 he
  exact Nat.not_lt.2 hk (he' ▸ h₀.own_lt has he ho)

/-- **Every task of a run has its story.** -/
theorem State.Founded.story {s₀ s : State B V} (h₀ : s₀.Founded) {as : List (Action B V)}
    (has : s₀.steps as = some s) {k : TaskId} {g : Stage V} (hg : (k, g) ∈ s.ledger) :
    Story k (own k (s₀.chronicle as)) g := by
  induction as using List.reverseRecOn generalizing s k g with
  | nil =>
    cases has
    exact absurd hg h₀.not_mem_ledger
  | append_singleton as a ih =>
    obtain ⟨s₁, has₁, hm⟩ := steps_concat.1 has
    have hr : s₁.Reachable := (Reachable.of_founded h₀).run has₁
    rw [chronicle_concat has₁ hm, own_append]
    rcases hm.origin hr.ledgered hg with ⟨g₁, hg₁, hn⟩ | ⟨rfl, ⟨t, rfl⟩, hes⟩
    · exact .next (ih has₁ hg₁) hn
    · rw [h₀.own_eq_nil has₁ (Nat.le_refl _), hes]
      exact .submitted t

/-! ## The log of a stage -/

/-- The task was taken out, by the worker that runs it or by a caller. -/
def Fetched (k : TaskId) (t : ThreadId) (es : List (Event V)) : Prop :=
  es = [.removed k (.worker t)] ∨ ∃ u, es = [.removed k (.caller u)]

/-- The task was run with this result. -/
inductive Ran (k : TaskId) (t : ThreadId) : TaskResult V → List (Event V) → Prop where
  | skipped {es} (h : Fetched k t es) : Ran k t (.error .cancelled) (es ++ [.begun k])
  | ended {es} (o) (h : Fetched k t es) :
      Ran k t o.result (es ++ [.begun k, .called k, .ended k o])

/-- The events that happen to a task until it is at this stage. -/
inductive Stage.Log (k : TaskId) : Stage V → List (Event V) → Prop where
  | carried (t) : Log k (.carried t) []
  | queued (i) : Log k (.queued i) []
  | held (u) : Log k .held [.removed k (.caller u)]
  | fetched {t es} (h : Fetched k t es) : Log k (.fetched t) es
  | skipping {t es} (h : Fetched k t es) : Log k (.skipping t) (es ++ [.begun k])
  | inBody {t es} (h : Fetched k t es) : Log k (.inBody t) (es ++ [.begun k, .called k])
  | tallying {t es} (o) (h : Fetched k t es) :
      Log k (.tallying t o) (es ++ [.begun k, .called k, .ended k o])
  | settling {t r es} (h : Ran k t r es) : Log k (.settling t r) es
  | finished {t r es} (h : Ran k t r es) : Log k (.finished r) (es ++ [.sent k r])
  | dropping (r) (hr : ∀ t, r ≠ .worker t) : Log k .dropping [.removed k r]
  | refused : Log k .dropped [.dropped k]
  | dropped (r) (hr : ∀ t, r ≠ .worker t) : Log k .dropped [.removed k r, .dropped k]

theorem Stage.Log.next {k : TaskId} {g g' : Stage V} {es es' : List (Event V)} (h : g.Log k es)
    (hn : Stage.Next k g es' g') : g'.Log k (es ++ es') := by
  cases hn with
  | stay => rw [List.append_nil]; exact h
  | enqueue => cases h; exact .queued _
  | refuse => cases h; exact .refused
  | advance => cases h; exact .queued _
  | fetch => cases h; exact .fetched (.inl rfl)
  | takeOut => cases h; exact .held _
  | clear | stop | last => cases h; exact .dropping _ nofun
  | run => cases h; exact .fetched (.inr ⟨_, rfl⟩)
  | discard => cases h; exact .dropping _ nofun
  | skip => cases h with | fetched h => exact .skipping h
  | call => cases h with | fetched h => exact .inBody h
  | finish t o =>
    cases h with
    | inBody h =>
      rw [List.append_assoc]
      exact .tallying o h
  | tally t o =>
    cases h with
    | tallying o h =>
      rw [List.append_nil]
      exact .settling (.ended o h)
  | skipped t =>
    cases h with
    | skipping h =>
      rw [List.append_nil]
      exact .settling (.skipped h)
  | send t r => cases h with | settling h => exact .finished h
  | drop => cases h with | dropping r hr => exact .dropped r hr

/-- **The stage of a task says what has happened to it.** -/
theorem Story.log {k : TaskId} {g : Stage V} {es : List (Event V)} (h : Story k es g) :
    g.Log k es := by
  induction h with
  | submitted t => exact .carried t
  | next _ hn ih => exact ih.next hn

end WorkerPool
