/-
  What a stop leaves behind.

  * `State.Admits`, `last_look`: a stop that is let in looks, before it returns,
    whether tasks are left in the backlog;
  * `gone_of_look`: what had got into the backlog by then is out of it when the
    stop returns, and for good;
  * `State.Founded.not_stranded`: at rest such a task is held by a caller or its
    handle is resolved;
  * `stranded_crowdedRun`: a producer that waits for room is let in by the last
    pass itself, and nobody comes for its task.
-/
import WorkerPool.Proofs.Census
import WorkerPool.Proofs.Closing

namespace WorkerPool

variable {B V : Type}

/-! ## The last look -/

/-- A stop of this kind is let in. -/
def State.Admits (s : State B V) : Bool → Prop
  | true => s.isStopped = false
  | false => s.forced = false

/-- The points of a stop that was let in, up to the one at which it looks
    whether tasks are left. -/
def StopPoint.Leads : StopPoint → Prop
  | enter | sweep .. | close .. => False
  | _ => True

section
variable {s s' : State B V} {t : ThreadId} {th th' : Thread V} {c : Chance} {turn : Turn B V}
  {g : Bool} {n : Nat} {rest : List (Activity V)} {bs : List (Action B V)}

theorem Deed.leads {p : StopPoint} (hd : Deed s t th c (.stop g p) turn) (hp : p.Leads)
    (hn : ¬ ∃ n, p = .inspect n) : ∃ p', turn.next = [.stop g p'] ∧ p'.Leads := by
  cases hd with
  | inspectNone | inspectLeft => exact absurd ⟨_, rfl⟩ hn
  | gracefulAgain | graceful | forcedAgain | forced | sweep | sweepEnd | stopClose =>
    exact hp.elim
  | _ => exact ⟨_, rfl, trivial⟩

/-- A stop that is let in goes on. -/
theorem State.Admits.leads (h : s.Admits g) (ht : s.threads[t]? = some th)
    (hs : th.stack = .stop g .enter :: rest) (hrun : s.run t c = some s') :
    ∃ w p, s'.threads[t]? = some w ∧ w.stack = .stop g p :: rest ∧ p.Leads := by
  have hm : Move s (.run t c) s' := step_iff.1 hrun
  obtain ⟨_, turn, -, hd, rfl⟩ := hm.stop_step rfl ht hs
  obtain ⟨w, hw, hst⟩ := hd.stack ht hs
  cases hd with
  | gracefulAgain _ hstop =>
    rw [State.Admits, hstop] at h
    cases h
  | forcedAgain _ hforced =>
    rw [State.Admits, hforced] at h
    cases h
  | graceful | forced => exact ⟨w, _, hw, hst, trivial⟩

/-- **Before it returns, a stop looks whether tasks are left.** -/
theorem last_look {p : StopPoint} (ht : s.threads[t]? = some th)
    (hs : th.stack = .stop g p :: rest) (hp : p.Leads) (hbs : s.steps bs = some s')
    (ht' : s'.threads[t]? = some th') (hs' : th'.stack = rest) :
    ∃ bs₁ c bs₂ sl w n, bs = bs₁ ++ .run t c :: bs₂ ∧ s.steps bs₁ = some sl ∧
      sl.threads[t]? = some w ∧ w.stack = .stop g (.inspect n) :: rest := by
  obtain ⟨bs₁, c, bs₂, sl, w, p, hsplit, hsl, hw, hst, -, n, rfl⟩ :=
    stop_passes (Q := fun p => ∃ n, p = .inspect n) (fun _ _ _ _ _ => Deed.leads) ht hs hp hbs
      ht' hs'
  exact ⟨bs₁, c, bs₂, sl, w, n, hsplit, hsl, hw, hst⟩

/-! ## What it finds -/

theorem Stage.Next.isGone {k : TaskId} {g g' : Stage V} {es : List (Event V)}
    (hn : Stage.Next k g es g') (h : g.isGone = true) : g'.isGone = true := by
  cases hn <;> first | exact h | rfl

theorem Stage.Next.not_carried {k : TaskId} {g g' : Stage V} {es : List (Event V)}
    (hn : Stage.Next k g es g') (h : g.isCarried = false) : g'.isCarried = false := by
  cases hn <;> first | exact h | rfl

/-- What is gone from the backlog does not come back. -/
theorem steps_gone {k : TaskId} {g : Stage V} (h : s.Ledgered) (hg : (k, g) ∈ s.ledger)
    (hgone : g.isGone = true) (hbs : s.steps bs = some s') :
    ∃ g', (k, g') ∈ s'.ledger ∧ g'.isGone = true :=
  steps_stage (P := fun g => g.isGone = true) (fun _ _ _ h hn => hn.isGone h) h hg hgone hbs

/-- If the backlog is empty, what does not come is gone. -/
theorem isGone_of_empty {k : TaskId} {g : Stage V} (h : s.backlog.tasks = [])
    (hg : (k, g) ∈ s.ledger) (hc : g.isCarried = false) : g.isGone = true := by
  cases g with
  | carried => cases hc
  | queued i =>
    have hk : k ∈ s.backlog.tasks := mem_tasks_iff.2 ⟨i, hg⟩
    rw [h] at hk
    cases hk
  | _ => rfl

/-- The last pass empties the backlog. -/
theorem empty_of_sweep (ht : s.threads[t]? = some th)
    (hs : th.stack = .stop g (.sweep .drain n) :: rest) (hrun : s.run t c = some s') :
    s'.backlog.tasks = [] := by
  have hm : Move s (.run t c) s' := step_iff.1 hrun
  obtain ⟨_, turn, -, hd, rfl⟩ := hm.stop_step rfl ht hs
  cases hd with
  | sweep hp => cases hp; rfl
  | sweepEnd hp => cases hp

/-- **What does not come any more when the stop looks is gone when it returns.** -/
theorem gone_of_look {sl : State B V} {k : TaskId} {gk : Stage V} (hr : sl.Reachable)
    (ht : sl.threads[t]? = some th) (hs : th.stack = .stop g (.inspect n) :: rest)
    (hrun : sl.run t c = some s) (hbs : s.steps bs = some s') (ht' : s'.threads[t]? = some th')
    (hs' : th'.stack = rest) (hg : (k, gk) ∈ sl.ledger) (hc : gk.isCarried = false) :
    ∃ g', (k, g') ∈ s'.ledger ∧ g'.isGone = true := by
  have hm : Move sl (.run t c) s := step_iff.1 hrun
  obtain ⟨_, turn, -, hd, rfl⟩ := hm.stop_step rfl ht hs
  obtain ⟨w, hw, hst⟩ := hd.stack ht hs
  cases hd with
  | inspectNone hk =>
    exact steps_gone hr.ledgered hg (isGone_of_empty hk hg hc) (steps_cons.2 ⟨_, hm, hbs⟩)
  | inspectLeft =>
    -- it stays before its last pass until it makes it
    obtain ⟨bs₁, c, bs₂, sd, w, p, rfl, hsd, hw, hst, -, rfl⟩ :=
      stop_passes (P := fun p => p = .sweep .drain n) (Q := fun p => p = .sweep .drain n)
        (fun _ _ _ _ _ _ hp hq => absurd hp hq) hw hst rfl hbs ht' hs'
    obtain ⟨sd', hsd', hrest⟩ := steps_append.1 hbs
    cases hsd.symm.trans hsd'
    obtain ⟨se, hme, hrest⟩ := steps_cons.1 hrest
    have hsweep := steps_cons.2 ⟨_, hm, steps_concat.2 ⟨sd, hsd, hme⟩⟩
    obtain ⟨g', hg', hc'⟩ := steps_stage (P := fun g => g.isCarried = false)
      (fun _ _ _ h hn => hn.not_carried h) hr.ledgered hg hc hsweep
    have hempty : se.backlog.tasks = [] := empty_of_sweep hw hst (step_iff.2 hme)
    exact steps_gone (hr.run hsweep).ledgered hg' (isGone_of_empty hempty hg' hc') hrest

end

/-! ## At rest -/

section
variable {s : State B V} {t : ThreadId} {k : TaskId} {rest : List (Activity V)}
  {bs : List (Action B V)}

/-- At rest a task that was taken out is with the caller who took it. -/
theorem State.AtRest.mem_taken (h : s.AtRest) (hs : s.Shaped) (hg : (k, .held) ∈ s.ledger) :
    k ∈ s.taken := by
  rcases mem_ledger.1 hg with ⟨u, th, hu, a, ha, hm⟩ | ⟨i, -, heq⟩ | ⟨hk, -⟩ | ⟨job, -, hent⟩
  · obtain ⟨b, hb⟩ : ∃ b, a = .pop (some b) := by
      generalize heq : (.held : Stage V) = g at hm
      cases holds_of_mem hm with
      | @task _ _ p => cases p <;> cases heq
      | pop => exact ⟨_, rfl⟩
      | _ => cases heq
    subst hb
    obtain ⟨below, hst⟩ := (hs.thread u th hu).eq_cons ha id
    rcases h.waits hs hu hst (able_pop _) with ⟨heq, -⟩ | ⟨⟨k', heq⟩, -⟩ <;> cases heq
  · cases heq
  · exact hk
  · rcases hent with ⟨r, -, heq⟩ | ⟨-, heq⟩ <;> cases heq

/-- At rest, with nobody in a body, a task that is gone from the backlog is with
    a caller or at its end. -/
theorem State.AtRest.settled (h : s.AtRest) (hr : s.Reachable)
    (hidle : s.census Stage.isInBody = 0) {g : Stage V} (hg : (k, g) ∈ s.ledger)
    (hgone : g.isGone = true) : k ∈ s.taken ∨ ∃ r, g.result? = some r := by
  have hrests := h.rests hr hg
  cases g with
  | carried | queued => cases hgone
  | held => exact .inl (h.mem_taken hr.shaped hg)
  | fetched | skipping | tallying | settling | dropping => cases hrests
  | inBody u => exact absurd rfl (Multiset.countP_eq_zero.1 hidle _ hg)
  | finished r => exact .inr ⟨r, rfl⟩
  | dropped => exact .inr ⟨_, rfl⟩

/-- **A stop strands nothing that has got into the backlog.**  A stop that is
    let in, graceful or forced, looks at last whether tasks are left.  Whatever
    was submitted before that, and was not on its way into the backlog just
    then, is out of the backlog when all is at rest after the stop has returned
    and nobody is in a body: a caller holds it, or its handle is resolved, as
    its fate has it.  If nothing was on its way then, and nothing was submitted
    after, the backlog is empty. -/
theorem State.Founded.not_stranded {s₀ s₁ s₂ s₃ : State B V} (h₀ : s₀.Founded)
    {as cs : List (Action B V)} {c : Chance} {th th₂ : Thread V} {g : Bool}
    (has : s₀.steps as = some s) (ht : s.threads[t]? = some th)
    (hs : th.stack = .stop g .enter :: rest) (hadm : s.Admits g) (hrun : s.run t c = some s₁)
    (hbs : s₁.steps bs = some s₂) (ht₂ : s₂.threads[t]? = some th₂) (hs₂ : th₂.stack = rest)
    (hcs : s₂.steps cs = some s₃) (hrest : s₃.AtRest) (hidle : s₃.census Stage.isInBody = 0) :
    ∃ bs₁ c₁ bs₂ sl n, bs = bs₁ ++ .run t c₁ :: bs₂ ∧ s₁.steps bs₁ = some sl ∧
      sl.top? t = some (.stop g (.inspect n)) ∧
      (∀ k < sl.jobs.length, (∀ u, (k, .carried u) ∉ sl.ledger) →
        k ∉ s₃.backlog.tasks ∧ (k ∈ s₃.taken ∨
          ∃ r, s₃.Resolved k r ∧ Fate k (s₀.chronicle ((as ++ .run t c :: bs) ++ cs)) r)) ∧
      ((∀ k u, (k, .carried u) ∉ sl.ledger) → s₃.jobs.length = sl.jobs.length →
        s₃.backlog.tasks = []) := by
  have hr : s.Reachable := (Reachable.of_founded h₀).run has
  have hm : Move s (.run t c) s₁ := step_iff.1 hrun
  have hr₂ : s₂.Reachable := (hr.next hm).run hbs
  have hr₃ : s₃.Reachable := hr₂.run hcs
  have hall : s₀.steps ((as ++ .run t c :: bs) ++ cs) = some s₃ :=
    steps_append.2 ⟨s₂, steps_append.2 ⟨s, has, steps_cons.2 ⟨s₁, hm, hbs⟩⟩, hcs⟩
  obtain ⟨w₁, p, ht₁, hs₁, hp⟩ := hadm.leads ht hs hrun
  obtain ⟨bs₁, c₁, bs₂, sl, w, n, rfl, hsl, hw, hst⟩ := last_look ht₁ hs₁ hp hbs ht₂ hs₂
  have hrl : sl.Reachable := (hr.next hm).run hsl
  obtain ⟨sl', hsl', hrest'⟩ := steps_append.1 hbs
  cases hsl.symm.trans hsl'
  obtain ⟨sm, hlook, hbs₂⟩ := steps_cons.1 hrest'
  -- whatever does not come any more is out of the backlog for good
  have gone (k : TaskId) (hk : k < sl.jobs.length) (hnot : ∀ u, (k, .carried u) ∉ sl.ledger) :
      ∃ g', (k, g') ∈ s₃.ledger ∧ g'.isGone = true := by
    obtain ⟨gk, hgk⟩ := hrl.ledgered.exists hk
    have hc : gk.isCarried = false := by
      cases gk with
      | carried u => exact absurd hgk (hnot u)
      | _ => rfl
    obtain ⟨g', hg', hgone⟩ := gone_of_look hrl hw hst (step_iff.2 hlook) hbs₂ ht₂ hs₂ hgk hc
    exact steps_gone hr₂.ledgered hg' hgone hcs
  have out (k : TaskId) (hk : k < sl.jobs.length) (hnot : ∀ u, (k, .carried u) ∉ sl.ledger) :
      k ∉ s₃.backlog.tasks := by
    intro hmem
    obtain ⟨g', hg', hgone⟩ := gone k hk hnot
    obtain ⟨i, hi⟩ := mem_tasks_iff.1 hmem
    rw [hr₃.ledgered.unique hg' hi] at hgone
    cases hgone
  refine ⟨bs₁, c₁, bs₂, sl, n, rfl, hsl, top?_eq_some_iff.2 ⟨w, rest, hw, hst⟩,
    fun k hk hnot => ⟨out k hk hnot, ?_⟩, fun hnot hlen => ?_⟩
  · obtain ⟨g', hg', hgone⟩ := gone k hk hnot
    rcases hrest.settled hr₃ hidle hg' hgone with htaken | ⟨r, hres⟩
    · exact .inl htaken
    · exact .inr ⟨r, hr₃.ledgered.resolved hg' hres, h₀.fate hall hg' hres⟩
  · refine List.eq_nil_iff_forall_not_mem.2 fun k hk => ?_
    obtain ⟨i, hi⟩ := mem_tasks_iff.1 hk
    exact out k (hlen ▸ hr₃.ledgered.lt hi) (hnot k) hk

end

/-- A run up to a graceful stop of a pool without workers, with one task taken
    out and one in the backlog. -/
def clearingRun : List (Action Unit Unit) :=
  [paces 0 4, [.call 0 (.submit ())], paces 0 3, [.call 0 .pop], paces 0 2,
    [.call 0 (.submit ())], paces 0 3, [.call 0 (.stop true)]].flatten

theorem not_stranded_clearingRun : ∃ s s₁ s₂ : State Unit Unit,
    (State.founding "pool" false none 1 0).steps clearingRun = some s ∧
    s.run 0 ⟨0, true⟩ = some s₁ ∧ s₁.steps (paces 0 10) = some s₂ ∧ s₂.AtRest ∧
    s₂.census Stage.isInBody = 0 ∧ s₂.jobs.length = 2 ∧ s₂.taken = [0] ∧
    ∃ bs₁ c₁ bs₂ sl n, paces 0 10 = bs₁ ++ .run 0 c₁ :: bs₂ ∧ s₁.steps bs₁ = some sl ∧
      sl.top? 0 = some (.stop true (.inspect n)) ∧
      (∀ k < sl.jobs.length, (∀ u, (k, .carried u) ∉ sl.ledger) →
        k ∉ s₂.backlog.tasks ∧ (k ∈ s₂.taken ∨ ∃ r, s₂.Resolved k r ∧
          Fate k ((State.founding "pool" false none 1 0).chronicle
            ((clearingRun ++ .run 0 ⟨0, true⟩ :: paces 0 10) ++ [])) r)) ∧
      ((∀ k u, (k, .carried u) ∉ sl.ledger) → s₂.jobs.length = sl.jobs.length →
        s₂.backlog.tasks = []) := by
  have h₀ : (State.founding "pool" false none 1 0 : State Unit Unit).Founded :=
    State.founded_founding
  have hrun : ((State.founding "pool" false none 1 0).steps clearingRun).isSome = true := rfl
  obtain ⟨s, hs⟩ := Option.isSome_iff_exists.1 hrun
  have hrun₁ : (s.run 0 ⟨0, true⟩).isSome = true := by cases hs; rfl
  obtain ⟨s₁, hs₁⟩ := Option.isSome_iff_exists.1 hrun₁
  have hrun₂ : (s₁.steps (paces 0 10)).isSome = true := by cases hs; cases hs₁; rfl
  obtain ⟨s₂, hs₂⟩ := Option.isSome_iff_exists.1 hrun₂
  obtain ⟨th, ht, hst⟩ : ∃ th, s.threads[0]? = some th ∧ th.stack = [.stop true .enter] := by
    cases hs
    exact ⟨_, rfl, rfl⟩
  have hadm : s.Admits true := by cases hs; rfl
  obtain ⟨th₂, ht₂, hst₂⟩ : ∃ th, s₂.threads[0]? = some th ∧ th.stack = [] := by
    cases hs; cases hs₁; cases hs₂
    exact ⟨_, rfl, rfl⟩
  have hrest : s₂.AtRest := by
    rintro (_ | t) c <;> cases hs <;> cases hs₁ <;> cases hs₂ <;> rfl
  have hidle : s₂.census Stage.isInBody = 0 := by
    rw [State.census_inBody]
    cases hs; cases hs₁; cases hs₂
    rfl
  exact ⟨s, s₁, s₂, hs, hs₁, hs₂, hrest, hidle, by cases hs; cases hs₁; cases hs₂; rfl,
    by cases hs; cases hs₁; cases hs₂; rfl,
    h₀.not_stranded hs ht hst hadm hs₁ hs₂ ht₂ hst₂ (steps_nil s₂) hrest hidle⟩

/-- A run up to a graceful stop of a pool without workers, with one task in the
    backlog, and a producer that waits for room. -/
def crowdedRun : List (Action Unit Unit) :=
  [paces 0 4, [.call 0 (.submit ())], paces 0 3, [.arrive, .call 1 (.submit ())], paces 1 2,
    [.call 0 (.stop true)]].flatten

/-- **The task of a producer that waits for room is stranded.**  The last pass
    of the stop throws one task away and lets the producer in; the stop returns,
    and the task of the producer is left in the backlog with nobody to take it,
    its handle open. -/
theorem stranded_crowdedRun : ∃ s s₁ s₂ s₃ : State Unit Unit,
    (State.founding "pool" false (some 1) 1 0).steps crowdedRun = some s ∧
    s.jobs.length = 2 ∧ s.isStopped = false ∧ s.top? 0 = some (.stop true .enter) ∧
    s.run 0 ⟨0, true⟩ = some s₁ ∧ s₁.steps (paces 0 10) = some s₂ ∧ s₂.top? 0 = none ∧
    s₂.steps (paces 1 2) = some s₃ ∧ s₃.AtRest ∧ s₃.census Stage.isInBody = 0 ∧
    s₃.backlog.tasks = [1] ∧ s₃.taken = [] ∧
    ∃ job, s₃.jobs[1]? = some job ∧ job.promise.isOpen = true := by
  have hrun : ((State.founding "pool" false (some 1) 1 0).steps crowdedRun).isSome = true := rfl
  obtain ⟨s, hs⟩ := Option.isSome_iff_exists.1 hrun
  have hrun₁ : (s.run 0 ⟨0, true⟩).isSome = true := by cases hs; rfl
  obtain ⟨s₁, hs₁⟩ := Option.isSome_iff_exists.1 hrun₁
  have hrun₂ : (s₁.steps (paces 0 10)).isSome = true := by cases hs; cases hs₁; rfl
  obtain ⟨s₂, hs₂⟩ := Option.isSome_iff_exists.1 hrun₂
  have hrun₃ : (s₂.steps (paces 1 2)).isSome = true := by cases hs; cases hs₁; cases hs₂; rfl
  obtain ⟨s₃, hs₃⟩ := Option.isSome_iff_exists.1 hrun₃
  have hstart : s.jobs.length = 2 ∧ s.isStopped = false ∧ s.top? 0 = some (.stop true .enter) := by
    cases hs
    exact ⟨rfl, rfl, rfl⟩
  have hreturned : s₂.top? 0 = none := by cases hs; cases hs₁; cases hs₂; rfl
  have hrest : s₃.AtRest := by
    rintro (_ | _ | t) c <;> cases hs <;> cases hs₁ <;> cases hs₂ <;> cases hs₃ <;> rfl
  have hidle : s₃.census Stage.isInBody = 0 := by
    rw [State.census_inBody]
    cases hs; cases hs₁; cases hs₂; cases hs₃
    rfl
  refine ⟨s, s₁, s₂, s₃, hs, hstart.1, hstart.2.1, hstart.2.2, hs₁, hs₂, hreturned, hs₃, hrest,
    hidle, ?_⟩
  cases hs; cases hs₁; cases hs₂; cases hs₃
  exact ⟨rfl, rfl, _, rfl, rfl⟩

end WorkerPool
