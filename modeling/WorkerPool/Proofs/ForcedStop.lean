/-
  A forced stop throws the backlog away and lets those who run finish.

  * `Move.quota`: a worker that was told to leave takes at most one more task
    out of the backlog;
  * `steps_body`: whoever is in the body of a task stays there until the body
    ends, and the result of the task is then that of its body;
  * `State.Founded.forced_stop`: what a forced stop does to the tasks it finds,
    to those that come after, to those that are run, and to its workers.
-/
import WorkerPool.Proofs.Expulsion
import WorkerPool.Proofs.GracefulStop
import WorkerPool.Proofs.Passes

namespace WorkerPool

variable {B V : Type}

/-! ## One task more -/

/-- One for a worker that takes one task more before it looks whether it was
    told to leave. -/
def Activity.takes : Activity V → Nat
  | work .hook | work .fetch | work .mark | work .await => 1
  | work (.clock .settle) | work (.shift .settle _) | work (.report .settle _) => 1
  | _ => 0

/-- This worker takes a task out of the backlog to run it. -/
@[simp] def Event.isTakenBy (v : ThreadId) : Event V → Bool
  | removed _ (.worker u) => u == v
  | _ => false

section
variable {s s' : State B V} {t u v : ThreadId} {th : Thread V} {c : Chance} {a : Activity V}
  {turn : Turn B V}

theorem takes_le_one : a.takes ≤ 1 := by
  unfold Activity.takes
  split <;> omega

theorem takes_of_rests (h : a.Rests) : a.takes = 0 := by
  cases a with
  | work p => cases p <;> first | rfl | exact h.elim
  | _ => rfl

theorem Thread.Shaped.takes_le_one (h : th.Shaped) : th.tally Activity.takes ≤ 1 := by
  cases hs : th.stack with
  | nil =>
    rw [Thread.tally, hs]
    exact Nat.zero_le 1
  | cons a rest =>
    rw [h.tally_eq hs fun x => takes_of_rests]
    exact WorkerPool.takes_le_one

/-- A worker that was told to leave does not come back to take more. -/
theorem Deed.takes (hd : Deed s t th c a turn) (htold : ∀ b, th.badge = some b → b.told = true) :
    (turn.next.map Activity.takes).sum + (s.doing t a).countP (Event.isTakenBy t) ≤ a.takes := by
  have quiet (hf : a ≠ .work .fetch) (hw : a ≠ .work .await) :
      (s.doing t a).countP (Event.isTakenBy t) = 0 := by
    refine countP_doing fun e hy => ?_
    cases hy <;> first | rfl | exact absurd rfl hf | exact absurd rfl hw
  have one (k : TaskId) : [(.removed k (.worker t) : Event V)].countP (Event.isTakenBy t) = 1 := by
    simp
  cases hd with
  | fetch _ hk | await _ hk =>
    simp only [State.doing, State.relieved, hk, List.head?_cons, Option.toList_some,
      List.map_cons, List.map_nil, one]
    exact Nat.le_refl 1
  | fetchNone _ hk | awaitStop _ hk | awaitSleep _ hk =>
    simp only [State.doing, relieved_nil hk]
    exact Nat.le_of_ble_eq_true rfl
  | check hb =>
    rw [quiet (by simp) (by simp), htold _ hb]
    exact Nat.le_refl 0
  | @clock b sh =>
    rw [quiet (by simp) (by simp)]
    cases sh <;> exact Nat.le_refl _
  | @shift b sh now m r =>
    rw [quiet (by simp) (by simp)]
    cases sh <;> cases r <;> exact Nat.le_refl _
  | @report b sh h =>
    rw [quiet (by simp) (by simp)]
    cases sh <;> exact Nat.le_refl _
  | _ =>
    rw [quiet (by simp) (by simp)]
    exact Nat.le_of_ble_eq_true rfl

/-- **A worker that was told to leave takes no more than it is about to.** -/
theorem Move.quota {x : Action B V} (hm : Move s x s') (hv : s.IsTold v) :
    s'.load Activity.takes v + (s.events x).countP (Event.isTakenBy v) ≤
      s.load Activity.takes v := by
  obtain ⟨b, hb, htold⟩ := hv
  obtain ⟨w, hw, -⟩ := isSome_badge?_iff.1 (Option.isSome_of_eq_some hb)
  refine hm.draws hw ?_ ?_ (fun ho => by cases ho <;> rfl) (fun _ _ _ => Nat.le_refl 0)
    (Nat.le_refl 1) (Nat.zero_le 1)
  · rintro c a turn rfl htop hd
    simp only [State.events, htop]
    refine hd.takes fun b' hb' => ?_
    rw [badge?_eq, hw, Option.bind_some, hb'] at hb
    cases hb
    exact htold
  · intro hx
    refine List.countP_eq_zero.2 fun e he ht => ?_
    rcases yields_of_mem_events he with ⟨u, c, a, rfl, ha, hy⟩ | ⟨_, _, _, _, -, -, rfl⟩
    · cases hy <;> simp_all
    · cases ht

theorem steps_quota {bs : List (Action B V)} (hv : s.IsTold v) (hbs : s.steps bs = some s') :
    s'.load Activity.takes v + (s.chronicle bs).countP (Event.isTakenBy v) ≤
      s.load Activity.takes v := by
  induction bs generalizing s with
  | nil =>
    cases hbs
    exact Nat.le_refl _
  | cons x bs ih =>
    obtain ⟨s₁, hm, hbs⟩ := steps_cons.1 hbs
    have hrest := ih (hm.isTold hv) hbs
    have hstep := hm.quota hv
    rw [chronicle_cons (step_iff.2 hm), List.countP_append]
    omega

/-- A worker that was told to leave takes at most one task more. -/
theorem State.Reachable.takes_le_one (hr : s.Reachable) (hv : s.IsTold v)
    {bs : List (Action B V)} (hbs : s.steps bs = some s') :
    (s.chronicle bs).countP (Event.isTakenBy v) ≤ 1 := by
  have hquota := steps_quota hv hbs
  obtain ⟨b, hb, -⟩ := hv
  obtain ⟨w, hw, -⟩ := isSome_badge?_iff.1 (Option.isSome_of_eq_some hb)
  have hone := (hr.shaped.thread v w hw).takes_le_one
  rw [load_eq hw] at hquota
  omega

end

/-! ## Bodies that run -/

/-- The stages of a task whose body ended with this outcome on this thread. -/
inductive Stage.Concludes (u : ThreadId) (o : Outcome V) : Stage V → Prop where
  | tallying : Concludes u o (.tallying u o)
  | settling : Concludes u o (.settling u o.result)
  | finished : Concludes u o (.finished o.result)

section
variable {s s' : State B V} {t u v : ThreadId} {k : TaskId} {g g' : Stage V} {o : Outcome V}

theorem Stage.Next.concludes {es : List (Event V)} (hn : Stage.Next k g es g')
    (h : g.Concludes u o) : g'.Concludes u o := by
  cases h with
  | tallying =>
    cases hn with
    | stay => exact .tallying
    | tally => exact .settling
  | settling =>
    generalize hr : o.result = r at hn
    cases hn with
    | stay => exact hr ▸ .settling
    | send => exact hr ▸ .finished
  | finished =>
    generalize hr : o.result = r at hn
    cases hn
    exact hr ▸ .finished

/-- **A body is not interrupted**: whoever runs it runs it to its end, and the
    result is its own. -/
theorem steps_body {bs : List (Action B V)} (hr : s.Reachable) (hbs : s.steps bs = some s')
    (hg : (k, .inBody u) ∈ s.ledger) :
    (k, .inBody u) ∈ s'.ledger ∨
      ∃ o, .ended k o ∈ s.chronicle bs ∧ ∃ g, (k, g) ∈ s'.ledger ∧ g.Concludes u o := by
  induction bs using List.reverseRecOn generalizing s' with
  | nil => cases hbs; exact .inl hg
  | append_singleton bs x ih =>
    obtain ⟨s₁, hbs, hm⟩ := steps_concat.1 hbs
    have hl₁ : s₁.Ledgered := (hr.run hbs).ledgered
    rw [chronicle_concat hbs hm]
    rcases ih hbs with hg₁ | ⟨o, ho, g, hg₁, hc⟩
    · obtain ⟨g', hg', hn⟩ := hm.stage hl₁ hg₁
      generalize hes : own k (s₁.events x) = es at hn
      cases hn with
      | stay => exact .inl hg'
      | finish t o =>
        have hown : .ended k o ∈ own k (s₁.events x) := by
          rw [hes]
          exact List.mem_cons_self
        exact .inr ⟨o, List.mem_append_right _ (mem_own.1 hown).1, _, hg', .tallying⟩
    · obtain ⟨g', hg', hn⟩ := hm.stage hl₁ hg₁
      exact .inr ⟨o, List.mem_append_left _ ho, g', hg', hn.concludes hc⟩

/-- A body that a worker ran has its result once the worker has ended. -/
theorem State.HasEnded.resolved (he : s'.HasEnded u) {bs : List (Action B V)} (hr : s.Reachable)
    (hbs : s.steps bs = some s') (hg : (k, .inBody u) ∈ s.ledger) :
    ∃ o, .ended k o ∈ s.chronicle bs ∧ s'.Resolved k o.result := by
  rcases steps_body hr hbs hg with hg | ⟨o, ho, g, hg, hc⟩
  · exact absurd rfl (he.place_ne hg)
  · refine ⟨o, ho, ?_⟩
    cases hc with
    | tallying | settling => exact absurd rfl (he.place_ne hg)
    | finished => exact (hr.run hbs).ledgered.resolved hg rfl

end

/-! ## The stop -/

section
variable {s : State B V} {t : ThreadId} {k : TaskId} {rest : List (Activity V)}
  {bs : List (Action B V)}

/-- What is below a stop on a stack has nothing to do with a pass. -/
theorem Thread.Shaped.below {th : Thread V} (h : th.Shaped) {a : Activity V}
    (hs : th.stack = a :: rest) {x : Activity V} (hx : x ∈ rest) :
    x.uncounted = 0 ∧ x.sweeping = [] := by
  have hrests : x.Rests := h.tail x (by rw [hs]; exact hx)
  cases x with
  | stop => exact hrests.elim
  | _ => exact ⟨rfl, rfl⟩

/-- **A forced stop**, let in when none has been let in before, on whatever
    thread, and even while a graceful stop waits for its workers.  It makes a pass
    through the backlog: the tasks that it finds there it throws away, and each
    worker of the roster takes at most one task after it.  When the stop returns,
    the handles of all tasks that its passes have thrown away are resolved as
    discarded, their bodies are never called, and it has added their number to
    the counter.  A body that is run is run to its end and the result is its
    own.  The workers of the roster, but for the thread the stop runs on, have
    ended, with the results of all bodies sent that they ran meanwhile; and
    nobody is owned ever after. -/
theorem State.Founded.forced_stop {s₀ s₁ s₂ : State B V} (h₀ : s₀.Founded)
    {as : List (Action B V)} {c : Chance} {th th₂ : Thread V}
    (has : s₀.steps as = some s) (ht : s.threads[t]? = some th)
    (hs : th.stack = .stop false .enter :: rest) (hforced : s.forced = false)
    (hrun : s.run t c = some s₁) (hbs : s₁.steps bs = some s₂)
    (ht₂ : s₂.threads[t]? = some th₂) (hs₂ : th₂.stack = rest) :
    (∃ bs₁ c₁ bs₂ sp, bs = bs₁ ++ .run t c₁ :: bs₂ ∧ s₁.steps bs₁ = some sp ∧
      sp.top? t = some (.stop false (.purge .drain)) ∧
      (∀ k ∈ sp.backlog.tasks, .removed k (.stop t false) ∈ s₁.chronicle bs) ∧
      ∀ v ∈ s.roster, ∀ cs s', sp.steps cs = some s' →
        (sp.chronicle cs).countP (Event.isTakenBy v) ≤ 1) ∧
    (∀ k g, .removed k (.stop t g) ∈ s₁.chronicle bs →
      s₂.Resolved k (.error .discarded) ∧ ∀ cs s', s₂.steps cs = some s' →
        .called k ∉ s₀.chronicle ((as ++ .run t c :: bs) ++ cs)) ∧
    s₁.discardedBy t bs = (s₁.chronicle bs).countP (Event.isThrownBy t) ∧
    (∀ cs sm ds s', s₁.steps cs = some sm → sm.steps ds = some s' →
      ∀ k u, (k, .inBody u) ∈ sm.ledger → (k, .inBody u) ∈ s'.ledger ∨
        ∃ o, .ended k o ∈ sm.chronicle ds ∧ ∃ g, (k, g) ∈ s'.ledger ∧ g.Concludes u o) ∧
    (∀ u ∈ s.roster, u ≠ t → s₂.HasEnded u ∧
      ∀ cs sm ds, s₁.steps cs = some sm → sm.steps ds = some s₂ →
        ∀ k, (k, .inBody u) ∈ sm.ledger →
          ∃ o, .ended k o ∈ sm.chronicle ds ∧ s₂.Resolved k o.result) ∧
    ∀ cs s', s₂.steps cs = some s' → s'.ask .size = some ⟨s', [], some (.count 0)⟩ := by
  have hr : s.Reachable := (Reachable.of_founded h₀).run has
  have hm : Move s (.run t c) s₁ := step_iff.1 hrun
  have hr₁ : s₁.Reachable := hr.next hm
  have hr₂ : s₂.Reachable := hr₁.run hbs
  have hall : s₀.steps (as ++ .run t c :: bs) = some s₂ :=
    steps_append.2 ⟨s, has, steps_cons.2 ⟨s₁, hm, hbs⟩⟩
  obtain ⟨hexp, th₁, ht₁, hs₁⟩ := hr.expulsion ht hs hforced hrun
  obtain ⟨hdes, hended⟩ := (hexp.steps hr₁ hbs).returned ht₂ hs₂
  have hbelow {x : Activity V} (hx : x ∈ rest) := (hr.shaped.thread t th ht).below hs hx
  refine ⟨?_, fun k g hk => ?_, ?_, fun cs sm ds s' hcs hds k u hg => ?_, fun u hu hne => ?_,
    fun cs s' hcs => ?_⟩
  · -- the first pass
    obtain ⟨bs₁, c₁, bs₂, sp, rfl, hsp, hpass⟩ := first_pass ht₁ hs₁ hbs ht₂ hs₂
    have hrp : sp.Reachable := hr₁.run hsp
    refine ⟨bs₁, c₁, bs₂, sp, rfl, hsp, hpass, fun k hk => ?_, fun v hv cs s' hcs => ?_⟩
    · obtain ⟨sp', hsp', hrest⟩ := steps_append.1 hbs
      cases hsp.symm.trans hsp'
      obtain ⟨sq, hq, -⟩ := steps_cons.1 hrest
      rw [chronicle_append hsp, chronicle_cons (step_iff.2 hq)]
      refine List.mem_append_right _ (List.mem_append_left _ ?_)
      simp only [State.events, hpass, State.doing, State.cleared, State.emptied]
      exact List.mem_map.2 ⟨k, hk, rfl⟩
    · have htold := (hexp.steps hr₁ hsp).told hrp.ruled hpass v hv
      exact hrp.takes_le_one htold hcs
  · -- what is thrown away
    have hmem : .removed k (.stop t g) ∈ s₀.chronicle (as ++ .run t c :: bs) := by
      rw [chronicle_append has, chronicle_cons (step_iff.2 hm)]
      exact List.mem_append_right _ (List.mem_append_right _ hk)
    exact h₀.thrown_away hall ht₂ (fun a ha => (hbelow (hs₂ ▸ ha)).2) hmem
  · -- what it counts
    refine hr₁.discardedBy_eq ht₁ (fun a ha => ?_) hbs ht₂ fun a ha => (hbelow (hs₂ ▸ ha)).1
    rw [hs₁] at ha
    rcases List.mem_cons.1 ha with rfl | ha
    · rfl
    · exact (hbelow ha).1
  · exact steps_body (hr₁.run hcs) hds hg
  · exact ⟨hended u hu hne, fun cs sm ds hcs hds k hg =>
      (hended u hu hne).resolved (hr₁.run hcs) hds hg⟩
  · have hdes' := hdes.steps hr₂ hcs
    simp [State.ask, hdes'.lock, State.size, hdes'.roster, Turn.answer]

end

/-- A run up to a forced stop, with one task in its body, one in the backlog,
    and a producer that waits for room. -/
def forcingRun : List (Action Unit Unit) :=
  [paces 0 5, [.call 0 (.submit ())], paces 0 3, paces 1 3, [.call 0 (.submit ())], paces 0 3,
    [.arrive, .call 2 (.submit ())], paces 2 2, [.call 0 (.stop false)]].flatten

/-- The rest of it: the first pass lets the producer in, the worker ends its
    task and leaves, and the second pass finds the task of the producer. -/
def expellingRun : List (Action Unit Unit) :=
  [paces 0 4, paces 2 2, [.finish 1 (.returned ())], paces 1 5, paces 0 14].flatten

set_option maxRecDepth 2000 in
theorem forced_stop_expellingRun : ∃ s s₁ s₂ : State Unit Unit,
    (State.founding "pool" false (some 1) 1 1).steps forcingRun = some s ∧
    s.run 0 ⟨0, true⟩ = some s₁ ∧ s₁.steps expellingRun = some s₂ ∧
    (∃ bs₁ c₁ bs₂ sp, expellingRun = bs₁ ++ .run 0 c₁ :: bs₂ ∧ s₁.steps bs₁ = some sp ∧
      sp.top? 0 = some (.stop false (.purge .drain)) ∧
      (sp.chronicle (.run 0 c₁ :: bs₂)).countP (Event.isTakenBy 1) ≤ 1) ∧
    s₂.Resolved 1 (.error .discarded) ∧ s₂.Resolved 2 (.error .discarded) ∧
    s₁.discardedBy 0 expellingRun = 2 ∧
    (∃ o, .ended 0 o ∈ s₁.chronicle expellingRun ∧ s₂.Resolved 0 o.result) ∧
    s₂.HasEnded 1 ∧ s₂.ask .size = some ⟨s₂, [], some (.count 0)⟩ := by
  have h₀ : (State.founding "pool" false (some 1) 1 1 : State Unit Unit).Founded :=
    State.founded_founding
  have hrun : ((State.founding "pool" false (some 1) 1 1).steps forcingRun).isSome = true := rfl
  obtain ⟨s, hs⟩ := Option.isSome_iff_exists.1 hrun
  have hrun₁ : (s.run 0 ⟨0, true⟩).isSome = true := by cases hs; rfl
  obtain ⟨s₁, hs₁⟩ := Option.isSome_iff_exists.1 hrun₁
  have hrun₂ : (s₁.steps expellingRun).isSome = true := by cases hs; cases hs₁; rfl
  obtain ⟨s₂, hs₂⟩ := Option.isSome_iff_exists.1 hrun₂
  obtain ⟨th, ht, hst⟩ : ∃ th, s.threads[0]? = some th ∧ th.stack = [.stop false .enter] := by
    cases hs
    exact ⟨_, rfl, rfl⟩
  have hforced : s.forced = false := by cases hs; rfl
  have hu : 1 ∈ s.roster := by cases hs; exact List.mem_cons_self
  obtain ⟨th₂, ht₂, hst₂⟩ : ∃ th, s₂.threads[0]? = some th ∧ th.stack = [] := by
    cases hs; cases hs₁; cases hs₂
    exact ⟨_, rfl, rfl⟩
  have hbody : (0, .inBody 1) ∈ s₁.ledger := by
    cases hs; cases hs₁
    exact mem_ledger.2 (.inl ⟨1, _, rfl, _, List.mem_cons_self, List.mem_cons_self⟩)
  have hrem₁ : .removed 1 (.stop 0 false) ∈ s₁.chronicle expellingRun := by
    cases hs; cases hs₁
    exact List.mem_cons_self
  have hrem₂ : .removed 2 (.stop 0 false) ∈ s₁.chronicle expellingRun := by
    cases hs; cases hs₁
    exact .tail _ (.tail _ (.tail _ (.tail _ (.head _))))
  have hcount : (s₁.chronicle expellingRun).countP (Event.isThrownBy 0) = 2 := by
    cases hs; cases hs₁
    rfl
  obtain ⟨⟨bs₁, c₁, bs₂, sp, hsplit, hsp, hpass, -, hquota⟩, hthrown, hdis, -, hworkers, hsize⟩ :=
    h₀.forced_stop hs ht hst hforced hs₁ hs₂ ht₂ hst₂
  obtain ⟨hended, hresult⟩ := hworkers 1 hu Nat.one_ne_zero
  obtain ⟨sp', hsp', hrest⟩ := steps_append.1 (hsplit ▸ hs₂)
  cases hsp.symm.trans hsp'
  exact ⟨s, s₁, s₂, hs, hs₁, hs₂, ⟨bs₁, c₁, bs₂, sp, hsplit, hsp, hpass, hquota 1 hu _ s₂ hrest⟩,
    (hthrown 1 false hrem₁).1, (hthrown 2 false hrem₂).1, hdis.trans hcount,
    hresult [] s₁ expellingRun rfl hs₂ 0 hbody, hended, hsize [] s₂ rfl⟩

end WorkerPool
