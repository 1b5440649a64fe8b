/-
  The system refuses a thread.

  * `State.InReach`: no later resize or stop misses a worker; `State.Reachable.inReach`:
    this is so of every worker of the roster;
  * `State.Whole`: a pool that is fit for use; `State.Settled.whole`: a resize leaves one
    behind, with all its threads or without;
  * `State.Founded.shortage`: a resize without enough threads, and a construction without
    enough threads.
-/
import WorkerPool.Proofs.Construction

namespace WorkerPool

variable {B V : Type}

/-! ## In reach -/

/-- Later calls reach worker `u`. -/
structure State.InReach (s : State B V) (u : ThreadId) : Prop where
  /-- whenever nobody holds the lock, it is on the roster or was sent away -/
  kept : ∀ as s', s.steps as = some s' → s'.lock = none →
    u ∈ s'.roster ∨ s'.done = true ∨ s'.IsTold u
  /-- a later resize that takes it off the roster has told it to leave when it returns -/
  resized : ∀ as s₁ t n rest c s₂ bs s₃, s.steps as = some s₁ →
    s₁.StandsAt t (.resize n .enter) rest → s₁.run t c = some s₂ → u ∈ s₁.roster.drop n →
    s₂.steps bs = some s₃ → s₃.IsBack t rest → s₃.IsTold u
  /-- a later stop that finds it on the roster has waited for its end when it returns -/
  stopped : ∀ as s₁ t g rest c s₂ bs s₃, s.steps as = some s₁ →
    s₁.StandsAt t (.stop g .enter) rest → s₁.run t c = some s₂ → u ∈ s₁.roster → u ≠ t →
    s₂.steps bs = some s₃ → s₃.IsBack t rest → s₃.HasEnded u

section
variable {s s' s₀ s₁ : State B V} {t u : ThreadId} {th : Thread V} {c : Chance} {x : Action B V}
  {n k : Nat} {grants : Nat → Bool} {r : Reply V} {rest : List (Activity V)}
  {as bs : List (Action B V)}

/-- A call that takes the lock finds it free. -/
theorem Move.enters (hm : Move s (.run t c) s') {a : Activity V} (h : s.StandsAt t a rest)
    (ha : (∃ n, a = .resize n .enter) ∨ ∃ g, a = .stop g .enter) : s.lock = none := by
  obtain ⟨th, ht, hs⟩ := h
  have hdriven : a.isDriven = true := by rcases ha with ⟨n, rfl⟩ | ⟨g, rfl⟩ <;> rfl
  obtain ⟨_, turn, -, hd, -⟩ := hm.own_step rfl ht hs hdriven
  rcases ha with ⟨n, rfl⟩ | ⟨g, rfl⟩ <;> cases hd <;> assumption

/-- A pool with workers and a free lock was not stopped. -/
theorem State.Reachable.unstopped_of_mem (hr : s.Reachable) (hl : s.lock = none)
    (hu : u ∈ s.roster) : s.isStopped = false := by
  by_contra hstop
  rw [hr.sealed.empty (by simpa using hstop) hl] at hu
  cases hu

/-- Whom a resize is going to tell to leave has been told when it returns. -/
theorem steps_told (hr : s.Reachable) {us : List ThreadId} {start : Nat}
    (h : s.StandsAt t (.resize n (.tell us start)) rest) (hu : u ∈ us) (hbs : s.steps bs = some s')
    (hback : s'.IsBack t rest) : s'.IsTold u := by
  have hkeep : s'.IsTold u ∨
      ∃ us start, s'.StandsAt t (.resize n (.tell us start)) rest ∧ u ∈ us := by
    refine hr.keep (P := fun s => s.IsTold u ∨
      ∃ us start, s.StandsAt t (.resize n (.tell us start)) rest ∧ u ∈ us) ?_
      (.inr ⟨us, start, h, hu⟩) hbs
    rintro s x s' hr (htold | ⟨us, start, h, hu⟩) hm
    · exact .inl (hm.isTold htold)
    · by_cases hx : x.actor? = some t
      · obtain ⟨th, ht, hs⟩ := id h
        obtain ⟨c, turn, rfl, hd, rfl⟩ := hm.own_step hx ht hs rfl
        cases us with
        | nil => cases hu
        | cons v us =>
          rcases List.mem_cons.1 hu with rfl | hu
          · exact .inl (hm.told_of_tell hr.ruled h)
          · have hnext : turn.next = [.resize n (.tell us start)] := by cases hd; rfl
            exact .inr ⟨us, start, hd.standsAt ht hs hnext, hu⟩
      · exact .inr ⟨us, start, hm.standsAt hx h, hu⟩
  refine hkeep.resolve_right ?_
  rintro ⟨us, start, hstands, -⟩
  exact hback.not_standsAt hstands

/-- A resize that takes workers off the roster begins to tell them to leave. -/
theorem Move.resize_tells (hm : Move s (.run t c) s') (hr : s.Reachable)
    (h : s.StandsAt t (.resize n .enter) rest) (hu : u ∈ s.roster.drop n) :
    s'.StandsAt t (.resize n (.tell (s.roster.drop n) s.size)) rest := by
  have hstop := hr.unstopped_of_mem (hm.enters h (.inl ⟨n, rfl⟩)) (List.mem_of_mem_drop hu)
  have hn : n < s.size := by
    have hpos := List.length_pos_of_mem hu
    rw [List.length_drop] at hpos
    exact Nat.lt_of_sub_pos hpos
  obtain ⟨th, ht, hs⟩ := h
  obtain ⟨_, turn, heq, hd, rfl⟩ := hm.own_step rfl ht hs rfl
  cases heq
  refine hd.standsAt ht hs ?_
  cases hd with
  | resizeStopped _ hstop' => rw [hstop] at hstop'; cases hstop'
  | resizeShrink => rfl
  | resizeOverflow _ _ hle | resizeGrow _ _ hle => exact absurd hn (Nat.not_lt.2 hle)

/-- A stop that finds workers on the roster has waited for their end when it returns. -/
theorem steps_ended {g : Bool} (hr : s.Reachable) (h : s.StandsAt t (.stop g .enter) rest)
    (hrun : s.run t c = some s₁) (hbs : s₁.steps bs = some s') (hback : s'.IsBack t rest)
    (hu : u ∈ s.roster) (hne : u ≠ t) : s'.HasEnded u := by
  have hm : Move s (.run t c) s₁ := step_iff.1 hrun
  have hstop := hr.unstopped_of_mem (hm.enters h (.inr ⟨g, rfl⟩)) hu
  obtain ⟨th, ht, hs⟩ := h
  obtain ⟨w, hw, hst⟩ := hback
  cases g with
  | true =>
    have hclosing := (hr.closing ht hs hstop hrun).steps (hr.next hm) hbs
    exact (hclosing.returned hw hst).2 u hu hne
  | false =>
    have hforced := (Bool.or_eq_false_iff.1 hstop).2
    have hexpulsion := (hr.expulsion ht hs hforced hrun).1.steps (hr.next hm) hbs
    exact (hexpulsion.returned hw hst).2 u hu hne

/-- **Later calls reach every worker of the roster.** -/
theorem State.Reachable.inReach (hr : s.Reachable) (hu : u ∈ s.roster) : s.InReach u where
  kept as s' has hl := by
    have hworker : (s'.badge? u).isSome = true :=
      steps_keep (P := fun s => (s.badge? u).isSome = true)
        (fun _ _ _ h hm => hm.isSome_badge? h) (hr.ruled.worker u hu) has
    by_cases hu' : u ∈ s'.roster
    · exact .inl hu'
    · exact .inr ((hr.run has).sent_away hl hworker hu')
  resized as s₁ t n rest c s₂ bs s₃ has hstands hrun hu hbs hback := by
    have hr₁ := hr.run has
    have hm : Move s₁ (.run t c) s₂ := step_iff.1 hrun
    exact steps_told (hr₁.next hm) (hm.resize_tells hr₁ hstands hu) hu hbs hback
  stopped as s₁ t g rest c s₂ bs s₃ has hstands hrun hu hne hbs hback :=
    steps_ended (hr.run has) hstands hrun hbs hback hu hne

end

/-! ## What a resize leaves behind -/

/-- A pool that is fit for use: nobody holds the lock, and all workers of the roster are
    numbered by their places, wanted, and in reach. -/
structure State.Whole (s : State B V) : Prop where
  free : s.lock = none
  unstopped : s.isStopped = false
  numbers : s.roster.map (fun u => (s.badge? u).map Badge.id) = (List.range s.size).map some
  untold : ∀ u ∈ s.roster, ¬ s.IsTold u
  reached : ∀ u ∈ s.roster, s.InReach u

section
variable {s s' s₀ s₁ : State B V} {t u : ThreadId} {th : Thread V} {c : Chance} {x : Action B V}
  {n k : Nat} {grants : Nat → Bool} {r : Reply V} {rest : List (Activity V)}
  {as bs : List (Action B V)}

theorem State.Numbered.map_roster (h : s.Numbered) :
    s.roster.map (fun u => (s.badge? u).map Badge.id) = (List.range s.size).map some := by
  refine List.ext_getElem? fun i => ?_
  simp only [List.getElem?_map]
  cases hu : s.roster[i]? with
  | none => simp [State.size, List.getElem?_eq_none_iff.1 hu]
  | some u =>
    have hi := (List.getElem?_eq_some_iff.1 hu).1
    simp [State.size, hi, h.place i u hu]

/-- **A resize leaves a pool behind that is fit for use**, whatever it has come to. -/
theorem State.Settled.whole (h : s₀.Settled s t n grants rest r) (hr : s.Reachable) : s.Whole where
  free := h.free
  unstopped := h.unstopped
  numbers := hr.numbered.map_roster
  untold u hu htold := by
    have hforced := (Bool.or_eq_false_iff.1 h.unstopped).2
    rw [hr.ruled.told u hu htold] at hforced
    cases hforced
  reached u hu := hr.inReach hu

theorem aliveCount_eq_zero (h : ∀ u, (s.badge? u).isSome = true → s.HasEnded u) :
    s.aliveCount = 0 := by
  refine List.countP_eq_zero.2 fun th hth => ?_
  obtain ⟨u, hu⟩ := List.mem_iff_getElem?.1 hth
  cases hb : th.badge.isSome with
  | false => simp
  | true =>
    obtain ⟨w, hw, hend⟩ := h u (isSome_badge?_iff.2 ⟨th, hu, hb⟩)
    cases hu.symm.trans hw
    simp [hend]

/-! ## The promise of a resize -/

/-- What is promised of the resize to `n` workers that thread `t` makes on top of `rest`, and
    that is let in in state `s` and goes on in state `s₁`, if `grants` says for which
    numbers of workers the system has a thread. -/
structure Resize (s s₁ : State B V) (t : ThreadId) (n : Nat) (grants : Nat → Bool)
    (rest : List (Activity V)) : Prop where
  /-- being let in, it changes no task, no counter and no flag, and no other thread -/
  entered : s.SparedBy t [] s₁
  /-- whatever others do, it can go on at once until it has its answer, and changes no task,
      no counter and no flag, and no other thread but those that it takes off the roster;
      its answer comes after a bounded number of steps, says what it has come to, and leaves
      a pool that is fit for use, with all threads that it has started on the roster -/
  prompt : ∀ bs s', s₁.steps bs = some s' → (∀ e ∈ s₁.attempts t bs, e.2 = grants e.1) →
    (∃ p, s'.StandsAt t (.resize n p) rest ∧
      actionsOf t bs < (s.size - n) + (n - s.size) + 3 ∧
      ∀ c, ∃ s'', s'.run t c = some s'' ∧ s'.SparedBy t (s.roster.drop n) s'') ∨
    ∃ cs s₂ r, cs <+: bs ∧ s₁.steps cs = some s₂ ∧ s₂.HasAnswer t rest r ∧
      actionsOf t cs ≤ (s.size - n) + (n - s.size) + 3 ∧
      s.Resized s₂ n grants r ∧ (r = .done → s₂.size = n) ∧ s₂.Whole ∧ s.Owns s₂

theorem Move.resize (hm : Move s (.run t c) s₁) (hr : s.Reachable)
    (h : s.StandsAt t (.resize n .enter) rest) (hstop : s.isStopped = false)
    (hn : s.size ≤ n → n ≤ rosterLimit) (hz : '\x00' ∉ s.name.toList) (grants : Nat → Bool) :
    Resize s s₁ t n grants rest := by
  obtain ⟨hspared, p, hp, hleft⟩ := hm.resizing_enter h hstop hn grants
  refine ⟨hspared, fun bs s' hbs hg => ?_⟩
  have hr₁ := hr.next hm
  rcases steps_resizing hr₁ (hm.name ▸ hz) hp hbs hg with
    ⟨p', hp', hle⟩ | ⟨cs, s₂, hcs, hsteps, ⟨r, hsettled⟩, hle⟩
  · have hpos := hp'.reached.left_pos
    exact .inl ⟨p', hp'.stands, by omega, hp'.runs (hr₁.run hbs)⟩
  · refine .inr ⟨cs, s₂, r, hcs, hsteps, hsettled.answer, by omega, hsettled.resized, ?_,
      hsettled.whole (hr₁.run hsteps), hsettled.owns⟩
    rintro rfl
    exact hsettled.resized.size

/-- **A pool for which the system has no more threads stays whole.**  A resize that finds it
    unstopped goes on at once when nobody holds the lock, and whoever does can go on; whatever
    others do, it then comes to the roster that was asked for, or to the first number for which
    it is refused a thread, and keeps the workers that there are.  A construction that is
    refused a thread returns after the end of every worker that it has started. -/
theorem State.Founded.shortage {s₀ : State B V} (h₀ : s₀.Founded) :
    (∀ as s t n rest, s₀.steps as = some s → s.StandsAt t (.resize n .enter) rest →
      s.isStopped = false → (s.size ≤ n → n ≤ rosterLimit) → '\x00' ∉ s₀.name.toList →
      (s.lock ≠ none → ∃ u a c s', u ≠ t ∧ s.top? u = some a ∧ 0 < a.locks ∧ s.run u c = some s') ∧
      (s.lock = none → ∀ grants c, ∃ s₁, s.run t c = some s₁ ∧ Resize s s₁ t n grants rest)) ∧
    (∀ as s x s' k, s₀.steps as = some s →
      (∀ bs s₁, bs <+: as → s₀.steps bs = some s₁ → s₁.top? 0 ≠ none) →
      s.step x = some s' → s'.HasAnswer 0 [] (.refused k) →
      s'.aliveCount = 0 ∧ ∀ u, (s'.badge? u).isSome = true → s'.HasEnded u) := by
  refine ⟨fun as s t n rest has hstands hstop hn hz => ⟨fun hl => ?_, fun hl grants c => ?_⟩,
    fun as s x s' k has hbusy hstep hans => ?_⟩
  · obtain ⟨u, a, c, s', htop, hlocks, hrun⟩ :=
      ((Reachable.of_founded h₀).run has).holder_runs hl
    refine ⟨u, a, c, s', ?_, htop, hlocks, hrun⟩
    rintro rfl
    cases hstands.top?.symm.trans htop
    cases hlocks
  · have hr := (Reachable.of_founded h₀).run has
    have hname : s.name = s₀.name :=
      steps_keep (P := fun s => s.name = s₀.name) (fun _ _ _ h hm => hm.name.trans h) rfl has
    obtain ⟨s₁, hrun⟩ := hr.lets_in hstands hl c
    exact ⟨s₁, hrun, (step_iff.1 hrun : Move s (.run t c) s₁).resize hr hstands hstop hn
      (hname ▸ hz) grants⟩
  · have hend := h₀.ended_of_failed has hbusy (step_iff.1 hstep) hans nofun
    exact ⟨aliveCount_eq_zero hend, hend⟩

end

/-- A run to a resize from one worker to four. -/
def growingRun : List (Action Unit Unit) :=
  [paces 0 5, [.call 0 (.resize 4)]].flatten

/-- The rest of it: two threads are granted, the third one is not. -/
def shortfallRun : List (Action Unit Unit) :=
  [paces 0 2, [.run 0 ⟨0, false⟩]].flatten

/-- The construction of a pool with two workers, of whom the second one gets no thread, but for
    the last step. -/
def fallingRun : List (Action Unit Unit) :=
  [paces 0 3, [.run 0 ⟨0, false⟩], paces 0 4, paces 1 10, paces 0 5].flatten

theorem shortage_shortfallRun : ∃ s s₁ s₂ s₃ s₄ : State Unit Unit,
    (State.founding "pool" false none 1 1).steps growingRun = some s ∧
    s.run 0 ⟨0, true⟩ = some s₁ ∧ s₁.steps shortfallRun = some s₂ ∧ s.roster = [1] ∧
    s₂.HasAnswer 0 [] (.refused 3) ∧ s₂.roster = [1, 2, 3] ∧
    s.Resized s₂ 4 (fun i => decide (i < 3)) (.refused 3) ∧ s₂.Whole ∧ s₂.InReach 3 ∧
    (State.founding "pool" false none 1 2).steps fallingRun = some s₃ ∧
    s₃.step (.run 0 ⟨0, true⟩) = some s₄ ∧ s₄.HasAnswer 0 [] (.refused 1) ∧
    s₄.aliveCount = 0 ∧ s₄.HasEnded 1 := by
  have h₀ : (State.founding "pool" false none 1 1 : State Unit Unit).Founded :=
    State.founded_founding
  have h₁ : (State.founding "pool" false none 1 2 : State Unit Unit).Founded :=
    State.founded_founding
  have hrun : ((State.founding "pool" false none 1 1).steps growingRun).isSome = true := rfl
  obtain ⟨s, hs⟩ := Option.isSome_iff_exists.1 hrun
  have hstands : s.StandsAt 0 (.resize 4 .enter) [] := by cases hs; exact ⟨_, rfl, rfl⟩
  have hfit : s.isStopped = false ∧ s.lock = none ∧ s.roster = [1] := by
    cases hs
    exact ⟨rfl, rfl, rfl⟩
  obtain ⟨hstop, hl, hroster⟩ := hfit
  -- the resize, with threads for the numbers below three
  obtain ⟨s₁, hs₁, hresize⟩ := (h₀.shortage.1 growingRun s 0 4 [] hs hstands hstop
    (fun _ => by decide) (by decide)).2 hl (fun i => decide (i < 3)) ⟨0, true⟩
  have hrun₂ : (s₁.steps shortfallRun).isSome = true := by cases hs; cases hs₁; rfl
  obtain ⟨s₂, hs₂⟩ := Option.isSome_iff_exists.1 hrun₂
  have hanswer : s₂.HasAnswer 0 [] (.refused 3) ∧ s₂.roster = [1, 2, 3] := by
    cases hs; cases hs₁; cases hs₂
    exact ⟨⟨_, rfl, rfl, rfl⟩, rfl⟩
  have hattempts : s₁.attempts 0 shortfallRun = [(1, true), (2, true), (3, false)] := by
    cases hs; cases hs₁; rfl
  have hlast : shortfallRun.inits.all (fun cs => (s₁.steps cs).all fun s₂ =>
      (s₂.top? 0).isSome || cs.length == shortfallRun.length) = true := by
    cases hs; cases hs₁; rfl
  have houtcome : s.Resized s₂ 4 (fun i => decide (i < 3)) (.refused 3) ∧ s₂.Whole := by
    rcases hresize.prompt shortfallRun s₂ hs₂ (by rw [hattempts]; decide) with
      ⟨p, hp, -⟩ | ⟨cs, s', r, hcs, hsteps, hans, -, hresized, -, hwhole, -⟩
    · exact absurd hp hanswer.1.isBack.not_standsAt
    · have hend := List.all_eq_true.1 hlast cs ((List.mem_inits ..).2 hcs)
      simp only [hsteps, Option.all_some, hans.top?, Option.isSome_none, Bool.false_or,
        beq_iff_eq] at hend
      obtain rfl := hcs.eq_of_length hend
      cases hs₂.symm.trans hsteps
      cases hans.eq hanswer.1
      exact ⟨hresized, hwhole⟩
  -- the construction
  have hrun₃ : ((State.founding "pool" false none 1 2).steps fallingRun).isSome = true := rfl
  obtain ⟨s₃, hs₃⟩ := Option.isSome_iff_exists.1 hrun₃
  have hrun₄ : (s₃.step (.run 0 ⟨0, true⟩)).isSome = true := by cases hs₃; rfl
  obtain ⟨s₄, hs₄⟩ := Option.isSome_iff_exists.1 hrun₄
  have hbusy : fallingRun.inits.all (fun cs =>
      ((State.founding "pool" false none 1 2).steps cs).all fun s =>
        (s.top? 0).isSome) = true := rfl
  have hfailed : s₄.HasAnswer 0 [] (.refused 1) ∧ (s₄.badge? 1).isSome = true := by
    cases hs₃; cases hs₄
    exact ⟨⟨_, rfl, rfl, rfl⟩, rfl⟩
  obtain ⟨halive, hended⟩ := h₁.shortage.2 fallingRun s₃ _ s₄ 1 hs₃ (fun bs s' hbs hs' htop => by
    have := List.all_eq_true.1 hbusy bs ((List.mem_inits ..).2 hbs)
    simp [hs', htop] at this) hs₄ hfailed.1
  exact ⟨s, s₁, s₂, s₃, s₄, hs, hs₁, hs₂, hroster, hanswer.1, hanswer.2, houtcome.1, houtcome.2,
    houtcome.2.reached 3 (by simp [hanswer.2]), hs₃, hs₄, hfailed.1, halive, hended 1 hfailed.2⟩

end WorkerPool
