/-
  A graceful stop on its way.

  * `State.Stopping` says where the stop is: it holds the lock and the roster
    is as it found it, or it waits for the workers, or those are at their end;
  * `State.Closing`: from the moment a graceful stop is let in, nobody else
    changes the roster or sends a worker of it away;
  * `Move.closing`: every action keeps this, `Deed.closing`: the stop begins it.
-/
import WorkerPool.Proofs.Tenure

namespace WorkerPool

variable {B V : Type}

/-! ## Those who change the roster -/

/-- One for whoever changes the roster, or is about to send a worker away. -/
def Activity.meddles : Activity V → Nat
  | resize _ .enter => 0
  | resize .. => 1
  | stop _ (.tell (_ :: _)) => 1
  | _ => 0

section
variable {s s' : State B V} {t u : ThreadId} {th : Thread V} {c : Chance} {a : Activity V}
  {turn : Turn B V} {rest : List (Activity V)}

theorem meddles_of_not_rules (ha : ¬ a.Rules) : a.meddles = 0 := by
  cases a with
  | resize n p => cases p <;> simp_all [Activity.Rules, Activity.meddles]
  | stop g p => cases p <;> simp_all [Activity.Rules, Activity.meddles]
  | _ => rfl

theorem Activity.Tells.meddles (h : a.Tells u) : 0 < a.meddles := by
  unfold Activity.Tells at h
  split at h
  · exact Nat.one_pos
  · exact Nat.one_pos
  · exact h.elim

/-- Whoever meddles has the lock. -/
theorem meddles_le_locks : a.meddles ≤ a.locks := by
  cases a with
  | resize n p => cases p <;> exact Nat.le_of_ble_eq_true rfl
  | stop g p =>
    cases p with
    | tell us => cases us <;> exact Nat.le_of_ble_eq_true rfl
    | _ => exact Nat.le_of_ble_eq_true rfl
  | _ => exact Nat.le_refl 0

@[simp] theorem meddles_grow {n i start : Nat} :
    Activity.meddles (V := V) (.resize n (.grow n i start)) = 1 := by
  unfold ResizePoint.grow
  split <;> rfl

/-- Nobody begins to meddle once the pool is stopped and the roster empty. -/
theorem Deed.meddles_le (hd : Deed s t th c a turn) (hdone : s.done = true)
    (hr : s.lock = none → s.roster = []) : (turn.next.map Activity.meddles).sum ≤ a.meddles := by
  have hstop : s.isStopped = true := by rw [State.isStopped, hdone, Bool.true_or]
  cases hd with
  | resizeShrink _ hs | resizeGrow _ hs => rw [hstop] at hs; cases hs
  | spawn =>
    simp only [List.map_cons, meddles_grow]
    exact Nat.le_of_ble_eq_true rfl
  | forced hl =>
    rw [hr hl]
    exact Nat.le_refl 0
  | @stopTell g u us => cases us <;> exact Nat.le_of_ble_eq_true rfl
  | _ => exact Nat.le_of_ble_eq_true rfl

/-- Who does not hold the lock leaves a lock that is held alone, and the roster
    with it. -/
theorem Deed.keeps_lock (hd : Deed s t th c a turn) (ha : a.locks = 0) (hl : s.lock.isSome = true) :
    turn.state.lock = s.lock ∧ turn.state.roster = s.roster := by
  cases hd with
  | resizeShrink h | resizeGrow h | graceful h | forced h => rw [h] at hl; cases hl
  | spawnNul | spawn | spawnRefused | resizeClose | disband => cases ha
  | clear hp | clearEnd hp | purge hp | purgeEnd hp | sweep hp | sweepEnd hp =>
    cases hp <;> exact ⟨rfl, rfl⟩
  | _ => exact ⟨rfl, rfl⟩

/-- An empty roster stays empty if nobody meddles. -/
theorem Deed.roster_nil (hd : Deed s t th c a turn) (ha : a.meddles = 0) (hr : s.roster = []) :
    turn.state.roster = [] := by
  rcases hd.roster with hsub | ⟨n, i, start, rfl, -, -⟩
  · rw [hr] at hsub
    exact List.prefix_nil.1 hsub
  · cases ha

/-! ## The lock -/

/-- Two different threads do not hold the lock together. -/
theorem State.Ruled.locks_eq_zero (h : s.Ruled) {v : ThreadId} {w : Thread V}
    (ht : s.threads[t]? = some th) (hlock : 0 < th.tally Activity.locks)
    (hv : s.threads[v]? = some w) (hne : v ≠ t) (ha : a ∈ w.stack) : a.locks = 0 := by
  by_contra hpos
  have hle := two_le_tally hv ht hne (Thread.tally_pos ha (Nat.pos_of_ne_zero hpos)) hlock
  rw [h.lock] at hle
  exact Nat.not_succ_le_self 1 (Nat.le_trans hle (Bool.toNat_le _))

/-- While someone else holds the lock, a thread changes neither it nor the
    roster. -/
theorem Move.keeps_lock {x : Action B V} (hm : Move s x s') (h : s.Ruled)
    (ht : s.threads[t]? = some th) (ha : a ∈ th.stack) (hlock : 0 < a.locks)
    (hne : x.actor? ≠ some t) : s'.lock = s.lock ∧ s'.roster = s.roster := by
  cases hm.ruling with
  | @step v _ w _ _ _ _ hv hs _ hd =>
    have hne : v ≠ t := fun h => hne (congrArg some h)
    have hzero := h.locks_eq_zero ht (Thread.tally_pos ha hlock) hv hne
      (Thread.mem_of_stack hs)
    refine hd.keeps_lock hzero ?_
    have hpos := tally_pos ht ha hlock
    rw [h.lock] at hpos
    cases hl : s.lock.isSome with
    | true => rfl
    | false => rw [hl] at hpos; cases hpos
  | other hu => exact ⟨hu.lock, hu.roster⟩

end

/-! ## The stop on its way -/

/-- Where the graceful stop of thread `t` is, which found the roster `us` and
    stands above `rest`. -/
inductive State.Stopping (s : State B V) (t : ThreadId) (us : List ThreadId)
    (rest : List (Activity V)) : Prop where
  /-- it holds the lock -/
  | holding {th p} (ht : s.threads[t]? = some th) (hs : th.stack = .stop true p :: rest)
      (hp : p = .wake ∨ p = .disband) (hr : s.roster = us)
  /-- it waits for the workers -/
  | joining {th vs n} (ht : s.threads[t]? = some th)
      (hs : th.stack = .stop true (.join vs n) :: rest)
      (hr : s.roster = []) (he : ∀ u ∈ us, u ≠ t → u ∈ vs ∨ s.HasEnded u)
  /-- the workers have ended -/
  | joined (hr : s.roster = []) (he : ∀ u ∈ us, u ≠ t → s.HasEnded u)

/-- The graceful stop of thread `t` has been let in. -/
structure State.Closing (s : State B V) (t : ThreadId) (us : List ThreadId)
    (rest : List (Activity V)) : Prop where
  done : s.done = true
  calm : tally Activity.meddles s.threads = 0
  worker : ∀ u ∈ us, (s.badge? u).isSome = true
  loyal : ∀ u ∈ us, ¬ s.IsTold u
  stopping : s.Stopping t us rest

section
variable {s s' : State B V} {t u : ThreadId} {th : Thread V} {c : Chance} {a : Activity V}
  {turn : Turn B V} {us : List ThreadId} {rest : List (Activity V)}

theorem meddles_eq_zero (h : tally Activity.meddles s.threads = 0) (ht : s.threads[t]? = some th)
    (ha : a ∈ th.stack) : a.meddles = 0 := by
  by_contra hne
  have := tally_pos ht ha (Nat.pos_of_ne_zero hne)
  omega

theorem Move.roster_nil {x : Action B V} (hm : Move s x s')
    (h : tally Activity.meddles s.threads = 0) (hr : s.roster = []) : s'.roster = [] := by
  cases hm.ruling with
  | step _ ht hs _ hd =>
    exact hd.roster_nil (meddles_eq_zero h ht (Thread.mem_of_stack hs)) hr
  | other hu => rw [hu.roster, hr]

/-- A wait for a worker is over when the worker has ended. -/
theorem hasEnded_of_join {l : List Record} (hj : s.join t u = some { s with log := l })
    (hne : u ≠ t) (hb : (s.badge? u).isSome = true) : s.HasEnded u := by
  obtain ⟨w, hw, -⟩ := isSome_badge?_iff.1 hb
  refine ⟨w, hw, ?_⟩
  by_contra hend
  simp [State.join, hne, hw, hend] at hj

/-- A thread in the middle of a resize or of a stop does nothing but the next
    step of it. -/
theorem Move.ruling_step {x : Action B V} (hm : Move s x s') (hx : x.actor? = some t)
    (ht : s.threads[t]? = some th) (hs : th.stack = a :: rest) (ha : a.IsRuling) :
    ∃ c turn, x = .run t c ∧ Deed s t th c a turn ∧ s' = State.settleTurn t turn := by
  cases hm with
  | arrive | rouse | tick => cases hx
  | call ht' hf =>
    cases hx
    cases ht.symm.trans ht'
    cases a with
    | resize | stop => simp [Thread.isFree, hs] at hf
    | _ => exact ha.elim
  | finish ht' hs' | hook ht' hs' | hookPanic ht' hs' | expire ht' hs' =>
    cases hx
    cases ht.symm.trans ht'
    cases hs.symm.trans hs'
    exact ha.elim
  | run _ ht' hs' hd =>
    cases hx
    cases ht.symm.trans ht'
    cases hs.symm.trans hs'
    exact ⟨_, _, rfl, hd, rfl⟩

theorem Move.stop_step {x : Action B V} {g : Bool} {p : StopPoint} (hm : Move s x s')
    (hx : x.actor? = some t) (ht : s.threads[t]? = some th)
    (hs : th.stack = .stop g p :: rest) :
    ∃ c turn, x = .run t c ∧ Deed s t th c (.stop g p) turn ∧ s' = State.settleTurn t turn :=
  hm.ruling_step hx ht hs trivial

/-- Whoever is not in the middle of a stop begins one at its entrance, and then a
    graceful one. -/
theorem Deed.stop_mem {g : Bool} {q : StopPoint} (hd : Deed s t th c a turn)
    (hq : .stop g q ∈ turn.next) : (∃ p, a = .stop g p) ∨ g = true ∧ q = .enter := by
  cases hd with
  | graceful | forced | stopTold | stopTell | purge | purgeEnd | stopWake | disband | joined | join
  | inspectNone | inspectLeft | sweep | sweepEnd => cases List.mem_singleton.1 hq; exact .inl ⟨_, rfl⟩
  | buildRefused | buildPanicked => simp at hq; exact .inr hq
  | fetched | unmark => simp [runNext] at hq
  | _ => simp at hq

/-- The stack of the thread that has taken a step. -/
theorem Deed.stack (hd : Deed s t th c a turn) (ht : s.threads[t]? = some th)
    (hs : th.stack = a :: rest) :
    ∃ w, (State.settleTurn t turn).threads[t]? = some w ∧ w.stack = turn.next ++ rest := by
  obtain ⟨w, hw, hsame⟩ := hd.same ht
  exact ⟨_, getElem?_modifyThread_self hw, by rw [hsame.stack, hs, List.tail_cons]⟩

/-- A thread that has come back to what was below is not above it. -/
theorem returned_ne {w : Thread V} (ht : s.threads[t]? = some th) (hs : th.stack = rest)
    (hw : s.threads[t]? = some w) : w.stack ≠ a :: rest := by
  intro hst
  cases ht.symm.trans hw
  rw [hs] at hst
  exact List.cons_ne_self _ _ hst.symm

/-- A stop whose points are all in `P`, until it comes to one in `Q`, comes to
    one in `Q` before it returns. -/
theorem stop_passes {g : Bool} {P Q : StopPoint → Prop} {p : StopPoint} {th' : Thread V}
    {bs : List (Action B V)}
    (hnext : ∀ (s : State B V) th c p turn, Deed s t th c (.stop g p) turn → P p → ¬ Q p →
      ∃ p', turn.next = [.stop g p'] ∧ P p')
    (ht : s.threads[t]? = some th) (hs : th.stack = .stop g p :: rest) (hp : P p)
    (hbs : s.steps bs = some s') (ht' : s'.threads[t]? = some th') (hs' : th'.stack = rest) :
    ∃ bs₁ c bs₂ sq w q, bs = bs₁ ++ .run t c :: bs₂ ∧ s.steps bs₁ = some sq ∧
      sq.threads[t]? = some w ∧ w.stack = .stop g q :: rest ∧ P q ∧ Q q := by
  induction bs generalizing s th p with
  | nil =>
    cases hbs
    exact absurd hs (returned_ne ht' hs' ht)
  | cons x bs ih =>
    obtain ⟨s₁, hm, hbs⟩ := steps_cons.1 hbs
    -- a point that comes later is one of the whole run
    have later {w : Thread V} {p : StopPoint} (hw : s₁.threads[t]? = some w)
        (hst : w.stack = .stop g p :: rest) (hp : P p) :
        ∃ bs₁ c bs₂ sq w q, x :: bs = bs₁ ++ .run t c :: bs₂ ∧ s.steps bs₁ = some sq ∧
          sq.threads[t]? = some w ∧ w.stack = .stop g q :: rest ∧ P q ∧ Q q := by
      obtain ⟨bs₁, c, bs₂, sq, w, q, rfl, hsq, hfacts⟩ := ih hw hst hp hbs
      exact ⟨x :: bs₁, c, bs₂, sq, w, q, rfl, steps_cons.2 ⟨s₁, hm, hsq⟩, hfacts⟩
    by_cases hx : x.actor? = some t
    · obtain ⟨c, turn, rfl, hd, rfl⟩ := hm.stop_step hx ht hs
      by_cases hq : Q p
      · exact ⟨[], c, bs, s, th, p, rfl, steps_nil s, ht, hs, hp, hq⟩
      · obtain ⟨p', hturn, hp'⟩ := hnext _ _ _ _ _ hd hp hq
        obtain ⟨w, hw, hst⟩ := hd.stack ht hs
        exact later hw (hst.trans (by rw [hturn]; rfl)) hp'
    · obtain ⟨w, hw, hsame⟩ := hm.same hx ht
      exact later hw (hsame.stack.trans hs) hp

/-! ## Preservation -/

/-- The thread of the stop itself takes its next step. -/
theorem Move.stopping_self {x : Action B V} (hm : Move s x s') (h : s.Closing t us rest)
    (hx : x.actor? = some t) : s'.Stopping t us rest := by
  have hend {u : ThreadId} (he : s.HasEnded u) : s'.HasEnded u := hm.hasEnded he
  have hnil := hm.roster_nil h.calm
  cases h.stopping with
  | holding ht hs hp hr =>
    obtain ⟨c, turn, -, hd, rfl⟩ := hm.stop_step hx ht hs
    obtain ⟨w, hw, hst⟩ := hd.stack ht hs
    rcases hp with rfl | rfl
    · cases hd
      exact .holding hw hst (.inr rfl) hr
    · cases hd
      exact .joining hw hst rfl fun u hu _ => .inl (hr ▸ hu)
  | joining ht hs hr he =>
    obtain ⟨c, turn, -, hd, rfl⟩ := hm.stop_step hx ht hs
    obtain ⟨w, hw, hst⟩ := hd.stack ht hs
    cases hd with
    | joined => exact .joined hr fun u hu hne => hend ((he u hu hne).resolve_left nofun)
    | join hj =>
      refine .joining hw hst hr fun u hu hne => ?_
      rcases he u hu hne with hm | hm
      · rcases List.mem_cons.1 hm with rfl | hm
        · exact .inr (hend (hasEnded_of_join hj hne (h.worker u hu)))
        · exact .inl hm
      · exact .inr (hend hm)
  | joined hr he => exact .joined (hnil hr) fun u hu hne => hend (he u hu hne)

/-- Another thread, or the world, does something. -/
theorem Move.stopping_other {x : Action B V} (hm : Move s x s') (hr : s.Ruled)
    (h : s.Closing t us rest) (hx : x.actor? ≠ some t) : s'.Stopping t us rest := by
  have hend {u : ThreadId} (he : s.HasEnded u) : s'.HasEnded u := hm.hasEnded he
  have hnil := hm.roster_nil h.calm
  cases h.stopping with
  | @holding th p ht hs hp hroster =>
    obtain ⟨w, hw, hsame⟩ := hm.same hx ht
    have hlock : 0 < Activity.locks (V := V) (.stop true p) := by
      rcases hp with rfl | rfl <;> exact Nat.one_pos
    have hkeep := hm.keeps_lock hr ht (Thread.mem_of_stack hs) hlock hx
    exact .holding hw (hsame.stack.trans hs) hp (hkeep.2.trans hroster)
  | joining ht hs hroster he =>
    obtain ⟨w, hw, hsame⟩ := hm.same hx ht
    exact .joining hw (hsame.stack.trans hs) (hnil hroster)
      fun u hu hne => (he u hu hne).imp_right hend
  | joined hroster he => exact .joined (hnil hroster) fun u hu hne => hend (he u hu hne)

/-- The lock is held, or the roster is empty. -/
theorem State.Closing.roster_nil (h : s.Closing t us rest) (hr : s.Ruled) (hl : s.lock = none) :
    s.roster = [] := by
  cases h.stopping with
  | @holding th p ht hs hp =>
    have hpos := tally_pos (f := Activity.locks) ht (a := .stop true p)
      (Thread.mem_of_stack hs) (by rcases hp with rfl | rfl <;> exact Nat.one_pos)
    rw [hr.lock, hl] at hpos
    cases hpos
  | joining _ _ hroster => exact hroster
  | joined hroster => exact hroster

/-- **Once a graceful stop is let in, nobody else changes the roster** or sends
    one of its workers away. -/
theorem Move.closing {x : Action B V} (hm : Move s x s') (hr : s.Ruled)
    (h : s.Closing t us rest) : s'.Closing t us rest where
  done := hm.done h.done
  calm := by
    cases hm.ruling with
    | step _ ht hs _ hd =>
      have htally := hd.tally (f := Activity.meddles) ht hs rfl rfl
      have hle := hd.meddles_le h.done (h.roster_nil hr)
      have := h.calm
      omega
    | other hu => rw [hu.tally _ fun _ => meddles_of_not_rules, h.calm]
  worker u hu := hm.isSome_badge? (h.worker u hu)
  loyal u hu htold := by
    rcases hm.isTold_iff.1 htold with htold | ⟨v, c, a, -, ha, htells, -⟩
    · exact h.loyal u hu htold
    · obtain ⟨w, below, hw, hs⟩ := top?_eq_some_iff.1 ha
      have := meddles_eq_zero h.calm hw (a := a) (Thread.mem_of_stack hs)
      exact absurd htells.meddles (by omega)
  stopping := by
    by_cases hx : x.actor? = some t
    · exact hm.stopping_self h hx
    · exact hm.stopping_other hr h hx

/-- **A graceful stop that is let in** finds a roster of workers of whom nobody
    was told to leave. -/
theorem State.Reachable.closing (hr : s.Reachable) (ht : s.threads[t]? = some th)
    (hs : th.stack = .stop true .enter :: rest) (hstop : s.isStopped = false)
    (hrun : s.run t c = some s') : s'.Closing t s.roster rest := by
  have hm : Move s (.run t c) s' := step_iff.1 hrun
  obtain ⟨_, turn, heq, hd, rfl⟩ := hm.stop_step rfl ht hs
  cases heq
  obtain ⟨w, hw, hst⟩ := hd.stack ht hs
  obtain ⟨hdone, hforced⟩ := Bool.or_eq_false_iff.1 hstop
  have htally := hd.tally (f := Activity.meddles) ht hs rfl rfl
  cases hd with
  | gracefulAgain _ hstop' => rw [hstop] at hstop'; cases hstop'
  | graceful hl =>
    have hcalm : tally Activity.meddles s.threads = 0 := by
      by_contra hne
      obtain ⟨v, w, a, hv, ha, hpos⟩ := exists_of_tally_pos (Nat.pos_of_ne_zero hne)
      have hlocks := tally_pos hv ha (Nat.lt_of_lt_of_le hpos meddles_le_locks)
      rw [hr.ruled.lock, hl] at hlocks
      cases hlocks
    refine ⟨rfl, htally.trans hcalm, fun u hu => hm.isSome_badge? (hr.ruled.worker u hu),
      fun u hu htold => ?_, .holding hw hst (.inl rfl) rfl⟩
    rcases hm.isTold_iff.1 htold with htold | ⟨v, c, a, heq, ha, htells, -⟩
    · rw [hr.ruled.told u hu htold] at hforced
      cases hforced
    · cases heq
      rw [top?_eq_some_iff.2 ⟨th, rest, ht, hs⟩] at ha
      cases ha
      exact htells.elim

end

end WorkerPool
