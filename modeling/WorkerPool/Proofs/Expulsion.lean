/-
  A forced stop on its way.

  * `State.Deserted`: nobody is owned and nobody can be any more;
    `Move.deserted`: this stays so;
  * `State.Expelling` says where a forced stop is: it tells the workers to
    leave, it holds the lock with all of them told, it waits for them, or they
    are at their end;
  * `State.Expulsion`: a forced stop that has been let in is at one of these
    places; `Move.expulsion`: every action keeps this,
    `State.Reachable.expulsion`: the stop begins it;
  * `first_pass`: before it returns, it makes a pass through the backlog.
-/
import WorkerPool.Proofs.Closing

namespace WorkerPool

variable {B V : Type}

/-! ## A pool without workers -/

/-- A forced stop was made, and nobody is owned or can be any more. -/
structure State.Deserted (s : State B V) : Prop where
  forced : s.forced = true
  lock : s.lock = none
  roster : s.roster = []

section
variable {s s' : State B V} {t u : ThreadId} {th : Thread V} {c : Chance} {a : Activity V}
  {turn : Turn B V} {rest : List (Activity V)}

theorem Deed.deserted (hd : Deed s t th c a turn) (ha : a.locks = 0) (h : s.Deserted) :
    turn.state.Deserted := by
  have hstop : s.isStopped = true := by rw [State.isStopped, h.forced, Bool.or_true]
  cases hd with
  | resizeShrink _ hs | resizeOverflow _ hs | resizeGrow _ hs | graceful _ hs =>
    rw [hstop] at hs
    cases hs
  | forced _ hs =>
    rw [h.forced] at hs
    cases hs
  | spawnNul | spawn | spawnRefused | resizeTell | resizeClose | disband => cases ha
  | clear hp | clearEnd hp | purge hp | purgeEnd hp | sweep hp | sweepEnd hp =>
    cases hp <;> exact ⟨h.forced, h.lock, h.roster⟩
  | _ => exact ⟨h.forced, h.lock, h.roster⟩

/-- Whoever stands at a point at which the lock is held holds it. -/
theorem State.Ruled.lock_ne_none (h : s.Ruled) (ht : s.top? t = some a) (ha : 0 < a.locks) :
    s.lock ≠ none := by
  intro hl
  obtain ⟨th, rest, ht, hs⟩ := top?_eq_some_iff.1 ht
  have hpos := tally_pos ht (Thread.mem_of_stack hs) ha
  rw [h.lock, hl] at hpos
  cases hpos

/-- **Nobody is owned again after a forced stop.** -/
theorem Move.deserted {x : Action B V} (hm : Move s x s') (hr : s.Ruled) (h : s.Deserted) :
    s'.Deserted := by
  cases hm.ruling with
  | @step _ _ _ a _ _ _ ht hs _ hd =>
    have htop := top?_eq_some_iff.2 ⟨_, _, ht, hs⟩
    have hfree : a.locks = 0 := by
      by_contra hne
      exact hr.lock_ne_none htop (Nat.pos_of_ne_zero hne) h.lock
    obtain ⟨hf, hl, hroster⟩ := hd.deserted hfree h
    exact ⟨hf, hl, hroster⟩
  | other hu =>
    exact ⟨hu.forced.trans h.forced, hu.lock.trans h.lock, hu.roster.trans h.roster⟩

theorem State.Deserted.steps {bs : List (Action B V)} (h : s.Deserted) (hr : s.Reachable)
    (hbs : s.steps bs = some s') : s'.Deserted :=
  hr.keep (fun _ _ _ hr h hm => hm.deserted hr.ruled h) h hbs

theorem Move.forced {x : Action B V} (hm : Move s x s') (h : s.forced = true) :
    s'.forced = true := by
  cases hm.ruling with
  | step _ _ _ _ hd => exact hd.forced_mono h
  | other hu => rw [hu.forced, h]

theorem Move.isTold {x : Action B V} (hm : Move s x s') (h : s.IsTold u) : s'.IsTold u :=
  hm.isTold_iff.2 (.inl h)

end

/-! ## The stop on its way -/

/-- The points from the first pass of a forced stop to the one at which it
    empties the roster. -/
def StopPoint.Clears : StopPoint → Prop
  | purge _ | wake | disband => True
  | _ => False

/-- Where the forced stop of thread `t` is, which found the roster `us` and
    stands above `rest`. -/
inductive State.Expelling (s : State B V) (t : ThreadId) (us : List ThreadId)
    (rest : List (Activity V)) : Prop where
  /-- it tells the workers to leave -/
  | telling {th vs} (ht : s.threads[t]? = some th)
      (hs : th.stack = .stop false (.tell vs) :: rest) (hr : s.roster = us)
      (he : ∀ u ∈ us, u ∈ vs ∨ s.IsTold u)
  /-- all are told, and it still holds the lock -/
  | clearing {th p} (ht : s.threads[t]? = some th) (hs : th.stack = .stop false p :: rest)
      (hp : p.Clears) (hr : s.roster = us) (he : ∀ u ∈ us, s.IsTold u)
  /-- it waits for the workers -/
  | joining {th vs n} (ht : s.threads[t]? = some th)
      (hs : th.stack = .stop false (.join vs n) :: rest) (hd : s.Deserted)
      (he : ∀ u ∈ us, u ≠ t → u ∈ vs ∨ s.HasEnded u)
  /-- the workers have ended -/
  | joined (hd : s.Deserted) (he : ∀ u ∈ us, u ≠ t → s.HasEnded u)

/-- The forced stop of thread `t` has been let in. -/
structure State.Expulsion (s : State B V) (t : ThreadId) (us : List ThreadId)
    (rest : List (Activity V)) : Prop where
  forced : s.forced = true
  worker : ∀ u ∈ us, (s.badge? u).isSome = true
  expelling : s.Expelling t us rest

section
variable {s s' : State B V} {t u : ThreadId} {th : Thread V} {c : Chance} {a : Activity V}
  {turn : Turn B V} {us : List ThreadId} {rest : List (Activity V)}

theorem Sweep.roster {p : Clearing} {o : Clearing ⊕ Nat} (hp : Sweep s p s' o) :
    s'.roster = s.roster := by
  cases hp <;> rfl

/-- The thread of the stop itself takes its next step. -/
theorem Move.expelling_self {x : Action B V} (hm : Move s x s') (hr : s.Ruled)
    (h : s.Expulsion t us rest) (hx : x.actor? = some t) : s'.Expelling t us rest := by
  have hend {u : ThreadId} (he : s.HasEnded u) : s'.HasEnded u := hm.hasEnded he
  have htold {u : ThreadId} (he : s.IsTold u) : s'.IsTold u := hm.isTold he
  have hdes := hm.deserted hr
  cases h.expelling with
  | telling ht hs hroster he =>
    obtain ⟨c, turn, rfl, hd, rfl⟩ := hm.stop_step hx ht hs
    obtain ⟨w, hw, hst⟩ := hd.stack ht hs
    cases hd with
    | stopTold =>
      exact .clearing hw hst trivial hroster fun u hu => htold ((he u hu).resolve_left nofun)
    | stopTell =>
      refine .telling hw hst hroster fun u hu => ?_
      rcases he u hu with hv | hv
      · rcases List.mem_cons.1 hv with rfl | hv
        · have htop := top?_eq_some_iff.2 ⟨_, _, ht, hs⟩
          exact .inr (hm.isTold_iff.2 (.inr ⟨t, c, _, rfl, htop, rfl, h.worker u hu⟩))
        · exact .inl hv
      · exact .inr (htold hv)
  | clearing ht hs hp hroster he =>
    obtain ⟨c, turn, -, hd, rfl⟩ := hm.stop_step hx ht hs
    obtain ⟨w, hw, hst⟩ := hd.stack ht hs
    have hall : ∀ u ∈ us, (State.settleTurn t turn).IsTold u := fun u hu => htold (he u hu)
    cases hd with
    | purge hp' | purgeEnd hp' => exact .clearing hw hst trivial (hp'.roster.trans hroster) hall
    | stopWake => exact .clearing hw hst trivial hroster hall
    | disband =>
      exact .joining hw hst ⟨h.forced, rfl, rfl⟩ fun u hu _ => .inl (hroster ▸ hu)
    | _ => exact hp.elim
  | joining ht hs hd' he =>
    obtain ⟨c, turn, -, hd, rfl⟩ := hm.stop_step hx ht hs
    obtain ⟨w, hw, hst⟩ := hd.stack ht hs
    cases hd with
    | joined => exact .joined (hdes hd') fun u hu hne => hend ((he u hu hne).resolve_left nofun)
    | join hj =>
      refine .joining hw hst (hdes hd') fun u hu hne => ?_
      rcases he u hu hne with hv | hv
      · rcases List.mem_cons.1 hv with rfl | hv
        · exact .inr (hend (hasEnded_of_join hj hne (h.worker u hu)))
        · exact .inl hv
      · exact .inr (hend hv)
  | joined hd he => exact .joined (hdes hd) fun u hu hne => hend (he u hu hne)

/-- Another thread, or the world, does something. -/
theorem Move.expelling_other {x : Action B V} (hm : Move s x s') (hr : s.Ruled)
    (h : s.Expulsion t us rest) (hx : x.actor? ≠ some t) : s'.Expelling t us rest := by
  have hend {u : ThreadId} (he : s.HasEnded u) : s'.HasEnded u := hm.hasEnded he
  have htold {u : ThreadId} (he : s.IsTold u) : s'.IsTold u := hm.isTold he
  have hdes := hm.deserted hr
  cases h.expelling with
  | telling ht hs hroster he =>
    obtain ⟨w, hw, hsame⟩ := hm.same hx ht
    have hkeep := hm.keeps_lock hr ht (Thread.mem_of_stack hs) Nat.one_pos hx
    exact .telling hw (hsame.stack.trans hs) (hkeep.2.trans hroster)
      fun u hu => (he u hu).imp_right htold
  | @clearing th p ht hs hp hroster he =>
    obtain ⟨w, hw, hsame⟩ := hm.same hx ht
    have hlock : 0 < Activity.locks (V := V) (.stop false p) := by
      cases p <;> first | exact Nat.one_pos | exact hp.elim
    have hkeep := hm.keeps_lock hr ht (Thread.mem_of_stack hs) hlock hx
    exact .clearing hw (hsame.stack.trans hs) hp (hkeep.2.trans hroster)
      fun u hu => htold (he u hu)
  | joining ht hs hd he =>
    obtain ⟨w, hw, hsame⟩ := hm.same hx ht
    exact .joining hw (hsame.stack.trans hs) (hdes hd)
      fun u hu hne => (he u hu hne).imp_right hend
  | joined hd he => exact .joined (hdes hd) fun u hu hne => hend (he u hu hne)

/-- **A forced stop that is let in goes its way**, whatever the others do. -/
theorem Move.expulsion {x : Action B V} (hm : Move s x s') (hr : s.Ruled)
    (h : s.Expulsion t us rest) : s'.Expulsion t us rest where
  forced := hm.forced h.forced
  worker u hu := hm.isSome_badge? (h.worker u hu)
  expelling := by
    by_cases hx : x.actor? = some t
    · exact hm.expelling_self hr h hx
    · exact hm.expelling_other hr h hx

theorem State.Expulsion.steps {bs : List (Action B V)} (h : s.Expulsion t us rest)
    (hr : s.Reachable) (hbs : s.steps bs = some s') : s'.Expulsion t us rest :=
  hr.keep (fun _ _ _ hr h hm => hm.expulsion hr.ruled h) h hbs

/-! ## Its beginning and its end -/

/-- **A forced stop that is let in** is about to tell the whole roster. -/
theorem State.Reachable.expulsion (hr : s.Reachable) (ht : s.threads[t]? = some th)
    (hs : th.stack = .stop false .enter :: rest) (hforced : s.forced = false)
    (hrun : s.run t c = some s') : s'.Expulsion t s.roster rest ∧
      ∃ w, s'.threads[t]? = some w ∧ w.stack = .stop false (.tell s.roster) :: rest := by
  have hm : Move s (.run t c) s' := step_iff.1 hrun
  obtain ⟨_, turn, heq, hd, rfl⟩ := hm.stop_step rfl ht hs
  cases heq
  obtain ⟨w, hw, hst⟩ := hd.stack ht hs
  cases hd with
  | forcedAgain _ hf => rw [hforced] at hf; cases hf
  | forced hl =>
    exact ⟨⟨rfl, fun u hu => hm.isSome_badge? (hr.ruled.worker u hu),
      .telling hw hst rfl fun u hu => .inl hu⟩, w, hw, hst⟩

/-- While it throws the backlog away for the first time, all are told. -/
theorem State.Expulsion.told (h : s.Expulsion t us rest) (hr : s.Ruled) {p : Clearing}
    (ht : s.top? t = some (.stop false (.purge p))) : ∀ u ∈ us, s.IsTold u := by
  obtain ⟨w, below, hw, hst⟩ := top?_eq_some_iff.1 ht
  cases h.expelling with
  | telling ht' hs =>
    cases hw.symm.trans ht'
    rw [hst] at hs
    cases hs
  | clearing _ _ _ _ he => exact he
  | joining ht' hs =>
    cases hw.symm.trans ht'
    rw [hst] at hs
    cases hs
  | joined hd => exact absurd hd.lock (hr.lock_ne_none ht Nat.one_pos)

/-- When the stop has returned, its workers have ended. -/
theorem State.Expulsion.returned (h : s.Expulsion t us rest) (ht : s.threads[t]? = some th)
    (hs : th.stack = rest) : s.Deserted ∧ ∀ u ∈ us, u ≠ t → s.HasEnded u := by
  cases h.expelling with
  | telling hw hst | clearing hw hst | joining hw hst =>
    exact absurd hst (returned_ne ht hs hw)
  | joined hd he => exact ⟨hd, he⟩

/-- **Before it returns, a forced stop makes a pass through the backlog.** -/
theorem first_pass {th' : Thread V} {bs : List (Action B V)} {vs : List ThreadId}
    (ht : s.threads[t]? = some th) (hs : th.stack = .stop false (.tell vs) :: rest)
    (hbs : s.steps bs = some s') (ht' : s'.threads[t]? = some th') (hs' : th'.stack = rest) :
    ∃ bs₁ c bs₂ sp, bs = bs₁ ++ .run t c :: bs₂ ∧ s.steps bs₁ = some sp ∧
      sp.top? t = some (.stop false (.purge .drain)) := by
  obtain ⟨bs₁, c, bs₂, sp, w, p, hsplit, hsp, hw, hst, -, rfl⟩ :=
    stop_passes (P := fun p => (∃ vs, p = .tell vs) ∨ p = .purge .drain)
      (Q := fun p => p = .purge .drain) (fun _ _ _ p turn hd hp hq => by
        obtain ⟨vs, rfl⟩ := hp.resolve_right hq
        cases hd with
        | stopTold => exact ⟨_, rfl, .inr rfl⟩
        | stopTell => exact ⟨_, rfl, .inl ⟨_, rfl⟩⟩) ht hs (.inl ⟨vs, rfl⟩) hbs ht' hs'
  exact ⟨bs₁, c, bs₂, sp, hsplit, hsp, top?_eq_some_iff.2 ⟨w, rest, hw, hst⟩⟩

end

end WorkerPool
