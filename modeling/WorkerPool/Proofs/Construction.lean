/-
  A construction that fails.

  * `Activity.governs`: a thread builds, resizes or stops the pool; `State.Undisputed`:
    until the pool serves, nobody does so but the one who builds it;
  * `State.Construction` says how far the construction has come: the roster is filled, or
    the construction has failed and the pool is stopped, or nobody is left;
  * `Move.construction`, `State.Founded.construction`: it goes on so until it returns;
  * `State.Founded.ended_of_failed`: when it returns a failure, every worker has ended.
-/
import WorkerPool.Proofs.Calm
import WorkerPool.Proofs.GracefulStop
import WorkerPool.Proofs.Resizing

namespace WorkerPool

variable {B V : Type}

/-! ## Those who build, resize or stop -/

/-- One for whoever builds, resizes or stops the pool. -/
def Activity.governs : Activity V → Nat
  | resize .. | stop .. | reserve _ | build _ => 1
  | _ => 0

/-- The pool does not serve yet, or never has, and only thread 0 builds, resizes or stops
    it. -/
structure State.Undisputed (s : State B V) : Prop where
  life : s.life ≠ .serving
  others : ∀ u w, u ≠ 0 → s.threads[u]? = some w → ∀ a ∈ w.stack, a.governs = 0

section
variable {s s' : State B V} {t u : ThreadId} {th w w' : Thread V} {c : Chance} {a : Activity V}
  {turn : Turn B V} {rest : List (Activity V)} {x : Action B V}

theorem Deed.governs (hd : Deed s t th c a turn) (ha : a.governs = 0) :
    ∀ b ∈ turn.next, b.governs = 0 := by
  cases hd with
  | resizeStopped | resizeShrink | resizeOverflow | resizeGrow | spawnNul | spawn | spawnRefused
  | resizeTold | resizeTell | resizeWake | resizeClose | gracefulAgain | graceful | forcedAgain
  | forced | stopTold | stopTell | purge | purgeEnd | stopWake | disband | joined | join
  | inspectNone | inspectLeft | sweep | sweepEnd | stopClose | reserveOverflow | reserve
  | buildRefused | buildPanicked | build => cases ha
  | fetched | unmark => simp [runNext, Activity.governs]
  | _ => simp [Activity.governs]

theorem Follows.governs {next : List (Activity V)} (h : Follows s w a next) (ha : a.governs = 0) :
    ∀ b ∈ next, b.governs = 0 := by
  cases h with
  | run hd => exact hd.governs ha
  | finish | hook | hookPanic | expire => simp [Activity.governs]

/-- No call that is made on something else than the pool builds, resizes or stops it. -/
theorem Opening.governs {cl : Call B} {next : List (Activity V)} (ho : Opening s cl s' next)
    (hc : cl.usesPool = false) : ∀ b ∈ next, b.governs = 0 := by
  cases ho with
  | cancel | isCancelled | receive | joinAll | runTaken | dropTaken => simp [Activity.governs]
  | _ => cases hc

theorem Thread.Next.governs {o : Option (Thread V)} (h : Thread.Next s o w)
    (hl : s.life ≠ .serving) (ho : ∀ w, o = some w → ∀ a ∈ w.stack, a.governs = 0) :
    ∀ a ∈ w.stack, a.governs = 0 := by
  cases h with
  | same hsame => rw [hsame.stack]; exact ho _ rfl
  | outside => exact nofun
  | worker i => simp [Thread.worker, Activity.governs]
  | @call _ _ cl _ _ _ hserving hopen hs =>
    have hc : cl.usesPool = false := Bool.eq_false_iff.2 fun hc => hl (hserving hc)
    rw [hs]
    exact fun a ha => (List.mem_append.1 ha).elim (hopen.governs hc a) (ho _ rfl a)
  | step hx hf hs =>
    have hold := ho _ rfl
    rw [hx] at hold
    rw [hs]
    intro a ha
    rcases List.mem_append.1 ha with ha | ha
    · exact hf.governs (hold _ List.mem_cons_self) a ha
    · exact hold a (List.mem_cons_of_mem _ ha)

theorem Move.undisputed (hm : Move s x s') (h : s.Undisputed) (hl : s'.life ≠ .serving) :
    s'.Undisputed :=
  ⟨hl, fun u _ hu hw => (hm.thread hw).governs h.life fun w hw => h.others u w hu hw⟩

/-- Others leave the roster, its lock and the stop flags alone. -/
theorem Move.undisturbed (hm : Move s x s') (h : s.Undisputed) (hx : x.actor? ≠ some 0) :
    s.Undisturbed s' := by
  cases hm.ruling with
  | @step t _ _ a _ _ _ ht hs ha =>
    have hzero := h.others t _ (fun h0 => hx (congrArg some h0)) ht a (Thread.mem_of_stack hs)
    cases a with
    | resize | stop => cases hzero
    | _ => exact ha.elim
  | other hu => exact hu

/-- Others do not bring the pool to another stage of its life. -/
theorem Move.life_of_undisputed (hm : Move s x s') (h : s.Undisputed) (hx : x.actor? ≠ some 0) :
    s'.life = s.life := by
  cases hm with
  | call _ _ hl ho =>
    show State.life _ = _
    cases ho with
    | drop => exact absurd (hl rfl) h.life
    | _ => rfl
  | @run t _ _ a _ _ _ ht hs hd =>
    refine hd.life ?_
    have hzero := h.others t _ (fun h0 => hx (congrArg some h0)) ht a (Thread.mem_of_stack hs)
    cases a with
    | reserve | build => cases hzero
    | _ => rfl
  | _ => rfl

/-- No worker is started but by a resize. -/
theorem Move.was_worker (hm : Move s x s') (hu : (s'.badge? u).isSome = true)
    (hnone : ∀ t n i start, x.actor? = some t → s.top? t ≠ some (.resize n (.spawn i start))) :
    (s.badge? u).isSome = true := by
  by_contra hb
  obtain ⟨b, hu⟩ := Option.isSome_iff_exists.1 hu
  obtain ⟨t, c, n, i, start, rfl, htop, -⟩ := hm.enrols (by simpa using hb) hu
  exact hnone t n i start rfl htop

theorem Move.was_worker_of_undisputed (hm : Move s x s') (h : s.Undisputed)
    (hx : x.actor? ≠ some 0) (hu : (s'.badge? u).isSome = true) : (s.badge? u).isSome = true := by
  refine hm.was_worker hu fun t n i start ht htop => ?_
  obtain ⟨w, rest, hw, hs⟩ := top?_eq_some_iff.1 htop
  have hzero := h.others t w (fun h0 => hx (h0 ▸ ht)) hw _ (Thread.mem_of_stack hs)
  cases hzero

end

/-! ## How far it has come -/

/-- Every worker that was started is on the roster. -/
def State.OwnsAll (s : State B V) : Prop := ∀ u, (s.badge? u).isSome = true → u ∈ s.roster

/-- The construction of a pool with `n` workers has not returned. -/
inductive State.Construction (n : Nat) (s : State B V) : Prop where
  /-- the roster is being filled -/
  | rising {th} (ht : s.threads[0]? = some th) (hf : Founder n s.size th.reply th.stack)
      (hs : s.isStopped = false) (ho : s.OwnsAll)
  /-- it has failed, and is about to stop the pool -/
  | failed {r} (ht : s.StandsAt 0 (.stop true .enter) [.teardown r]) (hs : s.isStopped = false)
      (ho : s.OwnsAll)
  /-- it stops the pool, with the roster `us` -/
  | closing {us p r} (ht : s.StandsAt 0 (.stop true p) [.teardown r])
      (hc : s.Closing 0 us [.teardown r]) (ho : ∀ u, (s.badge? u).isSome = true → u ∈ us)
  /-- it has stopped the pool -/
  | ended {a r} (ht : s.StandsAt 0 a []) (ha : a = .teardown r ∨ ∃ ks, a = .discard ks r)
      (he : ∀ u, (s.badge? u).isSome = true → s.HasEnded u)

section
variable {s s' : State B V} {t u : ThreadId} {th w w' : Thread V} {c : Chance} {a : Activity V}
  {turn : Turn B V} {rest : List (Activity V)} {x : Action B V} {n k : Nat} {r : Reply V}
  {as : List (Action B V)}

/-- Others leave a construction where it is. -/
theorem Move.construction_other (hm : Move s x s') (hr : s.Ruled) (h : s.Undisputed)
    (hx : x.actor? ≠ some 0) (hc : s.Construction n) : s'.Construction n := by
  have hquiet := hm.undisturbed h hx
  have hsize : s'.size = s.size := congrArg List.length hquiet.roster
  have hstop : s'.isStopped = s.isStopped := by
    rw [State.isStopped, hquiet.done, hquiet.forced, State.isStopped]
  have hworker {u : ThreadId} := hm.was_worker_of_undisputed h hx (u := u)
  have howns (ho : s.OwnsAll) : s'.OwnsAll := fun u hu => hquiet.roster ▸ ho u (hworker hu)
  cases hc with
  | rising ht hf hs ho =>
    obtain ⟨w, hw, hsame⟩ := hm.same hx ht
    refine .rising hw ?_ (hstop.trans hs) (howns ho)
    rw [hsize, hsame.reply, hsame.stack]
    exact hf
  | failed ht hs ho => exact .failed (hm.standsAt hx ht) (hstop.trans hs) (howns ho)
  | closing ht hcl ho =>
    exact .closing (hm.standsAt hx ht) (hm.closing hr hcl) fun u hu => ho u (hworker hu)
  | ended ht ha he =>
    exact .ended (hm.standsAt hx ht) ha fun u hu => hm.hasEnded (he u (hworker hu))

/-- What the one who builds the pool has begun is on the way to an end. -/
theorem State.Construction.top (h : s.Construction n) :
    ∃ th a rest, s.threads[0]? = some th ∧ th.stack = a :: rest ∧ a.isDriven = true := by
  cases h with
  | rising ht hf =>
    obtain ⟨a, rest, hs, -, -, ha⟩ := hf.top
    refine ⟨_, a, rest, ht, hs, ?_⟩
    rcases ha with rfl | ⟨p, rfl⟩ | rfl <;> rfl
  | failed ht | closing ht =>
    obtain ⟨th, ht, hs⟩ := ht
    exact ⟨th, _, _, ht, hs, rfl⟩
  | ended ht ha =>
    obtain ⟨th, ht, hs⟩ := ht
    refine ⟨th, _, _, ht, hs, ?_⟩
    rcases ha with rfl | ⟨ks, rfl⟩ <;> rfl

/-- While the roster is being filled, nobody is taken off it. -/
theorem Deed.founder_roster {m : Nat} {r : Option (Reply V)} (hd : Deed s t th c a turn)
    (h : Founder n m r (a :: rest)) (hm : s.size = m) : s.roster ⊆ turn.state.roster := by
  generalize hst : a :: rest = st at h
  cases h with
  | reserve =>
    cases hst
    cases hd <;> exact List.Subset.refl _
  | enter =>
    cases hst
    cases hd with
    | resizeShrink _ _ hn => omega
    | _ => exact List.Subset.refl _
  | spawn =>
    cases hst
    cases hd with
    | spawn => exact List.subset_append_left _ _
    | _ => exact List.Subset.refl _
  | close =>
    cases hst
    cases hd
    exact List.Subset.refl _
  | built | refused | panicked =>
    cases hst
    cases hd <;> exact List.Subset.refl _

/-- How a construction fails: there is no room for the roster, or the resize has failed. -/
theorem Deed.founder_fails {m : Nat} (hd : Deed s t th c a turn)
    (h : Founder n m th.reply (a :: rest)) (hl : s.life ≠ .dropped)
    (hl' : turn.state.life = .dropped) : rest = [] ∧ turn.state = { s with life := .dropped } ∧
      ((∃ r, turn.next = [.teardown r]) ∧ m = 0 ∨
        ∃ r, turn.next = [.stop true .enter, .teardown r]) := by
  obtain ⟨_, _, heq, -, -, ha⟩ := h.top
  cases heq
  rcases ha with rfl | ⟨p, rfl⟩ | rfl
  · have hbelow : rest = [] ∧ m = 0 := by
      generalize th.reply = r at h
      cases h
      exact ⟨rfl, rfl⟩
    cases hd with
    | reserveOverflow => exact ⟨hbelow.1, rfl, .inl ⟨⟨_, rfl⟩, hbelow.2⟩⟩
    | reserve => exact absurd hl' hl
  · exact absurd ((hd.life rfl).symm.trans hl') hl
  · have hbelow : rest = [] := by
      generalize th.reply = r at h
      cases h <;> rfl
    cases hd with
    | buildRefused | buildPanicked => exact ⟨hbelow, rfl, .inr ⟨_, rfl⟩⟩
    | build => cases hl'

/-- A pool whose roster is being filled is not dropped. -/
theorem Founder.not_dropped {m : Nat} {r : Option (Reply V)} {l : List (Activity V)}
    (h : Founder n m r l) (hr : s.Reachable) (ht : s.threads[0]? = some th) (hs : th.stack = l) :
    s.life ≠ .dropped := by
  intro hlife
  have hzero := hr.alive.building
  rw [hlife, if_neg (by simp)] at hzero
  have hpos : 0 < th.tally Activity.builds := by
    rw [Thread.tally, hs]
    cases h <;> simp [Activity.builds]
  have := le_tally (f := Activity.builds) ht
  omega

/-- The pool comes to serve when the construction returns. -/
theorem Deed.serves (hd : Deed s t th c a turn) (hl : s.life ≠ .serving)
    (hl' : turn.state.life = .serving) : turn.next = [] ∧ turn.reply = some .done := by
  have ha : a.builds ≠ 0 := fun h => hl ((hd.life h).symm.trans hl')
  cases a with
  | reserve =>
    cases hd with
    | reserveOverflow => cases hl'
    | reserve => exact absurd hl' hl
  | build =>
    cases hd with
    | buildRefused | buildPanicked => cases hl'
    | build => exact ⟨rfl, rfl⟩
  | _ => exact absurd rfl ha

/-- A stop goes on to one of its points, or returns. -/
theorem Deed.stop_goes {g : Bool} {p : StopPoint} (hd : Deed s t th c (.stop g p) turn) :
    (∃ q, turn.next = [.stop g q]) ∨ turn.next = [] := by
  cases hd with
  | gracefulAgain | forcedAgain | stopClose => exact .inr rfl
  | _ => exact .inl ⟨_, rfl⟩

/-- When the pool comes to serve, the construction has returned. -/
theorem Move.construction_serves (hm : Move s x s') (h : s.Undisputed) (hc : s.Construction n)
    (hl : s'.life = .serving) : s'.HasAnswer 0 [] .done := by
  by_cases hx : x.actor? = some 0
  · obtain ⟨th, a, rest, ht, hs, hdriven⟩ := hc.top
    obtain ⟨c, turn, rfl, hd, rfl⟩ := hm.own_step hx ht hs hdriven
    have hserves := hd.serves h.life hl
    have away (ha : a.builds = 0) : False := h.life ((hd.life ha).symm.trans hl)
    cases hc with
    | rising ht' hf hstop =>
      cases ht.symm.trans ht'
      rw [hs] at hf
      rcases hd.founder hf rfl hstop with ⟨hlife, -⟩ | ⟨-, -, hdone⟩ | hlife
      · exact absurd (hlife.symm.trans hl) h.life
      · obtain rfl := (List.append_eq_nil_iff.1 hdone).2
        exact hd.hasAnswer ht hs hserves.1 hserves.2
      · cases hl.symm.trans hlife
    | failed ht' | closing ht' =>
      obtain ⟨rfl, -⟩ := ht'.eq_top ht hs
      exact (away rfl).elim
    | ended ht' hb =>
      obtain ⟨rfl, -⟩ := ht'.eq_top ht hs
      rcases hb with rfl | ⟨ks, rfl⟩ <;> exact (away rfl).elim
  · exact absurd ((hm.life_of_undisputed h hx).symm.trans hl) h.life

/-- The step of a thread that does not resize makes nobody a worker. -/
theorem Move.was_worker_of_own (hm : Move s (.run t c) s') (h : s.StandsAt t a rest)
    (ha : ∀ n p, a ≠ .resize n p) (hu : (s'.badge? u).isSome = true) :
    (s.badge? u).isSome = true := by
  refine hm.was_worker hu fun t' n i start ht htop => ?_
  cases ht
  exact ha _ _ (Option.some.inj (h.top?.symm.trans htop))

/-- The roster is filled further, or the construction has failed. -/
theorem Move.rising_self (hm : Move s (.run 0 c) (State.settleTurn 0 turn)) (hr : s.Reachable)
    (hl : turn.state.life ≠ .serving) (ht : s.threads[0]? = some th) (hs : th.stack = a :: rest)
    (hd : Deed s 0 th c a turn) (hf : Founder n s.size th.reply (a :: rest))
    (hstop : s.isStopped = false) (ho : s.OwnsAll) :
    (State.settleTurn 0 turn).Construction n := by
  have owns (hsub : s.roster ⊆ turn.state.roster) : (State.settleTurn 0 turn).OwnsAll :=
    fun u hu => (hm.newcomer hu).elim (fun hb => hsub (ho u hb)) id
  rcases hd.founder hf rfl hstop with ⟨hlife, hgoes⟩ | ⟨hlife, -⟩ | hlife
  · obtain ⟨_, _, heq, hne, -⟩ := hf.top
    cases heq
    obtain ⟨w, hw, hsame⟩ := hd.same ht
    refine .rising (getElem?_modifyThread_self hw) ?_ ((hd.isStopped hne).trans hstop)
      (owns (hd.founder_roster hf rfl))
    rw [hsame.stack, hsame.reply, hs]
    exact hgoes
  · exact absurd hlife hl
  · obtain ⟨rfl, hstate, hnext⟩ := hd.founder_fails hf (hf.not_dropped hr ht hs) hlife
    have hroster : turn.state.roster = s.roster := by rw [hstate]
    have howns := owns (hroster ▸ List.Subset.refl _)
    rcases hnext with ⟨⟨r, hnext⟩, hsize⟩ | ⟨r, hnext⟩
    · refine .ended (hd.standsAt ht hs hnext) (.inl rfl) fun u hu => ?_
      have hmem : u ∈ turn.state.roster := howns u hu
      rw [hroster, List.length_eq_zero_iff.1 hsize] at hmem
      cases hmem
    · obtain ⟨w, hw, hst⟩ := hd.stack ht hs
      rw [hnext] at hst
      refine .failed ⟨w, hw, hst⟩ ?_ howns
      show turn.state.isStopped = false
      rw [hstate]
      exact hstop

/-- The stop goes on, or all workers have ended. -/
theorem Move.closing_self {us : List ThreadId} {p : StopPoint}
    (hm : Move s (.run 0 c) (State.settleTurn 0 turn)) (hout : s.badge? 0 = none)
    (h : s.StandsAt 0 (.stop true p) [.teardown r]) (ht : s.threads[0]? = some th)
    (hs : th.stack = .stop true p :: [.teardown r]) (hd : Deed s 0 th c (.stop true p) turn)
    (hcl : (State.settleTurn 0 turn).Closing 0 us [.teardown r])
    (ho : ∀ u, (s.badge? u).isSome = true → u ∈ us) :
    (State.settleTurn 0 turn).Construction n := by
  have hold {u : ThreadId} (hu : ((State.settleTurn 0 turn).badge? u).isSome = true) :=
    hm.was_worker_of_own h nofun hu
  rcases hd.stop_goes with ⟨q, hnext⟩ | hnext
  · exact .closing (hd.standsAt ht hs hnext) hcl fun u hu => ho u (hold hu)
  · obtain ⟨w, hw, hst⟩ := hd.stack ht hs
    rw [hnext] at hst
    refine .ended ⟨w, hw, hst⟩ (.inl rfl) fun u hu => ?_
    refine (hcl.returned hw hst).2 u (ho u (hold hu)) ?_
    rintro rfl
    have hworker := hold hu
    rw [hout] at hworker
    cases hworker

/-- What is left is thrown away, and the construction returns. -/
theorem Move.ended_self (hm : Move s (.run 0 c) (State.settleTurn 0 turn))
    (h : s.StandsAt 0 a []) (ht : s.threads[0]? = some th) (hs : th.stack = [a])
    (hd : Deed s 0 th c a turn) (ha : a = .teardown r ∨ ∃ ks, a = .discard ks r)
    (he : ∀ u, (s.badge? u).isSome = true → s.HasEnded u) :
    (State.settleTurn 0 turn).Construction n ∨ ∃ r, (State.settleTurn 0 turn).HasAnswer 0 [] r ∧
      ∀ u, ((State.settleTurn 0 turn).badge? u).isSome = true →
        (State.settleTurn 0 turn).HasEnded u := by
  have hne : ∀ n p, a ≠ .resize n p := by rcases ha with rfl | ⟨ks, rfl⟩ <;> exact nofun
  have hend (u : ThreadId) (hu : ((State.settleTurn 0 turn).badge? u).isSome = true) :
      (State.settleTurn 0 turn).HasEnded u :=
    hm.hasEnded (he u (hm.was_worker_of_own h hne hu))
  have ended {ks : List TaskId} (hnext : turn.next = [.discard ks r]) :
      (State.settleTurn 0 turn).Construction n :=
    .ended (hd.standsAt ht hs hnext) (.inr ⟨ks, rfl⟩) hend
  rcases ha with rfl | ⟨ks, rfl⟩
  · obtain ⟨ks, hnext⟩ : ∃ ks, turn.next = [.discard ks r] := by cases hd <;> exact ⟨_, rfl⟩
    exact .inl (ended hnext)
  · cases ks with
    | nil =>
      obtain ⟨hnext, hreply⟩ : turn.next = [] ∧ turn.reply = some r := by
        cases hd
        exact ⟨rfl, rfl⟩
      exact .inr ⟨r, hd.hasAnswer ht hs hnext hreply, hend⟩
    | cons k ks => exact .inl (ended (by cases hd; rfl))

/-- The one who builds the pool takes the next step, and the pool does not serve yet. -/
theorem Move.construction_self (hm : Move s x s') (hr : s.Reachable) (hl : s'.life ≠ .serving)
    (hout : s.badge? 0 = none) (hx : x.actor? = some 0) (hc : s.Construction n) :
    s'.Construction n ∨
      ∃ r, s'.HasAnswer 0 [] r ∧ ∀ u, (s'.badge? u).isSome = true → s'.HasEnded u := by
  obtain ⟨th, a, rest, ht, hs, hdriven⟩ := hc.top
  obtain ⟨c, turn, rfl, hd, rfl⟩ := hm.own_step hx ht hs hdriven
  cases hc with
  | rising ht' hf hstop ho =>
    cases ht.symm.trans ht'
    exact .inl (hm.rising_self hr hl ht hs hd (hs ▸ hf) hstop ho)
  | failed h hstop ho =>
    obtain ⟨rfl, rfl⟩ := h.eq_top ht hs
    exact .inl (hm.closing_self hout h ht hs hd (hr.closing ht hs hstop (step_iff.2 hm)) ho)
  | closing h hcl ho =>
    obtain ⟨rfl, rfl⟩ := h.eq_top ht hs
    exact .inl (hm.closing_self hout h ht hs hd (hm.closing hr.ruled hcl) ho)
  | ended h ha he =>
    obtain ⟨rfl, rfl⟩ := h.eq_top ht hs
    exact hm.ended_self h ht hs hd ha he

/-! ## Until it returns -/

theorem State.Founded.undisputed (h : s.Founded) : s.Undisputed := by
  obtain ⟨name, hooked, capacity, interval, workers, rfl⟩ := h
  refine ⟨nofun, fun u w hu hw => ?_⟩
  have hlt := (List.getElem?_eq_some_iff.1 hw).1
  exact absurd (Nat.lt_one_iff.1 hlt) hu

/-- The one who builds the pool is no worker. -/
theorem State.Founded.badge?_founder {s₀ : State B V} (h₀ : s₀.Founded)
    (has : s₀.steps as = some s) : s.badge? 0 = none := by
  obtain ⟨name, hooked, capacity, interval, workers, rfl⟩ := h₀
  refine (steps_keep (P := fun s : State B V => s.badge? 0 = none ∧ ∃ w, s.threads[0]? = some w)
    ?_ ⟨rfl, _, rfl⟩ has).1
  rintro s x s' ⟨hnone, w, hw⟩ hm
  obtain ⟨w', hw', -⟩ := hm.died hw
  refine ⟨?_, w', hw'⟩
  by_contra hb
  obtain ⟨b, hb⟩ := Option.ne_none_iff_exists'.1 hb
  obtain ⟨_, _, _, _, _, -, -, h0, -⟩ := hm.enrols hnone hb
  rw [h0, List.getElem?_eq_none (Nat.le_refl _)] at hw
  cases hw

/-- **How a construction goes on**: it has returned with the pool; or the pool does not
    serve, and the construction is under way or has returned after all workers have ended. -/
theorem Move.construction (hm : Move s x s') (hr : s.Reachable) (h : s.Undisputed)
    (hout : s.badge? 0 = none) (hc : s.Construction n) :
    s'.HasAnswer 0 [] .done ∨ s'.Undisputed ∧ (s'.Construction n ∨
      ∃ r, s'.HasAnswer 0 [] r ∧ ∀ u, (s'.badge? u).isSome = true → s'.HasEnded u) := by
  by_cases hl : s'.life = .serving
  · exact .inl (hm.construction_serves h hc hl)
  · refine .inr ⟨hm.undisputed h hl, ?_⟩
    by_cases hx : x.actor? = some 0
    · exact hm.construction_self hr hl hout hx hc
    · exact .inl (hm.construction_other hr.ruled h hx hc)

theorem State.HasAnswer.top? (h : s.HasAnswer t [] r) : s.top? t = none := by
  obtain ⟨w, hw, hst, -⟩ := h
  simp [State.top?, hw, hst]

theorem State.Construction.top?_ne_none (h : s.Construction n) : s.top? 0 ≠ none := by
  obtain ⟨th, a, rest, ht, hs, -⟩ := h.top
  rw [top?_eq_some_iff.2 ⟨th, rest, ht, hs⟩]
  exact nofun

/-- A construction that has not returned is under way. -/
theorem State.Founded.construction {s₀ : State B V} (h₀ : s₀.Founded) (has : s₀.steps as = some s)
    (hbusy : ∀ bs s₁, bs <+: as → s₀.steps bs = some s₁ → s₁.top? 0 ≠ none) :
    s.Undisputed ∧ ∃ n, s.Construction n := by
  induction as using List.reverseRecOn generalizing s with
  | nil =>
    cases has
    refine ⟨h₀.undisputed, ?_⟩
    obtain ⟨name, hooked, capacity, interval, workers, rfl⟩ := h₀
    refine ⟨workers, .rising rfl .reserve rfl fun u hu => ?_⟩
    obtain ⟨w, hw, hb⟩ := isSome_badge?_iff.1 hu
    rw [List.mem_singleton.1 (List.mem_of_getElem? hw)] at hb
    cases hb
  | append_singleton as x ih =>
    obtain ⟨s₁, has₁, hm⟩ := steps_concat.1 has
    have hsub : as <+: as ++ [x] := List.prefix_append ..
    obtain ⟨h, n, hc⟩ := ih has₁ fun bs s₂ hbs => hbusy bs s₂ (hbs.trans hsub)
    have hnow := hbusy _ s (List.prefix_refl _) has
    have hr := (Reachable.of_founded h₀).run has₁
    rcases hm.construction hr h (h₀.badge?_founder has₁) hc with hans | ⟨h', hc' | ⟨r, hans, -⟩⟩
    · exact absurd hans.top? hnow
    · exact ⟨h', n, hc'⟩
    · exact absurd hans.top? hnow

/-- **When a construction returns a failure, every worker that it has started has ended.** -/
theorem State.Founded.ended_of_failed {s₀ : State B V} (h₀ : s₀.Founded)
    (has : s₀.steps as = some s)
    (hbusy : ∀ bs s₁, bs <+: as → s₀.steps bs = some s₁ → s₁.top? 0 ≠ none) (hm : Move s x s')
    (hans : s'.HasAnswer 0 [] r) (hr : r ≠ .done) :
    ∀ u, (s'.badge? u).isSome = true → s'.HasEnded u := by
  obtain ⟨h, n, hc⟩ := h₀.construction has hbusy
  have hreach := (Reachable.of_founded h₀).run has
  rcases hm.construction hreach h (h₀.badge?_founder has) hc with hdone | ⟨-, hc' | ⟨-, -, hend⟩⟩
  · exact absurd (hans.eq hdone) hr
  · exact absurd hans.top? hc'.top?_ne_none
  · exact hend

end

end WorkerPool
