/-
  A resize on its way.

  * `State.SparedBy`, `Deed.sparesOthers`: what a step of a resize leaves alone;
  * `State.attempts`: the workers that a thread tries to start in a run, and whether the
    system grants their threads;
  * `State.Resized` says what a resize has come to with each of its answers, and
    `State.Resizing` how far it has come;
  * `State.Reachable.resizing`, `Move.resizing`, `steps_resizing`: it begins so, goes on so
    while others act, and comes to its answer.
-/
import WorkerPool.Proofs.Calls
import WorkerPool.Proofs.Enrolment

namespace WorkerPool

variable {B V : Type}

/-! ## What a resize leaves alone -/

/-- Whom a resize is still going to tell to leave. -/
def ResizePoint.leavers : ResizePoint → List ThreadId
  | tell us _ => us
  | _ => []

/-- A state as it was but for the roster with its lock and its shares, the log, those who
    sleep, thread `t`, and the badges of `us`: the tasks, the counters and the flags are as
    they were. -/
structure State.SparedBy (s : State B V) (t : ThreadId) (us : List ThreadId) (s' : State B V) :
    Prop where
  shared : { s' with
      backlog := s.backlog, roster := s.roster, lock := s.lock, sharers := s.sharers
      threads := s.threads, log := s.log } = s
  backlog : { s'.backlog with takers := s.backlog.takers, givers := s.backlog.givers } = s.backlog
  threads : ∀ u w, u ≠ t → u ∉ us → s.threads[u]? = some w → s'.threads[u]? = some w

section
variable {s s' : State B V} {t : ThreadId} {th : Thread V} {c : Chance} {turn : Turn B V} {n : Nat}
  {p : ResizePoint}

/-- **A step of a resize** touches no task, no counter and no flag, and no thread but its
    own, but for those that it sends away. -/
theorem Deed.sparesOthers (hd : Deed s t th c (.resize n p) turn) :
    s.SparedBy t p.leavers (State.settleTurn t turn) := by
  have settled {ths : List (Thread V)} {f : Thread V → Thread V} {u : ThreadId} {w : Thread V}
      (hu : u ≠ t) (hw : ths[u]? = some w) : (ths.modify t f)[u]? = some w :=
    same_modify hu.symm hw
  cases hd with
  | spawn =>
    refine ⟨rfl, rfl, fun u w hu _ hw => settled hu ?_⟩
    exact (List.getElem?_append_left (List.getElem?_eq_some_iff.1 hw).1).trans hw
  | resizeTell =>
    refine ⟨rfl, rfl, fun u w hu hus hw => settled hu (same_modify ?_ hw)⟩
    rintro rfl
    exact hus List.mem_cons_self
  | _ => exact ⟨rfl, rfl, fun u w hu _ hw => settled hu hw⟩

/-- The name of a thread holds no NUL if the name that it begins with holds none. -/
theorem threadName_contains (hz : '\x00' ∉ s.name.toList) (i : Nat) :
    (s.threadName i).toList.contains '\x00' = false := by
  have hdigits : '\x00' ∉ Nat.toDigits 10 i := fun h =>
    absurd (Nat.isDigit_of_mem_toDigits (by decide) (by decide) h) (by decide)
  simp [State.threadName, hz, hdigits]

end

/-! ## Attempts -/

/-- The worker that thread `t` tries to start in an action, and whether the system grants it
    a thread. -/
def State.attempt (s : State B V) (t : ThreadId) : Action B V → List (Nat × Bool)
  | .run u c =>
    match s.top? u with
    | some (.resize _ (.spawn i _)) => if u = t then [(i, c.granted)] else []
    | _ => []
  | _ => []

/-- The workers that thread `t` tries to start in a run. -/
def State.attempts (s : State B V) (t : ThreadId) : List (Action B V) → List (Nat × Bool)
  | [] => []
  | x :: as =>
    match s.step x with
    | some s' => s.attempt t x ++ s'.attempts t as
    | none => []

section
variable {s s' s₁ s₂ : State B V} {t : ThreadId} {x : Action B V} {as cs : List (Action B V)}
  {e : Nat × Bool}

theorem attempts_cons (hm : Move s x s') :
    s.attempts t (x :: as) = s.attempt t x ++ s'.attempts t as := by
  simp only [State.attempts, step_iff.2 hm]

/-- What is tried in an action of a run is tried in the run. -/
theorem mem_attempts (hcs : cs ++ [x] <+: as) (hsteps : s.steps cs = some s₁) (hm : Move s₁ x s₂)
    (he : e ∈ s₁.attempt t x) : e ∈ s.attempts t as := by
  obtain ⟨ds, rfl⟩ := hcs
  induction cs generalizing s with
  | nil =>
    cases hsteps
    exact (attempts_cons hm).symm ▸ List.mem_append_left _ he
  | cons y cs ih =>
    obtain ⟨s', hm', hsteps⟩ := steps_cons.1 hsteps
    exact (attempts_cons hm').symm ▸ List.mem_append_right _ (ih hsteps)

end

/-! ## How far it has come -/

namespace State

/-- The roster has grown to `k` workers; the older ones are where they were, and the system
    has granted the others their threads. -/
structure Grown (s₀ s : State B V) (grants : Nat → Bool) (k : Nat) : Prop where
  roster : s₀.roster <+: s.roster
  size : s.size = k
  granted : ∀ i, s₀.size ≤ i → i < k → grants i = true

/-- What a resize to `n` workers that was let in in state `s₀` has come to by state `s` with
    its answer, where `grants` says for which numbers a thread can be had. -/
inductive Resized (s₀ s : State B V) (n : Nat) (grants : Nat → Bool) : Reply V → Prop where
  /-- those at the end of the roster were sent away -/
  | shrunk (hn : n < s₀.size) (hr : s.roster = s₀.roster.take n)
      (ht : ∀ u ∈ s₀.roster.drop n, s.IsTold u) : Resized s₀ s n grants .done
  | grown (hn : s₀.size ≤ n) (h : s₀.Grown s grants n) : Resized s₀ s n grants .done
  /-- the first worker without a thread has ended it -/
  | refused {k} (hn : s₀.size ≤ k) (hk : k < n) (hg : grants k = false) (h : s₀.Grown s grants k) :
      Resized s₀ s n grants (.refused k)

/-- What it has done when it is at a point. -/
inductive Reached (s₀ s : State B V) (n : Nat) (grants : Nat → Bool) : ResizePoint → Prop where
  | tell {us start} (hn : n < s₀.size) (hr : s.roster = s₀.roster.take n)
      (hu : us ⊆ s₀.roster.drop n) (ht : ∀ u ∈ s₀.roster.drop n, u ∈ us ∨ s.IsTold u) :
      Reached s₀ s n grants (.tell us start)
  | wake {start} (h : s₀.Resized s n grants .done) : Reached s₀ s n grants (.wake start)
  | spawn {i start} (hn : s₀.size ≤ i) (hi : i < n) (h : s₀.Grown s grants i) :
      Reached s₀ s n grants (.spawn i start)
  | close {start} (h : s₀.Resized s n grants .done) : Reached s₀ s n grants (.close start)

/-- Whoever has become a worker since is on the roster. -/
def Owns (s₀ s : State B V) : Prop :=
  ∀ u, (s.badge? u).isSome = true → (s₀.badge? u).isSome = true ∨ u ∈ s.roster

/-- Thread `t` is at point `p` of the resize to `n` workers that was let in in state `s₀`. -/
structure Resizing (s₀ s : State B V) (t : ThreadId) (n : Nat) (grants : Nat → Bool)
    (p : ResizePoint) (rest : List (Activity V)) : Prop where
  stands : s.StandsAt t (.resize n p) rest
  unstopped : s.isStopped = false
  reached : s₀.Reached s n grants p
  owns : s₀.Owns s

/-- Thread `t` has just had its answer to the resize to `n` workers that was let in in state
    `s₀`. -/
structure Settled (s₀ s : State B V) (t : ThreadId) (n : Nat) (grants : Nat → Bool)
    (rest : List (Activity V)) (r : Reply V) : Prop where
  answer : s.HasAnswer t rest r
  free : s.lock = none
  unstopped : s.isStopped = false
  resized : s₀.Resized s n grants r
  owns : s₀.Owns s

end State

/-- How many steps a resize takes at most from a point on, once it has been let in. -/
def ResizePoint.left (n : Nat) : ResizePoint → Nat
  | enter => 0
  | spawn i _ => n - i + 1
  | tell us _ => us.length + 3
  | wake _ => 2
  | close _ => 1

section
variable {s₀ s s' : State B V} {t u : ThreadId} {th : Thread V} {c : Chance} {x : Action B V}
  {turn : Turn B V} {n k : Nat} {grants : Nat → Bool} {p : ResizePoint} {r : Reply V}
  {rest : List (Activity V)} {as : List (Action B V)}

theorem State.Resized.congr (h : s₀.Resized s n grants r) (hr : s'.roster = s.roster)
    (ht : ∀ u, s.IsTold u → s'.IsTold u) : s₀.Resized s' n grants r := by
  have grown {k : Nat} (h : s₀.Grown s grants k) : s₀.Grown s' grants k :=
    ⟨hr ▸ h.roster, by rw [State.size, hr]; exact h.size, h.granted⟩
  cases h with
  | shrunk hn hroster htold => exact .shrunk hn (hr.trans hroster) fun u hu => ht u (htold u hu)
  | grown hn h => exact .grown hn (grown h)
  | refused hn hk hg h => exact .refused hn hk hg (grown h)

theorem State.Reached.congr (h : s₀.Reached s n grants p) (hr : s'.roster = s.roster)
    (ht : ∀ u, s.IsTold u → s'.IsTold u) : s₀.Reached s' n grants p := by
  cases h with
  | tell hn hroster hu htold =>
    exact .tell hn (hr.trans hroster) hu fun u hmem => (htold u hmem).imp_right (ht u)
  | wake h => exact .wake (h.congr hr ht)
  | spawn hn hi h =>
    exact .spawn hn hi ⟨hr ▸ h.roster, by rw [State.size, hr]; exact h.size, h.granted⟩
  | close h => exact .close (h.congr hr ht)

/-- From everywhere but the entrance there is a step to take. -/
theorem State.Reached.left_pos (h : s₀.Reached s n grants p) : 0 < p.left n := by
  cases h <;> exact Nat.succ_pos _

theorem State.Reached.locks (h : s₀.Reached s n grants p) :
    Activity.locks (V := V) (.resize n p) = 1 := by
  cases h <;> rfl

/-- Those who are to be told are at the end of the old roster. -/
theorem State.Reached.leavers (h : s₀.Reached s n grants p) : p.leavers ⊆ s₀.roster.drop n := by
  cases h with
  | tell _ _ hu => exact hu
  | wake | spawn | close => exact List.nil_subset _

theorem State.Grown.reached (h : s₀.Grown s grants k) (hk : s₀.size ≤ k) (hn : k ≤ n)
    (start : Nat) : s₀.Reached s n grants (.grow n k start) := by
  unfold ResizePoint.grow
  split
  · exact .spawn hk ‹_› h
  · obtain rfl : k = n := by omega
    exact .close (.grown hk h)

theorem left_grow_le {i : Nat} (start : Nat) : (ResizePoint.grow n i start).left n ≤ n - i + 1 := by
  unfold ResizePoint.grow
  split
  · exact Nat.le_refl _
  · exact Nat.le_add_left ..

/-- Whoever becomes a worker is on the roster. -/
theorem Move.newcomer (hm : Move s x s') (hu : (s'.badge? u).isSome = true) :
    (s.badge? u).isSome = true ∨ u ∈ s'.roster := by
  cases hb : (s.badge? u).isSome with
  | true => exact .inl rfl
  | false =>
    obtain ⟨b, hu⟩ := Option.isSome_iff_exists.1 hu
    obtain ⟨_, _, _, _, _, -, -, -, -, hroster⟩ := hm.enrols (by simpa using hb) hu
    exact .inr (hroster ▸ List.mem_append_right _ (List.mem_singleton_self u))

theorem Move.owns (hm : Move s x s') (h : s₀.Owns s) (hr : s.roster ⊆ s'.roster) : s₀.Owns s' :=
  fun u hu => (hm.newcomer hu).elim (fun hb => (h u hb).imp_right fun hmem => hr hmem) .inr

/-- Nobody stops the pool while someone holds the lock. -/
theorem Move.unstopped (hm : Move s x s') (hs : s.isStopped = false) (hl : s.lock ≠ none) :
    s'.isStopped = false := by
  cases hm.ruling with
  | step _ _ _ _ hd => exact Bool.eq_false_iff.2 fun h => hl (hd.locks_of_stopped hs h).1
  | other hu => rwa [State.isStopped, hu.done, hu.forced]

/-! ## Its steps -/

/-- Done, the roster has the size that was asked for. -/
theorem State.Resized.size (h : s₀.Resized s n grants .done) : s.size = n := by
  cases h with
  | shrunk hn hr =>
    rw [State.size, hr]
    exact List.length_take_of_le (Nat.le_of_lt hn)
  | grown _ h => exact h.size

theorem State.Resizing.lock_ne_none (h : s₀.Resizing s t n grants p rest) (hr : s.Ruled) :
    s.lock ≠ none :=
  hr.lock_ne_none h.stands.top? (h.reached.locks ▸ Nat.one_pos)

/-- Others leave a resize where it is. -/
theorem Move.resizing_other (hm : Move s x s') (hr : s.Ruled)
    (h : s₀.Resizing s t n grants p rest) (hx : x.actor? ≠ some t) :
    s₀.Resizing s' t n grants p rest := by
  obtain ⟨th, ht, hs⟩ := h.stands
  have hlocks : 0 < Activity.locks (V := V) (.resize n p) := h.reached.locks ▸ Nat.one_pos
  have hroster := (hm.keeps_lock hr ht (Thread.mem_of_stack hs) hlocks hx).2
  exact ⟨hm.standsAt hx h.stands, hm.unstopped h.unstopped (h.lock_ne_none hr),
    h.reached.congr hroster fun _ => hm.isTold, hm.owns h.owns (hroster ▸ List.Subset.refl _)⟩

/-- Whom a resize was about to tell to leave has been told. -/
theorem Move.told_of_tell {us : List ThreadId} {start : Nat} (hm : Move s (.run t c) s')
    (hr : s.Ruled) (h : s.StandsAt t (.resize n (.tell (u :: us) start)) rest) : s'.IsTold u := by
  have htop := h.top?
  obtain ⟨th, ht, hs⟩ := h
  have hpos := tally_pos (f := Activity.dismisses u) ht (Thread.mem_of_stack hs)
    (by simp [Activity.dismisses])
  exact hm.isTold_iff.2 (.inr ⟨t, c, _, rfl, htop, rfl, (hr.dismissed u hpos).2⟩)

/-- Its own step leads on to another point. -/
theorem Move.resizing_goes {q : ResizePoint} (hm : Move s (.run t c) (State.settleTurn t turn))
    (hr : s.Ruled) (h : s₀.Resizing s t n grants p rest) (ht : s.threads[t]? = some th)
    (hs : th.stack = .resize n p :: rest) (hd : Deed s t th c (.resize n p) turn)
    (hnext : turn.next = [.resize n q])
    (hreached : s₀.Reached (State.settleTurn t turn) n grants q)
    (hroster : s.roster ⊆ turn.state.roster) :
    s₀.Resizing (State.settleTurn t turn) t n grants q rest :=
  ⟨hd.standsAt ht hs hnext, hm.unstopped h.unstopped (h.lock_ne_none hr), hreached,
    hm.owns h.owns hroster⟩

/-- Its own step gives back the lock and the answer. -/
theorem Move.resizing_returns (hm : Move s (.run t c) (State.settleTurn t turn))
    (hr : s.Ruled) (h : s₀.Resizing s t n grants p rest) (ht : s.threads[t]? = some th)
    (hs : th.stack = .resize n p :: rest) (hd : Deed s t th c (.resize n p) turn)
    (hnext : turn.next = []) (hreply : turn.reply = some r) (hlock : turn.state.lock = none)
    (hresized : s₀.Resized (State.settleTurn t turn) n grants r)
    (hroster : s.roster ⊆ turn.state.roster) :
    s₀.Settled (State.settleTurn t turn) t n grants rest r :=
  ⟨hd.hasAnswer ht hs hnext hreply, hlock, hm.unstopped h.unstopped (h.lock_ne_none hr),
    hresized, hm.owns h.owns hroster⟩

/-- It tells the next worker to leave, or is done with them. -/
theorem Move.resizing_tell {us : List ThreadId} {start : Nat}
    (hm : Move s (.run t c) (State.settleTurn t turn)) (hr : s.Ruled)
    (h : s₀.Resizing s t n grants (.tell us start) rest) (ht : s.threads[t]? = some th)
    (hs : th.stack = .resize n (.tell us start) :: rest)
    (hd : Deed s t th c (.resize n (.tell us start)) turn) :
    ∃ p', p'.left n < (ResizePoint.tell us start).left n ∧
      s₀.Resizing (State.settleTurn t turn) t n grants p' rest := by
  have htold {u : ThreadId} (hu : s.IsTold u) : (State.settleTurn t turn).IsTold u := hm.isTold hu
  have goes {q : ResizePoint} := hm.resizing_goes hr h ht hs hd (q := q)
  cases h.reached with
  | tell hn hroster hus hall =>
    cases hd with
    | resizeTold =>
      refine ⟨_, Nat.lt_succ_self _, goes rfl (.wake ?_) (List.Subset.refl _)⟩
      exact .shrunk hn hroster fun u hu => htold ((hall u hu).resolve_left nofun)
    | @resizeTell _ v vs =>
      refine ⟨.tell vs start, Nat.lt_succ_self _, goes rfl ?_ (List.Subset.refl _)⟩
      refine .tell hn hroster (fun u hu => hus (List.mem_cons_of_mem v hu)) fun u hu => ?_
      rcases hall u hu with hmem | hu
      · rcases List.mem_cons.1 hmem with rfl | hmem
        · exact .inr (hm.told_of_tell hr h.stands)
        · exact .inl hmem
      · exact .inr (htold hu)

/-- The roster grows by one worker whom the system has granted a thread. -/
theorem State.Grown.spawn (h : s₀.Grown s grants k) (hk : grants k = true)
    (next : List (Activity V)) :
    s₀.Grown (State.settleTurn t ⟨s.spawn k, next, none⟩) grants (k + 1) where
  roster := h.roster.trans (List.prefix_append ..)
  size := List.length_append.trans (congrArg (· + 1) h.size)
  granted i hi hlt := by
    rcases Nat.lt_succ_iff_lt_or_eq.1 hlt with hlt | rfl
    · exact h.granted i hi hlt
    · exact hk

/-- It starts the next worker, or returns because the system has refused it a thread. -/
theorem Move.resizing_spawn {i start : Nat}
    (hm : Move s (.run t c) (State.settleTurn t turn)) (hr : s.Ruled)
    (hz : ∀ i, (s.threadName i).toList.contains '\x00' = false)
    (hg : ∀ e ∈ s.attempt t (.run t c), e.2 = grants e.1)
    (h : s₀.Resizing s t n grants (.spawn i start) rest) (ht : s.threads[t]? = some th)
    (hs : th.stack = .resize n (.spawn i start) :: rest)
    (hd : Deed s t th c (.resize n (.spawn i start)) turn) :
    (∃ p', p'.left n < (ResizePoint.spawn i start).left n ∧
      s₀.Resizing (State.settleTurn t turn) t n grants p' rest) ∨
      ∃ r, s₀.Settled (State.settleTurn t turn) t n grants rest r := by
  have hthis : c.granted = grants i :=
    hg (i, c.granted) (by simp [State.attempt, h.stands.top?])
  cases h.reached with
  | spawn hn hi hgrown =>
    cases hd with
    | spawnNul hz' =>
      rw [hz] at hz'
      cases hz'
    | spawn hz' hgranted =>
      have hgrown' := hgrown.spawn (t := t) (hthis.symm.trans hgranted)
        [.resize n (.grow n (i + 1) start)]
      refine .inl ⟨_, Nat.lt_of_le_of_lt (left_grow_le start) ?_,
        hm.resizing_goes hr h ht hs (.spawn hz' hgranted) rfl
          (hgrown'.reached (Nat.le_succ_of_le hn) hi start) (List.subset_append_left _ _)⟩
      simp only [ResizePoint.left]
      omega
    | spawnRefused hz' hgranted =>
      exact .inr ⟨_, hm.resizing_returns hr h ht hs (.spawnRefused hz' hgranted) rfl rfl rfl
        (.refused hn hi (hthis.symm.trans hgranted) ⟨hgrown.roster, hgrown.size, hgrown.granted⟩)
        (List.Subset.refl _)⟩

/-- The resize takes its next step. -/
theorem Move.resizing_self (hm : Move s (.run t c) (State.settleTurn t turn)) (hr : s.Ruled)
    (hz : ∀ i, (s.threadName i).toList.contains '\x00' = false)
    (hg : ∀ e ∈ s.attempt t (.run t c), e.2 = grants e.1) (h : s₀.Resizing s t n grants p rest)
    (ht : s.threads[t]? = some th) (hs : th.stack = .resize n p :: rest)
    (hd : Deed s t th c (.resize n p) turn) :
    (∃ p', p'.left n < p.left n ∧ s₀.Resizing (State.settleTurn t turn) t n grants p' rest) ∨
      ∃ r, s₀.Settled (State.settleTurn t turn) t n grants rest r := by
  have htold (u : ThreadId) (hu : s.IsTold u) : (State.settleTurn t turn).IsTold u := hm.isTold hu
  cases h.reached with
  | tell => exact .inl (hm.resizing_tell hr h ht hs hd)
  | spawn => exact hm.resizing_spawn hr hz hg h ht hs hd
  | wake hdone =>
    cases hd with
    | resizeWake =>
      exact .inl ⟨_, Nat.lt_succ_self _, hm.resizing_goes hr h ht hs .resizeWake rfl
        (.close (hdone.congr rfl htold)) (List.Subset.refl _)⟩
  | close hdone =>
    cases hd with
    | resizeClose =>
      exact .inr ⟨_, hm.resizing_returns hr h ht hs .resizeClose rfl rfl rfl
        (hdone.congr rfl htold) (List.Subset.refl _)⟩

/-- **How a resize goes on**: it stays where it is while others act, and its own step leads on
    or to its answer. -/
theorem Move.resizing (hm : Move s x s') (hr : s.Ruled) (hz : '\x00' ∉ s.name.toList)
    (hg : ∀ e ∈ s.attempt t x, e.2 = grants e.1) (h : s₀.Resizing s t n grants p rest) :
    x.actor? ≠ some t ∧ s₀.Resizing s' t n grants p rest ∨
      x.actor? = some t ∧ 0 < p.left n ∧
        ((∃ p', p'.left n < p.left n ∧ s₀.Resizing s' t n grants p' rest) ∨
          ∃ r, s₀.Settled s' t n grants rest r) := by
  by_cases hx : x.actor? = some t
  · obtain ⟨th, ht, hs⟩ := h.stands
    obtain ⟨c, turn, rfl, hd, rfl⟩ := hm.own_step hx ht hs rfl
    exact .inr ⟨hx, h.reached.left_pos,
      hm.resizing_self hr (threadName_contains hz) hg h ht hs hd⟩
  · exact .inl ⟨hx, hm.resizing_other hr h hx⟩

theorem State.SparedBy.mono {us vs : List ThreadId} (h : s.SparedBy t us s') (hsub : us ⊆ vs) :
    s.SparedBy t vs s' :=
  ⟨h.shared, h.backlog, fun u w hu hus hw => h.threads u w hu (fun hmem => hus (hsub hmem)) hw⟩

/-- **Once it has been let in, a resize never waits**: wherever it stands, its next step is
    possible. -/
theorem State.Resizing.runs (h : s₀.Resizing s t n grants p rest) (hr : s.Reachable) (c : Chance) :
    ∃ s', s.run t c = some s' ∧ s.SparedBy t (s₀.roster.drop n) s' := by
  have hw := hr.shaped.awake h.stands.top? nofun nofun
  obtain ⟨th, ht, hs⟩ := h.stands
  obtain ⟨turn, hd⟩ : ∃ turn, Deed s t th c (.resize n p) turn := by
    cases h.reached with
    | @tell us =>
      cases us with
      | nil => exact ⟨_, .resizeTold⟩
      | cons => exact ⟨_, .resizeTell⟩
    | wake => exact ⟨_, .resizeWake⟩
    | @spawn i =>
      cases hz : (s.threadName i).toList.contains '\x00' with
      | true => exact ⟨_, .spawnNul hz⟩
      | false =>
        cases hg : c.granted with
        | true => exact ⟨_, .spawn hz hg⟩
        | false => exact ⟨_, .spawnRefused hz hg⟩
    | close => exact ⟨_, .resizeClose⟩
  exact ⟨_, run_iff.2 ⟨hw, th, _, rest, turn, ht, hs, hd, rfl⟩,
    hd.sparesOthers.mono h.reached.leavers⟩

/-! ## From its beginning to its end -/

/-- **A resize is let in** while nobody holds the lock. -/
theorem State.Reachable.lets_in (hr : s.Reachable) (h : s.StandsAt t (.resize n .enter) rest)
    (hl : s.lock = none) (c : Chance) : ∃ s', s.run t c = some s' := by
  have hw := hr.shaped.awake h.top? nofun nofun
  obtain ⟨th, ht, hs⟩ := h
  obtain ⟨turn, hd⟩ : ∃ turn, Deed s t th c (.resize n .enter) turn := by
    cases hstop : s.isStopped with
    | true => exact ⟨_, .resizeStopped hl hstop⟩
    | false =>
      by_cases hn : n < s.size
      · exact ⟨_, .resizeShrink hl hstop hn⟩
      · by_cases ho : rosterLimit < n
        · exact ⟨_, .resizeOverflow hl hstop (Nat.not_lt.1 hn) ho⟩
        · exact ⟨_, .resizeGrow hl hstop (Nat.not_lt.1 hn) (Nat.not_lt.1 ho)⟩
  exact ⟨_, run_iff.2 ⟨hw, th, _, rest, turn, ht, hs, hd, rfl⟩⟩

/-- **How a resize begins** in a pool that was not stopped, with a roster that memory can
    hold. -/
theorem Move.resizing_enter (hm : Move s (.run t c) s')
    (h : s.StandsAt t (.resize n .enter) rest) (hstop : s.isStopped = false)
    (hn : s.size ≤ n → n ≤ rosterLimit) (grants : Nat → Bool) :
    s.SparedBy t [] s' ∧ ∃ p, s.Resizing s' t n grants p rest ∧
      p.left n ≤ (s.size - n) + (n - s.size) + 3 := by
  obtain ⟨th, ht, hs⟩ := h
  obtain ⟨_, turn, heq, hd, rfl⟩ := hm.own_step rfl ht hs rfl
  cases heq
  have stands {a : Activity V} (hn : turn.next = [a]) :
      (State.settleTurn t turn).StandsAt t a rest := hd.standsAt ht hs hn
  refine ⟨hd.sparesOthers, ?_⟩
  cases hd with
  | resizeStopped _ hstop' => rw [hstop] at hstop'; cases hstop'
  | resizeOverflow _ _ hle ho => exact absurd (hn hle) (Nat.not_le.2 ho)
  | resizeShrink _ _ hlt =>
    refine ⟨_, ⟨stands rfl, hstop, ?_, fun u hu => ?_⟩, ?_⟩
    · exact .tell hlt rfl (List.Subset.refl _) fun u hu => .inl hu
    · rw [badge?_settleTurn] at hu
      exact .inl hu
    · simp only [ResizePoint.left, List.length_drop, State.size]
      omega
  | resizeGrow _ _ hle =>
    refine ⟨_, ⟨stands rfl, hstop, ?_, fun u hu => ?_⟩, ?_⟩
    · have hgrown : s.Grown (State.settleTurn t ⟨{ s with lock := some t },
          [.resize n (.grow n s.size s.size)], none⟩) grants s.size :=
        ⟨List.prefix_refl _, rfl, fun i hi hlt => absurd hlt (Nat.not_lt.2 hi)⟩
      exact hgrown.reached (Nat.le_refl _) hle s.size
    · rw [badge?_settleTurn] at hu
      exact .inl hu
    · have := left_grow_le (n := n) (i := s.size) s.size
      omega

/-- **A resize comes to its answer**, whatever others do. -/
theorem steps_resizing (hr : s.Reachable) (hz : '\x00' ∉ s.name.toList)
    (h : s₀.Resizing s t n grants p rest) (has : s.steps as = some s')
    (hg : ∀ e ∈ s.attempts t as, e.2 = grants e.1) :
    (∃ p', s₀.Resizing s' t n grants p' rest ∧ p'.left n + actionsOf t as ≤ p.left n) ∨
      ∃ cs s₁, cs <+: as ∧ s.steps cs = some s₁ ∧ (∃ r, s₀.Settled s₁ t n grants rest r) ∧
        actionsOf t cs ≤ p.left n := by
  refine steps_answer (P := fun _ s p => s₀.Resizing s t n grants p rest)
    (Q := fun _ s => ∃ r, s₀.Settled s t n grants rest r) (ResizePoint.left n) h has ?_
  intro cs x s₁ s₂ p hcs hsteps hm h
  have hname : s₁.name = s.name :=
    steps_keep (P := fun s₁ => s₁.name = s.name) (fun _ _ _ h hm => hm.name.trans h) rfl hsteps
  exact hm.resizing (hr.run hsteps).ruled (hname ▸ hz)
    (fun e he => hg e (mem_attempts hcs hsteps hm he)) h

end

end WorkerPool
