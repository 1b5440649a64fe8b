/-
  A pool that was stopped.

  * `State.Sealed`: once a stop has set its flag no resize is under way, and
    once the lock is given back the roster is empty; `State.Reachable.sealed`:
    this holds in every reachable state;
  * `Move.keeps_stopped`, `Move.keeps_empty`, `Move.isSome_badge?_of_stopped`: a
    stopped pool stays stopped, its roster stays empty, and no thread of a worker
    is started;
  * `State.Reachable.holder_runs`: whoever holds the lock can go on, so that at
    rest nobody does.
-/
import WorkerPool.Proofs.Badges
import WorkerPool.Proofs.Closing
import WorkerPool.Proofs.Expulsion
import WorkerPool.Proofs.Wakeups

namespace WorkerPool

variable {B V : Type}

/-! ## Weights -/

/-- One for a resize that has been let in. -/
def Activity.resizes : Activity V → Nat
  | resize _ .enter => 0
  | resize .. => 1
  | _ => 0

/-- One for a forced stop that has been let in. -/
def Activity.forces : Activity V → Nat
  | stop false .enter => 0
  | stop false _ => 1
  | _ => 0

section
variable {s s' : State B V} {t u : ThreadId} {th : Thread V} {c : Chance} {a : Activity V}
  {turn : Turn B V} {rest : List (Activity V)}

theorem resizes_of_not_rules (ha : ¬ a.Rules) : a.resizes = 0 := by
  cases a with
  | resize n p => cases p <;> simp_all [Activity.Rules, Activity.resizes]
  | _ => rfl

theorem forces_of_not_rules (ha : ¬ a.Rules) : a.forces = 0 := by
  cases a with
  | stop g p => cases g <;> cases p <;> simp_all [Activity.Rules, Activity.forces]
  | _ => rfl

theorem resizes_le_locks : a.resizes ≤ a.locks := by
  cases a with
  | resize n p => cases p <;> exact Nat.le_of_ble_eq_true rfl
  | _ => exact Nat.zero_le _

@[simp] theorem resizes_grow {n i start : Nat} :
    Activity.resizes (V := V) (.resize n (.grow n i start)) = 1 := by
  unfold ResizePoint.grow
  split <;> rfl

theorem tally_le_tally {f g : Activity V → Nat} (h : ∀ a, f a ≤ g a) (ths : List (Thread V)) :
    tally f ths ≤ tally g ths := by
  refine List.sum_le_sum fun th _ => ?_
  exact List.sum_le_sum fun a _ => h a

/-! ## The invariant -/

/-- A stopped pool is sealed: no resize is under way in it, and once the lock is given back
    its roster is empty.  Nothing lets a worker in again. -/
structure State.Sealed (s : State B V) : Prop where
  forces : 0 < tally Activity.forces s.threads → s.forced = true
  calm : s.isStopped = true → tally Activity.resizes s.threads = 0
  empty : s.isStopped = true → s.lock = none → s.roster = []

/-- Nobody lets a resize in once the pool is stopped. -/
theorem Deed.resizes_le (hd : Deed s t th c a turn) (hs : s.isStopped = true) :
    (turn.next.map Activity.resizes).sum ≤ a.resizes := by
  cases hd with
  | resizeShrink _ h | resizeGrow _ h => rw [hs] at h; cases h
  | spawn =>
    simp only [List.map_cons, resizes_grow]
    exact Nat.le_refl 1
  | _ => exact Nat.le_of_ble_eq_true rfl

theorem Deed.forces_le (hd : Deed s t th c a turn) :
    (turn.next.map Activity.forces).sum ≤ a.forces ∨ turn.state.forced = true := by
  cases hd with
  | forced => exact .inr rfl
  | resizeGrow | spawn => exact .inl (Nat.zero_le _)
  | @stopTold g | @stopTell g | @purge g | @purgeEnd g | @stopWake g | @disband g | @joined g
  | @join g | @inspectNone g | @inspectLeft g | @sweep g | @sweepEnd g =>
    cases g <;> exact .inl (Nat.le_of_ble_eq_true rfl)
  | _ => exact .inl (Nat.le_of_ble_eq_true rfl)

/-- The pool is stopped by one who takes the lock. -/
theorem Deed.locks_of_stopped (hd : Deed s t th c a turn) (hs : s.isStopped = false)
    (h : turn.state.isStopped = true) : s.lock = none ∧ turn.state.lock = some t ∧
      (turn.next.map Activity.resizes).sum = 0 := by
  cases hd with
  | graceful hl | forced hl => exact ⟨hl, rfl, rfl⟩
  | clear hp | clearEnd hp | purge hp | purgeEnd hp | sweep hp | sweepEnd hp =>
    cases hp <;> exact absurd (hs.symm.trans h) Bool.false_ne_true
  | _ => exact absurd (hs.symm.trans h) Bool.false_ne_true

/-- Whoever gives the lock back is done with a resize, or leaves an empty
    roster. -/
theorem Deed.gives_back (hd : Deed s t th c a turn) (hl : s.lock ≠ none)
    (h : turn.state.lock = none) : 0 < a.resizes ∨ turn.state.roster = [] := by
  cases hd with
  | spawnNul | spawnRefused | resizeClose => exact .inl Nat.one_pos
  | disband => exact .inr rfl
  | resizeShrink | resizeGrow | graceful | forced => cases h
  | clear hp | clearEnd hp | purge hp | purgeEnd hp | sweep hp | sweepEnd hp =>
    cases hp <;> exact absurd h hl
  | _ => exact absurd h hl

/-! ## What stays -/

/-- **A stopped pool stays stopped.** -/
theorem Move.keeps_stopped {x : Action B V} (hm : Move s x s') (h : s.isStopped = true) :
    s'.isStopped = true := by
  simp only [State.isStopped, Bool.or_eq_true] at h ⊢
  exact h.imp hm.done hm.forced

theorem Deed.keeps_empty (hd : Deed s t th c a turn) (ha : a.resizes = 0) (h : s.roster = []) :
    turn.state.roster = [] := by
  rcases hd.roster with hsub | ⟨n, i, start, rfl, -, -⟩
  · rw [h] at hsub
    exact List.prefix_nil.1 hsub
  · cases ha

theorem State.Sealed.resizes_eq_zero (h : s.Sealed) (hs : s.isStopped = true)
    (ht : s.threads[t]? = some th) (ha : a ∈ th.stack) : a.resizes = 0 := by
  by_contra hne
  have hpos := tally_pos ht ha (Nat.pos_of_ne_zero hne)
  rw [h.calm hs] at hpos
  cases hpos

/-- Its roster stays empty. -/
theorem Move.keeps_empty {x : Action B V} (hm : Move s x s') (h : s.Sealed)
    (hs : s.isStopped = true) (hr : s.roster = []) : s'.roster = [] := by
  cases hm.ruling with
  | step _ ht hst _ hd =>
    exact hd.keeps_empty (h.resizes_eq_zero hs ht (Thread.mem_of_stack hst)) hr
  | other hu => rw [hu.roster, hr]

/-- **No worker is started** once the pool is stopped. -/
theorem Move.isSome_badge?_of_stopped {x : Action B V} (hm : Move s x s') (h : s.Sealed)
    (hs : s.isStopped = true) (hb : (s'.badge? u).isSome = true) :
    (s.badge? u).isSome = true := by
  by_contra hn
  obtain ⟨b, hb⟩ := Option.isSome_iff_exists.1 hb
  obtain ⟨t, c, n, i, start, -, ht, -⟩ := hm.enrols (by simpa using hn) hb
  obtain ⟨th, rest, hth, hst⟩ := top?_eq_some_iff.1 ht
  cases h.resizes_eq_zero hs hth (Thread.mem_of_stack hst)

/-! ## Preservation -/

theorem Deed.sealed (hd : Deed s t th c a turn) (h : s.Sealed) (hr : s.Ruled)
    (hm : Move s (.run t c) (State.settleTurn t turn)) (ht : s.threads[t]? = some th)
    (hst : th.stack = a :: rest) : (State.settleTurn t turn).Sealed where
  forces hpos := by
    have htally := hd.tally (f := Activity.forces) ht hst rfl rfl
    rcases hd.forces_le with hle | hf
    · exact hm.forced (h.forces (by omega))
    · exact hf
  calm hs' := by
    have htally := hd.tally (f := Activity.resizes) ht hst rfl rfl
    cases hs : s.isStopped with
    | true =>
      have hcalm := h.calm hs
      have hle := hd.resizes_le hs
      omega
    | false =>
      obtain ⟨hl, -, hnext⟩ := hd.locks_of_stopped hs hs'
      have hle := tally_le_tally (fun a => resizes_le_locks (a := a)) s.threads
      rw [hr.lock, hl] at hle
      simp only [Option.isSome_none, Bool.toNat_false] at hle
      omega
  empty hs' hl' := by
    cases hs : s.isStopped with
    | true =>
      have ha := h.resizes_eq_zero hs ht (Thread.mem_of_stack hst)
      by_cases hl : s.lock = none
      · exact hd.keeps_empty ha (h.empty hs hl)
      · exact (hd.gives_back hl hl').resolve_left (by omega)
    | false =>
      obtain ⟨-, hl, -⟩ := hd.locks_of_stopped hs hs'
      cases hl.symm.trans hl'

theorem Move.sealed {x : Action B V} (hm : Move s x s') (h : s.Sealed) (hr : s.Ruled) :
    s'.Sealed := by
  cases hm.ruling with
  | step hw ht hst _ hd => exact hd.sealed h hr hm ht hst
  | other hu =>
    have hs : s'.isStopped = s.isStopped := by rw [State.isStopped, hu.done, hu.forced]; rfl
    refine ⟨fun hpos => ?_, fun hs' => ?_, fun hs' hl' => ?_⟩
    · rw [hu.tally _ fun _ => forces_of_not_rules] at hpos
      rw [hu.forced, h.forces hpos]
    · rw [hu.tally _ fun _ => resizes_of_not_rules, h.calm (hs ▸ hs')]
    · rw [hu.roster, h.empty (hs ▸ hs') (hu.lock ▸ hl')]

theorem State.Founded.sealed (h : s.Founded) : s.Sealed := by
  obtain ⟨name, hooked, capacity, interval, workers, rfl⟩ := h
  exact ⟨nofun, nofun, nofun⟩

/-- **A stopped pool is sealed**: nobody resizes it, and it owns nobody once the
    stop has emptied the roster. -/
theorem State.Reachable.sealed (h : s.Reachable) : s.Sealed :=
  h.induct (fun _ => Founded.sealed) fun _ _ _ hr ih hm => hm.sealed ih hr.ruled

/-- A stop that has been let in has set its flag. -/
theorem State.Reachable.isStopped_of_stop (hr : s.Reachable) {g : Bool} {p : StopPoint}
    (ht : s.top? t = some (.stop g p)) (hp : p ≠ .enter) : s.isStopped = true := by
  obtain ⟨th, rest, hth, hst⟩ := top?_eq_some_iff.1 ht
  have hmem : .stop g p ∈ th.stack := Thread.mem_of_stack hst
  rw [State.isStopped, Bool.or_eq_true]
  cases g with
  | true =>
    have hpos : 0 < Activity.drains (V := V) (.stop true p) := by
      cases p with
      | enter => exact absurd rfl hp
      | _ => exact Nat.succ_pos _
    have hdrain := Nat.lt_of_lt_of_le (tally_pos hth hmem hpos) hr.ruled.drain
    exact .inl (Bool.toNat_eq_one.1 (Nat.le_antisymm (Bool.toNat_le _) hdrain))
  | false =>
    have hpos : 0 < Activity.forces (V := V) (.stop false p) := by
      cases p with
      | enter => exact absurd rfl hp
      | _ => exact Nat.one_pos
    exact .inr (hr.sealed.forces (tally_pos hth hmem hpos))

/-! ## Going on -/

theorem restless_locks : Restless B (Activity.locks (V := V)) := by
  intro x hx
  cases x with
  | resize n p =>
    refine ⟨id, ?_⟩
    cases p with
    | enter => cases hx
    | spawn i start =>
      intro s t th _
      refine ⟨⟨0, true⟩, ?_⟩
      cases hz : (s.threadName i).toList.contains '\x00' with
      | true => exact ⟨_, .spawnNul hz⟩
      | false => exact ⟨_, .spawn hz rfl⟩
    | tell us start => exact able_resizeTell _ _ _
    | wake => exact fun s t th _ => ⟨⟨0, true⟩, _, .resizeWake⟩
    | close => exact fun s t th _ => ⟨⟨0, true⟩, _, .resizeClose⟩
  | stop g p =>
    refine ⟨id, ?_⟩
    cases p with
    | tell us => exact able_stopTell _ _
    | purge p => exact able_purge _ _
    | wake => exact fun s t th _ => ⟨⟨0, true⟩, _, .stopWake⟩
    | disband => exact fun s t th _ => ⟨⟨0, true⟩, _, .disband⟩
    | enter | join | inspect | sweep | close => cases hx
  | _ => cases hx

/-- Whoever could always go on, and neither waits for a task nor for room, does. -/
theorem State.Reachable.runs_of_able (hr : s.Reachable) (ht : s.top? t = some a) (ha : a.Able B)
    (hw : a ≠ .work .await) (hp : ∀ k, a ≠ .submit k .push) : ∃ c s', s.run t c = some s' := by
  obtain ⟨th, rest, hth, hst⟩ := top?_eq_some_iff.1 ht
  obtain ⟨c, turn, hd⟩ := ha s t th fun p h => (hr.shaped.thread t th hth).worker p (by simp [hst, h])
  exact ⟨c, _, run_iff.2 ⟨hr.shaped.awake ht hw hp, th, a, rest, turn, hth, hst, hd, rfl⟩⟩

/-- Whoever is at a point of the lock can go on. -/
theorem State.Reachable.runs_of_locks (hr : s.Reachable) (ht : s.top? t = some a)
    (ha : 0 < a.locks) : ∃ c s', s.run t c = some s' := by
  refine hr.runs_of_able ht (restless_locks a ha).2 ?_ ?_
  · rintro rfl
    cases ha
  · rintro k rfl
    cases ha

/-- **Whoever holds the lock can go on.** -/
theorem State.Reachable.holder_runs (hr : s.Reachable) (hl : s.lock ≠ none) :
    ∃ u a c s', s.top? u = some a ∧ 0 < a.locks ∧ s.run u c = some s' := by
  have hpos : 0 < tally Activity.locks s.threads := by
    rw [hr.ruled.lock]
    cases hlock : s.lock with
    | none => exact absurd hlock hl
    | some u => exact Nat.one_pos
  obtain ⟨u, w, a, hu, ha, hlocks⟩ := exists_of_tally_pos hpos
  have hrests : ¬ a.Rests := (restless_locks (B := B) a hlocks).1
  obtain ⟨rest, hst⟩ := (hr.shaped.thread u w hu).eq_cons ha hrests
  have htop := top?_eq_some_iff.2 ⟨w, rest, hu, hst⟩
  obtain ⟨c, s', hrun⟩ := hr.runs_of_locks htop hlocks
  exact ⟨u, a, c, s', htop, hlocks, hrun⟩

/-! ## At rest -/

/-- **At rest nobody holds the lock.** -/
theorem State.AtRest.lock_eq_none (h : s.AtRest) (hr : s.Reachable) : s.lock = none := by
  by_contra hl
  obtain ⟨u, a, c, s', -, -, hrun⟩ := hr.holder_runs hl
  rw [h u c] at hrun
  cases hrun

/-- With the lock free, a stop is let in or turned away. -/
theorem enters {g : Bool} (hl : s.lock = none) : ∃ turn, Deed s t th c (.stop g .enter) turn := by
  cases g with
  | true =>
    cases hs : s.isStopped with
    | true => exact ⟨_, .gracefulAgain hl hs⟩
    | false => exact ⟨_, .graceful hl hs⟩
  | false =>
    cases hs : s.forced with
    | true => exact ⟨_, .forcedAgain hl hs⟩
    | false => exact ⟨_, .forced hl hs⟩

/-- At rest nobody is about to take the lock: whoever came for it has had it. -/
theorem State.AtRest.top?_ne (h : s.AtRest) (hr : s.Reachable) (ht : s.top? t = some a) :
    (∀ n p, a ≠ .resize n p) ∧ (∀ g, a ≠ .stop g .enter) ∧ ∀ q, a ≠ .ask q := by
  have hl := h.lock_eq_none hr
  obtain ⟨th, rest, hth, hst⟩ := top?_eq_some_iff.1 ht
  have stuck (hw : a ≠ .work .await) (hp : ∀ k, a ≠ .submit k .push)
      (hd : ∃ c turn, Deed s t th c a turn) : False := by
    obtain ⟨c, turn, hd⟩ := hd
    rcases h.waits_of_deed hr.shaped hth hst hd with ⟨heq, -⟩ | ⟨⟨k, heq⟩, -⟩
    exacts [hw heq, hp k heq]
  refine ⟨?_, ?_, ?_⟩
  · rintro n p rfl
    by_cases hp : p = .enter
    · subst hp
      refine stuck (by simp) (by simp) ⟨⟨0, true⟩, ?_⟩
      cases hs : s.isStopped with
      | true => exact ⟨_, .resizeStopped hl hs⟩
      | false =>
        by_cases hn : n < s.size
        · exact ⟨_, .resizeShrink hl hs hn⟩
        · by_cases ho : rosterLimit < n
          · exact ⟨_, .resizeOverflow hl hs (Nat.not_lt.1 hn) ho⟩
          · exact ⟨_, .resizeGrow hl hs (Nat.not_lt.1 hn) (Nat.not_lt.1 ho)⟩
    · refine absurd hl (hr.ruled.lock_ne_none ht ?_)
      cases p with
      | enter => exact absurd rfl hp
      | _ => exact Nat.one_pos
  · rintro g rfl
    exact stuck (by simp) (by simp) ⟨⟨0, true⟩, enters hl⟩
  · rintro q rfl
    obtain ⟨r, hq⟩ : ∃ r, s.ask q = some ⟨s, [], some r⟩ := by
      cases q <;> simp [State.ask, hl, Turn.answer]
    exact stuck (by simp) (by simp) ⟨⟨0, true⟩, _, .ask hq⟩

end

end WorkerPool
