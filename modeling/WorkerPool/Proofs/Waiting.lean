/-
  Stops that wait.

  * `State.musters` marks the steps in which a stop takes over workers whose end
    it will wait for; `steps_musters`: a run has one such step at most;
  * `State.Dismisses`: whom a stop is going to wait for was sent away, or is
    about to be; `State.Reachable.dismisses`: this holds at every point of every
    stop;
  * `State.WaitsFor` says for whom a stop waits; every wait goes down in
    `State.rank`, so that there is no circle of waits;
  * `State.Founded.no_deadlock`: a stop that cannot go on waits for someone, and
    at rest for a worker in a task or in its start hook.
-/
import WorkerPool.Proofs.Duty
import WorkerPool.Proofs.Sealed

namespace WorkerPool

variable {B V : Type}

/-! ## Those with workers to wait for -/

/-- One for a stop that waits for a worker. -/
def Activity.joins : Activity V → Nat
  | stop _ (.join (_ :: _) _) => 1
  | _ => 0

/-- One for a stop that is about to take over the roster, if that is `us` and
    not empty. -/
def Activity.musters (us : List ThreadId) : Activity V → Nat
  | stop _ .disband => if us = [] then 0 else 1
  | _ => 0

namespace State

/-- One for a step in which a stop takes over a roster that is not empty, to
    wait for the workers. -/
def musters (s : State B V) : Action B V → Nat
  | .run t _ => ((s.top? t).map (Activity.musters s.roster)).getD 0
  | _ => 0

/-- One, until the pool is stopped and its roster empty. -/
def manned (s : State B V) : Nat := if s.isStopped = true ∧ s.roster = [] then 0 else 1

end State

section
variable {s s' : State B V} {t u : ThreadId} {th : Thread V} {c : Chance} {a : Activity V}
  {turn : Turn B V} {rest : List (Activity V)}

theorem joins_of_not_rules (ha : ¬ a.Rules) : a.joins = 0 := by
  cases a with
  | stop g p => cases p <;> simp_all [Activity.Rules, Activity.joins]
  | _ => rfl

theorem musters_le_one {us : List ThreadId} : a.musters us ≤ 1 := by
  unfold Activity.musters
  split
  · split <;> simp
  · exact Nat.zero_le 1

/-- Who takes over workers to wait for stands at the point where it does so. -/
theorem disbands_of_musters {us : List ThreadId} (h : 0 < a.musters us) :
    (∃ g, a = .stop g .disband) ∧ us ≠ [] := by
  unfold Activity.musters at h
  split at h
  · refine ⟨⟨_, rfl⟩, ?_⟩
    rintro rfl
    cases h
  · cases h

theorem musters_eq (ht : s.threads[t]? = some th) (hs : th.stack = a :: rest) :
    s.musters (.run t c) = a.musters s.roster := by
  simp [State.musters, top?_eq_some_iff.2 ⟨th, rest, ht, hs⟩]

/-- Who has workers to wait for has had them before, or takes them over. -/
theorem Deed.joins_le (hd : Deed s t th c a turn) :
    (turn.next.map Activity.joins).sum ≤ a.joins + a.musters s.roster := by
  cases hd with
  | @disband g =>
    cases hr : s.roster with
    | nil => exact Nat.zero_le _
    | cons u us => exact Nat.le_refl 1
  | @join g u us => cases us <;> exact Nat.le_of_ble_eq_true rfl
  | resizeGrow | spawn => simp [ResizePoint.grow, Activity.joins]
  | _ => exact Nat.zero_le _

theorem State.manned_le_one : s.manned ≤ 1 := by
  unfold State.manned
  split <;> simp

/-- A pool without workers that was stopped stays so. -/
theorem Move.manned {x : Action B V} (hm : Move s x s') (hr : s.Reachable) :
    s'.manned ≤ s.manned := by
  by_cases h : s.isStopped = true ∧ s.roster = []
  · have hstop := hm.keeps_stopped h.1
    have hroster := hm.keeps_empty hr.sealed h.1 h.2
    simp [State.manned, hstop, hroster]
  · rw [show s.manned = 1 from if_neg h]
    exact State.manned_le_one

/-- **Workers are taken over once**: the pool has some before, and none
    afterwards. -/
theorem Move.musters {x : Action B V} (hm : Move s x s') (hr : s.Reachable) :
    s'.manned + s.musters x ≤ s.manned := by
  by_cases hx : s.musters x = 0
  · rw [hx]
    exact hm.manned hr
  · cases hm with
    | @run t c th a rest turn hw ht hs hd =>
      have hle : a.musters s.roster ≤ 1 := musters_le_one
      rw [musters_eq ht hs] at hx ⊢
      obtain ⟨⟨g, rfl⟩, hne⟩ := disbands_of_musters (Nat.pos_of_ne_zero hx)
      have hstop : s.isStopped = true :=
        hr.isStopped_of_stop (top?_eq_some_iff.2 ⟨th, rest, ht, hs⟩) nofun
      have hbefore : s.manned = 1 := if_neg fun h => hne h.2
      cases hd
      have hafter : State.manned (State.settleTurn t
          ⟨{ s with lock := none, roster := [] }, [.stop g (.join s.roster s.size)], none⟩) = 0 :=
        if_pos ⟨hstop, rfl⟩
      omega
    | _ => exact absurd rfl hx

/-- **Of all stops of a run, one at most takes over workers** to wait for. -/
theorem State.Founded.musters_le_one {s₀ : State B V} (h₀ : s₀.Founded) {as : List (Action B V)}
    (has : s₀.steps as = some s) : s₀.total State.musters as ≤ 1 := by
  have hsum := steps_total (P := State.Reachable) (g := State.manned)
    (fun s x s' hr hm => ⟨hr.next hm, hm.musters hr⟩) (.of_founded h₀) has
  have hone := s₀.manned_le_one
  omega

/-- One stop at most has workers to wait for. -/
theorem State.Reachable.joins_le (hr : s.Reachable) :
    tally Activity.joins s.threads + s.manned ≤ 1 := by
  refine hr.induct (P := fun s => tally Activity.joins s.threads + s.manned ≤ 1) ?_ ?_
  · rintro s ⟨name, hooked, capacity, interval, workers, rfl⟩
    exact Nat.le_refl 1
  · intro s x s' hr ih hm
    have hmanned := hm.musters hr
    cases hm.ruling with
    | step hw ht hs _ hd =>
      have htally := hd.tally (f := Activity.joins) ht hs rfl rfl
      have hjoins := hd.joins_le
      rw [musters_eq ht hs] at hmanned
      omega
    | other hu =>
      rw [hu.tally _ fun _ => joins_of_not_rules]
      omega

/-! ## Those who are waited for -/

/-- A worker that was told to leave, or that a graceful stop has sent away. -/
def State.IsSentAway (s : State B V) (u : ThreadId) : Prop :=
  (s.badge? u).isSome = true ∧ (s.done = true ∨ s.IsTold u)

/-- Whom a stop at this point is going to wait for was sent away, or is about to
    be told. -/
def State.Dismisses (s : State B V) : StopPoint → Prop
  | .tell us => ∀ u ∈ s.roster, u ∈ us ∨ s.IsSentAway u
  | .purge _ | .wake | .disband => ∀ u ∈ s.roster, s.IsSentAway u
  | .join us _ => ∀ u ∈ us, s.IsSentAway u
  | .enter | .inspect _ | .sweep .. | .close .. => True

theorem Move.isSentAway {x : Action B V} (hm : Move s x s') (h : s.IsSentAway u) :
    s'.IsSentAway u :=
  ⟨hm.isSome_badge? h.1, h.2.imp hm.done hm.isTold⟩

/-- The stop takes its next step. -/
theorem Deed.dismisses {g : Bool} {p q : StopPoint} (hd : Deed s t th c (.stop g p) turn)
    (hm : Move s (.run t c) (State.settleTurn t turn)) (hr : s.Ruled)
    (ht : s.top? t = some (.stop g p)) (h : s.Dismisses p) (hq : .stop g q ∈ turn.next) :
    (State.settleTurn t turn).Dismisses q := by
  have away {u : ThreadId} (hu : s.IsSentAway u) : (State.settleTurn t turn).IsSentAway u :=
    hm.isSentAway hu
  cases hd with
  | gracefulAgain | forcedAgain | stopClose => cases hq
  | graceful =>
    cases List.mem_singleton.1 hq
    intro u hu
    exact ⟨hm.isSome_badge? (hr.worker u hu), .inl rfl⟩
  | forced =>
    cases List.mem_singleton.1 hq
    intro u hu
    exact .inl hu
  | stopTold =>
    cases List.mem_singleton.1 hq
    intro u hu
    exact away ((h u hu).resolve_left nofun)
  | stopTell =>
    cases List.mem_singleton.1 hq
    intro u hu
    rcases h u hu with hv | hv
    · rcases List.mem_cons.1 hv with rfl | hv
      · have hbadge := hr.worker u hu
        have htold := hm.isTold_iff.2 (.inr ⟨t, c, _, rfl, ht, rfl, hbadge⟩)
        exact .inr ⟨hm.isSome_badge? hbadge, .inr htold⟩
      · exact .inl hv
    · exact .inr (away hv)
  | purge hp | purgeEnd hp =>
    cases List.mem_singleton.1 hq
    intro u hu
    exact away (h u (hp.roster ▸ hu))
  | stopWake | disband =>
    cases List.mem_singleton.1 hq
    intro u hu
    exact away (h u hu)
  | join =>
    cases List.mem_singleton.1 hq
    intro v hv
    exact away (h v (List.mem_cons_of_mem _ hv))
  | joined | inspectNone | inspectLeft | sweep | sweepEnd =>
    cases List.mem_singleton.1 hq
    trivial

/-- Another thread, or the world, does something. -/
theorem Move.dismisses_other {x : Action B V} {g : Bool} {p : StopPoint} (hm : Move s x s')
    (hr : s.Ruled) (ht : s.top? t = some (.stop g p)) (hx : x.actor? ≠ some t)
    (h : s.Dismisses p) : s'.Dismisses p := by
  obtain ⟨th, rest, hth, hst⟩ := top?_eq_some_iff.1 ht
  have hmem : .stop g p ∈ th.stack := Thread.mem_of_stack hst
  -- while the stop holds the lock, the roster is as it was
  have roster {u : ThreadId} (hlock : 0 < Activity.locks (V := V) (.stop g p))
      (hu : u ∈ s'.roster) : u ∈ s.roster := (hm.keeps_lock hr hth hmem hlock hx).2 ▸ hu
  cases p with
  | tell us =>
    intro u hu
    exact (h u (roster Nat.one_pos hu)).imp_right hm.isSentAway
  | purge | wake | disband =>
    intro u hu
    exact hm.isSentAway (h u (roster Nat.one_pos hu))
  | join us n =>
    intro u hu
    exact hm.isSentAway (h u hu)
  | enter | inspect | sweep | close => trivial

/-- Who is in the middle of a stop was so before, or is at its entrance. -/
theorem Thread.Next.stop {o : Option (Thread V)} {w : Thread V} {g : Bool} {q : StopPoint}
    (hn : Thread.Next s o w) (hw : w.stack = .stop g q :: rest) (ho : ∀ w, o = some w → w.Shaped) :
    q = .enter ∨ ∃ w p rest, o = some w ∧ w.stack = .stop g p :: rest := by
  cases hn with
  | @same w₀ _ hsame => exact .inr ⟨w₀, q, rest, rfl, hsame.stack.symm.trans hw⟩
  | outside | worker => cases hw
  | @call w₀ _ _ _ next hf hl hopen hs hb =>
    rw [hs] at hw
    cases hopen <;> cases hw
    · exact .inl rfl
    · exact .inl rfl
  | @step w₀ _ x below next hx hfollows hs hb =>
    have hmem := (ho w₀ rfl).mem_of_append hx (hs.symm.trans hw) id
    cases hfollows with
    | run hd =>
      rcases hd.stop_mem hmem with ⟨p, rfl⟩ | ⟨-, hq⟩
      · exact .inr ⟨w₀, p, below, rfl, hx⟩
      · exact .inl hq
    | _ => simp at hmem

theorem Move.dismisses {x : Action B V} (hm : Move s x s') (hr : s.Reachable)
    (h : ∀ t g p, s.top? t = some (.stop g p) → s.Dismisses p) {g : Bool} {q : StopPoint}
    (ht' : s'.top? t = some (.stop g q)) : s'.Dismisses q := by
  obtain ⟨w', rest', hw', hst'⟩ := top?_eq_some_iff.1 ht'
  rcases (hm.thread hw').stop hst' (fun w hw => hr.shaped.thread t w hw) with
    rfl | ⟨w, p, rest, hw, hst⟩
  · trivial
  have ht := top?_eq_some_iff.2 ⟨w, rest, hw, hst⟩
  by_cases hx : x.actor? = some t
  · obtain ⟨c, turn, rfl, hd, rfl⟩ := hm.stop_step hx hw hst
    obtain ⟨w₁, hw₁, hst₁⟩ := hd.stack hw hst
    cases hw'.symm.trans hw₁
    have hmem := (hr.shaped.thread t w hw).mem_of_append hst (hst₁.symm.trans hst') id
    exact hd.dismisses hm hr.ruled ht (h t g p ht) hmem
  · cases ht'.symm.trans (hm.top? hx ht)
    exact hm.dismisses_other hr.ruled ht hx (h t g q ht)

/-- **Whom a stop is going to wait for was sent away**, or is about to be told. -/
theorem State.Reachable.dismisses (hr : s.Reachable) {g : Bool} {p : StopPoint}
    (ht : s.top? t = some (.stop g p)) : s.Dismisses p := by
  refine hr.induct (P := fun s => ∀ t g p, s.top? t = some (.stop g p) → s.Dismisses p) ?_ ?_ t g p ht
  · rintro s ⟨name, hooked, capacity, interval, workers, rfl⟩ t g p ht
    obtain ⟨th, rest, hth, hst⟩ := top?_eq_some_iff.1 ht
    rw [List.mem_singleton.1 (List.mem_of_getElem? hth)] at hst
    cases hst
  · intro s x s' hr ih hm t g p ht
    exact hm.dismisses hr ih ht

/-! ## Who waits for whom -/

/-- The stop of thread `t` cannot go on before thread `u` has. -/
inductive State.WaitsFor (s : State B V) (t u : ThreadId) : Prop where
  /-- `u` holds the lock of the roster -/
  | lock {g a} (ht : s.top? t = some (.stop g .enter)) (hu : s.top? u = some a) (ha : 0 < a.locks)
  /-- the stop waits for the end of `u` -/
  | join {g us n} (ht : s.top? t = some (.stop g (.join (u :: us) n))) (hb : ∀ c, s.run t c = none)

/-- How far a stop is from going on. -/
def Activity.rank : Activity V → Nat
  | stop _ .enter => 1
  | stop _ (.join (_ :: _) _) => 2
  | _ => 0

/-- How far the stop of a thread is from going on; a wait leads from a greater rank to a
    smaller one. -/
def State.rank (s : State B V) (t : ThreadId) : Nat := ((s.top? t).map Activity.rank).getD 0

/-- A stop does not wait for its own thread, nor for a worker that has ended. -/
theorem State.Reachable.runs_of_join (hr : s.Reachable) {g : Bool} {us : List ThreadId} {n : Nat}
    (ht : s.top? t = some (.stop g (.join (u :: us) n))) (hu : u = t ∨ s.HasEnded u) :
    ∃ c s', s.run t c = some s' := by
  obtain ⟨th, rest, hth, hst⟩ := top?_eq_some_iff.1 ht
  obtain ⟨s₁, hj⟩ : ∃ s₁, s.join t u = some s₁ := by
    unfold State.join
    by_cases hut : u = t
    · exact ⟨s, if_pos hut⟩
    · obtain ⟨w, hw, hend⟩ := hu.resolve_left hut
      rw [if_neg hut, hw]
      cases hd : w.died <;> simp [hend, hd]
  have hd : Deed s t th ⟨0, true⟩ (.stop g (.join (u :: us) n)) _ := .join (join_log hj ▸ hj)
  exact ⟨_, _, run_iff.2 ⟨hr.shaped.awake ht nofun nofun, th, _, rest, _, hth, hst, hd, rfl⟩⟩

/-- At all other points a stop can go on. -/
theorem able_stop {g : Bool} {p : StopPoint} (hp : p ≠ .enter)
    (hj : ∀ u us n, p ≠ .join (u :: us) n) : (Activity.stop (V := V) g p).Able B := by
  cases p with
  | enter => exact absurd rfl hp
  | tell us => exact able_stopTell g us
  | purge p => exact able_purge g p
  | wake => exact fun s t th _ => ⟨⟨0, true⟩, _, .stopWake⟩
  | disband => exact fun s t th _ => ⟨⟨0, true⟩, _, .disband⟩
  | join us n =>
    cases us with
    | nil => exact fun s t th _ => ⟨⟨0, true⟩, _, .joined⟩
    | cons u us => exact absurd rfl (hj u us n)
  | inspect n =>
    intro s t th _
    by_cases hk : s.backlog.tasks = []
    · exact ⟨⟨0, true⟩, _, .inspectNone hk⟩
    · exact ⟨⟨0, true⟩, _, .inspectLeft hk⟩
  | sweep p n => exact able_sweep g p n
  | close n m => exact fun s t th _ => ⟨⟨0, true⟩, _, .stopClose⟩

/-- **A stop that cannot go on waits for someone.** -/
theorem State.Reachable.waitsFor (hr : s.Reachable) {g : Bool} {p : StopPoint}
    (ht : s.top? t = some (.stop g p)) (hb : ∀ c, s.run t c = none) : ∃ u, s.WaitsFor t u := by
  by_cases henter : p = .enter
  · subst henter
    have hl : s.lock ≠ none := by
      intro hl
      obtain ⟨th, rest, hth, hst⟩ := top?_eq_some_iff.1 ht
      obtain ⟨turn, hd⟩ : ∃ turn, Deed s t th ⟨0, true⟩ (.stop g .enter) turn := enters hl
      have hrun := run_iff.2 ⟨hr.shaped.awake ht nofun nofun, th, _, rest, turn, hth, hst, hd, rfl⟩
      rw [hb] at hrun
      cases hrun
    obtain ⟨u, a, _, _, hu, ha, -⟩ := hr.holder_runs hl
    exact ⟨u, .lock ht hu ha⟩
  · by_cases hjoin : ∃ u us n, p = .join (u :: us) n
    · obtain ⟨u, us, n, rfl⟩ := hjoin
      exact ⟨u, .join ht hb⟩
    · have hj : ∀ u us n, p ≠ .join (u :: us) n := fun u us n h => hjoin ⟨u, us, n, h⟩
      obtain ⟨c, s', hrun⟩ := hr.runs_of_able ht (able_stop henter hj) nofun nofun
      rw [hb c] at hrun
      cases hrun

theorem rank_eq (ht : s.top? t = some a) : s.rank t = a.rank := by
  rw [State.rank, ht]
  rfl

/-- Who stands at a point of the lock waits for nobody. -/
theorem rank_of_locks (ha : 0 < a.locks) : a.rank = 0 := by
  cases a with
  | stop g p => cases p <;> first | rfl | cases ha
  | _ => rfl

/-- Two different threads do not both wait for workers. -/
theorem State.Reachable.rank_le_one (hr : s.Reachable) {g : Bool} {us : List ThreadId} {n : Nat}
    (ht : s.top? t = some (.stop g (.join (u :: us) n))) {v : ThreadId} (hne : v ≠ t) :
    s.rank v ≤ 1 := by
  cases hv : s.top? v with
  | none => simp [State.rank, hv]
  | some a =>
    rw [rank_eq hv]
    by_cases ha : 0 < a.joins
    · obtain ⟨th, rest, hth, hst⟩ := top?_eq_some_iff.1 ht
      obtain ⟨w, below, hw, hst'⟩ := top?_eq_some_iff.1 hv
      have hjoin : 0 < th.tally Activity.joins := Thread.tally_pos (Thread.mem_of_stack hst) Nat.one_pos
      have hjoin' : 0 < w.tally Activity.joins := Thread.tally_pos (Thread.mem_of_stack hst') ha
      have htwo := two_le_tally hw hth hne hjoin' hjoin
      have hone := hr.joins_le
      omega
    · unfold Activity.rank
      split
      · exact Nat.le_refl 1
      · exact absurd Nat.one_pos ha
      · exact Nat.zero_le 1

/-- **A wait goes down**, so that none leads back to where it began. -/
theorem State.WaitsFor.rank_lt (h : s.WaitsFor t u) (hr : s.Reachable) : s.rank u < s.rank t := by
  cases h with
  | lock ht hu ha =>
    rw [rank_eq ht, rank_eq hu, rank_of_locks ha]
    exact Nat.one_pos
  | join ht hb =>
    have hne : u ≠ t := by
      intro hut
      obtain ⟨c, s', hrun⟩ := hr.runs_of_join ht (.inl hut)
      rw [hb c] at hrun
      cases hrun
    rw [rank_eq ht]
    exact Nat.lt_succ_of_le (hr.rank_le_one ht hne)

theorem State.Reachable.rank_lt_of_transGen (hr : s.Reachable)
    (h : Relation.TransGen s.WaitsFor t u) : s.rank u < s.rank t := by
  induction h with
  | single hw => exact hw.rank_lt hr
  | tail _ hw ih => exact Nat.lt_trans (hw.rank_lt hr) ih

/-- Whoever a stop waits for can go on, or is a worker that has not ended. -/
theorem State.WaitsFor.alive (h : s.WaitsFor t u) (hr : s.Reachable) :
    (∃ c s', s.run u c = some s') ∨ s.IsSentAway u ∧ ¬ s.HasEnded u := by
  cases h with
  | lock ht hu ha => exact .inl (hr.runs_of_locks hu ha)
  | join ht hb =>
    refine .inr ⟨hr.dismisses ht u List.mem_cons_self, fun hend => ?_⟩
    obtain ⟨c, s', hrun⟩ := hr.runs_of_join ht (.inr hend)
    rw [hb c] at hrun
    cases hrun

/-! ## Stops do not wait for each other -/

/-- At rest a stop waits for a worker that is in a task or in its start hook. -/
theorem State.AtRest.waitsFor (h : s.AtRest) (hr : s.Reachable) {g : Bool} {p : StopPoint}
    (ht : s.threads[t]? = some th) (hp : .stop g p ∈ th.stack) :
    ∃ u, s.WaitsFor t u ∧ (s.badge? u).isSome = true ∧
      (s.top? u = some (.work .hook) ∨ s.IsInTask u) ∧ ¬ s.Awaits u ∧ ¬ s.HasEnded u := by
  obtain ⟨rest, hst⟩ := (hr.shaped.thread t th ht).eq_cons hp id
  have htop := top?_eq_some_iff.2 ⟨th, rest, ht, hst⟩
  obtain ⟨u, hwait⟩ := hr.waitsFor htop (h t)
  have halive : s.IsSentAway u ∧ ¬ s.HasEnded u := by
    rcases hwait.alive hr with ⟨c, s', hrun⟩ | haway
    · rw [h u c] at hrun
      cases hrun
    · exact haway
  obtain ⟨⟨hb, haway⟩, hlive⟩ := halive
  have hbusy := (h.sent_away hr hb haway).resolve_left hlive
  exact ⟨u, hwait, hb, hbusy, h.not_awaits hr haway, hlive⟩

/-- At rest nobody is at the end of the pool. -/
theorem State.AtRest.not_ending (h : s.AtRest) (hr : s.Reachable) :
    (∀ r, s.top? t ≠ some (.teardown r)) ∧ ∀ ks r, s.top? t ≠ some (.discard ks r) := by
  have stuck {a : Activity V} (ha : a.Able B) (hw : a ≠ .work .await)
      (hp : ∀ k, a ≠ .submit k .push) : s.top? t ≠ some a := by
    intro ht
    obtain ⟨c, s', hrun⟩ := hr.runs_of_able ht ha hw hp
    rw [h t c] at hrun
    cases hrun
  constructor
  · intro r
    refine stuck (fun s t th _ => ⟨⟨0, true⟩, ?_⟩) nofun nofun
    by_cases hs : 1 < s.sharers
    · exact ⟨_, .teardown hs⟩
    · exact ⟨_, .teardownLast (Nat.not_lt.1 hs)⟩
  · intro ks r
    exact stuck (able_discard ks r) nofun nofun

/-- **Stops do not deadlock**, whoever makes them: threads from outside or tasks on
    the workers of the pool, gracefully, by force or by dropping the pool.  In a
    whole run one stop at most takes over workers to wait for.  A stop that
    cannot go on waits for someone, never for its own thread: for one who
    holds the lock and can go on, or for a worker that has not ended; and no
    chain of waits leads back to where it began.  At rest, each stop that has
    not returned waits for a worker in the middle of a task or of its start
    hook, which neither sleeps nor has ended; and a pool whose stop has returned
    is not kept from being dropped. -/
theorem State.Founded.no_deadlock {s₀ : State B V} (h₀ : s₀.Founded) {as : List (Action B V)}
    (has : s₀.steps as = some s) :
    s₀.total State.musters as ≤ 1 ∧
    (∀ t g p, s.top? t = some (.stop g p) → (∀ c, s.run t c = none) → ∃ u, s.WaitsFor t u) ∧
    (∀ t u, s.WaitsFor t u → u ≠ t ∧
      ((∃ c s', s.run u c = some s') ∨ (s.badge? u).isSome = true ∧ ¬ s.HasEnded u)) ∧
    (∀ t, ¬ Relation.TransGen s.WaitsFor t t) ∧
    (s.AtRest →
      (∀ (t : ThreadId) (th : Thread V) (g : Bool) (p : StopPoint), s.threads[t]? = some th →
        .stop g p ∈ th.stack → ∃ u, s.WaitsFor t u ∧ (s.badge? u).isSome = true ∧
          (s.top? u = some (.work .hook) ∨ s.IsInTask u) ∧ ¬ s.Awaits u ∧ ¬ s.HasEnded u) ∧
      ∀ t, (∀ r, s.top? t ≠ some (.teardown r)) ∧ ∀ ks r, s.top? t ≠ some (.discard ks r)) := by
  have hr : s.Reachable := (Reachable.of_founded h₀).run has
  refine ⟨h₀.musters_le_one has, ?_, ?_, ?_, ?_⟩
  · intro t g p ht hb
    exact hr.waitsFor ht hb
  · intro t u hwait
    refine ⟨?_, (hwait.alive hr).imp_right fun h => ⟨h.1.1, h.2⟩⟩
    rintro rfl
    exact Nat.lt_irrefl _ (hwait.rank_lt hr)
  · intro t hcircle
    exact Nat.lt_irrefl _ (hr.rank_lt_of_transGen hcircle)
  · intro hrest
    constructor
    · intro t th g p ht hp
      exact hrest.waitsFor hr ht hp
    · intro t
      exact hrest.not_ending hr

end

/-- A run of a pool with two workers, both in a task: the task of the first one
    stops the pool gracefully, then a thread from outside stops it by force. -/
def entangledRun : List (Action Unit Unit) :=
  [paces 0 6, [.call 0 (.submit ())], paces 0 3, [.call 0 (.submit ())], paces 0 3, paces 1 3,
    paces 2 3, [.call 1 (.stop true)], paces 1 4, [.call 0 (.stop false)], paces 0 11].flatten

theorem no_deadlock_entangledRun : ∃ s : State Unit Unit,
    (State.founding "pool" false none 1 2).steps entangledRun = some s ∧ s.AtRest ∧
    s.top? 0 = none ∧ s.top? 1 = some (.stop true (.join [2] 2)) ∧
    (State.founding "pool" false none 1 2).total State.musters entangledRun ≤ 1 ∧
    (¬ Relation.TransGen s.WaitsFor 1 1) ∧
    ∃ u, s.WaitsFor 1 u ∧ u ≠ 1 ∧ (s.top? u = some (.work .hook) ∨ s.IsInTask u) := by
  have h₀ : (State.founding "pool" false none 1 2 : State Unit Unit).Founded :=
    State.founded_founding
  have hrun : ((State.founding "pool" false none 1 2).steps entangledRun).isSome = true := rfl
  obtain ⟨s, hs⟩ := Option.isSome_iff_exists.1 hrun
  have hrest : s.AtRest := by
    rintro (_ | _ | _ | t) c <;> cases hs <;> rfl
  have htop : s.top? 1 = some (.stop true (.join [2] 2)) := by cases hs; rfl
  obtain ⟨th, rest, ht, hst⟩ := top?_eq_some_iff.1 htop
  obtain ⟨hone, -, hself, hcircle, hstuck⟩ := h₀.no_deadlock hs
  obtain ⟨u, hwait, -, hbusy, -⟩ := (hstuck hrest).1 1 th true _ ht (Thread.mem_of_stack hst)
  exact ⟨s, hs, hrest, by cases hs; rfl, htop, hone, hcircle 1, u, hwait, (hself 1 u hwait).1,
    hbusy⟩

end WorkerPool
