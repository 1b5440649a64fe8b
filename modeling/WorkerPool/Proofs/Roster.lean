/-
  The roster, its lock, and the orders to leave.

  * `Activity.Rules`: a thread is in the middle of a resize or of a stop;
    `Move.ruling`: an action is a step of a resize or of a stop, or it leaves the
    roster, its lock and the stop flags alone;
  * `State.Ruled`: the lock is held by as many as are in the middle of changing
    the roster, at most one graceful stop is under way, the owned workers are
    different worker threads, and before a forced stop none of them was told to
    leave;
  * `State.Reachable.ruled`: this holds in every reachable state.
-/
import WorkerPool.Proofs.Shape

namespace WorkerPool

variable {B V : Type}

/-! ## Frame -/

/-- A resize or a stop that has been let in. -/
def Activity.Rules : Activity V → Prop
  | resize _ p => p ≠ .enter
  | stop _ p => p ≠ .enter
  | _ => False

/-- A resize or a stop, let in or not. -/
def Activity.IsRuling : Activity V → Prop
  | resize .. | stop .. => True
  | _ => False

/-- The roster, its lock and the stop flags are as they were, and so are those
    who change them and the orders they have given. -/
structure State.Undisturbed (s s' : State B V) : Prop where
  roster : s'.roster = s.roster
  lock : s'.lock = s.lock
  done : s'.done = s.done
  forced : s'.forced = s.forced
  tally : ∀ f : Activity V → Nat, (∀ a, ¬ a.Rules → f a = 0) →
    tally f s'.threads = tally f s.threads
  told : ∀ u, s'.IsTold u ↔ s.IsTold u

/-- An action that is a step of a resize or of a stop, or leaves all that alone. -/
inductive Ruling (s : State B V) : Action B V → State B V → Prop where
  | step {t c th a rest turn} (hw : s.backlog.isAsleep t = false) (ht : s.threads[t]? = some th)
      (hs : th.stack = a :: rest) (ha : a.IsRuling) (hd : Deed s t th c a turn) :
      Ruling s (.run t c) (State.settleTurn t turn)
  | other {x s'} (h : s.Undisturbed s') : Ruling s x s'

section
variable {s s' : State B V} {t u : ThreadId} {th : Thread V} {c : Chance} {a : Activity V}
  {turn : Turn B V} {rest : List (Activity V)}

theorem Activity.Rules.isRuling (h : a.Rules) : a.IsRuling := by
  cases a <;> trivial

theorem Activity.Tells.isRuling (h : a.Tells u) : a.IsRuling := by
  cases a <;> trivial

/-- Whoever neither resizes nor stops the pool leaves the roster alone, and does
    not get in. -/
theorem Deed.quiet (hd : Deed s t th c a turn) (ha : ¬ a.IsRuling) :
    (turn.state.roster = s.roster ∧ turn.state.lock = s.lock ∧ turn.state.done = s.done ∧
      turn.state.forced = s.forced) ∧ ∀ x ∈ turn.next, ¬ x.Rules := by
  cases hd with
  | clear hp | clearEnd hp => cases hp <;> exact ⟨⟨rfl, rfl, rfl, rfl⟩, by simp [Activity.Rules]⟩
  | fetched | unmark => exact ⟨⟨rfl, rfl, rfl, rfl⟩, by simp [runNext, Activity.Rules]⟩
  | resizeStopped | resizeShrink | resizeOverflow | resizeGrow | spawnNul | spawn | spawnRefused
  | resizeTold | resizeTell | resizeWake | resizeClose | gracefulAgain | graceful | forcedAgain
  | forced | stopTold | stopTell | purge | purgeEnd | stopWake | disband | joined | join
  | inspectNone | inspectLeft | sweep | sweepEnd | stopClose => exact absurd trivial ha
  | _ => exact ⟨⟨rfl, rfl, rfl, rfl⟩, by simp [Activity.Rules]⟩

theorem Opening.quiet {cl : Call B} {next : List (Activity V)} (ho : Opening s cl s' next) :
    (s'.roster = s.roster ∧ s'.lock = s.lock ∧ s'.done = s.done ∧ s'.forced = s.forced) ∧
      ∀ x ∈ next, ¬ x.Rules := by
  cases ho <;> exact ⟨⟨rfl, rfl, rfl, rfl⟩, by simp [Activity.Rules]⟩

theorem sum_map_eq_zero {f : Activity V → Nat} (hf : ∀ a, ¬ a.Rules → f a = 0)
    {l : List (Activity V)} (hl : ∀ x ∈ l, ¬ x.Rules) : (l.map f).sum = 0 :=
  List.sum_eq_zero_iff_forall_eq_nat.2 fun n hn => by
    obtain ⟨x, hx, rfl⟩ := List.mem_map.1 hn
    exact hf x (hl x hx)

/-- A step in which no activity of the roster's is left or begun. -/
theorem tally_settleTurn_eq {f : Activity V → Nat} (hf : ∀ a, ¬ a.Rules → f a = 0)
    {next : List (Activity V)} {r : Option (Reply V)} (ht : s.threads[t]? = some th)
    (hs : th.stack = a :: rest) (ha : ¬ a.Rules) (hn : ∀ x ∈ next, ¬ x.Rules) :
    tally f (State.settleTurn t ⟨s, next, r⟩).threads = tally f s.threads := by
  have h : tally f (State.settleTurn t ⟨s, next, r⟩).threads + f a =
      tally f s.threads + (next.map f).sum := tally_settleTurn ht hs
  rw [hf a ha, sum_map_eq_zero hf hn] at h
  exact h

/-- **The roster, its lock and the stop flags change in the steps of a resize
    or of a stop only.** -/
theorem Move.ruling {x : Action B V} (hm : Move s x s') : Ruling s x s' := by
  cases hm with
  | arrive =>
    refine .other ⟨rfl, rfl, rfl, rfl, fun f _ => ?_, fun u => isTold_concat rfl ?_⟩
    · rw [tally_append]
      rfl
    · simp [Thread.outside]
  | call ht hf hl ho =>
    obtain ⟨⟨hr, hk, hd, hfo⟩, hnext⟩ := ho.quiet
    refine .other ⟨hr, hk, hd, hfo, fun f hf => ?_, fun u => ?_⟩
    · rw [ho.tally ht, sum_map_eq_zero hf hnext, Nat.add_zero]
    · refine (isTold_modifyThread ?_).trans (isTold_congr ho.threads)
      exact fun _ => rfl
  | @run t c th a rest turn hw ht hs hd =>
    by_cases ha : a.IsRuling
    · exact .step hw ht hs ha hd
    obtain ⟨⟨hr, hk, hdo, hfo⟩, hnext⟩ := hd.quiet ha
    refine .other ⟨hr, hk, hdo, hfo, fun f hf => ?_, fun u => ?_⟩
    · have h := hd.tally ht hs (hf _ id) (hf _ id)
      rw [hf a fun h => ha h.isRuling, sum_map_eq_zero hf hnext] at h
      exact h
    · rw [isTold_settleTurn, hd.isTold_iff]
      exact or_iff_left fun h => ha h.1.isRuling
  | finish ht hs | hook ht hs | expire ht hs =>
    refine .other ⟨rfl, rfl, rfl, rfl, fun f hf => ?_, fun u => ?_⟩
    · exact tally_settleTurn_eq hf ht hs id (by simp [Activity.Rules])
    · exact isTold_settleTurn
  | hookPanic ht hs =>
    refine .other ⟨rfl, rfl, rfl, rfl, fun f hf => ?_, fun u => ?_⟩
    · refine (tally_modify_stack ?_).trans (tally_settleTurn_eq hf ht hs id ?_)
      · exact fun _ => rfl
      · simp [Activity.Rules]
    · refine (isTold_modifyThread ?_).trans isTold_settleTurn
      exact fun _ => rfl
  | rouse | tick =>
    exact .other ⟨rfl, rfl, rfl, rfl, fun _ _ => rfl, fun _ => isTold_congr rfl⟩

end

/-! ## Weights -/

/-- One for every point at which the lock is held. -/
def Activity.locks : Activity V → Nat
  | resize _ .enter => 0
  | resize .. => 1
  | stop _ (.tell _) | stop _ (.purge _) | stop _ .wake | stop _ .disband => 1
  | _ => 0

/-- One for a graceful stop that has been let in; one more at the points where
    it never is, since it tells nobody and throws nothing away before it waits. -/
def Activity.drains : Activity V → Nat
  | stop true .enter => 0
  | stop true (.tell _) | stop true (.purge _) => 2
  | stop true _ => 1
  | _ => 0

/-- How often a resize is going to tell a worker to leave. -/
def Activity.dismisses (u : ThreadId) : Activity V → Nat
  | resize _ (.tell us _) => us.count u
  | _ => 0

/-- One for a stop that is about to tell workers to leave. -/
def Activity.expels : Activity V → Nat
  | stop _ (.tell _) => 1
  | _ => 0

section
variable {a : Activity V} {u : ThreadId}

theorem locks_of_not_rules (ha : ¬ a.Rules) : a.locks = 0 := by
  cases a with
  | resize n p => cases p <;> simp_all [Activity.Rules, Activity.locks]
  | stop g p => cases p <;> simp_all [Activity.Rules, Activity.locks]
  | _ => rfl

theorem drains_of_not_rules (ha : ¬ a.Rules) : a.drains = 0 := by
  cases a with
  | stop g p => cases g <;> cases p <;> simp_all [Activity.Rules, Activity.drains]
  | _ => rfl

theorem dismisses_of_not_rules (ha : ¬ a.Rules) : a.dismisses u = 0 := by
  cases a with
  | resize n p => cases p <;> simp_all [Activity.Rules, Activity.dismisses]
  | _ => rfl

theorem expels_of_not_rules (ha : ¬ a.Rules) : a.expels = 0 := by
  cases a with
  | stop g p => cases p <;> simp_all [Activity.Rules, Activity.expels]
  | _ => rfl

/-- Who tells a worker to leave does so for a resize or for a stop. -/
theorem Activity.Tells.weight (h : a.Tells u) : 0 < a.dismisses u ∨ 0 < a.expels := by
  cases a with
  | resize n p =>
    cases p with
    | tell us start =>
      cases us with
      | nil => exact h.elim
      | cons v us => exact .inl (List.count_pos_iff.2 (by rw [show v = u from h]; simp))
    | _ => exact h.elim
  | stop g p =>
    cases p with
    | tell us => exact .inr Nat.one_pos
    | _ => exact h.elim
  | _ => exact h.elim

@[simp] theorem locks_grow {n i start : Nat} :
    Activity.locks (V := V) (.resize n (.grow n i start)) = 1 := by
  unfold ResizePoint.grow
  split <;> rfl

@[simp] theorem dismisses_grow {n i start : Nat} :
    Activity.dismisses (V := V) u (.resize n (.grow n i start)) = 0 := by
  unfold ResizePoint.grow
  split <;> rfl

end

/-! ## The invariant -/

/-- **Who rules the roster.**  Its lock is held by the one thread that is in a resize or a
    stop past its entry, so that no two of them change it at a time; whoever is dismissed is
    off it, and those on it are told to leave by a forced stop only. -/
structure State.Ruled (s : State B V) : Prop where
  lock : tally Activity.locks s.threads = s.lock.isSome.toNat
  drain : tally Activity.drains s.threads ≤ s.done.toNat
  nodup : s.roster.Nodup
  worker : ∀ u ∈ s.roster, (s.badge? u).isSome = true
  dismissed : ∀ u, 0 < tally (Activity.dismisses u) s.threads →
    u ∉ s.roster ∧ (s.badge? u).isSome = true
  expelled : 0 < tally Activity.expels s.threads → s.forced = true
  told : ∀ u ∈ s.roster, s.IsTold u → s.forced = true

section
variable {s s' : State B V} {t u : ThreadId} {th : Thread V} {c : Chance} {a : Activity V}
  {turn : Turn B V} {rest : List (Activity V)}

theorem Deed.locked (hd : Deed s t th c a turn) (ha : a.IsRuling)
    (h : WorkerPool.tally Activity.locks s.threads = s.lock.isSome.toNat)
    (ht : s.threads[t]? = some th) (hs : th.stack = a :: rest) :
    WorkerPool.tally Activity.locks (State.settleTurn t turn).threads =
      turn.state.lock.isSome.toNat := by
  have htally := hd.tally (f := Activity.locks) ht hs rfl rfl
  have hone := Bool.toNat_le s.lock.isSome
  cases hd with
  -- the lock is taken
  | resizeShrink hl | graceful hl | forced hl =>
    rw [hl] at h
    exact htally.trans (congrArg (· + 1) h)
  | resizeGrow hl =>
    rw [hl] at h
    simp only [List.map_cons, locks_grow] at htally
    exact htally.trans (congrArg (· + 1) h)
  -- the lock is given back
  | spawnNul | spawnRefused | resizeClose | disband =>
    have hgive : WorkerPool.tally Activity.locks _ + 1 = _ + 0 := htally
    exact Nat.eq_zero_of_le_zero (by omega)
  | spawn =>
    simp only [List.map_cons, locks_grow] at htally
    exact (Nat.add_right_cancel htally).trans h
  | purge hp | purgeEnd hp | sweep hp | sweepEnd hp =>
    cases hp <;> exact (Nat.add_right_cancel htally).trans h
  | resizeStopped | resizeOverflow | resizeTold | resizeTell | resizeWake | gracefulAgain
  | forcedAgain | stopTold | stopTell | stopWake | joined | join | inspectNone | inspectLeft
  | stopClose => exact (Nat.add_right_cancel htally).trans h
  | _ => exact ha.elim

theorem Deed.drained (hd : Deed s t th c a turn) (ha : a.IsRuling)
    (h : WorkerPool.tally Activity.drains s.threads ≤ s.done.toNat)
    (ht : s.threads[t]? = some th) (hs : th.stack = a :: rest) :
    WorkerPool.tally Activity.drains (State.settleTurn t turn).threads ≤
      turn.state.done.toNat := by
  have htally := hd.tally (f := Activity.drains) ht hs rfl rfl
  have keep {x p q : Nat} (hx : x + p = WorkerPool.tally Activity.drains s.threads + q)
      (hpq : q ≤ p) : x ≤ s.done.toNat := by omega
  cases hd with
  | graceful _ hstop =>
    -- no graceful stop has been let in before
    rw [(Bool.or_eq_false_iff.1 hstop).1] at h
    exact Nat.le_trans (Nat.le_of_eq htally) (Nat.succ_le_succ h)
  | @purge g _ _ _ hp | @purgeEnd g _ _ _ hp | @sweep g _ _ _ _ hp | @sweepEnd g _ _ _ _ hp =>
    cases g <;> cases hp <;> exact keep htally (Nat.le_of_ble_eq_true rfl)
  | @stopTold g | @stopTell g | @stopWake g | @disband g | @joined g | @join g | @inspectNone g
  | @inspectLeft g | @stopClose g =>
    cases g <;> exact keep htally (Nat.le_of_ble_eq_true rfl)
  | resizeGrow | spawn | resizeStopped | resizeShrink | resizeOverflow | spawnNul | spawnRefused
  | resizeTold | resizeTell | resizeWake | resizeClose | gracefulAgain | forcedAgain | forced =>
    exact keep htally (Nat.le_of_ble_eq_true rfl)
  | _ => exact ha.elim

/-- Those who leave the roster leave it for good and from its end, and who
    enters it is new. -/
theorem Deed.roster (hd : Deed s t th c a turn) :
    turn.state.roster <+: s.roster ∨ ∃ n i start, a = .resize n (.spawn i start) ∧
      turn.state = s.spawn i ∧ turn.next = [.resize n (.grow n (i + 1) start)] := by
  cases hd with
  | resizeShrink => exact .inl (List.take_prefix ..)
  | spawn => exact .inr ⟨_, _, _, rfl, rfl, rfl⟩
  | disband => exact .inl List.nil_prefix
  | clear hp | clearEnd hp | purge hp | purgeEnd hp | sweep hp | sweepEnd hp =>
    cases hp <;> exact .inl (List.prefix_refl _)
  | _ => exact .inl (List.prefix_refl _)

/-- Those whom a resize is going to send away are taken off the roster first. -/
theorem Deed.dismisses_le (hd : Deed s t th c a turn) (u : ThreadId) :
    (turn.next.map (Activity.dismisses u)).sum ≤ a.dismisses u ∨
      ∃ n, turn.state.roster = s.roster.take n ∧
        (turn.next.map (Activity.dismisses u)).sum = (s.roster.drop n).count u := by
  cases hd with
  | resizeShrink => exact .inr ⟨_, rfl, rfl⟩
  | resizeTell => exact .inl (List.count_le_count_cons ..)
  | resizeGrow | spawn => exact .inl (by simp)
  | _ => exact .inl (Nat.zero_le _)

theorem Deed.expels_le (hd : Deed s t th c a turn) :
    (turn.next.map Activity.expels).sum ≤ a.expels ∨ turn.state.forced = true := by
  cases hd with
  | forced => exact .inr rfl
  | resizeGrow | spawn => exact .inl (by unfold ResizePoint.grow; split <;> exact Nat.le_refl 0)
  | _ => exact .inl (Nat.le_of_ble_eq_true rfl)

theorem Deed.forced_mono (hd : Deed s t th c a turn) (h : s.forced = true) :
    turn.state.forced = true := by
  cases hd with
  | forced => rfl
  | clear hp | clearEnd hp | purge hp | purgeEnd hp | sweep hp | sweepEnd hp => cases hp <;> exact h
  | _ => exact h

theorem isSome_badge?_iff :
    (s.badge? u).isSome = true ↔ ∃ w, s.threads[u]? = some w ∧ w.badge.isSome = true := by
  rw [badge?_eq]
  cases s.threads[u]? <;> simp

theorem badge?_length : s.badge? s.threads.length = none := by
  rw [badge?_eq, List.getElem?_eq_none (Nat.le_refl _), Option.bind_none]

/-- A worker stays a worker. -/
theorem Deed.isSome_badge? (hd : Deed s t th c a turn) (h : (s.badge? u).isSome = true) :
    (turn.state.badge? u).isSome = true := by
  obtain ⟨w, hw, hb⟩ := isSome_badge?_iff.1 h
  obtain ⟨w', hw', hsame⟩ := hd.same hw
  exact isSome_badge?_iff.2 ⟨w', hw', hsame.worker.trans hb⟩

theorem Move.isSome_badge? {x : Action B V} (hm : Move s x s') (h : (s.badge? u).isSome = true) :
    (s'.badge? u).isSome = true := by
  cases hm with
  | arrive =>
    obtain ⟨w, hw, hb⟩ := isSome_badge?_iff.1 h
    have hlt := (List.getElem?_eq_some_iff.1 hw).1
    exact isSome_badge?_iff.2 ⟨w, by rw [List.getElem?_append_left hlt, hw], hb⟩
  | call ht hf hl ho =>
    rw [badge?_modifyThread (by intros; rfl), badge?_eq, ho.threads, ← badge?_eq, h]
  | run hw ht hs hd =>
    rw [badge?_settleTurn]
    exact hd.isSome_badge? h
  | finish | hook | expire => rwa [badge?_settleTurn]
  | hookPanic => rwa [badge?_modifyThread (by intros; rfl), badge?_settleTurn]
  | rouse | tick => exact h

theorem Deed.ruled (hd : Deed s t th c a turn) (ha : a.IsRuling) (h : s.Ruled)
    (ht : s.threads[t]? = some th) (hs : th.stack = a :: rest) :
    (State.settleTurn t turn).Ruled where
  lock := hd.locked ha h.lock ht hs
  drain := hd.drained ha h.drain ht hs
  nodup := by
    rcases hd.roster with hsub | ⟨n, i, start, -, heq, -⟩
    · exact h.nodup.sublist hsub.sublist
    · show turn.state.roster.Nodup
      rw [heq]
      refine List.nodup_append.2 ⟨h.nodup, by simp, fun u hu v hv => ?_⟩
      rintro rfl
      rw [List.mem_singleton.1 hv] at hu
      simpa [badge?_length] using h.worker _ hu
  worker u hu := by
    rw [badge?_settleTurn]
    rcases hd.roster with hsub | ⟨n, i, start, -, heq, -⟩
    · exact hd.isSome_badge? (h.worker u (hsub.subset hu))
    · replace hu : u ∈ (s.spawn i).roster := heq ▸ hu
      rcases List.mem_append.1 hu with hu | hu
      · exact hd.isSome_badge? (h.worker u hu)
      · rw [heq, List.mem_singleton.1 hu]
        exact isSome_badge?_iff.2 ⟨_, List.getElem?_concat_length, rfl⟩
  dismissed u hpos := by
    have htally := hd.tally (f := Activity.dismisses u) ht hs rfl rfl
    rw [badge?_settleTurn]
    -- whoever is on such a list was on one before, or was owned just now
    by_cases hold : 0 < WorkerPool.tally (Activity.dismisses u) s.threads
    · obtain ⟨hu, hb⟩ := h.dismissed u hold
      refine ⟨fun hu' => ?_, hd.isSome_badge? hb⟩
      rcases hd.roster with hsub | ⟨n, i, start, -, heq, -⟩
      · exact hu (hsub.subset hu')
      · replace hu' : u ∈ (s.spawn i).roster := heq ▸ hu'
        rcases List.mem_append.1 hu' with hu' | hu'
        · exact hu hu'
        · rw [List.mem_singleton.1 hu', badge?_length] at hb
          cases hb
    · rcases hd.dismisses_le u with hle | ⟨n, hr, hsum⟩
      · omega
      · have hmem : u ∈ s.roster.drop n := List.count_pos_iff.1 (by omega)
        refine ⟨fun hu' => ?_, hd.isSome_badge? (h.worker u (List.mem_of_mem_drop hmem))⟩
        replace hu' : u ∈ s.roster.take n := hr ▸ hu'
        have hnodup : (s.roster.take n ++ s.roster.drop n).Nodup := by
          rw [List.take_append_drop]
          exact h.nodup
        exact (List.nodup_append.1 hnodup).2.2 u hu' u hmem rfl
  expelled hpos := by
    have htally := hd.tally (f := Activity.expels) ht hs rfl rfl
    rcases hd.expels_le with hle | hf
    · exact hd.forced_mono (h.expelled (by omega))
    · exact hf
  told u hu htold := by
    rw [isTold_settleTurn, hd.isTold_iff] at htold
    have hu : u ∈ s.roster ∨ s.badge? u = none := by
      rcases hd.roster with hsub | ⟨n, i, start, -, heq, -⟩
      · exact .inl (hsub.subset hu)
      · replace hu : u ∈ (s.spawn i).roster := heq ▸ hu
        rcases List.mem_append.1 hu with hu | hu
        · exact .inl hu
        · exact .inr (by rw [List.mem_singleton.1 hu, badge?_length])
    rcases hu with hu | hnone
    · rcases htold with htold | ⟨htells, -⟩
      · exact hd.forced_mono (h.told u hu htold)
      · have ha : a ∈ th.stack := Thread.mem_of_stack hs
        rcases htells.weight with hw | hw
        · exact absurd hu (h.dismissed u (tally_pos ht ha hw)).1
        · exact hd.forced_mono (h.expelled (tally_pos ht ha hw))
    · rcases htold with ⟨b, hb, -⟩ | ⟨-, hb⟩ <;> rw [hnone] at hb <;> cases hb

theorem Move.ruled {x : Action B V} (hm : Move s x s') (h : s.Ruled) : s'.Ruled := by
  cases hm.ruling with
  | step hw ht hs ha hd => exact hd.ruled ha h ht hs
  | other hu =>
    exact {
      lock := by rw [hu.tally _ fun _ => locks_of_not_rules, hu.lock, h.lock]
      drain := by rw [hu.tally _ fun _ => drains_of_not_rules, hu.done]; exact h.drain
      nodup := by rw [hu.roster]; exact h.nodup
      worker := fun u hr => hm.isSome_badge? (h.worker u (hu.roster ▸ hr))
      dismissed := fun u hpos => by
        rw [hu.tally _ fun _ => dismisses_of_not_rules] at hpos
        obtain ⟨hr, hb⟩ := h.dismissed u hpos
        exact ⟨hu.roster ▸ hr, hm.isSome_badge? hb⟩
      expelled := fun hpos => by
        rw [hu.tally _ fun _ => expels_of_not_rules] at hpos
        rw [hu.forced, h.expelled hpos]
      told := fun u hr htold => by
        rw [hu.forced, h.told u (hu.roster ▸ hr) ((hu.told u).1 htold)] }

theorem State.Founded.ruled (h : s.Founded) : s.Ruled := by
  obtain ⟨name, hooked, capacity, interval, workers, rfl⟩ := h
  exact ⟨rfl, Nat.le_refl 0, List.nodup_nil, nofun, nofun, nofun, nofun⟩

/-- **The lock, the roster and the orders to leave fit together** in every
    reachable state. -/
theorem State.Reachable.ruled (h : s.Reachable) : s.Ruled :=
  h.induct (fun _ => Founded.ruled) fun _ _ _ _ ih hm => hm.ruled ih

end

end WorkerPool
