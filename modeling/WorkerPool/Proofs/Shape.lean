/-
  What the stacks of the threads look like, and who is asleep.

  * `Thread.Shaped`: below the innermost activity stand only activities that
    wait for it, and only workers are in a worker's loop;
  * `State.Shaped`: moreover those asleep at the two ends of the backlog are
    about to take or to append, and each is asleep once;
  * `State.Reachable.shaped`: every reachable state is shaped.
-/
import WorkerPool.Proofs.Thread

namespace WorkerPool

variable {B V : Type}

/-! ## Stacks -/

/-- An activity that can wait below others. -/
def Activity.Rests : Activity V → Prop
  | task _ _ .body | work .check | inline | teardown _ | build _ => True
  | _ => False

/-- What is below the innermost activity waits for it, and a worker's loop is on a worker.
    So where a thread stands is told by its innermost activity. -/
structure Thread.Shaped (th : Thread V) : Prop where
  tail : ∀ a ∈ th.stack.tail, a.Rests
  worker : ∀ p, .work p ∈ th.stack → th.badge.isSome = true

namespace Thread.Shaped

variable {th w : Thread V}

theorem outside : (Thread.outside : Thread V).Shaped := ⟨nofun, nofun⟩

theorem ofWorker (i : Nat) (hooked : Bool) : (Thread.worker i hooked : Thread V).Shaped :=
  ⟨nofun, fun _ _ => rfl⟩

theorem same (h : th.Shaped) (hs : th.Same w) : w.Shaped :=
  ⟨by rw [hs.stack]; exact h.tail, by rw [hs.stack, hs.worker]; exact h.worker⟩

/-- An activity that waits for nothing above it is the innermost one. -/
theorem eq_cons (h : th.Shaped) {a : Activity V} (ha : a ∈ th.stack) (hr : ¬ a.Rests) :
    ∃ rest, th.stack = a :: rest := by
  cases hs : th.stack with
  | nil => rw [hs] at ha; cases ha
  | cons x rest =>
    rw [hs] at ha
    rcases List.mem_cons.1 ha with rfl | ha
    · exact ⟨rest, rfl⟩
    · exact absurd (h.tail a (by rw [hs]; exact ha)) hr

/-- An activity that waits for nothing above it is innermost because it has just
    been begun. -/
theorem mem_of_append {a x : Activity V} {rest rest' next : List (Activity V)} (h : th.Shaped)
    (hs : th.stack = a :: rest) (hn : next ++ rest = x :: rest') (hr : ¬ x.Rests) : x ∈ next := by
  cases next with
  | nil =>
    have hx : x ∈ rest := by rw [show rest = x :: rest' from hn]; exact List.mem_cons_self
    exact absurd (h.tail x (by rw [hs]; exact hx)) hr
  | cons y next =>
    cases hn
    exact List.mem_cons_self

/-- A thread that is free has nothing on its stack but what can wait below others. -/
theorem rests (h : th.Shaped) (hf : th.isFree = true) {a : Activity V} (ha : a ∈ th.stack) :
    a.Rests := by
  cases hs : th.stack with
  | nil => rw [hs] at ha; cases ha
  | cons x rest =>
    rw [hs] at ha
    rcases List.mem_cons.1 ha with rfl | ha
    · -- a call is begun in the body of a task only
      simp only [Thread.isFree, hs] at hf
      split at hf <;> simp_all [Activity.Rests]
    · exact h.tail a (by rw [hs]; exact ha)

/-- What weighs nothing where a thread waits is all in the innermost activity. -/
theorem tally_eq {f : Activity V → Nat} {a : Activity V} {rest : List (Activity V)}
    (h : th.Shaped) (hs : th.stack = a :: rest) (hf : ∀ x, x.Rests → f x = 0) :
    th.tally f = f a := by
  have hrest : (rest.map f).sum = 0 := by
    refine List.sum_eq_zero_iff_forall_eq_nat.2 fun n hn => ?_
    obtain ⟨x, hx, rfl⟩ := List.mem_map.1 hn
    exact hf x (h.tail x (by rw [hs]; exact hx))
  rw [Thread.tally, hs, List.map_cons, List.sum_cons, hrest, Nat.add_zero]

/-- A new stack on what was below the innermost activity. -/
theorem replace {a : Activity V} {rest next : List (Activity V)} (h : th.Shaped)
    (hs : th.stack = a :: rest) (hn : ∀ x ∈ next.tail, x.Rests)
    (hw : ∀ p, .work p ∈ next → th.badge.isSome = true)
    {w : Thread V} (hws : w.stack = next ++ rest) (hwb : w.badge.isSome = th.badge.isSome) :
    w.Shaped := by
  have hrest : ∀ x ∈ rest, x.Rests := fun x hx => h.tail x (by rw [hs]; exact hx)
  refine ⟨fun x hx => ?_, fun p hp => ?_⟩
  · rw [hws] at hx
    cases next with
    | nil => exact hrest x (List.mem_of_mem_tail hx)
    | cons y next =>
      rcases List.mem_append.1 hx with hx | hx
      exacts [hn x hx, hrest x hx]
  · rw [hwb]
    rw [hws] at hp
    rcases List.mem_append.1 hp with hp | hp
    · exact hw p hp
    · exact h.worker p (by rw [hs]; exact List.mem_cons_of_mem _ hp)

end Thread.Shaped

section
variable {s : State B V} {t : ThreadId} {th : Thread V} {c : Chance} {a : Activity V}
  {turn : Turn B V}

/-- What follows a step is well shaped by itself. -/
theorem Deed.next_shaped (hd : Deed s t th c a turn) :
    (∀ x ∈ turn.next.tail, x.Rests) ∧ ∀ p, .work p ∈ turn.next → th.badge.isSome = true := by
  cases hd with
  | fetched hb | unmark hb => simp [runNext, Activity.Rests, hb]
  | fetch hb | fetchNone hb | check hb | mark hb | clock hb | shift hb | report hb | await hb
  | awaitStop hb | awaitSleep hb | awaited hb | unmarkNone hb | leave hb | leaveLast hb =>
    simp [hb]
  | _ => simp [Activity.Rests]

theorem Opening.next_shaped {s₁ : State B V} {cl : Call B} {next : List (Activity V)}
    (ho : Opening s cl s₁ next) : (∀ x ∈ next.tail, x.Rests) ∧ ∀ p, .work p ∉ next := by
  cases ho <;> simp [Activity.Rests]

end

theorem Follows.next_shaped {s : State B V} {w : Thread V} {x : Activity V}
    {next : List (Activity V)} (h : Follows s w x next)
    (hx : ∀ p, x = .work p → w.badge.isSome = true) :
    (∀ y ∈ next.tail, y.Rests) ∧ ∀ p, .work p ∈ next → w.badge.isSome = true := by
  cases h with
  | run hd => exact hd.next_shaped
  | hook | hookPanic => exact ⟨nofun, fun _ _ => hx _ rfl⟩
  | finish | expire => exact ⟨nofun, by simp⟩

theorem Thread.Next.shaped {s : State B V} {o : Option (Thread V)} {w' : Thread V}
    (h : Thread.Next s o w') (ho : ∀ w, o = some w → w.Shaped) : w'.Shaped := by
  cases h with
  | same hs => exact (ho _ rfl).same hs
  | outside => exact .outside
  | worker i => exact .ofWorker i _
  | @call w _ _ _ next hf hl hc hs hb =>
    have hw := ho w rfl
    obtain ⟨hr, hp⟩ := hc.next_shaped
    refine ⟨fun x hx => ?_, fun p hx => ?_⟩
    · rw [hs] at hx
      rcases List.mem_append.1 (List.mem_of_mem_tail hx) with hx' | hx'
      · cases next with
        | nil => cases hx'
        | cons y next =>
          rcases List.mem_append.1 hx with hx | hx
          exacts [hr x hx, hw.rests hf hx]
      · exact hw.rests hf hx'
    · rw [hs] at hx
      rw [hb]
      exact hw.worker p ((List.mem_append.1 hx).resolve_left (hp p))
  | step hx hn hs hb =>
    have hw := ho _ rfl
    obtain ⟨hr, hp⟩ := hn.next_shaped fun p hp => hw.worker p (by rw [hx, hp]; simp)
    exact hw.replace hx hr hp hs hb

/-! ## Those asleep -/

/-- A thread is about to take a task, to give up, or to sleep. -/
def State.Awaits (s : State B V) (t : ThreadId) : Prop := s.top? t = some (.work .await)

/-- A thread is about to append a task, waiting for room if there is none. -/
def State.Pushes (s : State B V) (t : ThreadId) : Prop := ∃ k, s.top? t = some (.submit k .push)

/-- All threads are shaped, and whoever is asleep stands where one can fall asleep.  So a
    wake-up reaches a thread that looks at the backlog next, and nobody else is kept from
    its next step by being asleep. -/
structure State.Shaped (s : State B V) : Prop where
  thread : ∀ (t : ThreadId) (th : Thread V), s.threads[t]? = some th → th.Shaped
  taker : ∀ t ∈ s.backlog.takers, s.Awaits t
  giver : ∀ t ∈ s.backlog.givers, s.Pushes t
  takers_nodup : s.backlog.takers.Nodup
  givers_nodup : s.backlog.givers.Nodup

section
variable {s s' : State B V} {t : ThreadId} {th : Thread V} {c : Chance} {a : Activity V}
  {turn : Turn B V}

/-- A step puts at most the thread that takes it to sleep. -/
theorem Deed.takers (hd : Deed s t th c a turn) :
    turn.state.backlog.takers.Sublist s.backlog.takers ∨
      turn.state.backlog.takers = s.backlog.takers ++ [t] ∧ turn.next = [.work .await] := by
  cases hd with
  | awaitSleep => exact .inr ⟨rfl, rfl⟩
  | submitWake | tryWake => exact .inl (List.eraseIdx_sublist ..)
  | resizeWake | stopWake => exact .inl (List.nil_sublist _)
  | clear hp | clearEnd hp | purge hp | purgeEnd hp | sweep hp | sweepEnd hp =>
    cases hp <;> exact .inl (List.Sublist.refl _)
  | _ => exact .inl (List.Sublist.refl _)

theorem Deed.givers (hd : Deed s t th c a turn) :
    turn.state.backlog.givers.Sublist s.backlog.givers ∨
      turn.state.backlog.givers = s.backlog.givers ++ [t] ∧ ∃ k, turn.next = [.submit k .push] := by
  cases hd with
  | submitSleep => exact .inr ⟨rfl, _, rfl⟩
  | fetched | awaited | popWake => exact .inl (List.eraseIdx_sublist ..)
  | resizeWake | stopWake | capacityWake => exact .inl (List.nil_sublist _)
  | clear hp | clearEnd hp | purge hp | purgeEnd hp | sweep hp | sweepEnd hp =>
    cases hp <;> first | exact .inl (List.Sublist.refl _) | exact .inl (List.nil_sublist _)
  | _ => exact .inl (List.Sublist.refl _)

theorem Opening.backlog {cl : Call B} {next : List (Activity V)} (ho : Opening s cl s' next) :
    s'.backlog = s.backlog := by
  cases ho <;> rfl

theorem isAsleep_iff {q : Backlog} : q.isAsleep t = true ↔ t ∈ q.takers ∨ t ∈ q.givers := by
  simp [Backlog.isAsleep]

/-- Whoever neither waits for a task nor for room is awake. -/
theorem State.Shaped.awake (h : s.Shaped) (ht : s.top? t = some a) (hw : a ≠ .work .await)
    (hp : ∀ k, a ≠ .submit k .push) : s.backlog.isAsleep t = false := by
  rw [Bool.eq_false_iff]
  intro hs
  rcases isAsleep_iff.1 hs with hm | hm
  · exact hw (Option.some.inj (ht.symm.trans (h.taker t hm)))
  · obtain ⟨k, hk⟩ := h.giver t hm
    exact hp k (Option.some.inj (ht.symm.trans hk))

/-- Someone who acts is awake. -/
theorem Move.awake {x : Action B V} (h : s.Shaped) (hm : Move s x s')
    (ht : x.actor? = some t) : s.backlog.isAsleep t = false := by
  -- the innermost activity of someone asleep is a wait, at which nobody but the thread itself acts
  have key (ha : ¬ s.Awaits t) (hp : ¬ s.Pushes t) : s.backlog.isAsleep t = false := by
    rw [Bool.eq_false_iff]
    intro hs
    rcases isAsleep_iff.1 hs with hs | hs
    exacts [ha (h.taker t hs), hp (h.giver t hs)]
  have top {th : Thread V} (hth : s.threads[t]? = some th) : s.top? t = th.stack.head? := by
    simp [State.top?, hth]
  cases hm with
  | arrive | rouse | tick => cases ht
  | run hw => cases ht; exact hw
  | call hth hf =>
    cases ht
    have htop := top hth
    apply key
    · intro ha
      rw [State.Awaits, htop] at ha
      obtain ⟨rest, hs⟩ := List.head?_eq_some_iff.1 ha
      simp [Thread.isFree, hs] at hf
    · rintro ⟨k, hp⟩
      rw [htop] at hp
      obtain ⟨rest, hs⟩ := List.head?_eq_some_iff.1 hp
      simp [Thread.isFree, hs] at hf
  | finish hth hs | hook hth hs | hookPanic hth hs | expire hth hs =>
    cases ht
    have htop := top hth
    rw [hs] at htop
    exact key (by simp [State.Awaits, htop]) (by simp [State.Pushes, htop])

theorem Move.actor_ne {x : Action B V} (h : s.Shaped) (hm : Move s x s')
    (ht : t ∈ s.backlog.takers ∨ t ∈ s.backlog.givers) : x.actor? ≠ some t := by
  intro hx
  have := hm.awake h hx
  rw [isAsleep_iff.2 ht] at this
  cases this

theorem Deed.top? (hd : Deed s t th c a turn) (ht : s.threads[t]? = some th)
    {x : Activity V} {next : List (Activity V)} (hn : turn.next = x :: next) :
    (State.settleTurn t turn).top? t = some x := by
  obtain ⟨w, hw, -⟩ := hd.same ht
  simp [State.top?, State.settleTurn, State.modifyThread, hw, hn]

theorem Move.takers {x : Action B V} (hm : Move s x s') :
    s'.backlog.takers.Sublist s.backlog.takers ∨
      ∃ t, x.actor? = some t ∧ s'.backlog.takers = s.backlog.takers ++ [t] ∧ s'.Awaits t := by
  cases hm with
  | call _ _ _ ho => exact .inl (ho.backlog ▸ List.Sublist.refl _)
  | run _ ht hs hd =>
    rcases hd.takers with h | ⟨h, hn⟩
    · exact .inl h
    · exact .inr ⟨_, rfl, h, hd.top? ht hn⟩
  | rouse => exact .inl List.erase_sublist
  | _ => exact .inl (List.Sublist.refl _)

theorem Move.givers {x : Action B V} (hm : Move s x s') :
    s'.backlog.givers.Sublist s.backlog.givers ∨
      ∃ t, x.actor? = some t ∧ s'.backlog.givers = s.backlog.givers ++ [t] ∧ s'.Pushes t := by
  cases hm with
  | call _ _ _ ho => exact .inl (ho.backlog ▸ List.Sublist.refl _)
  | run _ ht hs hd =>
    rcases hd.givers with h | ⟨h, k, hn⟩
    · exact .inl h
    · exact .inr ⟨_, rfl, h, k, hd.top? ht hn⟩
  | rouse => exact .inl List.erase_sublist
  | _ => exact .inl (List.Sublist.refl _)

theorem Move.shaped {x : Action B V} (h : s.Shaped) (hm : Move s x s') : s'.Shaped where
  thread u _ hw := (hm.thread hw).shaped fun w => h.thread u w
  taker u hu := by
    rcases hm.takers with hsub | ⟨t, -, heq, ha⟩
    · exact hm.top? (hm.actor_ne h (.inl (hsub.subset hu))) (h.taker u (hsub.subset hu))
    · rw [heq] at hu
      rcases List.mem_append.1 hu with hu | hu
      · exact hm.top? (hm.actor_ne h (.inl hu)) (h.taker u hu)
      · exact List.mem_singleton.1 hu ▸ ha
  giver u hu := by
    rcases hm.givers with hsub | ⟨t, -, heq, ha⟩
    · obtain ⟨k, hk⟩ := h.giver u (hsub.subset hu)
      exact ⟨k, hm.top? (hm.actor_ne h (.inr (hsub.subset hu))) hk⟩
    · rw [heq] at hu
      rcases List.mem_append.1 hu with hu | hu
      · obtain ⟨k, hk⟩ := h.giver u hu
        exact ⟨k, hm.top? (hm.actor_ne h (.inr hu)) hk⟩
      · exact List.mem_singleton.1 hu ▸ ha
  takers_nodup := by
    rcases hm.takers with hsub | ⟨t, ht, heq, -⟩
    · exact h.takers_nodup.sublist hsub
    · rw [heq, List.nodup_append]
      refine ⟨h.takers_nodup, by simp, fun u hu v hv => ?_⟩
      rintro rfl
      exact hm.actor_ne h (.inl hu) (List.mem_singleton.1 hv ▸ ht)
  givers_nodup := by
    rcases hm.givers with hsub | ⟨t, ht, heq, -⟩
    · exact h.givers_nodup.sublist hsub
    · rw [heq, List.nodup_append]
      refine ⟨h.givers_nodup, by simp, fun u hu v hv => ?_⟩
      rintro rfl
      exact hm.actor_ne h (.inr hu) (List.mem_singleton.1 hv ▸ ht)

theorem State.Founded.shaped (h : s.Founded) : s.Shaped := by
  obtain ⟨name, hooked, capacity, interval, workers, rfl⟩ := h
  refine ⟨fun t th ht => ?_, nofun, nofun, List.nodup_nil, List.nodup_nil⟩
  obtain rfl := List.mem_singleton.1 (List.mem_of_getElem? ht)
  exact ⟨nofun, by simp⟩

/-- **Every reachable state is well shaped.** -/
theorem State.Reachable.shaped (h : s.Reachable) : s.Shaped :=
  h.induct (fun _ => Founded.shaped) fun _ _ _ _ => Move.shaped

end

end WorkerPool
