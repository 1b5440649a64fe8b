/-
  All ways to ask a handle agree.

  A handle belongs to one thread: others may do what they like, but do not ask it.

  * `State.IsLeftTo`: others leave a handle to a thread in a run;
    `State.Reachable.isLeftTo`: they do if they make no call that asks it;
  * `Asking.Hears`: what a thread is told that asks a handle alone; `steps_receiving`:
    it is told that, and has waited no longer than it had to;
  * `Slot.Serves`: what stands for a handle in a wait for several; `steps_joining`: the
    wait is over when there are all the results, and gives them in the order of the
    handles;
  * `State.Founded.agreement`: all of this, and that each result is the fate of its task.
-/
import WorkerPool.Proofs.Askers

namespace WorkerPool

variable {B V : Type}

/-! ## A handle that belongs to one thread -/

/-- No other thread is in the middle of asking for the result of a task. -/
def State.OnlyAsker (s : State B V) (t : ThreadId) (k : TaskId) : Prop :=
  ∀ u w, u ≠ t → s.threads[u]? = some w → ∀ a ∈ w.stack, ¬ a.Asks k

/-- Others leave the handle of a task to this thread in a run. -/
def State.IsLeftTo (s : State B V) (t : ThreadId) (k : TaskId) (as : List (Action B V)) : Prop :=
  ∀ bs s', bs <+: as → s.steps bs = some s' → s'.OnlyAsker t k

/-- A thread has different handles, none of which has delivered, to itself in a run. -/
structure State.HasToItself (s : State B V) (t : ThreadId) (ks : List TaskId)
    (as : List (Action B V)) : Prop where
  nodup : ks.Nodup
  fresh : ∀ k ∈ ks, s.isSpent k = false
  left : ∀ k ∈ ks, s.IsLeftTo t k as

section
variable {s s' : State B V} {t : ThreadId} {k : TaskId} {x : Action B V} {as : List (Action B V)}

/-- Others leave a handle to its owner as long as they do not begin to ask it. -/
theorem Move.onlyAsker (hm : Move s x s') (hr : s.Reachable) (h : s.OnlyAsker t k)
    (hx : ∀ u cl, x = .call u cl → u ≠ t → ¬ cl.Asks k) : s'.OnlyAsker t k := by
  intro u w hu hw a ha hk
  rcases hm.asks hr.asksInRange hw ha hk with ⟨v, hv, b, hb, hb'⟩ | ⟨cl, rfl, hcl, -⟩
  exacts [h u v hu hv b hb hb', hx u cl rfl hu hcl]

theorem State.Reachable.isLeftTo (hr : s.Reachable) (h : s.OnlyAsker t k)
    (hcalls : ∀ u cl, .call u cl ∈ as → u ≠ t → ¬ cl.Asks k) : s.IsLeftTo t k as := by
  intro bs s' hbs has
  induction bs using List.reverseRecOn generalizing s' with
  | nil =>
    cases has
    exact h
  | append_singleton bs x ih =>
    obtain ⟨s₁, hbs₁, hm⟩ := steps_concat.1 has
    have hx : x ∈ as := hbs.subset (List.mem_append_right _ (List.mem_singleton_self x))
    refine hm.onlyAsker (hr.run hbs₁) (ih s₁ ((List.prefix_append ..).trans hbs) hbs₁) ?_
    rintro u cl rfl
    exact hcalls u cl hx

/-- Others do not make a handle deliver that is left to its owner. -/
theorem Move.isSpent_of_left (hm : Move s x s') (hr : s.Reachable) (hx : x.actor? ≠ some t)
    (h : s.OnlyAsker t k) : s'.isSpent k = s.isSpent k := by
  refine hm.isSpent_eq hr fun u c a hxu hu => ?_
  obtain ⟨w, rest, hw, hs⟩ := top?_eq_some_iff.1 hu
  have hne : u ≠ t := fun hut => hx (by rw [hxu, hut]; rfl)
  exact h u w hne hw a (Thread.mem_of_stack hs)

theorem State.IsLeftTo.onlyAsker {bs : List (Action B V)} (h : s.IsLeftTo t k as)
    (hbs : bs ++ [x] <+: as) (hs : s.steps bs = some s') : s'.OnlyAsker t k :=
  h bs s' ((List.prefix_append ..).trans hbs) hs

end

/-! ## One handle -/

/-- What a thread is told that asks for the result of a task in its own way. -/
inductive Asking.Hears (s : State B V) (k : TaskId) : Asking → Reply V → Prop where
  | result {how r} (hr : s.result? k = some r) : Hears s k how (.result r)
  | pending {how} (h : how = .once ∨ how = .poll) (hr : s.result? k = none) :
      Hears s k how .pending
  | timedOut (hr : s.result? k = none) : Hears s k .deadline (.result (.error .timedOut))

section
variable {s s' : State B V} {t : ThreadId} {k : TaskId} {how : Asking} {x : Action B V}
  {rest : List (Activity V)} {turn : Turn B V} {as : List (Action B V)}

/-- A step of one thread leaves the others to what its state makes of them. -/
theorem threads_settleTurn_of_ne {u : ThreadId} (hu : u ≠ t) :
    (State.settleTurn t turn).threads[u]? = turn.state.threads[u]? := by
  rw [State.settleTurn, State.modifyThread, List.getElem?_modify]
  simp [hu.symm]

/-- **How a thread goes on that asks a handle alone**: it waits while others act, and
    its own action is its answer. -/
theorem Move.receiving (hm : Move s x s') (hr : s.Reachable)
    (h : s.StandsAt t (.receive k how) rest) (hk : s.isSpent k = false) :
    x.actor? ≠ some t ∧ s'.StandsAt t (.receive k how) rest ∨
      x.actor? = some t ∧ ∃ q, s'.HasAnswer t rest q ∧ how.Hears s' k q := by
  by_cases hx : x.actor? = some t
  · refine .inr ⟨hx, ?_⟩
    have htop := h.top?
    have hstep := step_iff.2 hm
    obtain ⟨th, ht, hs⟩ := h
    cases hm with
    | arrive | rouse | tick => cases hx
    | call ht' hf =>
      cases hx
      cases ht.symm.trans ht'
      simp [Thread.isFree, hs] at hf
    | finish ht' hs' | hook ht' hs' | hookPanic ht' hs' =>
      cases hx
      cases ht.symm.trans ht'
      cases hs.symm.trans hs'
    | expire ht' hs' hp =>
      cases hx
      cases ht.symm.trans ht'
      cases hs.symm.trans hs'
      have hnone := ((isPending_iff (hr.asks_lt htop rfl)).1 hp).2
      exact ⟨_, hasAnswer_settleTurn ht hs rfl rfl, .timedOut hnone⟩
    | @run _ c =>
      cases hx
      cases hres : s.result? k with
      | none =>
        have hrun := (hr.run_pending htop hk hres c).symm.trans hstep
        obtain ⟨hhow, hrun⟩ := Option.ite_none_right_eq_some.1 hrun
        rw [← Option.some.inj hrun]
        exact ⟨_, hasAnswer_settleTurn ht hs rfl rfl, .pending hhow hres⟩
      | some r =>
        have hrun := (hr.run_result htop hk hres c).symm.trans hstep
        rw [← Option.some.inj hrun]
        exact ⟨_, hasAnswer_settleTurn ht hs rfl rfl, .result (result?_spend.trans hres)⟩
  · exact .inl ⟨hx, hm.standsAt hx h⟩

/-- **A thread that asks a handle alone** is still there, or was told what there was to
    be told. -/
theorem steps_receiving (hr : s.Reachable) (h : s.StandsAt t (.receive k how) rest)
    (hk : s.isSpent k = false) (hleft : s.IsLeftTo t k as) (has : s.steps as = some s') :
    (s'.StandsAt t (.receive k how) rest ∧ s'.isSpent k = false ∧ actionsOf t as = 0) ∨
      ∃ bs s'' q, bs <+: as ∧ s.steps bs = some s'' ∧ s''.HasAnswer t rest q ∧
        how.Hears s'' k q ∧ actionsOf t bs ≤ 1 := by
  have hall := steps_answer (t := t)
    (P := fun _ s' (_ : Unit) => s'.StandsAt t (.receive k how) rest ∧ s'.isSpent k = false)
    (Q := fun _ s' => ∃ q, s'.HasAnswer t rest q ∧ how.Hears s' k q) (fun _ => 1) (p := ())
    ⟨h, hk⟩ has ?_
  · rcases hall with ⟨-, ⟨h', hk'⟩, hle⟩ | ⟨bs, s'', hbs, hsteps, ⟨q, hq, hears⟩, hle⟩
    · exact .inl ⟨h', hk', by omega⟩
    · exact .inr ⟨bs, s'', q, hbs, hsteps, hq, hears, hle⟩
  · rintro bs x s₁ s₂ - hbs hsteps hm ⟨h, hk⟩
    rcases hm.receiving (hr.run hsteps) h hk with ⟨hx, h'⟩ | ⟨hx, hq⟩
    · have hspent := hm.isSpent_of_left (hr.run hsteps) hx (hleft.onlyAsker hbs hsteps)
      exact .inl ⟨hx, h', hspent.trans hk⟩
    · exact .inr ⟨hx, Nat.one_pos, .inr hq⟩

end

/-! ## Several handles -/

/-- What stands for the handle of a task in a wait for several: it is waited for, or its result
    has come. -/
inductive Slot.Serves (s : State B V) (k : TaskId) : Slot V → Prop where
  | waiting : Serves s k (.waiting k)
  | got {r} (hr : s.result? k = some r) : Serves s k (.got r)

section
variable {s s' : State B V} {t : ThreadId} {k : TaskId} {x : Action B V} {slot : Slot V}
  {slots : List (Slot V)} {ks : List TaskId} {rest : List (Activity V)} {as : List (Action B V)}

theorem serves_waiting (ks : List TaskId) :
    List.Forall₂ (Slot.Serves s) ks (ks.map .waiting) :=
  List.forall₂_map_right_iff.2 (List.forall₂_same.2 fun _ _ => .waiting)

theorem waitedFor_sublist (h : List.Forall₂ (Slot.Serves s) ks slots) :
    (waitedFor slots).Sublist ks := by
  induction h with
  | nil => exact List.Sublist.slnil
  | cons hslot _ ih =>
    cases hslot with
    | waiting => exact ih.cons_cons _
    | got => exact ih.cons _

/-- A handle is served as long as results stay. -/
theorem Slot.Serves.mono (h : slot.Serves s k)
    (hstays : ∀ r, s.result? k = some r → s'.result? k = some r) : slot.Serves s' k := by
  cases h with
  | waiting => exact .waiting
  | got hr => exact .got (hstays _ hr)

/-- A handle that is polled is served. -/
theorem Slot.Serves.polled (h : slot.Serves s k) : (slot.polled s).Serves s k := by
  cases h with
  | waiting =>
    rw [Slot.polled]
    cases hr : s.result? k with
    | none => exact .waiting
    | some r => exact .got hr
  | got hr => exact .got hr

/-- **How a thread goes on that asks several handles**: it waits while others act; its own
    action polls those that have not answered, one of which has a result, or is its
    answer. -/
theorem Move.joining (hm : Move s x s') (hr : s.Reachable)
    (h : s.StandsAt t (.joinAll slots) rest) :
    x.actor? ≠ some t ∧ s'.StandsAt t (.joinAll slots) rest ∨
      x.actor? = some t ∧
        (s'.StandsAt t (.joinAll (slots.map (Slot.polled s))) rest ∧
            (∃ k ∈ waitedFor slots, ∃ r, s.result? k = some r) ∧
            (∀ k ∈ waitedFor slots, s'.isSpent k = (s.result? k).isSome) ∨
          (∃ rs : List (TaskResult V), s'.HasAnswer t rest (.results rs) ∧ slots = rs.map .got) ∨
          s'.HasAnswer t rest (.panicked .spentHandle) ∧
            ¬ ((waitedFor slots).Nodup ∧ ∀ k ∈ waitedFor slots, s.isSpent k = false)) := by
  by_cases hx : x.actor? = some t
  · refine .inr ⟨hx, ?_⟩
    have hlt (k : TaskId) (hk : k ∈ waitedFor slots) : k < s.jobs.length := hr.asks_lt h.top? hk
    obtain ⟨th, ht, hs⟩ := h
    obtain ⟨c, turn, rfl, hd, rfl⟩ := hm.own_step hx ht hs rfl
    cases hd with
    | joinedAll hrs =>
      refine .inr (.inl ⟨_, hasAnswer_settleTurn ht hs rfl rfl, ?_⟩)
      rcases mapM_result?_cases slots with ⟨⟨rs, rfl⟩, -⟩ | ⟨-, hnone⟩
      · rw [← Option.some.inj ((mapM_result?_got rs).symm.trans hrs)]
      · rw [hnone] at hrs
        cases hrs
    | joinMisuse _ _ hp =>
      refine .inr (.inr ⟨hasAnswer_settleTurn ht hs rfl rfl, fun ⟨hnodup, hfresh⟩ => ?_⟩)
      have hsome := pollSlots_isSome hlt hfresh hnodup
      rw [hp] at hsome
      cases hsome
    | joinAll _ hw hp =>
      obtain ⟨hfresh, rfl, hspent⟩ := pollSlots_eq hlt hp
      refine .inl ⟨standsAt_settleTurn ht hs rfl, ?_, fun k hk => ?_⟩
      · rw [all_stillWaits] at hw
        exact exists_result?_of_not_all hlt hfresh (Bool.eq_false_iff.1 hw)
      · refine (hspent k).trans ?_
        rw [hfresh k hk, decide_eq_true hk, Bool.false_or, Bool.true_and]
  · exact .inl ⟨hx, hm.standsAt hx h⟩

/-- What a thread is told that asks several handles: all the results in the order of the handles,
    or that it has misused them if they were not its own. -/
inductive Gathers (s : State B V) (ks : List TaskId) (owns : Prop) : Reply V → Prop where
  | results {rs} (h : List.Forall₂ (fun k r => s.result? k = some r) ks rs) :
      Gathers s ks owns (.results rs)
  | misused (h : ¬ owns) : Gathers s ks owns (.panicked .spentHandle)

/-- **A thread that asks several handles** still waits for some of them, or was told what
    there was to be told. -/
theorem steps_joining (hr : s.Reachable) (h : s.StandsAt t (.joinAll (ks.map .waiting)) rest)
    (has : s.steps as = some s') :
    (∃ slots, s'.StandsAt t (.joinAll slots) rest ∧ List.Forall₂ (Slot.Serves s') ks slots ∧
        (waitedFor slots).length + actionsOf t as ≤ ks.length) ∨
      ∃ bs s'' q, bs <+: as ∧ s.steps bs = some s'' ∧ s''.HasAnswer t rest q ∧
        Gathers s'' ks (s.HasToItself t ks as) q ∧ actionsOf t bs ≤ ks.length + 1 := by
  have hall := steps_answer (t := t)
    (P := fun _ s' slots => s'.StandsAt t (.joinAll slots) rest ∧
      List.Forall₂ (Slot.Serves s') ks slots ∧
      (s.HasToItself t ks as → ∀ k ∈ waitedFor slots, s'.isSpent k = false))
    (Q := fun _ s' => ∃ q, s'.HasAnswer t rest q ∧ Gathers s' ks (s.HasToItself t ks as) q)
    (fun slots => (waitedFor slots).length + 1) (p := ks.map .waiting)
    ⟨h, serves_waiting ks, by rw [waitedFor_map_waiting]; exact State.HasToItself.fresh⟩ has ?_
  · rw [waitedFor_map_waiting] at hall
    rcases hall with ⟨slots, ⟨h', hserves, -⟩, hle⟩ | ⟨bs, s'', hbs, hsteps, ⟨q, hq, hall⟩, hle⟩
    · exact .inl ⟨slots, h', hserves, by omega⟩
    · exact .inr ⟨bs, s'', q, hbs, hsteps, hq, hall, hle⟩
  · rintro bs x s₁ s₂ slots hbs hsteps hm ⟨h, hserves, hfresh⟩
    have hr₁ := hr.run hsteps
    have hsub := waitedFor_sublist hserves
    have hstays {k : TaskId} (r : TaskResult V) (hk : s₁.result? k = some r) :
        s₂.result? k = some r := hr₁.result?_mono (steps_cons.2 ⟨s₂, hm, steps_nil s₂⟩) hk
    rcases hm.joining hr₁ h with
      ⟨hx, h'⟩ | ⟨hx, ⟨h', ⟨k, hk, r, hres⟩, hspent⟩ | ⟨rs, hq, rfl⟩ | ⟨hq, hmisused⟩⟩
    · refine .inl ⟨hx, h', hserves.imp fun _ _ hslot => hslot.mono hstays, fun howns k hk => ?_⟩
      have honly := (howns.left k (hsub.subset hk)).onlyAsker hbs hsteps
      rw [hm.isSpent_of_left hr₁ hx honly, hfresh howns k hk]
    · refine .inr ⟨hx, Nat.succ_pos _, .inl ⟨slots.map (Slot.polled s₁), ?_, h', ?_, ?_⟩⟩
      · rw [waitedFor_polled]
        refine Nat.succ_lt_succ (List.length_filter_lt_length_iff_exists.2 ⟨k, hk, ?_⟩)
        rw [hres]
        nofun
      · exact List.forall₂_map_right_iff.2 (hserves.imp fun _ _ hslot => hslot.polled.mono hstays)
      · intro _ j hj
        rw [waitedFor_polled, List.mem_filter, Option.isNone_iff_eq_none] at hj
        rw [hspent j hj.1, hj.2]
        rfl
    · refine .inr ⟨hx, Nat.succ_pos _, .inr ⟨_, hq, .results ?_⟩⟩
      refine (List.forall₂_map_right_iff.1 hserves).imp fun k r hslot => ?_
      cases hslot with
      | got hres => exact hstays r hres
    · refine .inr ⟨hx, Nat.succ_pos _, .inr ⟨_, hq, .misused fun howns => ?_⟩⟩
      exact hmisused ⟨hsub.nodup howns.nodup, hfresh howns⟩

end

/-! ## Agreement -/

/-- What is promised of the handles in state `s`, to which a run `as` from `s₀` has led. -/
structure Agreement (s₀ : State B V) (as : List (Action B V)) (s : State B V) : Prop where
  /-- a result is the one fate of its task, and is there for ever -/
  fate : ∀ k r, s.result? k = some r → (∀ r', Fate k (s₀.chronicle as) r' ↔ r' = r) ∧
    ∀ bs s', s.steps bs = some s' → s'.result? k = some r
  /-- before there is a result, to ask for it without waiting changes nothing, and a wait
      goes on -/
  early : ∀ t k how, s.top? t = some (.receive k how) → s.isSpent k = false →
    s.result? k = none → ∀ c, s.run t c =
      if how = .once ∨ how = .poll then some (State.settleTurn t ⟨s, [], some .pending⟩) else none
  /-- a handle that has not delivered gives its result at once, and the same one in whatever way
      it is asked -/
  alike : ∀ t k how r, s.top? t = some (.receive k how) → s.isSpent k = false →
    s.result? k = some r → ∀ c,
      s.run t c = some (State.settleTurn t ⟨s.spend k, [], some (.result r)⟩)
  /-- a wait can expire exactly as long as there is no result, and the one who waits is told
      so: nothing else in the pool changes, the task included -/
  expires : ∀ t k, s.top? t = some (.receive k .deadline) → s.isSpent k = false →
    ((∃ s', s.step (.expire t) = some s') ↔ s.result? k = none) ∧
    ∀ s', s.step (.expire t) = some s' →
      s' = State.settleTurn t ⟨s, [], some (.result (.error .timedOut))⟩ ∧
      { s' with threads := s.threads } = s ∧ ∀ u ≠ t, s'.threads[u]? = s.threads[u]?
  /-- a thread that asks a handle of its own is still there, and can go on if it does not
      wait or there is a result, or it was told what there was to be told -/
  alone : ∀ t k how s₁, s.isSpent k = false → s.step (.call t (.receive k how)) = some s₁ →
    ∃ rest, s₁.StandsAt t (.receive k how) rest ∧ ∀ bs s', s₁.IsLeftTo t k bs →
      s₁.steps bs = some s' →
        s'.StandsAt t (.receive k how) rest ∧ actionsOf t bs = 0 ∧
          (∀ c, (∃ s'', s'.run t c = some s'') ↔
            how = .once ∨ how = .poll ∨ ∃ r, s'.result? k = some r) ∨
        ∃ cs s'' q, cs <+: bs ∧ s₁.steps cs = some s'' ∧ s''.HasAnswer t rest q ∧
          how.Hears s'' k q ∧ actionsOf t cs ≤ 1
  /-- a thread that asks several handles is still there, with the results that it has been given
      so far, and can go on once there are all of them; or there were all of them, and it
      was given them in the order of the handles, or the handles were not its own -/
  together : ∀ t ks s₁, s.step (.call t (.joinAll ks)) = some s₁ →
    ∃ rest, s₁.StandsAt t (.joinAll (ks.map .waiting)) rest ∧ ∀ bs s', s₁.steps bs = some s' →
      (∃ slots, s'.StandsAt t (.joinAll slots) rest ∧ List.Forall₂ (Slot.Serves s') ks slots ∧
        (waitedFor slots).length + actionsOf t bs ≤ ks.length ∧
        ((∀ k ∈ ks, ∃ r, s'.result? k = some r) → ∀ c, ∃ s'', s'.run t c = some s'')) ∨
      ∃ cs s'' q, cs <+: bs ∧ s₁.steps cs = some s'' ∧ s''.HasAnswer t rest q ∧
        Gathers s'' ks (s₁.HasToItself t ks bs) q ∧ actionsOf t cs ≤ ks.length + 1

section
variable {s s' s₁ : State B V} {t : ThreadId} {k : TaskId} {how : Asking} {slots : List (Slot V)}
  {rest : List (Activity V)}

/-- A wait can expire as long as there is no result. -/
theorem State.Reachable.expire_iff (hr : s.Reachable) (ht : s.top? t = some (.receive k .deadline))
    (hk : s.isSpent k = false) : s.step (.expire t) = some s' ↔ s.result? k = none ∧
      s' = State.settleTurn t ⟨s, [], some (.result (.error .timedOut))⟩ := by
  have hiff := isPending_iff (hr.asks_lt ht rfl)
  rw [hk, eq_self_iff_true, true_and] at hiff
  simp only [State.step, ht, Option.ite_none_right_eq_some, hiff, Option.some.injEq]
  exact and_congr_right fun _ => eq_comm

/-- Whoever asks a handle alone can go on if it does not wait or there is a result. -/
theorem State.StandsAt.receive_runs (h : s.StandsAt t (.receive k how) rest) (hr : s.Reachable)
    (hk : s.isSpent k = false) (c : Chance) : (∃ s', s.run t c = some s') ↔
      how = .once ∨ how = .poll ∨ ∃ r, s.result? k = some r := by
  cases hres : s.result? k with
  | none =>
    rw [hr.run_pending h.top? hk hres]
    cases how <;> simp
  | some r =>
    rw [hr.run_result h.top? hk hres]
    simp

/-- Whoever asks several handles can go on if there are all the results. -/
theorem State.StandsAt.joinAll_runs (h : s.StandsAt t (.joinAll slots) rest) (hr : s.Reachable)
    (hall : ∀ k ∈ waitedFor slots, ∃ r, s.result? k = some r) (c : Chance) :
    ∃ s', s.run t c = some s' := by
  rcases mapM_result?_cases slots with ⟨⟨rs, rfl⟩, -⟩ | ⟨hne, -⟩
  · exact ⟨_, hr.run_joinAll_got h.top? c⟩
  · have hwait : ¬ (waitedFor slots).all s.isPending = true := fun hpending => by
      obtain ⟨k, hk⟩ := List.exists_mem_of_ne_nil _ hne
      obtain ⟨r, hres⟩ := hall k hk
      have hnone := (all_isPending_iff fun j hj => hr.asks_lt h.top? hj).1 hpending k hk
      rw [hres] at hnone
      exact nomatch hnone.2
    rw [hr.run_joinAll h.top? hne, if_neg hwait]
    cases s.pollSlots slots <;> exact ⟨_, rfl⟩

end

/-- **All ways to ask a handle agree**, in every state of every run and whatever the fate of
    the task is: as long as there is no result, none is given; when there is one, whoever
    asks first is given it, alone or in its place among others; and a wait that expires
    leaves all as it was. -/
theorem State.Founded.agreement {s₀ s : State B V} {as : List (Action B V)} (h₀ : s₀.Founded)
    (has : s₀.steps as = some s) : Agreement s₀ as s := by
  have hr : s.Reachable := (Reachable.of_founded h₀).run has
  refine ⟨fun k r hres => ⟨fun r' => h₀.fate_iff_result? has hres, fun bs s' hbs =>
      hr.result?_mono hbs hres⟩, fun t k how ht hk hres => hr.run_pending ht hk hres,
    fun t k how r ht hk hres => hr.run_result ht hk hres, fun t k ht hk => ⟨?_, fun s' hs' => ?_⟩,
    fun t k how s₁ hk hcall => ?_, fun t ks s₁ hcall => ?_⟩
  · exact ⟨fun ⟨s', hs'⟩ => ((hr.expire_iff ht hk).1 hs').1,
      fun hnone => ⟨_, (hr.expire_iff ht hk).2 ⟨hnone, rfl⟩⟩⟩
  · obtain ⟨-, rfl⟩ := (hr.expire_iff ht hk).1 hs'
    exact ⟨rfl, rfl, fun u hu => threads_settleTurn_of_ne hu⟩
  · have hm : Move s (.call t (.receive k how)) s₁ := step_iff.1 hcall
    have hr₁ := hr.next hm
    obtain ⟨rest, hbegun, hk⟩ : ∃ rest, s₁.StandsAt t (.receive k how) rest ∧
        s₁.isSpent k = false := by
      cases hm with
      | call ht hf hl ho =>
        cases ho
        exact ⟨_, ⟨_, getElem?_modifyThread_self ht, rfl⟩, hk⟩
    refine ⟨rest, hbegun, fun bs s' hleft hbs => ?_⟩
    refine (steps_receiving hr₁ hbegun hk hleft hbs).imp_left fun ⟨h, hk, hzero⟩ => ?_
    exact ⟨h, hzero, h.receive_runs (hr₁.run hbs) hk⟩
  · have hm : Move s (.call t (.joinAll ks)) s₁ := step_iff.1 hcall
    have hr₁ := hr.next hm
    obtain ⟨rest, hbegun⟩ : ∃ rest, s₁.StandsAt t (.joinAll (ks.map .waiting)) rest := by
      cases hm with
      | call ht hf hl ho =>
        cases ho
        exact ⟨_, _, getElem?_modifyThread_self ht, rfl⟩
    refine ⟨rest, hbegun, fun bs s' hbs => (steps_joining hr₁ hbegun hbs).imp_left ?_⟩
    rintro ⟨slots, h, hserves, hle⟩
    refine ⟨slots, h, hserves, hle, fun hall => h.joinAll_runs (hr₁.run hbs) fun k hk => ?_⟩
    exact hall k ((waitedFor_sublist hserves).subset hk)

/-- A run up to two tasks in the backlog of a pool with one worker. -/
def gatheringRun : List (Action Unit Nat) :=
  [paces 0 5, [.call 0 (.submit ())], paces 0 3, [.call 0 (.submit ())], paces 0 3].flatten

/-- The two tasks are run one after the other, while a thread waits for both handles. -/
def resolvingRun : List (Action Unit Nat) :=
  [paces 1 3, [.finish 1 (.returned 5)], paces 1 2, paces 0 1, paces 1 4,
    [.finish 1 (.returned 7)], paces 1 2, paces 0 2].flatten

theorem agreement_gatheringRun : ∃ s s₁ s' : State Unit Nat,
    (State.founding "pool" false none 1 1).steps gatheringRun = some s ∧
    Agreement (State.founding "pool" false none 1 1) gatheringRun s ∧
    s.step (.call 0 (.joinAll [1, 0])) = some s₁ ∧
    s₁.HasToItself 0 [1, 0] resolvingRun ∧ s₁.steps resolvingRun = some s' ∧
    s'.threads[0]?.bind Thread.reply = some (.results [.ok 7, .ok 5]) := by
  have hrun : ((State.founding "pool" false none 1 1).steps gatheringRun).isSome = true := rfl
  obtain ⟨s, hs⟩ := Option.isSome_iff_exists.1 hrun
  have hcall : (s.step (.call 0 (.joinAll [1, 0]))).isSome = true := by cases hs; rfl
  obtain ⟨s₁, hs₁⟩ := Option.isSome_iff_exists.1 hcall
  have hrun' : (s₁.steps resolvingRun).isSome = true := by cases hs; cases hs₁; rfl
  obtain ⟨s', hs'⟩ := Option.isSome_iff_exists.1 hrun'
  have h₀ : (State.founding "pool" false none 1 1 : State Unit Nat).Founded :=
    State.founded_founding
  have hr₁ : s₁.Reachable := ((State.Reachable.of_founded h₀).run hs).next (step_iff.1 hs₁)
  have hreply : s'.threads[0]?.bind Thread.reply = some (.results [.ok 7, .ok 5]) := by
    cases hs; cases hs₁; cases hs'
    rfl
  have honly (k : TaskId) : s₁.OnlyAsker 0 k := by
    cases hs; cases hs₁
    rintro (_ | _ | u) w hu hw a ha hk
    · exact hu rfl
    · cases hw
      cases List.mem_singleton.1 ha
      cases hk
    · cases hw
  have hfresh : ∀ k ∈ [1, 0], s₁.isSpent k = false := by
    cases hs; cases hs₁
    decide
  have hleft (k : TaskId) : s₁.IsLeftTo 0 k resolvingRun :=
    hr₁.isLeftTo (honly k) (by simp [resolvingRun, paces])
  exact ⟨s, s₁, s', hs, h₀.agreement hs, hs₁, ⟨by decide, hfresh, fun k _ => hleft k⟩, hs', hreply⟩

end WorkerPool
