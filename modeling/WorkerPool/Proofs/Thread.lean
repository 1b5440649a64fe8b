/-
  What an action does to one thread.

  * `Move.same`: an action moves only the thread that takes it; what another
    thread is in the middle of stays, and only its badge can change;
  * `Follows` says what can take the place of an innermost activity, and
    `Thread.Next` all that can happen to one thread;
  * `Move.thread`: nothing else happens to a thread;
  * `Move.isTold_iff`: who is told to leave, and by whom.
-/
import WorkerPool.Proofs.Tally

namespace WorkerPool

variable {B V : Type}

/-! ## The other threads -/

/-- The thread that takes an action. -/
def Action.actor? : Action B V → Option ThreadId
  | call t _ | finish t _ | hook t _ | run t _ | expire t => some t
  | arrive | rouse _ | tick _ => none

section
variable {s s' : State B V} {t u : ThreadId} {w : Thread V}

theorem same_modify {ths : List (Thread V)} {g : Thread V → Thread V} (hu : t ≠ u)
    (hw : ths[u]? = some w) : (ths.modify t g)[u]? = some w := by
  rw [List.getElem?_modify, hw]
  simp [hu]

/-- **An action moves only the thread that takes it**; another one can only be
    told to leave. -/
theorem Move.same {a : Action B V} (hm : Move s a s') (hu : a.actor? ≠ some u)
    (hw : s.threads[u]? = some w) : ∃ w', s'.threads[u]? = some w' ∧ w.Same w' := by
  have hlt := (List.getElem?_eq_some_iff.1 hw).1
  have hself : w.Same w := ⟨rfl, rfl, rfl, rfl⟩
  cases hm with
  | arrive => exact ⟨w, by rw [List.getElem?_append_left hlt, hw], hself⟩
  | call ht hf hl ho =>
    have hne := fun h => hu (congrArg some h)
    exact ⟨w, same_modify hne (by rw [ho.threads, hw]), hself⟩
  | finish | hook => exact ⟨w, same_modify (fun h => hu (congrArg some h)) hw, hself⟩
  | hookPanic =>
    have hne := fun h => hu (congrArg some h)
    exact ⟨w, same_modify hne (same_modify hne hw), hself⟩
  | run hw' ht hs hd =>
    obtain ⟨w', hw', hsame⟩ := hd.same hw
    exact ⟨w', same_modify (fun h => hu (congrArg some h)) hw', hsame⟩
  | expire => exact ⟨w, same_modify (fun h => hu (congrArg some h)) hw, hself⟩
  | rouse | tick => exact ⟨w, hw, hself⟩

/-- Whoever takes an action is there. -/
theorem Move.exists_actor {a : Action B V} (hm : Move s a s') (hu : a.actor? = some u) :
    ∃ w, s.threads[u]? = some w := by
  cases hm with
  | arrive | rouse | tick => cases hu
  | call ht | finish ht | hook ht | hookPanic ht | run _ ht | expire ht =>
    cases hu
    exact ⟨_, ht⟩

theorem Move.top? {a : Action B V} {x : Activity V} (hm : Move s a s') (hu : a.actor? ≠ some u)
    (hx : s.top? u = some x) : s'.top? u = some x := by
  obtain ⟨w, rest, hw, hs⟩ := top?_eq_some_iff.1 hx
  obtain ⟨w', hw', hsame⟩ := hm.same hu hw
  exact top?_eq_some_iff.2 ⟨w', rest, hw', hsame.stack.trans hs⟩

end

/-! ## One thread -/

/-- A thread in state `s` that stands in the table as `w` can go from activity
    `x` to the activities `next`. -/
inductive Follows (s : State B V) (w : Thread V) : Activity V → List (Activity V) → Prop where
  | run {t c x turn} (hd : Deed s t w c x turn) : Follows s w x turn.next
  | finish {k i o} : Follows s w (.task k i .body) [.task k i (.tally o)]
  | hook : Follows s w (.work .hook) [.work .fetch]
  | hookPanic : Follows s w (.work .hook) [.work .leave]
  | expire {k} : Follows s w (.receive k .deadline) []

/-- All that an action can make of one thread, or of none. -/
inductive Thread.Next (s : State B V) : Option (Thread V) → Thread V → Prop where
  | same {w w'} (h : w.Same w') : Next s (some w) w'
  | outside : Next s none .outside
  | worker (i : Nat) : Next s none (.worker i s.hooked)
  | call {w w' cl s₁ next} (hf : w.isFree = true) (hl : cl.usesPool = true → s.life = .serving)
      (ho : Opening s cl s₁ next) (hs : w'.stack = next ++ w.stack) (hb : w'.badge = w.badge) :
      Next s (some w) w'
  | step {w w' x rest next} (hx : w.stack = x :: rest) (hn : Follows s w x next)
      (hs : w'.stack = next ++ rest) (hb : w'.badge.isSome = w.badge.isSome) : Next s (some w) w'

theorem getElem?_modify_cases {ths : List (Thread V)} {g : Thread V → Thread V} {t u : ThreadId}
    {w' : Thread V} (h : (ths.modify t g)[u]? = some w') :
    (t ≠ u ∧ ths[u]? = some w') ∨ ∃ w, t = u ∧ ths[u]? = some w ∧ w' = g w := by
  rw [List.getElem?_modify] at h
  by_cases hu : t = u
  · simp only [hu, if_true, Option.map_eq_map, Option.map_eq_some_iff] at h
    obtain ⟨w, hw, rfl⟩ := h
    exact .inr ⟨w, hu, hw, rfl⟩
  · simp only [if_neg hu, Option.map_eq_map, Option.map_id'] at h
    exact .inl ⟨hu, h⟩

theorem concat_cases {α : Type} {l : List α} {x y : α} {i : Nat} (h : (l ++ [x])[i]? = some y) :
    l[i]? = some y ∨ i = l.length ∧ y = x := by
  by_cases hi : i < l.length
  · exact .inl (by rwa [List.getElem?_append_left hi] at h)
  · have hlt := (List.getElem?_eq_some_iff.1 h).1
    simp only [List.length_append, List.length_singleton] at hlt
    obtain rfl : i = l.length := by omega
    simp only [List.getElem?_concat_length, Option.some.injEq] at h
    exact .inr ⟨rfl, h.symm⟩

theorem getElem?_concat_cases {ths : List (Thread V)} {w w' : Thread V} {u : ThreadId}
    (h : (ths ++ [w])[u]? = some w') : ths[u]? = some w' ∨ ths[u]? = none ∧ w' = w := by
  refine (concat_cases h).imp_right fun ⟨hu, hw⟩ => ⟨?_, hw⟩
  rw [hu, List.getElem?_eq_none (Nat.le_refl _)]

section
variable {s s' : State B V} {u : ThreadId} {w' : Thread V}

theorem Deed.thread {t : ThreadId} {th : Thread V} {c : Chance} {x : Activity V}
    {turn : Turn B V} (hd : Deed s t th c x turn) (hw : turn.state.threads[u]? = some w') :
    (∃ w, s.threads[u]? = some w ∧ w.Same w') ∨
      s.threads[u]? = none ∧ ∃ i, w' = .worker i s.hooked := by
  obtain h | ⟨v, g, h⟩ | ⟨_, i, _, -, h⟩ := hd.threads
  · exact .inl ⟨w', h ▸ hw, rfl, rfl, rfl, rfl⟩
  · rw [h] at hw
    rcases getElem?_modify_cases hw with ⟨-, h⟩ | ⟨w, -, h, rfl⟩
    · exact .inl ⟨w', h, rfl, rfl, rfl, rfl⟩
    · exact .inl ⟨w, h, rfl, rfl, rfl, Option.isSome_map⟩
  · rw [h] at hw
    rcases getElem?_concat_cases hw with hw | ⟨hn, rfl⟩
    · exact .inl ⟨w', hw, rfl, rfl, rfl, rfl⟩
    · exact .inr ⟨hn, i, rfl⟩

/-- **All that can happen to one thread in an action.** -/
theorem Move.thread {a : Action B V} (hm : Move s a s') (hw : s'.threads[u]? = some w') :
    Thread.Next s s.threads[u]? w' := by
  have keep {w : Thread V} (h : s.threads[u]? = some w) : Thread.Next s s.threads[u]? w := by
    rw [h]; exact .same ⟨rfl, rfl, rfl, rfl⟩
  cases hm with
  | arrive =>
    rcases getElem?_concat_cases hw with hw | ⟨hn, rfl⟩
    · exact keep hw
    · rw [hn]; exact .outside
  | call ht hf hl ho =>
    rcases getElem?_modify_cases hw with ⟨-, h⟩ | ⟨w, rfl, h, rfl⟩
    · exact keep (ho.threads ▸ h)
    · rw [ho.threads, ht] at h
      cases h
      rw [ht]
      exact .call hf hl ho rfl rfl
  | @finish _ o _ _ _ _ ht hs =>
    rcases getElem?_modify_cases hw with ⟨-, h⟩ | ⟨w, rfl, h, rfl⟩
    · exact keep h
    · cases ht.symm.trans h
      rw [ht]
      exact .step hs (.finish (o := o)) (by simp [hs]) rfl
  | hook ht hs =>
    rcases getElem?_modify_cases hw with ⟨-, h⟩ | ⟨w, rfl, h, rfl⟩
    · exact keep h
    · cases ht.symm.trans h
      rw [ht]
      exact .step hs .hook (by simp [hs]) rfl
  | hookPanic ht hs =>
    rcases getElem?_modify_cases hw with ⟨hne, h⟩ | ⟨w, rfl, h, rfl⟩
    · rcases getElem?_modify_cases h with ⟨-, h⟩ | ⟨w, rfl, h, rfl⟩
      exacts [keep h, absurd rfl hne]
    · rcases getElem?_modify_cases h with ⟨hne, -⟩ | ⟨w, -, h', rfl⟩
      · exact absurd rfl hne
      · cases ht.symm.trans h'
        rw [ht]
        exact .step hs .hookPanic (by simp [hs]) rfl
  | run _ ht hs hd =>
    rcases getElem?_modify_cases hw with ⟨-, h⟩ | ⟨w, rfl, h, rfl⟩
    · rcases hd.thread h with ⟨w, hw, hsame⟩ | ⟨hn, i, rfl⟩
      · rw [hw]; exact .same hsame
      · rw [hn]; exact .worker i
    · rcases hd.thread h with ⟨w₀, hw₀, hsame⟩ | ⟨hn, -⟩
      · cases ht.symm.trans hw₀
        rw [ht]
        exact .step hs (.run hd) (by simp [hsame.stack, hs]) hsame.worker
      · rw [ht] at hn; cases hn
  | expire ht hs =>
    rcases getElem?_modify_cases hw with ⟨-, h⟩ | ⟨w, rfl, h, rfl⟩
    · exact keep h
    · cases ht.symm.trans h
      rw [ht]
      exact .step hs .expire (by simp [hs]) rfl
  | rouse | tick => exact keep hw

end

/-! ## Orders to leave -/

/-- A worker that was told to leave. -/
def State.IsTold (s : State B V) (t : ThreadId) : Prop :=
  ∃ b, s.badge? t = some b ∧ b.told = true

/-- Someone is about to tell a worker to leave. -/
def Activity.Tells (u : ThreadId) : Activity V → Prop
  | resize _ (.tell (v :: _) _) | stop _ (.tell (v :: _)) => v = u
  | _ => False

section
variable {s s' : State B V} {t u : ThreadId} {th : Thread V} {c : Chance} {a : Activity V}
  {turn : Turn B V}

theorem badge?_eq (s : State B V) (t : ThreadId) :
    s.badge? t = s.threads[t]?.bind Thread.badge := by
  cases ht : s.threads[t]? <;> simp [State.badge?, ht]

theorem badge?_modifyThread {f : Thread V → Thread V} (hf : ∀ w, (f w).badge = w.badge) :
    (s.modifyThread t f).badge? u = s.badge? u := by
  simp only [badge?_eq, State.modifyThread, List.getElem?_modify]
  by_cases hu : t = u <;> cases s.threads[u]? <;> simp [hu, hf]

@[simp] theorem badge?_settleTurn : (State.settleTurn t turn).badge? u = turn.state.badge? u :=
  badge?_modifyThread fun _ => rfl

theorem badge?_modifyBadge {f : Badge → Badge} :
    (s.modifyBadge t f).badge? u = if t = u then (s.badge? u).map f else s.badge? u := by
  simp only [badge?_eq, State.modifyBadge, State.modifyThread, List.getElem?_modify]
  by_cases hu : t = u <;> cases s.threads[u]? <;> simp [hu]

theorem isTold_tell : (s.tell t).IsTold u ↔ s.IsTold u ∨ t = u ∧ (s.badge? u).isSome = true := by
  simp only [State.IsTold, State.tell, badge?_modifyBadge]
  by_cases hu : t = u <;> cases s.badge? u <;> simp [hu]

theorem isTold_markIdle {i : Bool} : (s.markIdle t i).IsTold u ↔ s.IsTold u := by
  simp only [State.IsTold, State.markIdle, badge?_modifyBadge]
  by_cases hu : t = u <;> cases s.badge? u <;> simp [hu]

theorem isTold_congr (h : s'.threads = s.threads) : s'.IsTold u ↔ s.IsTold u := by
  simp only [State.IsTold, badge?_eq, h]

theorem isTold_concat {w : Thread V} (h : s'.threads = s.threads ++ [w])
    (hw : ∀ b, w.badge = some b → b.told = false) : s'.IsTold u ↔ s.IsTold u := by
  simp only [State.IsTold, badge?_eq, h]
  by_cases hu : u < s.threads.length
  · rw [List.getElem?_append_left hu]
  · simp only [List.getElem?_eq_none (Nat.not_lt.1 hu), Option.bind_none, reduceCtorEq, false_and,
      exists_false, iff_false, not_exists, not_and, Bool.not_eq_true]
    intro b hb
    obtain ⟨w', hw', hb⟩ := Option.bind_eq_some_iff.1 hb
    rcases getElem?_concat_cases hw' with h | ⟨-, rfl⟩
    exacts [absurd (List.getElem?_eq_some_iff.1 h).1 hu, hw b ‹_›]

/-- **Only those who are told are told.** -/
theorem Deed.isTold_iff (hd : Deed s t th c a turn) :
    turn.state.IsTold u ↔ s.IsTold u ∨ a.Tells u ∧ (s.badge? u).isSome = true := by
  cases hd with
  | mark | unmark | unmarkNone => simp [isTold_markIdle, Activity.Tells]
  | resizeTell | stopTell => exact isTold_tell
  | spawn =>
    rw [isTold_concat rfl (by simp [Thread.worker])]
    simp [Activity.Tells]
  | clear hp | clearEnd hp | purge hp | purgeEnd hp | sweep hp | sweepEnd hp =>
    rw [isTold_congr hp.threads]
    simp [Activity.Tells]
  | _ =>
    simp only [Activity.Tells, false_and, or_false]
    first | done | exact isTold_congr rfl

theorem isTold_modifyThread {f : Thread V → Thread V} (hf : ∀ w, (f w).badge = w.badge) :
    (s.modifyThread t f).IsTold u ↔ s.IsTold u := by
  simp only [State.IsTold, badge?_modifyThread hf]

theorem isTold_settleTurn : (State.settleTurn t turn).IsTold u ↔ turn.state.IsTold u :=
  isTold_modifyThread fun _ => rfl

/-- **A worker is told by the one who is about to tell it**, in no other
    action. -/
theorem Move.isTold_iff {x : Action B V} (hm : Move s x s') :
    s'.IsTold u ↔ s.IsTold u ∨ ∃ t c a, x = .run t c ∧ s.top? t = some a ∧ a.Tells u ∧
      (s.badge? u).isSome = true := by
  cases hm with
  | arrive =>
    rw [isTold_concat rfl (by simp [Thread.outside])]
    simp
  | call ht hf hl ho =>
    refine (isTold_modifyThread ?_).trans ?_
    · exact fun _ => rfl
    · rw [isTold_congr ho.threads]; simp
  | run hw ht hs hd =>
    have htop := top?_eq_some_iff.2 ⟨_, _, ht, hs⟩
    rw [isTold_settleTurn, hd.isTold_iff]
    simp [htop]
  | hookPanic =>
    refine (isTold_modifyThread ?_).trans (isTold_settleTurn.trans ?_)
    · exact fun _ => rfl
    · simp
  | finish | hook | expire =>
    rw [isTold_settleTurn]
    simp
  | rouse | tick =>
    refine (isTold_congr (s := s) rfl).trans ?_
    simp

end

end WorkerPool
