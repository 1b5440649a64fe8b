/-
  Calls on their way.

  * `State.StandsAt` and `State.HasAnswer` say where a thread is in a call, and that
    the call has returned; others change neither;
  * `Move.own_step`: in the middle of a call, a thread does nothing but the next step of
    it;
  * `steps_answer`: a call each of whose steps leads on, or to its answer, comes to its
    answer in a bounded number of steps, whatever others do.
-/
import WorkerPool.Proofs.Closing

namespace WorkerPool

variable {B V : Type}

namespace State

/-- Thread `t` is at this activity, on top of what it was in the middle of before. -/
def StandsAt (s : State B V) (t : ThreadId) (a : Activity V) (rest : List (Activity V)) : Prop :=
  ∃ th, s.threads[t]? = some th ∧ th.stack = a :: rest

/-- Thread `t` has its answer, and is back at what it was in the middle of. -/
def HasAnswer (s : State B V) (t : ThreadId) (rest : List (Activity V)) (r : Reply V) : Prop :=
  ∃ th, s.threads[t]? = some th ∧ th.stack = rest ∧ th.reply = some r

/-- Thread `t` is back at what it was in the middle of. -/
def IsBack (s : State B V) (t : ThreadId) (rest : List (Activity V)) : Prop :=
  ∃ th, s.threads[t]? = some th ∧ th.stack = rest

end State

/-- Whether a thread at this activity does nothing but take its next step. -/
def Activity.isDriven : Activity V → Bool
  | work .hook | task _ _ .body | receive _ .deadline => false
  | _ => true

/-- How many actions of a run are those of a thread. -/
def actionsOf (t : ThreadId) (as : List (Action B V)) : Nat :=
  as.countP fun x => decide (x.actor? = some t)

section
variable {s s' : State B V} {t : ThreadId} {th : Thread V} {c : Chance} {x : Action B V}
  {a : Activity V} {turn : Turn B V} {rest : List (Activity V)} {r : Reply V}
  {as : List (Action B V)}

theorem State.StandsAt.top? (h : s.StandsAt t a rest) : s.top? t = some a := by
  obtain ⟨th, ht, hs⟩ := h
  exact top?_eq_some_iff.2 ⟨th, rest, ht, hs⟩

/-- What a thread stands at is on top of its stack. -/
theorem State.StandsAt.eq_top {b : Activity V} {below : List (Activity V)}
    (h : s.StandsAt t a rest) (ht : s.threads[t]? = some th) (hs : th.stack = b :: below) :
    b = a ∧ below = rest := by
  obtain ⟨w, hw, hst⟩ := h
  cases ht.symm.trans hw
  exact List.cons.inj (hs.symm.trans hst)

/-- A thread has one answer. -/
theorem State.HasAnswer.eq {below : List (Activity V)} {q : Reply V} (h : s.HasAnswer t rest r)
    (h' : s.HasAnswer t below q) : r = q := by
  obtain ⟨w, hw, -, hr⟩ := h
  obtain ⟨w', hw', -, hq⟩ := h'
  cases hw.symm.trans hw'
  exact Option.some.inj (hr.symm.trans hq)

theorem State.HasAnswer.isBack (h : s.HasAnswer t rest r) : s.IsBack t rest := by
  obtain ⟨th, ht, hs, -⟩ := h
  exact ⟨th, ht, hs⟩

theorem State.IsBack.not_standsAt (h : s.IsBack t rest) : ¬ s.StandsAt t a rest := by
  rintro ⟨w, hw, hst⟩
  obtain ⟨th, ht, hs⟩ := h
  exact returned_ne ht hs hw hst

/-- Others leave a thread where it is. -/
theorem Move.standsAt (hm : Move s x s') (hx : x.actor? ≠ some t) (h : s.StandsAt t a rest) :
    s'.StandsAt t a rest := by
  obtain ⟨th, ht, hs⟩ := h
  obtain ⟨w, hw, hsame⟩ := hm.same hx ht
  exact ⟨w, hw, hsame.stack.trans hs⟩

/-- In the middle of a call, a thread does nothing but the next step of it. -/
theorem Move.own_step (hm : Move s x s') (hx : x.actor? = some t) (ht : s.threads[t]? = some th)
    (hs : th.stack = a :: rest) (ha : a.isDriven = true) :
    ∃ c turn, x = .run t c ∧ Deed s t th c a turn ∧ s' = State.settleTurn t turn := by
  cases hm with
  | arrive | rouse | tick => cases hx
  | call ht' hf =>
    cases hx
    cases ht.symm.trans ht'
    simp only [Thread.isFree, hs] at hf
    split at hf <;> simp_all [Activity.isDriven]
  | finish ht' hs' | hook ht' hs' | hookPanic ht' hs' | expire ht' hs' =>
    cases hx
    cases ht.symm.trans ht'
    cases hs.symm.trans hs'
    cases ha
  | run _ ht' hs' hd =>
    cases hx
    cases ht.symm.trans ht'
    cases hs.symm.trans hs'
    exact ⟨_, _, rfl, hd, rfl⟩

theorem standsAt_settleTurn {b : Activity V} (ht : turn.state.threads[t]? = some th)
    (hs : th.stack = a :: rest) (hn : turn.next = [b]) :
    (State.settleTurn t turn).StandsAt t b rest :=
  ⟨_, getElem?_modifyThread_self ht, by rw [hn, hs]; rfl⟩

theorem hasAnswer_settleTurn (ht : turn.state.threads[t]? = some th) (hs : th.stack = a :: rest)
    (hn : turn.next = []) (hr : turn.reply = some r) :
    (State.settleTurn t turn).HasAnswer t rest r :=
  ⟨_, getElem?_modifyThread_self ht, by rw [hn, hs]; rfl, by rw [hr]; rfl⟩

/-- The step of a thread has led it on. -/
theorem Deed.standsAt (hd : Deed s t th c a turn) (ht : s.threads[t]? = some th)
    (hs : th.stack = a :: rest) {b : Activity V} (hn : turn.next = [b]) :
    (State.settleTurn t turn).StandsAt t b rest := by
  obtain ⟨w, hw, hsame⟩ := hd.same ht
  exact standsAt_settleTurn hw (hsame.stack.trans hs) hn

/-- The step of a thread has been the last of its call. -/
theorem Deed.hasAnswer (hd : Deed s t th c a turn) (ht : s.threads[t]? = some th)
    (hs : th.stack = a :: rest) (hn : turn.next = []) (hr : turn.reply = some r) :
    (State.settleTurn t turn).HasAnswer t rest r := by
  obtain ⟨w, hw, hsame⟩ := hd.same ht
  exact hasAnswer_settleTurn hw (hsame.stack.trans hs) hn hr

theorem actionsOf_concat (hx : x.actor? = some t) :
    actionsOf t (as ++ [x]) = actionsOf t as + 1 := by
  simp [actionsOf, hx]

theorem actionsOf_concat_of_ne (hx : x.actor? ≠ some t) :
    actionsOf t (as ++ [x]) = actionsOf t as := by
  simp [actionsOf, hx]

/-- **A call comes to its answer.**  Let `P cs s p` say that after the actions `cs` of a run
    it is at stage `p` in state `s`, and `Q cs s` that it has just been answered.  If others
    leave it at its stage, and each step of its own leads to a later one or to the answer,
    then it is at some stage, or there was an answer; and so far it has taken no more
    steps than its first stage allows. -/
theorem steps_answer {α : Type} {P : List (Action B V) → State B V → α → Prop}
    {Q : List (Action B V) → State B V → Prop} (left : α → Nat) {p : α} (h : P [] s p)
    (has : s.steps as = some s')
    (move : ∀ cs x s₁ s₂ p, cs ++ [x] <+: as → s.steps cs = some s₁ → Move s₁ x s₂ → P cs s₁ p →
      x.actor? ≠ some t ∧ P (cs ++ [x]) s₂ p ∨
        x.actor? = some t ∧ 0 < left p ∧
          ((∃ p', left p' < left p ∧ P (cs ++ [x]) s₂ p') ∨ Q (cs ++ [x]) s₂)) :
    (∃ p', P as s' p' ∧ left p' + actionsOf t as ≤ left p) ∨
      ∃ cs s₁, cs <+: as ∧ s.steps cs = some s₁ ∧ Q cs s₁ ∧ actionsOf t cs ≤ left p := by
  induction as using List.reverseRecOn generalizing s' with
  | nil =>
    cases has
    exact .inl ⟨p, h, Nat.le_refl _⟩
  | append_singleton as x ih =>
    obtain ⟨s₁, has₁, hm⟩ := steps_concat.1 has
    have hall := ih has₁ fun cs y _ _ _ hcs => move cs y _ _ _ (hcs.trans (List.prefix_append ..))
    rcases hall with ⟨p', hp', hle⟩ | ⟨cs, s₂, hcs, hsteps, hq, hle⟩
    · rcases move as x s₁ s' p' (List.prefix_refl _) has₁ hm hp' with
        ⟨hx, hp⟩ | ⟨hx, hpos, ⟨p₂, hlt, hp⟩ | hq⟩
      · exact .inl ⟨p', hp, by rwa [actionsOf_concat_of_ne hx]⟩
      · exact .inl ⟨p₂, hp, by rw [actionsOf_concat hx]; omega⟩
      · exact .inr ⟨_, s', List.prefix_refl _, has, hq, by rw [actionsOf_concat hx]; omega⟩
    · exact .inr ⟨cs, s₂, hcs.trans (List.prefix_append ..), hsteps, hq, hle⟩

end

end WorkerPool
