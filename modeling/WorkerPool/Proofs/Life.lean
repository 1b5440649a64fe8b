/-
  The stages of a pool's life and the shares of its inside.

  * `State.Alive`: a pool is being built as long as someone builds it; whoever
    submits, takes out or clears has a pool that serves; whoever is about to
    tear it down has dropped it; and the shares that are out are at least as
    many as the workers and the pool that hold them;
  * `State.Reachable.alive`: this holds in every reachable state;
  * `State.Alive.one_lt_sharers`: a worker that leaves is not the last to hold
    a share while someone uses the pool.
-/
import WorkerPool.Proofs.Shape

namespace WorkerPool

variable {B V : Type}

/-! ## Weights -/

/-- One for a worker's loop. -/
def Activity.works : Activity V → Nat
  | work _ => 1
  | _ => 0

/-- One for the building of the pool. -/
def Activity.builds : Activity V → Nat
  | reserve _ | build _ => 1
  | _ => 0

/-- One for a call that is made on a serving pool only. -/
def Activity.serves : Activity V → Nat
  | submit .. | trySubmit .. | pop _ | clear _ | setCapacity .. | ask _ | measure .. => 1
  | _ => 0

/-- One for the share that the pool itself is about to give back. -/
def Activity.tearsDown : Activity V → Nat
  | teardown _ => 1
  | _ => 0

/-- How many shares the pool itself holds. -/
def State.ownShare (s : State B V) : Nat :=
  if s.life = .dropped then tally Activity.tearsDown s.threads else 1

/-- Who has to do with the pool at which stage of its life: whoever uses it finds it
    serving, and its inside is not given back under a worker. -/
structure State.Alive (s : State B V) : Prop where
  building : tally Activity.builds s.threads = if s.life = .building then 1 else 0
  serving : 0 < tally Activity.serves s.threads → s.life = .serving
  dropped : 0 < tally Activity.tearsDown s.threads → s.life = .dropped
  share : tally Activity.works s.threads + s.ownShare ≤ s.sharers

/-! ## Preservation -/

theorem inUse_eq_false {s : State B V} (h : s.inUse = false) {t : ThreadId} {th : Thread V}
    (ht : s.threads[t]? = some th) {a : Activity V} (ha : a ∈ th.stack) : a.usesPool = false := by
  simp only [State.inUse, List.any_eq_false, Bool.not_eq_true] at h
  exact h th (List.mem_of_getElem? ht) a ha

section
variable {s s' : State B V} {t : ThreadId} {th : Thread V} {c : Chance} {a : Activity V}
  {turn : Turn B V} {rest : List (Activity V)}

/-- A step that moves nobody between the stages and gives out as many shares
    as there are new workers. -/
theorem State.Alive.congr (h : s.Alive) (hl : s'.life = s.life)
    (hb : tally Activity.builds s'.threads = tally Activity.builds s.threads)
    (hv : tally Activity.serves s'.threads ≤ tally Activity.serves s.threads ∨ s.life = .serving)
    (hd : tally Activity.tearsDown s'.threads = tally Activity.tearsDown s.threads)
    (hw : tally Activity.works s'.threads + s.sharers ≤
      tally Activity.works s.threads + s'.sharers) : s'.Alive where
  building := by rw [hb, hl, h.building]
  serving hp := by
    rw [hl]
    rcases hv with hv | hv
    exacts [h.serving (Nat.lt_of_lt_of_le hp hv), hv]
  dropped hp := by rw [hl]; exact h.dropped (hd ▸ hp)
  share := by
    have := h.share
    simp only [State.ownShare] at this ⊢
    rw [hl, hd]
    omega

/-- The one who builds the pool is done: the pool serves, or is torn down by
    the same thread. -/
theorem State.Alive.built (h : s.Alive) (hs : s'.sharers = s.sharers)
    (hb : tally Activity.builds s'.threads + 1 = tally Activity.builds s.threads)
    (hv : tally Activity.serves s'.threads = tally Activity.serves s.threads)
    (hw : tally Activity.works s'.threads = tally Activity.works s.threads)
    (hl : s'.life = .serving ∧
        tally Activity.tearsDown s'.threads = tally Activity.tearsDown s.threads ∨
      s'.life = .dropped ∧
        tally Activity.tearsDown s'.threads = tally Activity.tearsDown s.threads + 1) :
    s'.Alive := by
  have hlife : s.life = .building := by
    have := h.building
    by_contra hne
    rw [if_neg hne] at this
    omega
  have hB := h.building
  rw [if_pos hlife] at hB
  have hV : tally Activity.serves s.threads = 0 := by
    by_contra hne
    have := h.serving (Nat.pos_of_ne_zero hne)
    rw [hlife] at this
    cases this
  have hD : tally Activity.tearsDown s.threads = 0 := by
    by_contra hne
    have := h.dropped (Nat.pos_of_ne_zero hne)
    rw [hlife] at this
    cases this
  have hW := h.share
  simp only [State.ownShare, hlife, reduceCtorEq, if_false] at hW
  rcases hl with ⟨hl, hd⟩ | ⟨hl, hd⟩ <;> refine ⟨?_, fun _ => ?_, fun _ => ?_, ?_⟩ <;>
    simp only [State.ownShare, hl, reduceCtorEq, if_false, if_true] at * <;> omega

/-- The pool gives back its own share. -/
theorem State.Alive.tornDown (h : s.Alive) (hl : s'.life = s.life)
    (hb : tally Activity.builds s'.threads = tally Activity.builds s.threads)
    (hv : tally Activity.serves s'.threads = tally Activity.serves s.threads)
    (hd : tally Activity.tearsDown s'.threads + 1 = tally Activity.tearsDown s.threads)
    (hw : tally Activity.works s'.threads = tally Activity.works s.threads)
    (hs : s.sharers ≤ s'.sharers + 1) : s'.Alive := by
  have hlife := h.dropped (by omega)
  have hW := h.share
  simp only [State.ownShare, hlife, if_true] at hW
  refine ⟨by rw [hb, hl, h.building], fun hp => ?_, fun _ => hl.trans hlife, ?_⟩
  · rw [hl]; exact h.serving (hv ▸ hp)
  · simp only [State.ownShare, hl, hlife, if_true]
    omega

theorem le_of_add {x y p q : Nat} (h : x + p = y + q) (hpq : q ≤ p) : x ≤ y := by omega

theorem add_le_add_of_add {x y p q m n : Nat} (h : x + p = y + q) (hpq : q + m ≤ p + n) :
    x + m ≤ y + n := by
  omega

theorem Deed.alive (hd : Deed s t th c a turn) (h : s.Alive) (ht : s.threads[t]? = some th)
    (hs : th.stack = a :: rest) : (State.settleTurn t turn).Alive := by
  have hB := hd.tally (f := Activity.builds) ht hs rfl rfl
  have hV := hd.tally (f := Activity.serves) ht hs rfl rfl
  have hD := hd.tally (f := Activity.tearsDown) ht hs rfl rfl
  obtain ⟨th', ht', hsame⟩ := hd.same ht
  have hW := tally_settleTurn (f := Activity.works) ht' (hsame.stack.trans hs)
  cases hd with
  | @spawn n i start =>
    have hnew : WorkerPool.tally Activity.works (s.spawn i).threads =
        WorkerPool.tally Activity.works s.threads + 1 := by
      simp only [State.spawn, tally_append, tally_singleton, Thread.tally, Thread.worker]
      rfl
    refine h.congr rfl hB (.inl (le_of_add hV (Nat.le_of_ble_eq_true rfl))) hD
      (add_le_add_of_add (p := 0) (Eq.trans hW hnew) ?_)
    show 1 + s.sharers ≤ 0 + (s.sharers + 1)
    omega
  | leave _ hs =>
    refine h.congr rfl hB (.inl (le_of_add hV (Nat.le_of_ble_eq_true rfl))) hD
      (add_le_add_of_add hW ?_)
    show 0 + s.sharers ≤ 1 + (s.sharers - 1)
    omega
  | leaveLast _ hs =>
    exact h.congr rfl hB (.inl (le_of_add hV (Nat.le_of_ble_eq_true rfl))) hD
      (add_le_add_of_add hW (show 0 + s.sharers ≤ 1 + 0 by omega))
  | teardown hs =>
    exact h.tornDown rfl hB hV hD hW (show s.sharers ≤ (s.sharers - 1) + 1 by omega)
  | teardownLast hs => exact h.tornDown rfl hB hV hD hW (show s.sharers ≤ 0 + 1 by omega)
  | reserve =>
    exact h.congr rfl (Nat.add_right_cancel hB) (.inl (le_of_add hV (Nat.le_of_ble_eq_true rfl))) hD
      (add_le_add_of_add hW (Nat.le_refl _))
  | reserveOverflow | buildRefused | buildPanicked =>
    exact h.built rfl hB (Nat.add_right_cancel hV) (Nat.add_right_cancel hW) (.inr ⟨rfl, hD⟩)
  | build =>
    exact h.built rfl hB (Nat.add_right_cancel hV) (Nat.add_right_cancel hW) (.inl ⟨rfl, hD⟩)
  | clear hp | clearEnd hp | purge hp | purgeEnd hp | sweep hp | sweepEnd hp =>
    cases hp <;> exact h.congr rfl hB (.inl (le_of_add hV (Nat.le_of_ble_eq_true rfl))) hD
      (add_le_add_of_add hW (Nat.le_refl _))
  | mark | unmark | unmarkNone | resizeTell | stopTell =>
    have hw := (Nat.add_right_cancel hW).trans (tally_modify_stack fun _ => rfl)
    exact h.congr rfl hB (.inl (le_of_add hV (Nat.le_of_ble_eq_true rfl))) hD
      (Nat.le_of_eq (congrArg (· + s.sharers) hw))
  | _ =>
    exact h.congr rfl hB (.inl (le_of_add hV (Nat.le_of_ble_eq_true rfl))) hD
      (add_le_add_of_add hW (Nat.le_refl _))

theorem Opening.alive {cl : Call B} {s₁ : State B V} {next : List (Activity V)}
    (ho : Opening s cl s₁ next) (hl : cl.usesPool = true → s.life = .serving) (h : s.Alive)
    (ht : s.threads[t]? = some th) :
    (s₁.modifyThread t fun th => { th with stack := next ++ th.stack, reply := none }).Alive := by
  have hB := ho.tally (f := Activity.builds) ht
  have hV := ho.tally (f := Activity.serves) ht
  have hD := ho.tally (f := Activity.tearsDown) ht
  have hW := ho.tally (f := Activity.works) ht
  cases ho with
  | drop hu =>
    have hlife := hl rfl
    -- nobody uses a pool that is dropped
    have hV0 : WorkerPool.tally Activity.serves s.threads = 0 := by
      by_contra hne
      obtain ⟨u, w, x, hw, hx, hpos⟩ := exists_of_tally_pos (Nat.pos_of_ne_zero hne)
      have := inUse_eq_false hu hw hx
      cases x <;> simp_all [Activity.serves, Activity.usesPool]
    have hD0 : WorkerPool.tally Activity.tearsDown s.threads = 0 := by
      by_contra hne
      have := h.dropped (Nat.pos_of_ne_zero hne)
      rw [hlife] at this
      cases this
    have hB0 := h.building
    have hW0 := h.share
    simp only [State.ownShare, hlife, reduceCtorEq, if_false] at hB0 hW0
    refine ⟨hB.trans hB0, fun hp => ?_, fun _ => rfl, ?_⟩
    · rw [show WorkerPool.tally Activity.serves _ = _ from hV, hV0] at hp
      cases hp
    · show WorkerPool.tally Activity.works _ + WorkerPool.tally Activity.tearsDown _ ≤ s.sharers
      rw [show WorkerPool.tally Activity.works _ = _ from hW,
        show WorkerPool.tally Activity.tearsDown _ = _ from hD, hD0]
      exact hW0
  | cancel | isCancelled | receive | joinAll | runTaken | dropTaken | resize | stop =>
    exact h.congr rfl hB (.inl (Nat.le_of_eq hV)) hD (Nat.le_of_eq (congrArg (· + s.sharers) hW))
  | _ =>
    exact h.congr rfl hB (.inr (hl rfl)) hD (Nat.le_of_eq (congrArg (· + s.sharers) hW))

theorem Move.alive {x : Action B V} (hm : Move s x s') (h : s.Alive) : s'.Alive := by
  cases hm with
  | arrive =>
    have eq (f : Activity V → Nat) : tally f (s.threads ++ [.outside]) = tally f s.threads := by
      rw [tally_append]
      rfl
    exact h.congr rfl (eq _) (.inl (Nat.le_of_eq (eq _))) (eq _)
      (Nat.le_of_eq (congrArg (· + s.sharers) (eq _)))
  | call ht hf hl ho => exact ho.alive hl h ht
  | run hw ht hs hd => exact hd.alive h ht hs
  | finish ht hs | hook ht hs | expire ht hs =>
    exact h.congr rfl (Nat.add_right_cancel (tally_settleTurn ht hs))
      (.inl (le_of_add (tally_settleTurn ht hs) (Nat.le_of_ble_eq_true rfl)))
      (Nat.add_right_cancel (tally_settleTurn ht hs))
      (add_le_add_of_add (tally_settleTurn ht hs) (Nat.le_refl _))
  | @hookPanic t _ _ ht hs =>
    have eq (f : Activity V → Nat) :
        tally f ((State.settleTurn t ⟨s, [.work .leave], none⟩).modifyThread t
          ({ · with died := true })).threads =
        tally f (State.settleTurn t ⟨s, [.work .leave], none⟩).threads :=
      tally_modify_stack fun _ => rfl
    exact h.congr rfl ((eq _).trans (Nat.add_right_cancel (tally_settleTurn ht hs)))
      (.inl (le_of_add ((congrArg (· + _) (eq _)).trans (tally_settleTurn ht hs))
        (Nat.le_of_ble_eq_true rfl)))
      ((eq _).trans (Nat.add_right_cancel (tally_settleTurn ht hs)))
      (add_le_add_of_add ((congrArg (· + _) (eq _)).trans (tally_settleTurn ht hs))
        (Nat.le_refl _))
  | rouse | tick =>
    exact h.congr rfl rfl (.inl (Nat.le_refl _)) rfl (Nat.le_refl _)

theorem State.Founded.alive (h : s.Founded) : s.Alive := by
  obtain ⟨name, hooked, capacity, interval, workers, rfl⟩ := h
  exact ⟨rfl, nofun, nofun, Nat.le_refl 1⟩

/-- **The shares that are out suffice for all who hold one**, and nobody uses
    a pool that is not there. -/
theorem State.Reachable.alive (h : s.Reachable) : s.Alive :=
  h.induct (fun _ => Founded.alive) fun _ _ _ _ ih hm => hm.alive ih

/-- A worker that leaves while the pool serves is not the last to hold a
    share. -/
theorem State.Alive.one_lt_sharers (h : s.Alive) (hl : s.life = .serving)
    (ht : s.threads[t]? = some th) {p : WorkPoint} (ha : .work p ∈ th.stack) :
    1 < s.sharers := by
  have hw := tally_pos (f := Activity.works) ht ha Nat.one_pos
  have := h.share
  simp only [State.ownShare, hl, reduceCtorEq, if_false] at this
  omega

end

end WorkerPool
