/-
  Counting over the stacks of all threads.

  An invariant that weighs what the threads are in the middle of against the
  shared state is stated by a weight on activities, summed over all stacks.

  * `tally f ths` is the sum, `tally_modify` says how it changes when one
    thread moves;
  * `length_le_tally` and `tally_le_length` compare it with a list of threads;
  * `Deed.tally`, `Opening.tally`: the weight of what follows stands in for the
    weight of the activity that was replaced.
-/
import Mathlib
import WorkerPool.Proofs.Move

namespace WorkerPool

variable {B V : Type}

/-! ## The sum -/

/-- The weight of the activities of a thread. -/
def Thread.tally (f : Activity V → Nat) (th : Thread V) : Nat := (th.stack.map f).sum

/-- The weight of the activities of all threads. -/
def tally (f : Activity V → Nat) (ths : List (Thread V)) : Nat := (ths.map (Thread.tally f)).sum

section
variable {f : Activity V → Nat} {ths : List (Thread V)} {t : ThreadId} {th : Thread V}

theorem tally_append (f : Activity V → Nat) (ths ths' : List (Thread V)) :
    tally f (ths ++ ths') = tally f ths + tally f ths' := by
  simp only [tally, List.map_append, List.sum_append]

theorem tally_singleton (f : Activity V → Nat) (th : Thread V) : tally f [th] = th.tally f := by
  simp only [tally, List.map_cons, List.map_nil, List.sum_cons, List.sum_nil, Nat.add_zero]

theorem le_tally (ht : ths[t]? = some th) : th.tally f ≤ tally f ths := by
  induction ths generalizing t with
  | nil => cases ht
  | cons th' ths ih =>
    simp only [tally, List.map_cons, List.sum_cons]
    cases t with
    | zero => cases ht; exact Nat.le_add_right _ _
    | succ t => exact Nat.le_trans (ih ht) (Nat.le_add_left _ _)

/-- **How the sum changes when one thread moves.** -/
theorem tally_modify (g : Thread V → Thread V) (ht : ths[t]? = some th) :
    tally f (ths.modify t g) + th.tally f = tally f ths + (g th).tally f := by
  induction ths generalizing t with
  | nil => cases ht
  | cons th' ths ih =>
    cases t with
    | zero =>
      cases ht
      simp only [List.modify_zero_cons, tally, List.map_cons, List.sum_cons]
      omega
    | succ t =>
      have := ih ht
      simp only [tally, List.modify_succ_cons, List.map_cons, List.sum_cons] at this ⊢
      omega

/-- A change of a thread that leaves its stack alone changes no sum. -/
theorem tally_modify_stack {g : Thread V → Thread V} (hg : ∀ th, (g th).stack = th.stack) :
    tally f (ths.modify t g) = tally f ths := by
  cases ht : ths[t]? with
  | none => rw [List.modify_eq_self (List.getElem?_eq_none_iff.1 ht)]
  | some th =>
    have h := tally_modify (f := f) g ht
    simp only [Thread.tally, hg] at h
    omega

/-! ## Which threads carry weight -/

theorem Thread.tally_pos {a : Activity V} (ha : a ∈ th.stack) (hf : 0 < f a) :
    0 < th.tally f :=
  List.sum_pos_iff_exists_pos_nat.2 ⟨f a, List.mem_map_of_mem ha, hf⟩

theorem Thread.exists_of_tally_pos (h : 0 < th.tally f) : ∃ a ∈ th.stack, 0 < f a := by
  obtain ⟨n, hn, hpos⟩ := List.sum_pos_iff_exists_pos_nat.1 h
  obtain ⟨a, ha, rfl⟩ := List.mem_map.1 hn
  exact ⟨a, ha, hpos⟩

theorem tally_pos {a : Activity V} (ht : ths[t]? = some th) (ha : a ∈ th.stack)
    (hf : 0 < f a) : 0 < tally f ths :=
  Nat.lt_of_lt_of_le (Thread.tally_pos ha hf) (le_tally ht)

theorem exists_of_tally_pos (h : 0 < tally f ths) :
    ∃ (t : ThreadId) (th : Thread V) (a : Activity V),
      ths[t]? = some th ∧ a ∈ th.stack ∧ 0 < f a := by
  obtain ⟨n, hn, hpos⟩ := List.sum_pos_iff_exists_pos_nat.1 h
  obtain ⟨th, hth, rfl⟩ := List.mem_map.1 hn
  obtain ⟨t, ht⟩ := List.mem_iff_getElem?.1 hth
  obtain ⟨a, ha, hf⟩ := Thread.exists_of_tally_pos hpos
  exact ⟨t, th, a, ht, ha, hf⟩

/-- Threads that all carry weight are at most as many as the sum. -/
theorem length_le_tally {l : List ThreadId} (hl : l.Nodup)
    (h : ∀ t ∈ l, ∃ th, ths[t]? = some th ∧ 0 < th.tally f) : l.length ≤ tally f ths := by
  induction ths using List.reverseRecOn generalizing l with
  | nil =>
    cases l with
    | nil => exact Nat.zero_le _
    | cons t l => obtain ⟨th, ht, -⟩ := h t List.mem_cons_self; cases ht
  | append_singleton ths th ih =>
    rw [tally_append, tally_singleton]
    -- the last thread apart, the others carry the rest
    have hrest : ∀ t ∈ l.erase ths.length, ∃ th, ths[t]? = some th ∧ 0 < th.tally f := by
      intro t ht
      obtain ⟨hne, ht⟩ := hl.mem_erase_iff.1 ht
      obtain ⟨th', h', hpos⟩ := h t ht
      rw [List.getElem?_append] at h'
      split at h'
      · exact ⟨th', h', hpos⟩
      · rename_i hlt
        obtain ⟨h0, -⟩ := List.getElem?_eq_some_iff.1 h'
        simp only [List.length_singleton, Nat.lt_one_iff] at h0
        exact absurd (Nat.le_antisymm (Nat.le_of_sub_eq_zero h0) (Nat.not_lt.1 hlt)) hne
    have hle := ih (hl.erase _) hrest
    by_cases hm : ths.length ∈ l
    · obtain ⟨th', h', hpos⟩ := h _ hm
      simp only [List.getElem?_concat_length, Option.some.injEq] at h'
      subst h'
      rw [List.length_erase_of_mem hm] at hle
      omega
    · rw [List.erase_of_not_mem hm] at hle
      omega

/-- Two different threads that carry weight make two. -/
theorem two_le_tally {u : ThreadId} {w : Thread V} (ht : ths[t]? = some th)
    (hu : ths[u]? = some w) (hne : t ≠ u) (hth : 0 < th.tally f) (hw : 0 < w.tally f) :
    2 ≤ tally f ths := by
  refine length_le_tally (l := [t, u]) (by simp [hne]) fun x hx => ?_
  rcases List.mem_cons.1 hx with rfl | hx
  · exact ⟨th, ht, hth⟩
  · rw [List.mem_singleton.1 hx]
    exact ⟨w, hu, hw⟩

/-- If every thread that carries weight is listed and carries a weight of one,
    the sum is at most the length of the list. -/
theorem tally_le_length {l : List ThreadId}
    (h : ∀ t th, ths[t]? = some th → 0 < th.tally f → th.tally f ≤ 1 ∧ t ∈ l) :
    tally f ths ≤ l.length := by
  induction ths using List.reverseRecOn generalizing l with
  | nil => exact Nat.zero_le _
  | append_singleton ths th ih =>
    rw [tally_append, tally_singleton]
    have hrest : ∀ t th', ths[t]? = some th' → 0 < th'.tally f →
        th'.tally f ≤ 1 ∧ t ∈ l.erase ths.length := by
      intro t th' ht hpos
      have hlt := (List.getElem?_eq_some_iff.1 ht).1
      obtain ⟨hone, hm⟩ := h t th' (by rw [List.getElem?_append_left hlt, ht]) hpos
      exact ⟨hone, (List.mem_erase_of_ne (Nat.ne_of_lt hlt)).2 hm⟩
    have hle := ih hrest
    by_cases hpos : 0 < th.tally f
    · obtain ⟨hone, hm⟩ := h ths.length th List.getElem?_concat_length hpos
      have hlen := List.length_pos_of_mem hm
      rw [List.length_erase_of_mem hm] at hle
      omega
    · have := List.length_erase_le (a := ths.length) (l := l)
      omega

/-- If each thread carries the weight one or none, the sum counts those with the
    weight one. -/
theorem tally_eq_countP {p : ThreadId → Bool}
    (h : ∀ t th, ths[t]? = some th → th.tally f = (p t).toNat) :
    tally f ths = (List.range ths.length).countP p := by
  induction ths using List.reverseRecOn with
  | nil => rfl
  | append_singleton ths th ih =>
    have hlast := h ths.length th List.getElem?_concat_length
    have hrest := ih fun t w ht =>
      h t w (by rw [List.getElem?_append_left (List.getElem?_eq_some_iff.1 ht).1, ht])
    rw [tally_append, tally_singleton, List.length_append, List.length_singleton,
      List.range_succ, List.countP_append, hrest, hlast]
    cases hp : p ths.length <;> simp [hp]

end

/-! ## Threads in a step -/

theorem Sweep.threads {s s' : State B V} {p : Clearing} {o : Clearing ⊕ Nat}
    (h : Sweep s p s' o) : s'.threads = s.threads := by
  cases h <;> rfl

theorem Opening.threads {s s' : State B V} {c : Call B} {next : List (Activity V)}
    (h : Opening s c s' next) : s'.threads = s.threads := by
  cases h <;> rfl

section
variable {s : State B V} {t : ThreadId} {th : Thread V} {c : Chance} {a : Activity V}
  {turn : Turn B V}

/-- A step leaves the threads as they are, changes what one badge says, or
    starts the thread of a worker. -/
theorem Deed.threads (hd : Deed s t th c a turn) :
    turn.state.threads = s.threads ∨
      (∃ u g, turn.state.threads = s.threads.modify u fun w => { w with badge := w.badge.map g }) ∨
      ∃ n i start, a = .resize n (.spawn i start) ∧
        turn.state.threads = s.threads ++ [.worker i s.hooked] := by
  cases hd with
  | clear hp | clearEnd hp | purge hp | purgeEnd hp | sweep hp | sweepEnd hp =>
    exact .inl hp.threads
  | mark | unmark | unmarkNone | resizeTell | stopTell => exact .inr (.inl ⟨_, _, rfl⟩)
  | spawn => exact .inr (.inr ⟨_, _, _, rfl, rfl⟩)
  | _ => exact .inl rfl

/-- A thread as it was but for its badge and what is on its stack. -/
structure Thread.Same (w w' : Thread V) : Prop where
  stack : w'.stack = w.stack
  reply : w'.reply = w.reply
  died : w'.died = w.died
  worker : w'.badge.isSome = w.badge.isSome

theorem Deed.same (hd : Deed s t th c a turn) {u : ThreadId} {w : Thread V}
    (hw : s.threads[u]? = some w) :
    ∃ w', turn.state.threads[u]? = some w' ∧ w.Same w' := by
  obtain h | ⟨v, g, h⟩ | ⟨_, _, _, -, h⟩ := hd.threads
  · exact ⟨w, h ▸ hw, rfl, rfl, rfl, rfl⟩
  · rw [h, List.getElem?_modify, hw]
    by_cases hv : v = u
    · exact ⟨{ w with badge := w.badge.map g }, by simp [hv], rfl, rfl, rfl, Option.isSome_map⟩
    · exact ⟨w, by simp [hv], rfl, rfl, rfl, rfl⟩
  · have hlt := (List.getElem?_eq_some_iff.1 hw).1
    exact ⟨w, by rw [h, List.getElem?_append_left hlt, hw], rfl, rfl, rfl, rfl⟩

/-! ## The sum in a step -/

variable {f : Activity V → Nat} {rest : List (Activity V)}

theorem Deed.tally_state (hd : Deed s t th c a turn) (h₁ : f (.work .hook) = 0)
    (h₂ : f (.work .fetch) = 0) : tally f turn.state.threads = tally f s.threads := by
  obtain h | ⟨u, g, h⟩ | ⟨_, _, _, -, h⟩ := hd.threads
  · rw [h]
  · rw [h]
    exact tally_modify_stack fun _ => rfl
  · rw [h, tally_append, tally_singleton]
    simp only [Thread.tally, Thread.worker]
    cases s.hooked <;> simp [h₁, h₂]

theorem tally_settleTurn (ht : turn.state.threads[t]? = some th) (hs : th.stack = a :: rest) :
    tally f (State.settleTurn t turn).threads + f a =
      tally f turn.state.threads + (turn.next.map f).sum := by
  have h := tally_modify (f := f)
    (fun th => { th with stack := turn.next ++ th.stack.tail, reply := turn.reply <|> th.reply }) ht
  simp only [Thread.tally, hs, List.tail_cons, List.map_append, List.sum_append, List.map_cons,
    List.sum_cons] at h
  simp only [State.settleTurn, State.modifyThread]
  omega

theorem le_tally_settleTurn {next : List (Activity V)} {r : Option (Reply V)}
    (ht : s.threads[t]? = some th) (hs : th.stack = a :: rest) (ha : f a = 0) :
    tally f s.threads ≤ tally f (State.settleTurn t ⟨s, next, r⟩).threads := by
  have h : tally f (State.settleTurn t ⟨s, next, r⟩).threads + f a =
      tally f s.threads + (next.map f).sum := tally_settleTurn ht hs
  omega

/-- **What a thread does next takes the weight of what it did.** -/
theorem Deed.tally (hd : Deed s t th c a turn) (ht : s.threads[t]? = some th)
    (hs : th.stack = a :: rest) (h₁ : f (.work .hook) = 0) (h₂ : f (.work .fetch) = 0) :
    tally f (State.settleTurn t turn).threads + f a =
      tally f s.threads + (turn.next.map f).sum := by
  obtain ⟨th', ht', hsame⟩ := hd.same ht
  rw [tally_settleTurn ht' (hsame.stack.trans hs), hd.tally_state h₁ h₂]

theorem Opening.tally {s₁ : State B V} {cl : Call B} {next : List (Activity V)}
    (ho : Opening s cl s₁ next) (ht : s.threads[t]? = some th) :
    WorkerPool.tally f (s₁.modifyThread t
        fun th => { th with stack := next ++ th.stack, reply := none }).threads =
      WorkerPool.tally f s.threads + (next.map f).sum := by
  have h := tally_modify (f := f)
    (fun th => { th with stack := next ++ th.stack, reply := none }) ht
  simp only [Thread.tally, List.map_append, List.sum_append] at h
  simp only [State.modifyThread, ho.threads]
  omega

end

end WorkerPool
