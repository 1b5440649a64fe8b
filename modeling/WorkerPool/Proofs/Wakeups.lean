/-
  No wake-up is lost.

  A thread wakes at most one sleeper at a time, some steps after it changed
  the backlog, and another thread can come between.  What is still to be woken
  is therefore weighed against the threads that are about to wake someone.

  * `State.Attended`: if workers sleep, there are as many threads that wait or
    are about to wake a worker as there are workers asleep and tasks;
  * `State.Vacated`: if producers sleep, a thread is about to wake them all,
    or the free places are covered by threads that are about to wake a
    producer or to look for room;
  * `State.Alerted`: if workers sleep and one of them may leave, a thread is
    about to wake them all;
  * `State.Reachable.no_lost_wakeup`: at rest no worker waits beside a task,
    no producer waits beside a free place, and nobody sleeps through a stop.
-/
import WorkerPool.Proofs.Life
import WorkerPool.Proofs.Rest

namespace WorkerPool

variable {B V : Type}

/-! ## Weights -/

/-- One for a thread that waits for a task or is about to wake one that does. -/
def Activity.attends : Activity V → Nat
  | work .await | submit _ .wake | trySubmit _ .wake => 1
  | _ => 0

/-- One for a thread that looks for room or is about to wake one that does. -/
def Activity.vacates : Activity V → Nat
  | work (.fetched _) | work (.awaited _) | pop (some _) | submit _ .push => 1
  | _ => 0

/-- One for a thread that is about to wake all producers. -/
def Activity.floods : Activity V → Nat
  | clear (.wake _) | setCapacity _ .wake | stop _ (.purge (.wake _))
  | stop _ (.sweep (.wake _) _) => 1
  | _ => 0

/-- One for a thread that will wake everyone before its call returns. -/
def Activity.alerts : Activity V → Nat
  | resize _ (.tell _ _) | resize _ (.wake _) | stop _ (.tell _) | stop _ (.purge _)
  | stop _ .wake => 1
  | _ => 0

/-! ## The invariants -/

/-- No task is left lying while workers sleep: for every task there is a thread that will look
    at it, or will wake one that does. -/
def State.Attended (s : State B V) : Prop :=
  s.backlog.takers ≠ [] →
    s.backlog.tasks.length + s.backlog.takers.length ≤ tally Activity.attends s.threads

/-- No place stays free while producers sleep: for every free place there is a thread that
    will take it, or will wake one that does, unless all are about to be woken. -/
def State.Vacated (s : State B V) : Prop :=
  s.backlog.givers ≠ [] → 0 < tally Activity.floods s.threads ∨
    s.backlog.capacity + s.backlog.givers.length ≤
      s.backlog.tasks.length + tally Activity.vacates s.threads

/-- No worker sleeps through a stop or an order to leave: someone is about to wake them all. -/
def State.Alerted (s : State B V) : Prop :=
  s.backlog.takers ≠ [] → (s.done = true ∨ ∃ t ∈ s.backlog.takers, s.IsTold t) →
    0 < tally Activity.alerts s.threads

/-! ## Who sleeps carries weight -/

section
variable {s s' : State B V} {t : ThreadId} {th : Thread V} {c : Chance} {a : Activity V}
  {turn : Turn B V} {rest : List (Activity V)}

theorem tally_pos_of_top {f : Activity V → Nat} (h : s.top? t = some a) (hf : 0 < f a) :
    ∃ th, s.threads[t]? = some th ∧ 0 < th.tally f := by
  obtain ⟨th, rest, ht, hs⟩ := top?_eq_some_iff.1 h
  exact ⟨th, ht, Thread.tally_pos (Thread.mem_of_stack hs) hf⟩

theorem State.Shaped.takers_le (h : s.Shaped) :
    s.backlog.takers.length ≤ tally Activity.attends s.threads :=
  length_le_tally h.takers_nodup fun u hu => tally_pos_of_top (h.taker u hu) Nat.one_pos

theorem State.Shaped.givers_le (h : s.Shaped) :
    s.backlog.givers.length ≤ tally Activity.vacates s.threads :=
  length_le_tally h.givers_nodup fun u hu => by
    obtain ⟨k, hk⟩ := h.giver u hu
    exact tally_pos_of_top hk Nat.one_pos

/-- Beside the workers asleep stands the one that waits and is awake. -/
theorem State.Shaped.takers_lt (h : s.Shaped) (hw : s.backlog.isAsleep t = false)
    (ht : s.Awaits t) : s.backlog.takers.length < tally Activity.attends s.threads := by
  have hn : t ∉ s.backlog.takers := fun hm => by simp [isAsleep_iff.2 (.inl hm)] at hw
  refine length_le_tally (l := t :: s.backlog.takers) (List.nodup_cons.2 ⟨hn, h.takers_nodup⟩)
    fun u hu => ?_
  rcases List.mem_cons.1 hu with rfl | hu
  exacts [tally_pos_of_top ht Nat.one_pos, tally_pos_of_top (h.taker u hu) Nat.one_pos]

/-- A producer uses a pool that is there. -/
theorem State.Pushes.serving (h : s.Alive) (ht : s.Pushes t) : s.life = .serving := by
  obtain ⟨k, hk⟩ := ht
  obtain ⟨th, rest, ht, hs⟩ := top?_eq_some_iff.1 hk
  exact h.serving (tally_pos (a := .submit k .push) ht (Thread.mem_of_stack hs)
    Nat.one_pos)

/-! ## Workers -/

theorem State.Attended.step {x y : Nat} (h : s.Attended)
    (hw : tally Activity.attends s'.threads + x = tally Activity.attends s.threads + y)
    (hn : s'.backlog.takers ≠ [] → s.backlog.takers ≠ [] ∧
      s'.backlog.tasks.length + s'.backlog.takers.length + x ≤
        s.backlog.tasks.length + s.backlog.takers.length + y) : s'.Attended := by
  intro hne
  obtain ⟨hne, hle⟩ := hn hne
  have := h hne
  omega

theorem length_wakeOne {l : List ThreadId} {n : Nat} (h : Backlog.wakeOne l n ≠ []) :
    l ≠ [] ∧ (Backlog.wakeOne l n).length + 1 = l.length := by
  have hl : l ≠ [] := by rintro rfl; exact h rfl
  have hpos := List.length_pos_iff.2 hl
  refine ⟨hl, ?_⟩
  rw [Backlog.wakeOne, List.length_eraseIdx_of_lt (Nat.mod_lt _ hpos)]
  omega

theorem Deed.attended (hd : Deed s t th c a turn) (h : s.Attended)
    (h' : (State.settleTurn t turn).Shaped) (hs₀ : s.Shaped) (hw : s.backlog.isAsleep t = false)
    (ht : s.threads[t]? = some th) (hs : th.stack = a :: rest) :
    (State.settleTurn t turn).Attended := by
  have hW := hd.tally (f := Activity.attends) ht hs rfl rfl
  have htop := top?_eq_some_iff.2 ⟨th, rest, ht, hs⟩
  cases hd with
  | fetch _ hk | await _ hk | pop hk =>
    refine h.step hW fun hn => ⟨hn, ?_⟩
    simp only [settleTurn_backlog, hk, List.length_cons, Activity.attends]
    omega
  | awaitStop _ hk =>
    intro _
    have hlt := hs₀.takers_lt hw htop
    have hW : WorkerPool.tally Activity.attends _ + 1 = _ + 0 := hW
    simp only [settleTurn_backlog, hk, List.length_nil]
    omega
  | awaitSleep _ hk =>
    intro _
    have hle := h'.takers_le
    simp only [settleTurn_backlog, Backlog.sleepTaker, hk, List.length_nil] at hle ⊢
    omega
  | submitWake | tryWake =>
    refine h.step hW fun hn => ?_
    obtain ⟨hn, hlen⟩ := length_wakeOne hn
    refine ⟨hn, ?_⟩
    simp only [settleTurn_backlog, Backlog.wakeTaker, Activity.attends]
    omega
  | submitPush | tryPush =>
    refine h.step hW fun hn => ⟨hn, ?_⟩
    simp only [settleTurn_backlog, List.length_append, List.map_cons, List.map_nil,
      List.sum_cons, List.sum_nil, Activity.attends, List.length_singleton]
    omega
  | resizeWake | stopWake => exact fun hn => absurd rfl hn
  | clear hp | purge hp | sweep hp =>
    cases hp with
    | drain =>
      refine h.step hW fun hn => ⟨hn, ?_⟩
      simp only [settleTurn_backlog, List.length_nil, Activity.attends]
      omega
    | _ => exact h.step hW fun hn => ⟨hn, Nat.le_refl _⟩
  | clearEnd hp | purgeEnd hp | sweepEnd hp =>
    cases hp; exact h.step hW fun hn => ⟨hn, Nat.le_refl _⟩
  | leaveLast | teardownLast =>
    refine h.step hW fun hn => ⟨hn, ?_⟩
    simp only [settleTurn_backlog, List.length_nil, Activity.attends]
    omega
  | _ => exact h.step hW fun hn => ⟨hn, Nat.add_le_add_left (Nat.zero_le _) _⟩

/-! ## Producers -/

theorem State.Vacated.step {x y m n : Nat} (h : s.Vacated)
    (hf : tally Activity.floods s'.threads + m = tally Activity.floods s.threads + n)
    (hv : tally Activity.vacates s'.threads + x = tally Activity.vacates s.threads + y)
    (hn : s'.backlog.givers ≠ [] → s.backlog.givers ≠ [] ∧ m ≤ n ∧
      s.backlog.tasks.length + s'.backlog.capacity + s'.backlog.givers.length + x ≤
        s'.backlog.tasks.length + s.backlog.capacity + s.backlog.givers.length + y) :
    s'.Vacated := by
  intro hne
  obtain ⟨hne, hmn, hle⟩ := hn hne
  rcases h hne with h | h
  · exact .inl (by omega)
  · exact .inr (by omega)

/-- Someone begins to wake all producers. -/
theorem State.Vacated.flooded {m n : Nat}
    (hf : tally Activity.floods s'.threads + m = tally Activity.floods s.threads + n)
    (hm : m < n) : s'.Vacated :=
  fun _ => .inl (by omega)

theorem Deed.vacated (hd : Deed s t th c a turn) (h : s.Vacated)
    (h' : (State.settleTurn t turn).Shaped) (hs₀ : s.Shaped) (hl : s.Alive)
    (ht : s.threads[t]? = some th) (hs : th.stack = a :: rest) :
    (State.settleTurn t turn).Vacated := by
  have hF := hd.tally (f := Activity.floods) ht hs rfl rfl
  have hV := hd.tally (f := Activity.vacates) ht hs rfl rfl
  cases hd with
  | fetch _ hk | await _ hk | pop hk =>
    refine h.step hF hV fun hn => ⟨hn, Nat.le_refl _, ?_⟩
    simp only [settleTurn_backlog, hk, List.length_cons, List.map_cons, List.map_nil,
      List.sum_cons, List.sum_nil, Activity.vacates]
    omega
  | fetched | awaited | popWake =>
    refine h.step hF hV fun hn => ?_
    obtain ⟨hn, hlen⟩ := length_wakeOne hn
    refine ⟨hn, Nat.le_refl _, ?_⟩
    simp only [settleTurn_backlog, Backlog.wakeGiver, Activity.vacates]
    omega
  | submitPush =>
    refine h.step hF hV fun hn => ⟨hn, Nat.le_refl _, ?_⟩
    simp only [settleTurn_backlog, List.length_append, List.length_singleton, Activity.vacates]
    omega
  | submitSleep hr =>
    intro _
    have hle := h'.givers_le
    simp only [settleTurn_backlog, Backlog.sleepGiver] at hle ⊢
    exact .inr (by omega)
  | tryPush =>
    refine h.step hF hV fun hn => ⟨hn, Nat.le_refl _, ?_⟩
    simp only [settleTurn_backlog, List.length_append, List.length_singleton, Activity.vacates]
    omega
  | capacitySet => exact .flooded hF Nat.one_pos
  | capacityWake | resizeWake | stopWake => exact fun hn => absurd rfl hn
  | clear hp | purge hp | sweep hp =>
    cases hp with
    | drain => exact .flooded hF Nat.one_pos
    | wake => exact fun hn => absurd rfl hn
    | _ => exact h.step hF hV fun hn => ⟨hn, Nat.le_refl _, Nat.le_refl _⟩
  | clearEnd hp | purgeEnd hp | sweepEnd hp =>
    cases hp; exact h.step hF hV fun hn => ⟨hn, Nat.le_refl _, Nat.le_refl _⟩
  | leaveLast _ hlast =>
    -- the last one out finds no producer asleep
    intro hn
    obtain ⟨u, hu⟩ := List.exists_mem_of_ne_nil _ hn
    have hone := hl.one_lt_sharers ((hs₀.giver u hu).serving hl) ht (Thread.mem_of_stack hs)
    omega
  | @teardownLast r =>
    intro hn
    obtain ⟨u, hu⟩ := List.exists_mem_of_ne_nil _ hn
    have hlife := hl.dropped (tally_pos ht (Thread.mem_of_stack hs) Nat.one_pos)
    rw [(hs₀.giver u hu).serving hl] at hlife
    cases hlife
  | _ =>
    exact h.step hF hV fun hn => ⟨hn, Nat.zero_le _, Nat.add_le_add_left (Nat.zero_le _) _⟩

/-! ## Orders to leave -/

theorem State.Alerted.step {x y : Nat} (h : s.Alerted)
    (ha : tally Activity.alerts s'.threads + x = tally Activity.alerts s.threads + y)
    (hxy : x ≤ y) (hn : s'.backlog.takers.Sublist s.backlog.takers) (hd : s'.done = s.done)
    (ht : ∀ u, s'.IsTold u → s.IsTold u) : s'.Alerted := by
  intro hne hor
  have hpos : 0 < tally Activity.alerts s.threads := by
    refine h (fun h0 => hne (List.sublist_nil.1 (h0 ▸ hn))) ?_
    rcases hor with hor | ⟨u, hu, hor⟩
    exacts [.inl (hd ▸ hor), .inr ⟨u, hn.subset hu, ht u hor⟩]
  omega

/-- Someone goes on to wake everyone. -/
theorem State.Alerted.alerted {x y : Nat}
    (ha : tally Activity.alerts s'.threads + x = tally Activity.alerts s.threads + y)
    (hx : x ≤ tally Activity.alerts s.threads) (hy : 0 < y) : s'.Alerted :=
  fun _ _ => by omega

theorem Deed.alerted (hd : Deed s t th c a turn) (h : s.Alerted)
    (ht : s.threads[t]? = some th) (hs : th.stack = a :: rest) :
    (State.settleTurn t turn).Alerted := by
  have hA := hd.tally (f := Activity.alerts) ht hs rfl rfl
  have hle : a.alerts ≤ WorkerPool.tally Activity.alerts s.threads := by
    refine Nat.le_trans ?_ (le_tally ht)
    simp only [Thread.tally, hs, List.map_cons, List.sum_cons]
    omega
  have htold (u : ThreadId) (hu : (State.settleTurn t turn).IsTold u) (hn : ¬ a.Tells u) :
      s.IsTold u := by
    rw [State.IsTold, badge?_settleTurn] at hu
    exact (hd.isTold_iff.1 hu).resolve_right fun h => hn h.1
  cases hd with
  | @awaitSleep b hb _ hdone hnt =>
    -- whoever goes to sleep was not told
    intro _ hor
    obtain ⟨u, hu, hut⟩ : ∃ u ∈ s.backlog.takers, s.IsTold u := by
      rcases hor with hor | ⟨u, hu, hor⟩
      · exact absurd (hdone.symm.trans hor) Bool.false_ne_true
      have hut := htold u hor id
      rcases List.mem_append.1 hu with hu | hu
      · exact ⟨u, hu, hut⟩
      · obtain ⟨b', hb', htb⟩ := hut
        rw [badge?_eq, List.mem_singleton.1 hu, ht, Option.bind_some, hb] at hb'
        cases hb'
        exact absurd (hnt.symm.trans htb) Bool.false_ne_true
    exact Nat.lt_of_lt_of_eq (h (List.ne_nil_of_mem hu) (.inr ⟨u, hu, hut⟩))
      (Nat.add_right_cancel hA).symm
  | graceful | forced | stopTold | resizeTold | resizeTell | stopTell =>
    exact .alerted hA hle Nat.one_pos
  | resizeWake | stopWake => exact fun hn => absurd rfl hn
  | clear hp | clearEnd hp | purge hp | purgeEnd hp | sweep hp | sweepEnd hp =>
    cases hp <;> exact h.step hA (Nat.le_refl _) (List.Sublist.refl _) rfl fun u hu =>
      htold u hu id
  | submitWake | tryWake =>
    exact h.step hA (Nat.le_refl _) (List.eraseIdx_sublist ..) rfl fun u hu => htold u hu id
  | _ => exact h.step hA (Nat.zero_le _) (List.Sublist.refl _) rfl fun u hu => htold u hu id

/-! ## Every state -/

/-- What is still to be woken is covered by those who are about to wake. -/
structure State.Covered (s : State B V) : Prop where
  attended : s.Attended
  vacated : s.Vacated
  alerted : s.Alerted

/-- An action of the world takes no weight away. -/
theorem State.Covered.congr (h : s.Covered) (hq : s'.backlog.tasks = s.backlog.tasks)
    (hc : s'.backlog.capacity = s.backlog.capacity)
    (hn : s'.backlog.takers.Sublist s.backlog.takers)
    (hg : s'.backlog.givers.Sublist s.backlog.givers)
    (hd : s'.done = s.done) (ht : ∀ u, s'.IsTold u → s.IsTold u)
    (hf : ∀ f : Activity V → Nat, (∀ k w p, f (.task k w p) = 0) → f (.work .hook) = 0 →
      (∀ k how, f (.receive k how) = 0) → tally f s.threads ≤ tally f s'.threads) :
    s'.Covered where
  attended hne := by
    have := h.attended fun h0 => hne (List.sublist_nil.1 (h0 ▸ hn))
    have := hf Activity.attends (fun _ _ _ => rfl) rfl fun _ _ => rfl
    have := hn.length_le
    rw [hq]
    omega
  vacated hne := by
    have hW := hf Activity.vacates (fun _ _ _ => rfl) rfl fun _ _ => rfl
    have hF := hf Activity.floods (fun _ _ _ => rfl) rfl fun _ _ => rfl
    have := hg.length_le
    rcases h.vacated fun h0 => hne (List.sublist_nil.1 (h0 ▸ hg)) with h | h
    · exact .inl (by omega)
    · rw [hq, hc]
      exact .inr (by omega)
  alerted hne hor := by
    have hA := hf Activity.alerts (fun _ _ _ => rfl) rfl fun _ _ => rfl
    refine Nat.lt_of_lt_of_le (h.alerted (fun h0 => hne (List.sublist_nil.1 (h0 ▸ hn))) ?_) hA
    rcases hor with hor | ⟨u, hu, hor⟩
    exacts [.inl (hd ▸ hor), .inr ⟨u, hn.subset hu, ht u hor⟩]

theorem Move.covered {x : Action B V} (hm : Move s x s') (h : s.Covered) (hs₀ : s.Shaped)
    (hl : s.Alive) : s'.Covered := by
  have h' := hm.shaped hs₀
  have hsame (hx : ∀ t c, x ≠ .run t c) (u : ThreadId) (hu : s'.IsTold u) : s.IsTold u := by
    rcases hm.isTold_iff.1 hu with hu | ⟨t, c, _, he, -⟩
    · exact hu
    · exact absurd he (hx t c)
  cases hm with
  | run hw ht hs hd =>
    exact ⟨hd.attended h.attended h' hs₀ hw ht hs, hd.vacated h.vacated h' hs₀ hl ht hs,
      hd.alerted h.alerted ht hs⟩
  | arrive =>
    refine h.congr rfl rfl (.refl _) (.refl _) rfl (hsame (by simp)) fun f _ _ _ => ?_
    rw [tally_append]
    exact Nat.le_add_right _ _
  | call ht hf hlife ho =>
    have hq := ho.backlog
    refine h.congr ?_ ?_ ?_ ?_ ?_ (hsame (by simp)) fun f _ _ _ => ?_
    · exact congrArg Backlog.tasks hq
    · exact congrArg Backlog.capacity hq
    · exact hq ▸ .refl _
    · exact hq ▸ .refl _
    · cases ho <;> rfl
    · rw [ho.tally ht]
      exact Nat.le_add_right _ _
  | finish ht hs =>
    exact h.congr rfl rfl (.refl _) (.refl _) rfl (hsame (by simp))
      fun f h₁ _ _ => le_tally_settleTurn ht hs (h₁ _ _ _)
  | hook ht hs =>
    exact h.congr rfl rfl (.refl _) (.refl _) rfl (hsame (by simp))
      fun f _ h₂ _ => le_tally_settleTurn ht hs h₂
  | hookPanic ht hs =>
    refine h.congr rfl rfl (.refl _) (.refl _) rfl (hsame (by simp)) fun f _ h₂ _ => ?_
    rw [State.modifyThread, tally_modify_stack]
    · exact le_tally_settleTurn ht hs h₂
    · exact fun _ => rfl
  | expire ht hs =>
    exact h.congr rfl rfl (.refl _) (.refl _) rfl (hsame (by simp))
      fun f _ _ h₃ => le_tally_settleTurn ht hs (h₃ _ _)
  | rouse =>
    exact h.congr rfl rfl List.erase_sublist List.erase_sublist rfl (hsame (by simp))
      fun f _ _ _ => Nat.le_refl _
  | tick =>
    exact h.congr rfl rfl (.refl _) (.refl _) rfl (hsame (by simp)) fun f _ _ _ => Nat.le_refl _

theorem State.Founded.covered (h : s.Founded) : s.Covered := by
  obtain ⟨name, hooked, capacity, interval, workers, rfl⟩ := h
  exact ⟨fun hn => absurd rfl hn, fun hn => absurd rfl hn, fun hn => absurd rfl hn⟩

theorem State.Reachable.covered (h : s.Reachable) : s.Covered :=
  h.induct (fun _ => Founded.covered) fun _ _ _ h ih hm => hm.covered ih h.shaped h.alive

/-! ## At rest -/

/-- Whoever carries weight is not waiting for what stands above, and can go
    on. -/
def Restless (B : Type) (f : Activity V → Nat) : Prop :=
  ∀ x, 0 < f x → ¬ x.Rests ∧ x.Able B

theorem restless_attends : Restless B (Activity.attends (V := V)) := by
  intro x hx
  simp only [Activity.attends] at hx
  split at hx
  · exact ⟨id, able_await⟩
  · exact ⟨id, able_submit _⟩
  · exact ⟨id, able_trySubmit _⟩
  · cases hx

theorem restless_vacates : Restless B (Activity.vacates (V := V)) := by
  intro x hx
  simp only [Activity.vacates] at hx
  split at hx
  · exact ⟨id, able_work fun b hb => ⟨_, .fetched hb⟩⟩
  · exact ⟨id, able_work fun b hb => ⟨_, .awaited hb⟩⟩
  · exact ⟨id, able_pop _⟩
  · exact ⟨id, able_submit _⟩
  · cases hx

theorem restless_floods : Restless B (Activity.floods (V := V)) := by
  intro x hx
  simp only [Activity.floods] at hx
  split at hx
  · exact ⟨id, able_clear _⟩
  · exact ⟨id, fun s t th _ => ⟨⟨0, true⟩, _, .capacityWake⟩⟩
  · exact ⟨id, able_purge _ _⟩
  · exact ⟨id, able_sweep _ _ _⟩
  · cases hx

theorem restless_alerts : Restless B (Activity.alerts (V := V)) := by
  intro x hx
  simp only [Activity.alerts] at hx
  split at hx
  · exact ⟨id, able_resizeTell _ _ _⟩
  · exact ⟨id, fun s t th _ => ⟨⟨0, true⟩, _, .resizeWake⟩⟩
  · exact ⟨id, able_stopTell _ _⟩
  · exact ⟨id, able_purge _ _⟩
  · exact ⟨id, fun s t th _ => ⟨⟨0, true⟩, _, .stopWake⟩⟩
  · cases hx

/-- Below the innermost activity stands nothing that carries weight. -/
theorem Thread.Shaped.tally_top {f : Activity V → Nat} (h : th.Shaped)
    (hf : Restless B f) (hpos : 0 < th.tally f) :
    ∃ x rest, th.stack = x :: rest ∧ th.tally f = f x ∧ 0 < f x := by
  cases hst : th.stack with
  | nil => simp [Thread.tally, hst] at hpos
  | cons x rest =>
    have heq : th.tally f = f x := h.tally_eq hst fun y hy => by
      by_contra hne
      exact (hf y (Nat.pos_of_ne_zero hne)).1 hy
    exact ⟨x, rest, rfl, heq, heq ▸ hpos⟩

/-- At rest nobody is about to wake anyone. -/
theorem State.AtRest.tally_eq_zero (h : s.AtRest) (hs : s.Shaped) {f : Activity V → Nat}
    (hf : Restless B f) (hq : f (.work .await) = 0) (hp : ∀ k, f (.submit k .push) = 0) :
    tally f s.threads = 0 := by
  by_contra hne
  obtain ⟨t, th, x, ht, hx, hpos⟩ := exists_of_tally_pos (Nat.pos_of_ne_zero hne)
  obtain ⟨y, rest, hst, -, hy⟩ := (hs.thread t th ht).tally_top hf (Thread.tally_pos hx hpos)
  rcases h.waits hs ht hst (hf y hy).2 with ⟨rfl, -⟩ | ⟨⟨k, rfl⟩, -⟩
  · omega
  · have := hp k
    omega

/-- At rest, what only those carry who can go on, and a producer that waits for
    room carries once, is carried by the producers asleep. -/
theorem State.AtRest.tally_eq_givers (h : s.AtRest) (hs : s.Shaped) {f : Activity V → Nat}
    (hf : Restless B f) (hq : f (.work .await) = 0) (hp : ∀ k, f (.submit k .push) = 1) :
    tally f s.threads = s.backlog.givers.length := by
  refine Nat.le_antisymm (tally_le_length fun t th ht hpos => ?_)
    (length_le_tally hs.givers_nodup fun t hg => ?_)
  · obtain ⟨x, rest, hst, heq, hx⟩ := (hs.thread t th ht).tally_top hf hpos
    rcases h.waits hs ht hst (hf x hx).2 with ⟨rfl, -⟩ | ⟨⟨k, rfl⟩, hm⟩
    · omega
    · exact ⟨Nat.le_of_eq (heq.trans (hp k)), hm⟩
  · obtain ⟨k, hk⟩ := hs.giver t hg
    exact tally_pos_of_top hk (by rw [hp]; exact Nat.one_pos)

/-- At rest only the workers asleep wait for a task. -/
theorem State.AtRest.attends_le (h : s.AtRest) (hs : s.Shaped) :
    tally Activity.attends s.threads ≤ s.backlog.takers.length := by
  refine tally_le_length fun t th ht hpos => ?_
  obtain ⟨x, rest, hst, heq, hx⟩ := (hs.thread t th ht).tally_top (restless_attends (B := B)) hpos
  rcases h.waits hs ht hst (restless_attends x hx).2 with ⟨rfl, hm⟩ | ⟨⟨k, rfl⟩, -⟩
  · exact ⟨Nat.le_of_eq heq, hm⟩
  · cases hx

/-- At rest only the producers asleep wait for room. -/
theorem State.AtRest.vacates_le (h : s.AtRest) (hs : s.Shaped) :
    tally Activity.vacates s.threads ≤ s.backlog.givers.length :=
  Nat.le_of_eq (h.tally_eq_givers hs restless_vacates rfl fun _ => rfl)

/-- At rest, whoever waits for a task is asleep. -/
theorem State.AtRest.mem_takers (h : s.AtRest) (hs : s.Shaped) (ht : s.Awaits t) :
    t ∈ s.backlog.takers := by
  obtain ⟨th, rest, hth, hst⟩ := top?_eq_some_iff.1 ht
  rcases h.waits hs hth hst (restless_attends (.work .await) Nat.one_pos).2 with
    ⟨-, hm⟩ | ⟨⟨k, hk⟩, -⟩
  · exact hm
  · cases hk

/-- At rest, whoever waits for room is asleep. -/
theorem State.AtRest.mem_givers (h : s.AtRest) (hs : s.Shaped) (ht : s.Pushes t) :
    t ∈ s.backlog.givers := by
  obtain ⟨k, hk⟩ := ht
  obtain ⟨th, rest, hth, hst⟩ := top?_eq_some_iff.1 hk
  rcases h.waits hs hth hst (restless_vacates (.submit k .push) Nat.one_pos).2 with
    ⟨hw, -⟩ | ⟨-, hm⟩
  · cases hw
  · exact hm

/-- At rest no worker waits beside a task. -/
theorem State.AtRest.tasks_eq_nil (h : s.AtRest) (hr : s.Reachable) (ht : s.Awaits t) :
    s.backlog.tasks = [] := by
  have hs := hr.shaped
  have hcount := hr.covered.attended (List.ne_nil_of_mem (h.mem_takers hs ht))
  have hawake := h.attends_le hs
  exact List.length_eq_zero_iff.1 (by omega)

/-- At rest a producer waits for room only where there is none. -/
theorem State.AtRest.capacity_le (h : s.AtRest) (hr : s.Reachable) (ht : s.Pushes t) :
    s.backlog.capacity ≤ s.backlog.tasks.length := by
  have hs := hr.shaped
  have hfloods : tally Activity.floods s.threads = 0 :=
    h.tally_eq_zero hs restless_floods rfl fun _ => rfl
  have hcount := hr.covered.vacated (List.ne_nil_of_mem (h.mem_givers hs ht))
  have hawake := h.vacates_le hs
  omega

/-- **No wake-up is lost.**  At rest no worker waits while there is a task, no
    producer waits while there is room, and no worker waits that was told to
    leave, or any at all after a graceful stop.  The world can do more at rest
    than wake a sleeper, so the statement covers more states than those in
    which a spurious wake-up is all that can happen. -/
theorem State.Reachable.no_lost_wakeup (h : s.Reachable) (hr : s.AtRest) :
    (s.backlog.tasks ≠ [] → ∀ t, ¬ s.Awaits t) ∧
    (∀ t, s.Pushes t → s.backlog.capacity ≤ s.backlog.tasks.length) ∧
    (∀ t, s.IsTold t → ¬ s.Awaits t) ∧
    (s.done = true → ∀ t, ¬ s.Awaits t) := by
  have hs := h.shaped
  have hc := h.covered
  have halerts : tally Activity.alerts s.threads = 0 :=
    hr.tally_eq_zero hs restless_alerts rfl fun _ => rfl
  refine ⟨fun hne t ht => ?_, fun t ht => ?_, fun t htold ht => ?_, fun hd t ht => ?_⟩
  · exact hne (hr.tasks_eq_nil h ht)
  · exact hr.capacity_le h ht
  · have hm := hr.mem_takers hs ht
    have := hc.alerted (List.ne_nil_of_mem hm) (.inr ⟨t, hm, htold⟩)
    omega
  · have := hc.alerted (List.ne_nil_of_mem (hr.mem_takers hs ht)) (.inl hd)
    omega

end

/-- A run of a pool with one worker and room for one task: the worker runs a
    task, a second one fills the backlog, and the producer of a third one
    waits for room. -/
def fullRun : List (Action Unit Unit) :=
  [paces 0 5, [.call 0 (.submit ())], paces 0 3, paces 1 3,
    [.call 0 (.submit ())], paces 0 3, [.call 0 (.submit ())], paces 0 2].flatten

theorem no_lost_wakeup_fullRun : ∃ s : State Unit Unit, s.Reachable ∧ s.AtRest ∧
    s.backlog.tasks = [1] ∧ s.Pushes 0 ∧ (∀ t, ¬ s.Awaits t) ∧ s.backlog.capacity ≤ 1 := by
  have hrun : ((State.founding "pool" false (some 1) 1 1).steps fullRun).isSome = true := rfl
  obtain ⟨s, hs⟩ := Option.isSome_iff_exists.1 hrun
  have hreach : s.Reachable := ⟨_, fullRun, ⟨_, _, _, _, _, rfl⟩, hs⟩
  have hrest : s.AtRest := by
    rintro (_ | _ | t) c <;> cases hs <;> rfl
  have htasks : s.backlog.tasks = [1] := by cases hs; rfl
  have hpush : s.Pushes 0 := by cases hs; exact ⟨2, rfl⟩
  obtain ⟨hawaits, hroom, -⟩ := hreach.no_lost_wakeup hrest
  have hcap := hroom 0 hpush
  rw [htasks] at hcap
  exact ⟨s, hreach, hrest, htasks, hpush, hawaits (by simp [htasks]), hcap⟩

end WorkerPool
