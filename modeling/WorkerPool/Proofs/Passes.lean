/-
  What becomes of the tasks that a stop throws away.

  * `State.load` weighs what one thread is in the middle of, `Move.draws` bounds
    what its steps draw from the weight;
  * `State.discardedBy` is what a thread adds to the counter of discarded
    tasks while it stops the pool; `steps_discardedBy`: together with what it
    has not counted yet, so many tasks have its passes taken out of the backlog;
  * `State.Founded.thrown`: such a task is in the hand of a pass, or dropped;
    `State.Founded.thrown_away`: then its handle says so, and it is never called.
-/
import WorkerPool.Proofs.Booking
import WorkerPool.Proofs.Closing
import WorkerPool.Proofs.Fate

namespace WorkerPool

variable {B V : Type}

/-! ## The weight of one thread -/

/-- The weight of what a thread is in the middle of. -/
def State.load (s : State B V) (f : Activity V → Nat) (t : ThreadId) : Nat :=
  (s.threads[t]?.map (Thread.tally f)).getD 0

section
variable {s s' : State B V} {t : ThreadId} {th : Thread V} {c : Chance} {a : Activity V}
  {turn : Turn B V} {rest : List (Activity V)} {f : Activity V → Nat}

theorem load_eq (ht : s.threads[t]? = some th) : s.load f t = th.tally f := by
  rw [State.load, ht]
  rfl

theorem load_eq_zero (ht : s.threads[t]? = some th) (h : ∀ a ∈ th.stack, f a = 0) :
    s.load f t = 0 := by
  rw [load_eq ht, Thread.tally, List.sum_eq_zero_iff_forall_eq_nat]
  intro n hn
  obtain ⟨a, ha, rfl⟩ := List.mem_map.1 hn
  exact h a ha

/-- What another thread does weighs nothing here. -/
theorem Move.load_other {x : Action B V} (hm : Move s x s') (hx : x.actor? ≠ some t)
    (ht : s.threads[t]? = some th) : s'.load f t = s.load f t := by
  obtain ⟨w, hw, hsame⟩ := hm.same hx ht
  rw [load_eq ht, load_eq hw, Thread.tally, Thread.tally, hsame.stack]

theorem Deed.load (hd : Deed s t th c a turn) (ht : s.threads[t]? = some th)
    (hs : th.stack = a :: rest) :
    (State.settleTurn t turn).load f t + f a = s.load f t + (turn.next.map f).sum := by
  obtain ⟨w, hw, hst⟩ := hd.stack ht hs
  rw [load_eq ht, load_eq hw, Thread.tally, Thread.tally, hst, hs, List.map_append,
    List.sum_append, List.map_cons, List.sum_cons]
  omega

theorem load_settleTurn {l : List (Activity V)} {r : Option (Reply V)}
    (ht : s.threads[t]? = some th) (hs : th.stack = a :: rest) :
    (State.settleTurn t ⟨s, l, r⟩).load f t + f a = s.load f t + (l.map f).sum := by
  simp only [State.settleTurn]
  rw [load_eq (getElem?_modifyThread_self ht), load_eq ht, Thread.tally, Thread.tally, hs,
    List.tail_cons, List.map_append, List.sum_append, List.map_cons, List.sum_cons]
  omega

theorem load_modify_stack {u : ThreadId} {g : Thread V → Thread V}
    (hg : ∀ w, (g w).stack = w.stack) : (s.modifyThread t g).load f u = s.load f u := by
  simp only [State.load, State.modifyThread, List.getElem?_modify]
  by_cases hu : t = u <;> cases s.threads[u]? <;> simp [hu, Thread.tally, hg]

theorem Move.exists_thread {x : Action B V} (hm : Move s x s') (ht : s.threads[t]? = some th) :
    ∃ w, s'.threads[t]? = some w := by
  by_cases hx : x.actor? = some t
  · cases hm with
    | arrive | rouse | tick => cases hx
    | call _ _ _ ho =>
      cases hx
      exact ⟨_, getElem?_modifyThread_self (ho.threads ▸ ht)⟩
    | finish | hook | expire =>
      cases hx
      exact ⟨_, getElem?_modifyThread_self ht⟩
    | hookPanic =>
      cases hx
      exact ⟨_, getElem?_modifyThread_self (getElem?_modifyThread_self ht)⟩
    | run _ _ _ hd =>
      cases hx
      obtain ⟨w, hw, -⟩ := hd.same ht
      exact ⟨_, getElem?_modifyThread_self hw⟩
  · obtain ⟨w, hw, -⟩ := hm.same hx ht
    exact ⟨w, hw⟩

/-- What the world does to a thread adds no weight, if there is none in what a
    call begins with and in what follows a body or a start hook. -/
theorem Move.load_le {x : Action B V} (hm : Move s x s') (hx : ∀ c, x ≠ .run t c)
    (ht : s.threads[t]? = some th)
    (hopen : ∀ {cl s₁ next}, Opening s cl s₁ next → (next.map f).sum = 0)
    (hbody : ∀ k i o, f (.task k i (.tally o)) ≤ f (.task k i .body))
    (hfetch : f (.work .fetch) ≤ f (.work .hook)) (hleave : f (.work .leave) ≤ f (.work .hook)) :
    s'.load f t ≤ s.load f t := by
  by_cases ha : x.actor? = some t
  · cases hm with
    | arrive | rouse | tick => cases ha
    | run => cases ha; exact absurd rfl (hx _)
    | call _ _ _ ho =>
      cases ha
      rw [load_eq (getElem?_modifyThread_self (ho.threads ▸ ht)), load_eq ht, Thread.tally,
        List.map_append, List.sum_append, hopen ho, Nat.zero_add]
      exact Nat.le_refl _
    | @finish _ o _ k i _ ht' hs =>
      cases ha
      have heq := load_settleTurn (f := f) (l := [.task k i (.tally o)]) (r := none) ht' hs
      have := hbody k i o
      simp only [List.map_cons, List.map_nil, List.sum_cons, List.sum_nil] at heq
      omega
    | hook ht' hs =>
      cases ha
      have heq := load_settleTurn (f := f) (l := [.work .fetch]) (r := none) ht' hs
      simp only [List.map_cons, List.map_nil, List.sum_cons, List.sum_nil] at heq
      omega
    | hookPanic ht' hs =>
      cases ha
      have heq := load_settleTurn (f := f) (l := [.work .leave]) (r := none) ht' hs
      rw [load_modify_stack (by intros; rfl)]
      simp only [List.map_cons, List.map_nil, List.sum_cons, List.sum_nil] at heq
      omega
    | expire ht' hs =>
      cases ha
      have heq := load_settleTurn (f := f) (l := [])
        (r := some (.result (.error .timedOut))) ht' hs
      simp only [List.map_nil, List.sum_nil] at heq
      omega
  · exact Nat.le_of_eq (hm.load_other ha ht)

/-- What only the steps of the thread itself draw from a weight is at most what
    the weight loses. -/
theorem Move.draws {x : Action B V} {cost : Nat} (hm : Move s x s') (ht : s.threads[t]? = some th)
    (hrun : ∀ {c a turn}, x = .run t c → s.top? t = some a → Deed s t th c a turn →
      (turn.next.map f).sum + cost ≤ f a)
    (hother : (∀ c, x ≠ .run t c) → cost = 0)
    (hopen : ∀ {cl s₁ next}, Opening s cl s₁ next → (next.map f).sum = 0)
    (hbody : ∀ k i o, f (.task k i (.tally o)) ≤ f (.task k i .body))
    (hfetch : f (.work .fetch) ≤ f (.work .hook)) (hleave : f (.work .leave) ≤ f (.work .hook)) :
    s'.load f t + cost ≤ s.load f t := by
  by_cases hx : ∃ c, x = .run t c
  · obtain ⟨c, rfl⟩ := hx
    cases hm with
    | run _ ht' hs hd =>
      cases ht.symm.trans ht'
      have hload := hd.load (f := f) ht hs
      have hcost := hrun rfl (top?_eq_some_iff.2 ⟨th, _, ht, hs⟩) hd
      omega
  · have hx : ∀ c, x ≠ .run t c := fun c h => hx ⟨c, h⟩
    rw [hother hx, Nat.add_zero]
    exact hm.load_le hx ht hopen hbody hfetch hleave

end

/-! ## What a stop counts -/

/-- How many tasks a stop has thrown away without having counted them. -/
def Activity.uncounted : Activity V → Nat
  | stop _ (.purge p) | stop _ (.sweep p _) => p.uncounted
  | _ => 0

/-- Whether an activity is a stop. -/
def Activity.isStop : Activity V → Bool
  | stop .. => true
  | _ => false

/-- A pass of a stop of this thread takes a task out of the backlog. -/
@[simp] def Event.isThrownBy (t : ThreadId) : Event V → Bool
  | removed _ (.stop u _) => u == t
  | _ => false

namespace State

/-- What an action that leads to `s'` adds to the counter of discarded tasks,
    if it is a step in which thread `t` stops the pool. -/
def discarding (s s' : State B V) (t : ThreadId) : Action B V → Nat
  | .run u _ =>
    if u = t ∧ (s.top? t).any Activity.isStop then s'.counters.discarded - s.counters.discarded
    else 0
  | _ => 0

/-- What thread `t` adds to the counter of discarded tasks while it stops the
    pool. -/
def discardedBy (s : State B V) (t : ThreadId) : List (Action B V) → Nat
  | [] => 0
  | x :: xs =>
    match s.step x with
    | some s' => s.discarding s' t x + s'.discardedBy t xs
    | none => 0

end State

section
variable {s s' : State B V} {t : ThreadId} {th : Thread V} {c : Chance} {a : Activity V}
  {turn : Turn B V} {k : TaskId} {g : Bool}

theorem Deed.discarded_le {p : StopPoint} (hd : Deed s t th c (.stop g p) turn) :
    s.counters.discarded ≤ turn.state.counters.discarded := by
  cases hd with
  | purge hp | purgeEnd hp | sweep hp | sweepEnd hp =>
    cases hp <;> first | exact Nat.le_refl _ | exact Nat.le_add_right _ _
  | _ => exact Nat.le_refl _

/-- A step of a stop counts what its passes have taken out, sooner or later. -/
theorem Deed.uncounts {p : StopPoint} (hd : Deed s t th c (.stop g p) turn) :
    turn.state.counters.discarded + (turn.next.map Activity.uncounted).sum =
      s.counters.discarded + Activity.uncounted (V := V) (.stop g p) +
        (s.doing t (.stop g p)).countP (Event.isThrownBy t) := by
  cases hd with
  | purge hp | sweep hp => exact hp.discards (fun _ => beq_self_eq_true t) fun _ => rfl
  | purgeEnd hp | sweepEnd hp => cases hp; rfl
  | _ => rfl

/-- Whoever does not stop the pool throws nothing away for a stop. -/
theorem Deed.uncounted_eq_zero (hd : Deed s t th c a turn) (ha : a.isStop = false) :
    a.uncounted = 0 ∧ (turn.next.map Activity.uncounted).sum = 0 := by
  cases hd with
  | gracefulAgain | graceful | forcedAgain | forced | stopTold | stopTell | purge | purgeEnd
  | stopWake | disband | joined | join | inspectNone | inspectLeft | sweep | sweepEnd
  | stopClose => cases ha
  | _ => exact ⟨rfl, rfl⟩

/-- Which step it is in which a stop takes a task out. -/
theorem thrown_of_mem {x : Action B V} {e : Event V} (he : e ∈ s.events x)
    (ht : e.isThrownBy t = true) :
    ∃ c a k g, x = .run t c ∧ s.top? t = some a ∧ e = .removed k (.stop t g) ∧
      (a = .stop g (.purge .drain) ∨ ∃ n, a = .stop g (.sweep .drain n)) := by
  rcases yields_of_mem_events he with ⟨u, c, a, rfl, ha, hy⟩ | ⟨_, _, _, _, -, -, rfl⟩
  · cases hy with
    | @purge k g =>
      obtain rfl : u = t := by simpa using ht
      exact ⟨c, _, k, g, rfl, ha, rfl, .inl rfl⟩
    | @sweep k g n =>
      obtain rfl : u = t := by simpa using ht
      exact ⟨c, _, k, g, rfl, ha, rfl, .inr ⟨n, rfl⟩⟩
    | _ => cases ht
  · cases ht

theorem countP_thrown_eq_zero {x : Action B V}
    (h : ∀ c a, x = .run t c → s.top? t = some a → a.isStop = false) :
    (s.events x).countP (Event.isThrownBy t) = 0 := by
  refine List.countP_eq_zero.2 fun e he ht => ?_
  obtain ⟨c, a, k, g, rfl, ha, rfl, hp⟩ := thrown_of_mem he ht
  have hstop := h c a rfl ha
  rcases hp with rfl | ⟨n, rfl⟩ <;> cases hstop

/-- **What a stop takes out of the backlog it counts**: in every action the
    counter, what is not counted yet and the removals are in balance. -/
theorem Move.discarding {x : Action B V} (hm : Move s x s') (hs : s.Shaped)
    (ht : s.threads[t]? = some th) :
    s.discarding s' t x + s'.load Activity.uncounted t =
      s.load Activity.uncounted t + (s.events x).countP (Event.isThrownBy t) := by
  by_cases hx : ∃ c, x = .run t c
  · obtain ⟨c, rfl⟩ := hx
    cases hm with
    | @run _ _ th' a rest turn hw ht' hst hd =>
      cases ht.symm.trans ht'
      have htop := top?_eq_some_iff.2 ⟨th, rest, ht, hst⟩
      have hload := hd.load (f := Activity.uncounted) ht hst
      cases ha : a.isStop with
      | true =>
        cases a with
        | stop g p =>
          have hle := hd.discarded_le
          have hcount := hd.uncounts
          have hdis : s.discarding (State.settleTurn t turn) t (.run t c) =
              turn.state.counters.discarded - s.counters.discarded := by
            simp [State.discarding, htop, Activity.isStop, State.settleTurn, State.modifyThread]
          simp only [State.events, htop]
          omega
        | _ => cases ha
      | false =>
        obtain ⟨hzero, hnext⟩ := hd.uncounted_eq_zero ha
        have hdis : s.discarding (State.settleTurn t turn) t (.run t c) = 0 := by
          simp [State.discarding, htop, ha]
        have hnone : (s.events (.run t c)).countP (Event.isThrownBy t) = 0 := by
          refine countP_thrown_eq_zero fun c a' _ ha' => ?_
          cases htop.symm.trans ha'
          exact ha
        omega
  · have hx : ∀ c, x ≠ .run t c := fun c h => hx ⟨c, h⟩
    have hdis : s.discarding s' t x = 0 := by
      unfold State.discarding
      split
      · refine if_neg ?_
        rintro ⟨rfl, -⟩
        exact hx _ rfl
      · rfl
    have hnone : (s.events x).countP (Event.isThrownBy t) = 0 :=
      countP_thrown_eq_zero fun c a h => absurd h (hx c)
    have hload : s'.load Activity.uncounted t = s.load Activity.uncounted t := by
      by_cases ha : x.actor? = some t
      · -- whoever has something to count is in the middle of a stop, and takes its step
        have hle : s'.load Activity.uncounted t ≤ s.load Activity.uncounted t :=
          hm.load_le hx ht (fun ho => by cases ho <;> rfl) (fun _ _ _ => Nat.le_refl 0)
            (Nat.le_refl 0) (Nat.le_refl 0)
        by_contra hne
        have hpos : 0 < th.tally Activity.uncounted := by
          rw [load_eq ht] at hle hne
          omega
        obtain ⟨a, hmem, hpos⟩ := Thread.exists_of_tally_pos hpos
        cases a with
        | stop g p =>
          obtain ⟨rest, hst⟩ := (hs.thread t th ht).eq_cons hmem id
          obtain ⟨c, _, rfl, -⟩ := hm.stop_step ha ht hst
          exact hx c rfl
        | _ => cases hpos
      · exact hm.load_other ha ht
    omega

/-- **What a stop adds to the counter** in a run is what its passes have taken
    out, but for what they have not counted. -/
theorem steps_discardedBy {bs : List (Action B V)} (hr : s.Reachable)
    (ht : s.threads[t]? = some th) (hbs : s.steps bs = some s') :
    s.discardedBy t bs + s'.load Activity.uncounted t =
      s.load Activity.uncounted t + (s.chronicle bs).countP (Event.isThrownBy t) := by
  induction bs generalizing s th with
  | nil =>
    cases hbs
    exact Nat.zero_add _
  | cons x bs ih =>
    obtain ⟨s₁, hm, hbs⟩ := steps_cons.1 hbs
    have hstep := step_iff.2 hm
    obtain ⟨th₁, ht₁⟩ := hm.exists_thread ht
    have hrest := ih (hr.next hm) ht₁ hbs
    have hbal := hm.discarding hr.shaped ht
    rw [chronicle_cons hstep, List.countP_append]
    simp only [State.discardedBy, hstep]
    omega

/-- If nothing is left to be counted before and after, the two are the same. -/
theorem State.Reachable.discardedBy_eq {bs : List (Action B V)} {th' : Thread V} (hr : s.Reachable)
    (ht : s.threads[t]? = some th) (hth : ∀ a ∈ th.stack, a.uncounted = 0)
    (hbs : s.steps bs = some s') (ht' : s'.threads[t]? = some th')
    (hth' : ∀ a ∈ th'.stack, a.uncounted = 0) :
    s.discardedBy t bs = (s.chronicle bs).countP (Event.isThrownBy t) := by
  have hbal := steps_discardedBy hr ht hbs
  rw [load_eq_zero ht hth, load_eq_zero ht' hth'] at hbal
  omega

end

/-! ## What a stop throws away -/

/-- The tasks in the hand of a pass of a stop. -/
def Activity.sweeping : Activity V → List TaskId
  | stop _ (.purge p) | stop _ (.sweep p _) => p.tasks
  | _ => []

section
variable {s s' : State B V} {t : ThreadId} {th : Thread V} {c : Chance} {a : Activity V}
  {turn : Turn B V} {k : TaskId} {g : Bool}

theorem Sweep.tasks {p : Clearing} {o : Clearing ⊕ Nat} (hp : Sweep s p s' o) (r : Remover)
    (hk : k ∈ p.tasks) : (∃ p', o = .inl p' ∧ k ∈ p'.tasks) ∨ .dropped k ∈ s.cleared r p := by
  cases hp with
  | drain | dropped | count => cases hk
  | wake ks => exact .inl ⟨_, rfl, hk⟩
  | drop k' ks n =>
    rcases List.mem_cons.1 hk with rfl | hk
    · exact .inr List.mem_cons_self
    · exact .inl ⟨_, rfl, hk⟩

/-- What a pass has in its hand it keeps or drops. -/
theorem Deed.sweeping (hd : Deed s t th c a turn) (hk : k ∈ a.sweeping) :
    (∃ b, turn.next = [b] ∧ k ∈ b.sweeping) ∨ .dropped k ∈ s.doing t a := by
  cases hd with
  | purge hp | sweep hp =>
    rcases hp.tasks _ hk with ⟨p', heq, hk⟩ | hdrop
    · cases heq
      exact .inl ⟨_, rfl, hk⟩
    · exact .inr hdrop
  | purgeEnd hp | sweepEnd hp =>
    rcases hp.tasks _ hk with ⟨p', heq, -⟩ | hdrop
    · cases heq
    · exact .inr hdrop
  | _ => cases hk

/-- A step that drops a task brings it to its end. -/
theorem Move.drops {x : Action B V} (hm : Move s x s') (h : s.Ledgered)
    (hk : .dropped k ∈ s.events x) : (k, .dropped) ∈ s'.ledger := by
  have hlt : k < s.jobs.length := hm.own_lt h hk rfl
  obtain ⟨g, hg⟩ := h.exists hlt
  obtain ⟨g', hg', hn⟩ := hm.stage h hg
  have hown : .dropped k ∈ own k (s.events x) := mem_own.2 ⟨hk, rfl, rfl⟩
  generalize own k (s.events x) = es at hn hown
  cases hn with
  | refuse | drop => exact hg'
  | _ => simp at hown

/-- A task that a pass takes out is in its hand. -/
theorem Move.thrown {x : Action B V} (hm : Move s x s') (hk : .removed k (.stop t g) ∈ s.events x) :
    ∃ a, s'.top? t = some a ∧ k ∈ a.sweeping := by
  obtain ⟨c, a, k', g', rfl, ha, heq, hp⟩ := thrown_of_mem hk (beq_self_eq_true t)
  cases heq
  obtain ⟨th, rest, ht, hs⟩ := top?_eq_some_iff.1 ha
  obtain ⟨g, p, rfl⟩ : ∃ g p, a = .stop g p := by
    rcases hp with rfl | ⟨n, rfl⟩ <;> exact ⟨_, _, rfl⟩
  obtain ⟨_, turn, heq, hd, rfl⟩ := hm.stop_step rfl ht hs
  obtain ⟨w, hw, hst⟩ := hd.stack ht hs
  have hmem : k ∈ s.backlog.tasks := by
    simp only [State.events, ha] at hk
    rcases hp with hp | ⟨n, hp⟩
    · cases hp
      simpa [State.doing, State.cleared, State.emptied] using hk
    · cases hp
      simpa [State.doing, State.cleared, State.emptied] using hk
  rcases hp with hp | ⟨n, hp⟩
  · cases hp
    cases hd with
    | purge hp => cases hp; exact ⟨_, top?_eq_some_iff.2 ⟨w, _, hw, hst⟩, hmem⟩
    | purgeEnd hp => cases hp
  · cases hp
    cases hd with
    | sweep hp => cases hp; exact ⟨_, top?_eq_some_iff.2 ⟨w, _, hw, hst⟩, hmem⟩
    | sweepEnd hp => cases hp

/-- A task in the hand of a pass stays there or is dropped. -/
theorem Move.sweeping {x : Action B V} (hm : Move s x s') (h : s.Ledgered)
    (ht : s.top? t = some a) (hk : k ∈ a.sweeping) :
    (∃ b, s'.top? t = some b ∧ k ∈ b.sweeping) ∨ (k, .dropped) ∈ s'.ledger := by
  by_cases hx : x.actor? = some t
  · obtain ⟨th, rest, hth, hs⟩ := top?_eq_some_iff.1 ht
    cases a with
    | stop g p =>
      obtain ⟨c, turn, rfl, hd, rfl⟩ := hm.stop_step hx hth hs
      rcases hd.sweeping hk with ⟨b, hnext, hk⟩ | hdrop
      · obtain ⟨w, hw, hst⟩ := hd.stack hth hs
        exact .inl ⟨b, top?_eq_some_iff.2 ⟨w, rest, hw, by rw [hst, hnext]; rfl⟩, hk⟩
      · exact .inr (hm.drops h (by simpa only [State.events, ht] using hdrop))
    | _ => cases hk
  · exact .inl ⟨a, hm.top? hx ht, hk⟩

/-- **A task that a pass of a stop has taken out** is in the hand of the pass,
    or dropped. -/
theorem State.Founded.thrown {s₀ : State B V} (h₀ : s₀.Founded) {as : List (Action B V)}
    (has : s₀.steps as = some s) (hk : .removed k (.stop t g) ∈ s₀.chronicle as) :
    (∃ a, s.top? t = some a ∧ k ∈ a.sweeping) ∨ (k, .dropped) ∈ s.ledger := by
  refine h₀.run_induct (P := fun s es => ∀ k g, .removed k (.stop t g) ∈ es →
    (∃ a, s.top? t = some a ∧ k ∈ a.sweeping) ∨ (k, .dropped) ∈ s.ledger) has nofun ?_ k g hk
  intro s₁ s₂ x es hr ih hm k g hk
  rcases List.mem_append.1 hk with hk | hk
  · rcases ih k g hk with ⟨a, ha, hk⟩ | hdrop
    · exact hm.sweeping hr.ledgered ha hk
    · exact .inr (steps_final hr.ledgered (steps_cons.2 ⟨s₂, hm, steps_nil s₂⟩) hdrop rfl)
  · exact .inl (hm.thrown hk)

/-- A task that was dropped has not been called. -/
theorem State.Founded.called_not_mem {s₀ : State B V} (h₀ : s₀.Founded)
    {as : List (Action B V)} (has : s₀.steps as = some s) (hg : (k, .dropped) ∈ s.ledger) :
    .called k ∉ s₀.chronicle as := by
  intro hc
  have hnone := (h₀.story has hg).log.countP_calls_dropped rfl
  exact List.countP_eq_zero.1 hnone _ (mem_own.2 ⟨hc, rfl, rfl⟩) (by simp [Event.calls])

/-- **What the passes of a stop have thrown away** is discarded, when the thread
    of the stop is in none any more, and never called. -/
theorem State.Founded.thrown_away {s₀ : State B V} (h₀ : s₀.Founded) {as : List (Action B V)}
    (has : s₀.steps as = some s) (ht : s.threads[t]? = some th)
    (hth : ∀ a ∈ th.stack, a.sweeping = []) (hk : .removed k (.stop t g) ∈ s₀.chronicle as) :
    s.Resolved k (.error .discarded) ∧
      ∀ cs s', s.steps cs = some s' → .called k ∉ s₀.chronicle (as ++ cs) := by
  have hl : s.Ledgered := ((Reachable.of_founded h₀).run has).ledgered
  rcases h₀.thrown has hk with ⟨a, ha, hmem⟩ | hg
  · obtain ⟨w, below, hw, hst⟩ := top?_eq_some_iff.1 ha
    cases ht.symm.trans hw
    rw [hth a (Thread.mem_of_stack hst)] at hmem
    cases hmem
  · refine ⟨hl.resolved hg rfl, fun cs s' hcs => ?_⟩
    exact h₀.called_not_mem (steps_append.2 ⟨s, has, hcs⟩) (steps_final hl hcs hg rfl)

end

end WorkerPool
