/-
  How many tasks there are at each stage.

  * `State.census q` counts the entries of the ledger at some stages;
    `State.Ledgered.length_eq`: so long is a list that names each task as often
    as its stage says;
  * `State.AtRest.rests`: at rest a task is on its way into the backlog, in it,
    taken out, in its body, or at its end;
  * `State.AtRest.census_carried` and its like: how many these are is told by
    the producers asleep, the backlog, those who hold tasks, and the threads in
    a body.
-/
import WorkerPool.Proofs.Fate

namespace WorkerPool

variable {B V : Type}

/-! ## Counting entries -/

theorem countP_eq_sum {α : Type} (p : α → Bool) (m : Multiset α) :
    m.countP (p ·) = (m.map fun e => (p e).toNat).sum := by
  induction m using Multiset.induction_on with
  | empty => rfl
  | cons e m ih =>
    rw [Multiset.map_cons, Multiset.sum_cons, ← ih, Multiset.countP_cons]
    cases p e <;> simp [Nat.add_comm]

/-- How many tasks there are at some stages. -/
def State.census (s : State B V) (q : Stage V → Bool) : Nat := s.ledger.countP fun e => q e.2

section
variable {s : State B V} {k : TaskId} {g : Stage V} {t : ThreadId} {th : Thread V} {c : Chance}
  {a : Activity V} {turn : Turn B V} {rest : List (Activity V)}

/-- A list that names each task as often as its stage says. -/
theorem State.Ledgered.length_eq (h : s.Ledgered) {q : Stage V → Bool} {l : List TaskId}
    (hlt : ∀ k ∈ l, k < s.jobs.length)
    (hc : ∀ k g, (k, g) ∈ s.ledger → l.count k = (q g).toNat) : l.length = s.census q := by
  have hcount := Multiset.sum_count_eq_card (s := Finset.range s.jobs.length) (m := l)
    fun k hk => Finset.mem_range.2 (hlt k hk)
  simp only [Multiset.coe_count, Multiset.coe_card] at hcount
  calc l.length = ((Multiset.range s.jobs.length).map (l.count ·)).sum := hcount.symm
    _ = (s.ledger.map fun e => l.count e.1).sum := by rw [← h, Multiset.map_map]; rfl
    _ = (s.ledger.map fun e => (q e.2).toNat).sum :=
        congrArg _ (Multiset.map_congr rfl fun e he => hc e.1 e.2 he)
    _ = s.census q := (countP_eq_sum (fun e => q e.2) s.ledger).symm

theorem State.Ledgered.census_true (h : s.Ledgered) : s.census (fun _ => true) = s.jobs.length := by
  have hcard := congrArg Multiset.card h
  rw [Multiset.card_map, Multiset.card_range] at hcard
  rw [State.census, Multiset.countP_eq_card.2 fun _ _ => rfl, hcard]

/-- Stages of which every task is at one are a sum of those. -/
theorem State.census_eq_sum {q : Stage V → Bool} (qs : List (Stage V → Bool))
    (h : ∀ k g, (k, g) ∈ s.ledger → (q g).toNat = (qs.map fun p => (p g).toNat).sum) :
    s.census q = (qs.map s.census).sum := by
  have key (m : Multiset (TaskId × Stage V))
      (h : ∀ e ∈ m, (q e.2).toNat = (qs.map fun p => (p e.2).toNat).sum) :
      (m.map fun e => (q e.2).toNat).sum =
        (qs.map fun p => (m.map fun e => (p e.2).toNat).sum).sum := by
    induction m using Multiset.induction_on with
    | empty => simp
    | cons e m ih =>
      simp only [Multiset.map_cons, Multiset.sum_cons]
      rw [ih fun e he => h e (Multiset.mem_cons_of_mem he), h e (Multiset.mem_cons_self e m),
        List.sum_map_add]
  have hsum : s.census = fun p => (s.ledger.map fun e => (p e.2).toNat).sum :=
    funext fun p => countP_eq_sum (fun e : TaskId × Stage V => p e.2) s.ledger
  rw [hsum]
  exact key s.ledger fun e he => h e.1 e.2 he

/-! ## Who holds how many -/

theorem countP_hands {f : Activity V → Nat} {q : Stage V → Bool}
    (hf : ∀ t a, (a.hand t).countP (fun e => q e.2) = f a) (ths : List (Thread V)) :
    (gather Thread.hand ths).countP (fun e => q e.2) = tally f ths := by
  induction ths using List.reverseRecOn with
  | nil => rfl
  | append_singleton ths th ih =>
    rw [gather_concat, Multiset.countP_add, ih, tally_append, tally_singleton, Multiset.coe_countP,
      Thread.hand, Thread.tally, List.countP_flatMap]
    simp only [Function.comp_def, Bool.decide_eq_true, hf]

theorem countP_queueEntries {q : Stage V → Bool} {b : Bool} (hb : ∀ i, q (.queued i) = b) (i : Nat)
    (ks : List TaskId) :
    (queueEntries i ks).countP (fun e => q e.2) = b.toNat * ks.length := by
  induction ks generalizing i with
  | nil => rfl
  | cons k ks ih =>
    rw [queueEntries, Multiset.countP_cons, ih, hb, List.length_cons]
    cases b <;> simp

theorem countP_heldEntries {q : Stage V → Bool} (ks : List TaskId) :
    (heldEntries ks).countP (fun e => q e.2) = (q .held).toNat * ks.length := by
  rw [heldEntries, Multiset.countP_map]
  cases hq : q .held <;> simp [hq]

/-- How many tasks are at stages at which they are not at their end, told by
    who has them. -/
theorem State.census_eq {f : Activity V → Nat} {q : Stage V → Bool} {b : Bool}
    (hf : ∀ t a, (a.hand t).countP (fun e => q e.2) = f a) (hb : ∀ i, q (.queued i) = b)
    (hr : ∀ r, q (.finished r) = false) (hd : q .dropped = false) :
    s.census q = tally f s.threads + b.toNat * s.backlog.tasks.length +
      (q .held).toNat * s.taken.length := by
  have hend : (gather Job.entry s.jobs).countP (fun e => q e.2) = 0 := by
    refine Multiset.countP_eq_zero.2 fun e he => ?_
    obtain ⟨k, job, -, he⟩ := mem_gather.1 he
    rcases (mem_entry.1 he).2 with ⟨r, -, he⟩ | ⟨-, he⟩ <;> simp [he, hr, hd]
  rw [State.census, State.ledger, State.ledgerWith, Multiset.countP_add, Multiset.countP_add,
    Multiset.countP_add, countP_hands hf, countP_queueEntries hb, countP_heldEntries, hend,
    Nat.add_zero]

end

/-! ## Stages at rest -/

namespace Stage

/-- Whether a producer has the task. -/
@[simp] def isCarried : Stage V → Bool
  | carried _ => true
  | _ => false

/-- Whether the task is in the backlog. -/
@[simp] def isQueued : Stage V → Bool
  | queued _ => true
  | _ => false

/-- Whether a caller has taken the task out and holds it. -/
@[simp] def isHeld : Stage V → Bool
  | held => true
  | _ => false

/-- Whether a thread is in the body of the task. -/
@[simp] def isInBody : Stage V → Bool
  | inBody _ => true
  | _ => false

/-- Whether the promise of the task is used up. -/
@[simp] def isClosed : Stage V → Bool
  | finished _ | dropped => true
  | _ => false

/-- Whether the task has left the backlog, or never gets into it. -/
@[simp] def isGone : Stage V → Bool
  | carried _ | queued _ => false
  | _ => true

/-- A stage at which a task can stay for ever. -/
@[simp] def rests : Stage V → Bool
  | fetched _ | skipping _ | tallying .. | settling .. | dropping => false
  | _ => true

end Stage

/-- One for a body that is being run. -/
def Activity.runs : Activity V → Nat
  | task _ _ .body => 1
  | _ => 0

/-- One for a submission whose task has not got into the backlog. -/
def Activity.carries : Activity V → Nat
  | submit _ .wake | trySubmit _ .wake => 0
  | submit .. | trySubmit .. => 1
  | _ => 0

/-- One for a call that has taken a task out and not returned. -/
def Activity.holds : Activity V → Nat
  | pop (some _) => 1
  | _ => 0

section
variable {s : State B V} {k : TaskId} {g : Stage V} {t : ThreadId} {th : Thread V} {c : Chance}
  {a : Activity V} {turn : Turn B V} {rest : List (Activity V)}

theorem runs_pos : 0 < a.runs ↔ ∃ k i, a = .task k i .body := by
  cases a with
  | task k i p => cases p <;> simp [Activity.runs]
  | _ => simp [Activity.runs]

theorem countP_hand (t : ThreadId) (a : Activity V) :
    (a.hand t).countP (fun e => e.2.isInBody) = a.runs ∧
    (a.hand t).countP (fun e => e.2.isCarried) = a.carries ∧
    (a.hand t).countP (fun e => e.2.isHeld) = a.holds ∧
    (a.hand t).countP (fun e => e.2.isQueued) = 0 := by
  cases a with
  | task k w p => cases p <;> exact ⟨rfl, rfl, rfl, rfl⟩
  | submit k p => cases p <;> exact ⟨rfl, rfl, rfl, rfl⟩
  | trySubmit k p => cases p <;> exact ⟨rfl, rfl, rfl, rfl⟩
  | work p => simp [Activity.hand, Activity.runs, Activity.carries, Activity.holds]
  | pop taken => cases taken <;> exact ⟨rfl, rfl, rfl, rfl⟩
  | clear p => simp [Activity.hand, Clearing.hand, Activity.runs, Activity.carries, Activity.holds]
  | stop g p =>
    cases p <;>
      simp [Activity.hand, Clearing.hand, Activity.runs, Activity.carries, Activity.holds]
  | discard ks r => simp [Activity.hand, Activity.runs, Activity.carries, Activity.holds]
  | _ => exact ⟨rfl, rfl, rfl, rfl⟩

theorem State.census_inBody : s.census Stage.isInBody = tally Activity.runs s.threads := by
  rw [State.census_eq (fun t a => (countP_hand t a).1) (b := false) (fun _ => rfl) (fun _ => rfl)
    rfl]
  simp

theorem tally_zero (ths : List (Thread V)) : tally (fun _ => 0) ths = 0 := by
  induction ths with
  | nil => rfl
  | cons th ths ih => simpa [tally, Thread.tally] using ih

theorem State.census_queued : s.census Stage.isQueued = s.backlog.tasks.length := by
  rw [State.census_eq (f := fun _ => 0) (fun t a => (countP_hand t a).2.2.2) (b := true)
    (fun _ => rfl) (fun _ => rfl) rfl, tally_zero]
  simp

/-! ## At rest -/

theorem able_of_task? {p : WorkPoint} (hp : p.task? = some k) :
    (Activity.work (V := V) p).Able B := by
  cases p with
  | fetched => exact able_work fun b hb => ⟨_, .fetched hb⟩
  | awaited => exact able_work fun b hb => ⟨_, .awaited hb⟩
  | clock sh => exact able_work fun b hb => ⟨_, .clock hb⟩
  | shift sh now => exact able_work fun b hb => ⟨_, .shift hb rfl⟩
  | report sh h => exact able_work fun b hb => ⟨_, .report hb⟩
  | unmark next =>
    cases hp
    exact able_work fun b hb => ⟨_, .unmark hb⟩
  | hook | fetch | check | mark | await | leave => cases hp

/-- **At rest a task is at a stage at which it can stay.** -/
theorem State.AtRest.rests (h : s.AtRest) (hr : s.Reachable) (hg : (k, g) ∈ s.ledger) :
    g.rests = true := by
  have hlt : k < s.jobs.length := hr.ledgered.lt hg
  rcases mem_ledger.1 hg with ⟨t, th, ht, a, ha, hm⟩ | ⟨i, -, rfl⟩ | ⟨-, rfl⟩ | ⟨job, -, hent⟩
  · have hshaped := hr.shaped.thread t th ht
    -- whoever holds a task at another stage could go on
    have stuck (hrest : ¬ a.Rests) (hw : a ≠ .work .await) (hp : ∀ k, a ≠ .submit k .push)
        (hd : ∃ c turn, Deed s t th c a turn) : False := by
      obtain ⟨rest, hst⟩ := hshaped.eq_cons ha hrest
      obtain ⟨c, turn, hd⟩ := hd
      rcases h.waits_of_deed hr.shaped ht hst hd with ⟨heq, -⟩ | ⟨⟨k, heq⟩, -⟩
      exacts [hw heq, hp k heq]
    have hworker : ∀ p, a = .work p → th.badge.isSome = true :=
      fun p hp => hshaped.worker p (hp ▸ ha)
    cases holds_of_mem hm with
    | @work p _ hp =>
      refine (stuck ?_ ?_ nofun (able_of_task? hp s t th hworker)).elim
      · cases p <;> first | exact id | cases hp
      · rintro ⟨⟩
        cases hp
    | @task _ w p =>
      cases p with
      | inspect =>
        exact (stuck id nofun nofun
          ⟨⟨0, true⟩, _, .inspect (List.getElem?_eq_getElem hlt)⟩).elim
      | skip => exact (stuck id nofun nofun ⟨⟨0, true⟩, _, .skip⟩).elim
      | body => rfl
      | tally o =>
        cases o with
        | returned v => exact (stuck id nofun nofun ⟨⟨0, true⟩, _, .tallyReturned⟩).elim
        | panicked p => exact (stuck id nofun nofun ⟨⟨0, true⟩, _, .tallyPanicked⟩).elim
      | settle r => exact (stuck id nofun nofun ⟨⟨0, true⟩, _, .settle⟩).elim
    | submit | trySubmit | pop => rfl
    | clear | purge | sweep | discard => exact absurd hg (h.not_dropping hr.shaped)
  · rfl
  · rfl
  · rcases hent with ⟨r, -, rfl⟩ | ⟨-, rfl⟩ <;> rfl

theorem restless_carries : Restless B (Activity.carries (V := V)) := by
  intro x hx
  cases x with
  | submit k p => exact ⟨id, able_submit _⟩
  | trySubmit k p => exact ⟨id, able_trySubmit _⟩
  | _ => cases hx

theorem restless_holds : Restless B (Activity.holds (V := V)) := by
  intro x hx
  cases x with
  | pop taken => exact ⟨id, able_pop _⟩
  | _ => cases hx

theorem State.AtRest.census_carried (h : s.AtRest) (hs : s.Shaped) :
    s.census Stage.isCarried = s.backlog.givers.length := by
  rw [State.census_eq (fun t a => (countP_hand t a).2.1) (b := false) (fun _ => rfl) (fun _ => rfl)
    rfl, h.tally_eq_givers hs restless_carries rfl fun _ => rfl]
  simp

theorem State.AtRest.census_held (h : s.AtRest) (hs : s.Shaped) :
    s.census Stage.isHeld = s.taken.length := by
  rw [State.census_eq (fun t a => (countP_hand t a).2.2.1) (b := false) (fun _ => rfl)
    (fun _ => rfl) rfl, h.tally_eq_zero hs restless_holds rfl fun _ => rfl]
  simp

/-- **Where all tasks are** at rest: on their way into the backlog, in it, or
    gone from it, and then in the hands of a caller, in their bodies, or at
    their end. -/
theorem State.AtRest.census_split (h : s.AtRest) (hr : s.Reachable) :
    s.jobs.length =
      s.census Stage.isCarried + s.census Stage.isQueued + s.census Stage.isGone ∧
    s.census Stage.isGone =
      s.census Stage.isHeld + s.census Stage.isInBody + s.census Stage.isClosed := by
  constructor
  · rw [← hr.ledgered.census_true,
      State.census_eq_sum [Stage.isCarried, Stage.isQueued, Stage.isGone] fun k g hg => ?_]
    · simp [Nat.add_assoc]
    · cases g <;> rfl
  · rw [State.census_eq_sum [Stage.isHeld, Stage.isInBody, Stage.isClosed] fun k g hg => ?_]
    · simp [Nat.add_assoc]
    · have hrests := h.rests hr hg
      cases g <;> first | rfl | cases hrests

end

end WorkerPool
