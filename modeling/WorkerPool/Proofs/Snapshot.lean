/-
  Snapshots that are read while everything moves.

  The numbers of a snapshot are read one after another, and all of them may
  change in between; one of them also goes down.  What has ended is read before
  what was submitted, and a task is counted as submitted before it can end.

  * `State.Reachable.ended_le`: at no time have more tasks ended than were
    submitted, by the counters;
  * `Metrics.Shows`: what a snapshot shows that is still being read, against
    the counters as they stand and as they stood when it was begun;
  * `Move.faithful`: no action makes a snapshot show more or less than that;
  * `State.Reachable.snapshots`: no snapshot shows more ends than submissions.
-/
import WorkerPool.Proofs.Accounts

namespace WorkerPool

variable {B V : Type}

/-! ## Counters of ends -/

/-- How many tasks have ended, by the counters. -/
def Counters.ended (n : Counters) : Nat := n.completed + n.failed + n.discarded

/-- How many tasks have ended, by a snapshot. -/
def Metrics.ended (m : Metrics) : Nat := m.completed + m.failed + m.discarded

/-- No counter of ends stands higher than in `n'`. -/
structure Counters.Below (n n' : Counters) : Prop where
  completed : n.completed ≤ n'.completed
  failed : n.failed ≤ n'.failed
  discarded : n.discarded ≤ n'.discarded

theorem Counters.Below.refl (n : Counters) : n.Below n :=
  ⟨Nat.le_refl _, Nat.le_refl _, Nat.le_refl _⟩

theorem Counters.Below.trans {n n' n'' : Counters} (h : n.Below n') (h' : n'.Below n'') :
    n.Below n'' :=
  ⟨h.completed.trans h'.completed, h.failed.trans h'.failed, h.discarded.trans h'.discarded⟩

section
variable {s s' : State B V} {t : ThreadId} {th : Thread V} {c : Chance} {a : Activity V}
  {turn : Turn B V}

theorem Sweep.counters {p : Clearing} {o : Clearing ⊕ Nat} (hp : Sweep s p s' o) :
    s.counters.Below s'.counters := by
  cases hp with
  | count n => exact ⟨Nat.le_refl _, Nat.le_refl _, Nat.le_add_right _ _⟩
  | _ => exact .refl _

/-- What has ended is never taken back. -/
theorem Deed.counters (hd : Deed s t th c a turn) : s.counters.Below turn.state.counters := by
  cases hd with
  | skip => exact ⟨Nat.le_refl _, Nat.le_refl _, Nat.le_succ _⟩
  | tallyReturned => exact ⟨Nat.le_succ _, Nat.le_refl _, Nat.le_refl _⟩
  | tallyPanicked => exact ⟨Nat.le_refl _, Nat.le_succ _, Nat.le_refl _⟩
  | clear hp | clearEnd hp | purge hp | purgeEnd hp | sweep hp | sweepEnd hp => exact hp.counters
  | _ => exact ⟨Nat.le_refl _, Nat.le_refl _, Nat.le_refl _⟩

theorem Opening.counters {cl : Call B} {next : List (Activity V)} (ho : Opening s cl s' next) :
    s'.counters = s.counters := by
  cases ho <;> rfl

theorem Move.counters {x : Action B V} (hm : Move s x s') : s.counters.Below s'.counters := by
  cases hm with
  | @call t c th s₁ next _ _ _ ho =>
    show s.counters.Below s₁.counters
    rw [ho.counters]
    exact .refl _
  | run _ _ _ hd => exact hd.counters
  | _ => exact .refl _

end

/-! ## Ends and submissions -/

section
variable {k : TaskId} {es : List (Event V)} {g : Stage V}

/-- A task that has come to an end has left the backlog for it, and ends once. -/
theorem count_ended_le (h : g.Log k (own k es)) (hc : CancelledFirst k es ↔ g.IsSkipped) :
    (returned es ++ panicked es ++ swept es ++ skipped es).count k ≤ (departures es).count k := by
  simp only [returned, panicked, swept, skipped, List.count_append, count_filter, decide_eq_true_eq]
  rw [departures, count_tasksOf fun _ => rfl, count_tasksOf fun _ => rfl, count_tasksOf fun _ => rfl,
    count_tasksOf fun _ => rfl, count_tasksOf fun _ => rfl]
  generalize own k es = l at h
  have hno (hg : ¬ g.IsSkipped) : ¬ CancelledFirst k es := fun h => hg (hc.1 h)
  cases h with
  | carried | queued | refused => simp
  | held u => simp [List.countP_cons]
  | fetched h => rcases h with rfl | ⟨u, rfl⟩ <;> simp [List.countP_cons]
  | skipping h =>
    have hyes : CancelledFirst k es := hc.2 trivial
    rcases h with rfl | ⟨u, rfl⟩ <;> simp [List.countP_cons, hyes]
  | inBody h =>
    rcases h with rfl | ⟨u, rfl⟩ <;> simp [List.countP_cons, hno id]
  | tallying o h =>
    rcases h with rfl | ⟨u, rfl⟩ <;> cases o <;> simp [List.countP_cons, hno id]
  | settling h | finished h =>
    cases h with
    | skipped h =>
      have hyes : CancelledFirst k es := hc.2 rfl
      rcases h with rfl | ⟨u, rfl⟩ <;> simp [List.countP_cons, hyes]
    | ended o h =>
      have hfirst := hno o.result_ne.1
      rcases h with rfl | ⟨u, rfl⟩ <;> cases o <;> simp [List.countP_cons, hfirst]
  | dropping r | dropped r => cases r <;> simp [List.countP_cons]

end

section
variable {s s' : State B V} {t : ThreadId} {as : List (Action B V)}

/-- As many tasks at least have left the backlog as have come to an end. -/
theorem State.Founded.ended_subperm {s₀ : State B V} (h₀ : s₀.Founded)
    (has : s₀.steps as = some s) :
    (returned (s₀.chronicle as) ++ panicked (s₀.chronicle as) ++ swept (s₀.chronicle as) ++
      skipped (s₀.chronicle as)).Subperm (departures (s₀.chronicle as)) := by
  refine List.subperm_ext_iff.2 fun k hk => ?_
  have hlt : k < s.jobs.length := by
    simp only [List.mem_append, or_assoc] at hk
    rcases hk with hk | hk | hk | hk
    · exact h₀.lt_of_mem_tasksOf has (fun _ => rfl) hk
    · exact h₀.lt_of_mem_tasksOf has (fun _ => rfl) hk
    · exact h₀.lt_of_mem_tasksOf has (fun _ => rfl) hk
    · exact h₀.lt_of_mem_tasksOf has (fun _ => rfl) (List.mem_filter.1 hk).1
  obtain ⟨g, hg⟩ := ((Reachable.of_founded h₀).run has).ledgered.exists hlt
  exact count_ended_le (h₀.story has hg).log (h₀.cancelledFirst_iff has hg)

/-- **The counters never show more ends than submissions**, not even while a
    submission is on its way or is about to be taken back. -/
theorem State.Reachable.ended_le (h : s.Reachable) :
    s.counters.ended + tally Activity.pushes s.threads ≤ s.counters.submitted := by
  obtain ⟨s₀, as, h₀, has⟩ := h
  have hbook := h₀.booked has
  have hends := (h₀.ended_subperm has).length_le
  have hbegun := (h₀.begun_perm has).length_eq
  have harrived := congrArg List.length (h₀.arrivals_eq has)
  simp only [List.length_append] at hends hbegun harrived
  have hcom := hbook.completed
  have hfail := hbook.failed
  have hdis := hbook.discarded
  rw [← length_tasksOf] at hcom hfail
  rw [← length_tasksOf, ← length_tasksOf, ← length_tasksOf] at hdis
  rw [hbook.submitted, Counters.ended]
  simp only [returned, panicked, swept, calls] at *
  omega

end

/-! ## Reading a snapshot -/

/-- How many gauges are read before this one. -/
def Gauge.rank : Gauge → Nat
  | roster => 0
  | completed => 1
  | failed => 2
  | discarded => 3
  | queued => 4
  | capacity => 5
  | submitted => 6

/-- A snapshot that is about to read the gauge `g` shows no more ends than
    `hi`, and where it was read, no fewer than `lo`. -/
structure Metrics.Shows (lo hi : Counters) (g : Gauge) (m : Metrics) : Prop where
  completed_le : m.completed ≤ hi.completed
  failed_le : m.failed ≤ hi.failed
  discarded_le : m.discarded ≤ hi.discarded
  le_completed : 1 < g.rank → lo.completed ≤ m.completed
  le_failed : 2 < g.rank → lo.failed ≤ m.failed
  le_discarded : 3 < g.rank → lo.discarded ≤ m.discarded

namespace Metrics.Shows

variable {lo hi hi' : Counters} {g g' : Gauge} {m m' : Metrics} {s s' : State B V}

theorem zero : Metrics.zero.Shows lo hi .roster :=
  ⟨Nat.zero_le _, Nat.zero_le _, Nat.zero_le _, nofun, nofun, nofun⟩

theorem mono (h : m.Shows lo hi g) (hle : hi.Below hi') : m.Shows lo hi' g :=
  ⟨h.completed_le.trans hle.completed, h.failed_le.trans hle.failed,
    h.discarded_le.trans hle.discarded, h.le_completed, h.le_failed, h.le_discarded⟩

/-- Reading a gauge. -/
theorem measure (h : m.Shows lo s.counters g) (hlo : lo.Below s.counters)
    (hg : s.measure m g = some ⟨s', [.measure g' m'], none⟩) : m'.Shows lo s.counters g' := by
  obtain ⟨h₁, h₂, h₃, h₄, h₅, h₆⟩ := h
  have hc := hlo.completed
  have hf := hlo.failed
  have hd := hlo.discarded
  cases g <;> simp only [State.measure, Turn.go, Turn.answer, Turn.blocked,
    Option.ite_none_left_eq_some, Option.some.injEq, Turn.mk.injEq, List.cons.injEq,
    Activity.measure.injEq, reduceCtorEq, and_true, and_false] at hg
  case roster =>
    obtain ⟨-, -, rfl, rfl⟩ := hg
    exact ⟨h₁, h₂, h₃, by simp [Gauge.rank], by simp [Gauge.rank], by simp [Gauge.rank]⟩
  all_goals
    obtain ⟨-, rfl, rfl⟩ := hg
    constructor <;> simp_all [Gauge.rank]

end Metrics.Shows

/-- The last gauge says how many were submitted. -/
theorem measured_eq {s s' : State B V} {g : Gauge} {m : Metrics} {r : Reply V}
    (hg : s.measure m g = some ⟨s', [], some r⟩) :
    g = .submitted ∧ r = .metrics { m with submitted := s.counters.submitted } := by
  cases g <;> simp only [State.measure, Turn.go, Turn.answer, Turn.blocked,
    Option.ite_none_left_eq_some, Option.some.injEq, Turn.mk.injEq, List.cons_ne_nil, reduceCtorEq,
    and_false] at hg
  obtain ⟨-, -, rfl⟩ := hg
  exact ⟨rfl, rfl⟩

/-! ## What the threads show -/

/-- A snapshot that was read shows no more ends than submissions. -/
def Reply.Faithful (lo hi : Counters) : Reply V → Prop
  | metrics m => m.Shows lo hi .submitted ∧ m.ended ≤ m.submitted
  | _ => True

/-- Snapshots are read, and come from nowhere else. -/
def Activity.Faithful (lo hi : Counters) : Activity V → Prop
  | measure g m => m.Shows lo hi g
  | teardown r | discard _ r => ∀ m, r ≠ .metrics m
  | _ => True

/-- What a thread reads for a snapshot, or has got as one, fits counters that went from `lo`
    to `hi` meanwhile. -/
structure Thread.Faithful (lo hi : Counters) (th : Thread V) : Prop where
  stack : ∀ a ∈ th.stack, a.Faithful lo hi
  reply : ∀ r, th.reply = some r → r.Faithful lo hi

section
variable {lo hi hi' : Counters} {s s' : State B V} {t u : ThreadId} {th w : Thread V} {c : Chance}
  {a : Activity V} {turn : Turn B V} {rest : List (Activity V)}

theorem Reply.Faithful.mono {r : Reply V} (h : r.Faithful lo hi) (hle : hi.Below hi') :
    r.Faithful lo hi' := by
  cases r with
  | metrics m => exact ⟨h.1.mono hle, h.2⟩
  | _ => trivial

theorem Activity.Faithful.mono (h : a.Faithful lo hi) (hle : hi.Below hi') :
    a.Faithful lo hi' := by
  cases a with
  | measure g m => exact Metrics.Shows.mono h hle
  | teardown | discard => exact h
  | _ => trivial

/-- What waits below others reads no snapshot. -/
theorem Activity.Rests.faithful {lo' : Counters} (h : a.Rests) (ha : a.Faithful lo hi) :
    a.Faithful lo' hi' := by
  cases a with
  | measure g m => exact h.elim
  | teardown | discard => exact ha
  | _ => trivial

namespace Thread.Faithful

theorem mono (h : th.Faithful lo hi) (hle : hi.Below hi') : th.Faithful lo hi' :=
  ⟨fun a ha => (h.stack a ha).mono hle, fun r hr => (h.reply r hr).mono hle⟩

theorem same (h : th.Faithful lo hi) (hs : th.Same w) : w.Faithful lo hi :=
  ⟨by rw [hs.stack]; exact h.stack, by rw [hs.reply]; exact h.reply⟩

theorem outside : (Thread.outside : Thread V).Faithful lo hi := ⟨nofun, nofun⟩

theorem ofWorker (i : Nat) (hooked : Bool) : (Thread.worker i hooked : Thread V).Faithful lo hi := by
  refine ⟨fun a ha => ?_, nofun⟩
  rw [List.mem_singleton.1 ha]
  trivial

/-- A turn puts nothing on the stack and replies nothing but what is faithful. -/
theorem settle {next : List (Activity V)} {r : Option (Reply V)} (h : th.Faithful lo hi)
    (hn : ∀ x ∈ next, x.Faithful lo hi) (hr : ∀ r', r = some r' → r'.Faithful lo hi) :
    Thread.Faithful lo hi
      { th with stack := next ++ th.stack.tail, reply := r <|> th.reply } := by
  refine ⟨fun a ha => ?_, fun r' hr' => ?_⟩
  · rcases List.mem_append.1 ha with ha | ha
    · exact hn a ha
    · exact h.stack a (List.mem_of_mem_tail ha)
  · cases r with
    | none => exact h.reply r' hr'
    | some r₁ => exact hr r' hr'

end Thread.Faithful

/-! ## Every action -/

/-- What a thread does next is as faithful as what it did. -/
theorem Deed.next_faithful (hd : Deed s t th c a turn) (ha : a.Faithful lo s.counters)
    (hlo : lo.Below s.counters) : ∀ x ∈ turn.next, x.Faithful lo turn.state.counters := by
  cases hd with
  | fetched | unmark | reserve | buildRefused | buildPanicked | leave | leaveLast
  | reserveOverflow => simp [runNext, Activity.Faithful]
  | measure hg => exact List.forall_mem_singleton.2 (Metrics.Shows.measure ha hlo hg)
  | teardown | teardownLast | discard => exact List.forall_mem_singleton.2 ha
  | _ => first | exact List.forall_mem_nil _ | exact List.forall_mem_singleton.2 trivial

theorem ask_ne_metrics {q : Query} {r : Reply V} (hq : s.ask q = some ⟨s', [], some r⟩)
    (m : Metrics) : r ≠ .metrics m := by
  rintro rfl
  cases q <;> simp [State.ask, Turn.answer, Turn.blocked] at hq

theorem receive_ne_metrics {k : TaskId} {how : Asking} {r : Reply V}
    (hq : s.receive k how = some ⟨s', [], some r⟩) (m : Metrics) : r ≠ .metrics m := by
  rintro rfl
  cases how with
  | once =>
    simp only [State.receive] at hq
    split at hq
    · cases hq
    · rename_i job _
      cases h : (job.promise.tryTake (.error .discarded)).2 <;>
        simp [h, Turn.answer] at hq
  | _ => simp only [State.receive] at hq; split at hq <;> cases hq

theorem Reply.Faithful.of_ne {r : Reply V} (h : ∀ m, r ≠ .metrics m) : r.Faithful lo hi := by
  cases r with
  | metrics m => exact absurd rfl (h m)
  | _ => trivial

/-- A snapshot is done when it has read how many were submitted. -/
theorem Deed.reply_faithful (hd : Deed s t th c a turn) (ha : a.Faithful lo s.counters)
    (hle : s.counters.ended ≤ s.counters.submitted) :
    ∀ r, turn.reply = some r → r.Faithful lo turn.state.counters := by
  rintro r hr
  cases hd with
  | discarded => cases hr; exact .of_ne ha
  | ask hq => cases hr; exact .of_ne (ask_ne_metrics hq)
  | receive hq => cases hr; exact .of_ne (receive_ne_metrics hq)
  | measured hg =>
    cases hr
    obtain ⟨rfl, hm⟩ := measured_eq hg
    cases hm
    have hshows : Metrics.Shows lo s.counters .submitted _ := ha
    obtain ⟨h₁, h₂, h₃, h₄, h₅, h₆⟩ := hshows
    refine ⟨⟨h₁, h₂, h₃, h₄, h₅, h₆⟩, ?_⟩
    simp only [Metrics.ended, Counters.ended] at *
    omega
  | _ => cases hr <;> trivial

theorem Opening.next_faithful {cl : Call B} {next : List (Activity V)}
    (ho : Opening s cl s' next) : ∀ x ∈ next, x.Faithful lo hi := by
  cases ho with
  | metrics => exact List.forall_mem_singleton.2 Metrics.Shows.zero
  | drop | runTaken | dropTaken => simp [Activity.Faithful]
  | _ => exact List.forall_mem_singleton.2 trivial

theorem settleTurn_faithful (ht : turn.state.threads[t]? = some th) (h : th.Faithful lo hi)
    (hn : ∀ x ∈ turn.next, x.Faithful lo hi) (hr : ∀ r, turn.reply = some r → r.Faithful lo hi)
    (hw : (State.settleTurn t turn).threads[t]? = some w) : w.Faithful lo hi := by
  rcases getElem?_modify_cases hw with ⟨hne, -⟩ | ⟨th', -, ht', rfl⟩
  · exact absurd rfl hne
  · cases ht.symm.trans ht'
    exact h.settle hn hr

/-- **No action makes a snapshot show too much or too little.** -/
theorem Move.faithful {x : Action B V} (hm : Move s x s')
    (hle : s.counters.ended ≤ s.counters.submitted) (hlo : lo.Below s.counters)
    (h : ∀ w, s.threads[u]? = some w → w.Faithful lo s.counters) (hw : s'.threads[u]? = some w) :
    w.Faithful lo s'.counters := by
  cases hu : s.threads[u]? with
  | none =>
    have hnext := hm.thread hw
    rw [hu] at hnext
    cases hnext with
    | outside => exact .outside
    | worker i => exact .ofWorker i _
  | some th =>
    by_cases hact : x.actor? = some u
    · -- the thread itself has moved
      have hth := h th hu
      cases hm with
      | arrive | rouse | tick => cases hact
      | @call t c _ s₁ next ht hf hl ho =>
        cases hact
        rcases getElem?_modify_cases hw with ⟨hne, -⟩ | ⟨th', -, ht', rfl⟩
        · exact absurd rfl hne
        rw [ho.threads] at ht'
        cases hu.symm.trans ht'
        show Thread.Faithful lo s₁.counters _
        rw [ho.counters]
        refine ⟨fun a ha => ?_, nofun⟩
        rcases List.mem_append.1 ha with ha | ha
        exacts [ho.next_faithful a ha, hth.stack a ha]
      | finish ht hs | hook ht hs | expire ht hs =>
        cases hact
        refine settleTurn_faithful hu hth ?_ ?_ hw <;> simp [Activity.Faithful, Reply.Faithful]
      | hookPanic ht hs =>
        cases hact
        rcases getElem?_modify_cases hw with ⟨hne, -⟩ | ⟨th', -, ht', rfl⟩
        · exact absurd rfl hne
        have hth' : th'.Faithful lo s.counters := by
          refine settleTurn_faithful hu hth ?_ ?_ ht' <;> simp [Activity.Faithful]
        exact ⟨hth'.stack, hth'.reply⟩
      | @run _ _ _ a _ _ _ ht hs hd =>
        cases hact
        cases hu.symm.trans ht
        have ha := hth.stack a (Thread.mem_of_stack hs)
        obtain ⟨th', ht', hsame⟩ := hd.same ht
        exact settleTurn_faithful ht' ((hth.mono hd.counters).same hsame)
          (hd.next_faithful ha hlo) (hd.reply_faithful ha hle) hw
    · obtain ⟨w', hw', hsame⟩ := hm.same hact hu
      cases hw.symm.trans hw'
      exact ((h th hu).mono hm.counters).same hsame

end

/-! ## Snapshots -/

section
variable {s s' : State B V} {t : ThreadId} {th : Thread V}

theorem Counters.Below.zero (n : Counters) : Counters.Below ⟨0, 0, 0, 0⟩ n :=
  ⟨Nat.zero_le _, Nat.zero_le _, Nat.zero_le _⟩

theorem State.Reachable.faithful (h : s.Reachable) (ht : s.threads[t]? = some th) :
    th.Faithful ⟨0, 0, 0, 0⟩ s.counters := by
  refine h.induct (P := fun s => ∀ th, s.threads[t]? = some th →
    th.Faithful ⟨0, 0, 0, 0⟩ s.counters) ?_ ?_ th ht
  · rintro s ⟨name, hooked, capacity, interval, workers, rfl⟩ th ht
    obtain rfl := List.mem_singleton.1 (List.mem_of_getElem? ht)
    refine ⟨fun a ha => ?_, nofun⟩
    rw [List.mem_singleton.1 ha]
    trivial
  · intro s x s' hr ih hm th ht
    exact hm.faithful ((Nat.le_add_right _ _).trans hr.ended_le) (.zero _) ih ht

/-- What a thread replies after it has begun to read a snapshot was read since
    then. -/
theorem State.Reachable.faithful_since (h : s.Reachable) {s₁ : State B V}
    (hm : Move s (.call t .metrics) s₁) {bs : List (Action B V)} (hbs : s₁.steps bs = some s')
    (ht : s'.threads[t]? = some th) : th.Faithful s.counters s'.counters := by
  have hr₁ : s₁.Reachable := h.next hm
  have hc : s₁.counters = s.counters := by
    cases hm with
    | call _ _ _ ho => cases ho; rfl
  have hbegun : ∀ w, s₁.threads[t]? = some w → w.Faithful s.counters s₁.counters := by
    intro w hw
    rw [hc]
    cases hm with
    | @call _ _ th₀ _ next hth₀ hf _ ho =>
      cases ho
      rcases getElem?_modify_cases hw with ⟨hne, -⟩ | ⟨th', -, ht', rfl⟩
      · exact absurd rfl hne
      cases hth₀.symm.trans ht'
      refine ⟨fun a ha => ?_, nofun⟩
      rcases List.mem_cons.1 ha with rfl | ha
      · exact Metrics.Shows.zero
      · -- below the call stand only activities that wait for it
        exact ((h.shaped.thread t th₀ hth₀).rests hf ha).faithful
          ((h.faithful hth₀).stack a ha)
  refine (hr₁.keep (P := fun s₂ => s.counters.Below s₂.counters ∧
    ∀ w, s₂.threads[t]? = some w → w.Faithful s.counters s₂.counters) ?_
    ⟨by rw [hc]; exact .refl _, hbegun⟩ hbs).2 th ht
  rintro s₂ x s₃ hr₂ ⟨hlo, hw⟩ hm₂
  exact ⟨hlo.trans hm₂.counters, fun w =>
    hm₂.faithful ((Nat.le_add_right _ _).trans hr₂.ended_le) hlo hw⟩

/-- **No snapshot shows more ends than submissions**, whatever the other
    threads do while it is read.  Every number of ends that it shows lies
    between what the counter said when the snapshot was begun and what it says
    now.  The counters themselves never show more ends than submissions, and
    the count that a refused submission takes back is one that is there. -/
theorem State.Reachable.snapshots (h : s.Reachable) :
    (∀ (t : ThreadId) (th : Thread V) (m : Metrics), s.threads[t]? = some th →
      th.reply = some (.metrics m) → m.completed + m.failed + m.discarded ≤ m.submitted) ∧
    (∀ (t : ThreadId) (s₁ s' : State B V) (bs : List (Action B V)) (th : Thread V) (m : Metrics),
      s.step (.call t .metrics) = some s₁ → s₁.steps bs = some s' →
      s'.threads[t]? = some th → th.reply = some (.metrics m) →
        m.completed + m.failed + m.discarded ≤ m.submitted ∧
        s.counters.completed ≤ m.completed ∧ m.completed ≤ s'.counters.completed ∧
        s.counters.failed ≤ m.failed ∧ m.failed ≤ s'.counters.failed ∧
        s.counters.discarded ≤ m.discarded ∧ m.discarded ≤ s'.counters.discarded) ∧
    s.counters.completed + s.counters.failed + s.counters.discarded ≤ s.counters.submitted ∧
    (∀ t k c s', s.top? t = some (.trySubmit k .uncount) → s.run t c = some s' →
      s'.counters.submitted + 1 = s.counters.submitted) := by
  have hle := h.ended_le
  refine ⟨?_, ?_, (Nat.le_add_right _ _).trans hle, ?_⟩
  · intro t th m ht hm
    have hshows : _ ∧ m.ended ≤ m.submitted := (h.faithful ht).reply _ hm
    exact hshows.2
  · intro t s₁ s' bs th m hcall hbs ht hm
    have hshows : m.Shows s.counters s'.counters .submitted ∧ m.ended ≤ m.submitted :=
      (h.faithful_since (step_iff.1 hcall) hbs ht).reply _ hm
    exact ⟨hshows.2, hshows.1.le_completed (by decide), hshows.1.completed_le,
      hshows.1.le_failed (by decide), hshows.1.failed_le,
      hshows.1.le_discarded (by decide), hshows.1.discarded_le⟩
  · intro t k c s' htop hrun
    obtain ⟨-, th, a, rest, turn, ht, hs, hd, rfl⟩ := run_iff.1 hrun
    obtain ⟨th', rest', ht', hs'⟩ := top?_eq_some_iff.1 htop
    cases ht.symm.trans ht'
    cases hs.symm.trans hs'
    have hone : 0 < tally Activity.pushes s.threads :=
      tally_pos ht (Thread.mem_of_stack hs) Nat.one_pos
    cases hd with
    | tryUncount => exact Nat.sub_add_cancel (by omega)

end

/-- A run after which one body is run, the backlog is full, and a submission
    that does not wait is about to take its count back. -/
def refusedRun : List (Action Unit Unit) :=
  [paces 0 5, [.call 0 (.submit ())], paces 0 3, paces 1 3, [.call 0 (.submit ())], paces 0 3,
    [.call 0 (.trySubmit ())], paces 0 2, [.arrive]].flatten

/-- A snapshot is read meanwhile; between its readings the body ends, and the
    count is taken back. -/
def readingRun : List (Action Unit Unit) :=
  [paces 2 1, [.finish 1 (.returned ())], paces 1 1, paces 2 5, paces 0 1, paces 2 1].flatten

set_option maxRecDepth 4000 in
theorem snapshots_readingRun : ∃ (s s₁ s₂ s' : State Unit Unit) (th : Thread Unit) (m : Metrics),
    (State.founding "pool" false (some 1) 1 1).steps refusedRun = some s ∧
    s.top? 0 = some (.trySubmit 2 .uncount) ∧ s.run 0 ⟨0, true⟩ = some s₂ ∧
    s₂.counters.submitted + 1 = s.counters.submitted ∧
    s.step (.call 2 .metrics) = some s₁ ∧ s₁.steps readingRun = some s' ∧
    s'.threads[2]? = some th ∧ th.reply = some (.metrics m) ∧
    m.completed + m.failed + m.discarded ≤ m.submitted ∧
    s.counters.completed = 0 ∧ m.completed = 1 ∧ s.counters.submitted = 3 ∧ m.submitted = 2 := by
  have hrun : ((State.founding "pool" false (some 1) 1 1).steps refusedRun).isSome = true := rfl
  obtain ⟨s, hs⟩ := Option.isSome_iff_exists.1 hrun
  have hr : s.Reachable := ⟨_, _, State.founded_founding, hs⟩
  obtain ⟨-, hsince, -, hback⟩ := hr.snapshots
  have htop : s.top? 0 = some (.trySubmit 2 .uncount) := by cases hs; rfl
  obtain ⟨s₂, hs₂⟩ := Option.isSome_iff_exists.1
    (show (s.run 0 ⟨0, true⟩).isSome = true by cases hs; rfl)
  obtain ⟨s₁, hs₁⟩ := Option.isSome_iff_exists.1
    (show (s.step (.call 2 .metrics)).isSome = true by cases hs; rfl)
  obtain ⟨s', hs'⟩ := Option.isSome_iff_exists.1
    (show (s₁.steps readingRun).isSome = true by cases hs; cases hs₁; rfl)
  have hth : ∃ th, s'.threads[2]? = some th ∧
      th.reply = some (.metrics ⟨1, 0, 1, 1, 2, 1, 0, 0⟩) := by
    cases hs; cases hs₁; cases hs'; exact ⟨_, rfl, rfl⟩
  obtain ⟨th, hth, hm⟩ := hth
  exact ⟨s, s₁, s₂, s', th, _, hs, htop, hs₂, hback 0 2 _ s₂ htop hs₂, hs₁, hs', hth, hm,
    (hsince 2 s₁ s' _ th _ hs₁ hs' hth hm).1, by cases hs; rfl, rfl, by cases hs; rfl, rfl⟩

end WorkerPool
