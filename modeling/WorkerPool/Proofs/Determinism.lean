/-
  Calm runs come to the same end.

  * `Event.IsCalm`: all that happens in a calm run is that workers take tasks
    out and run them, and that bodies end as they must;
  * `State.Completes`: a calm run is at rest, with all bodies ended;
    `State.Completes.finished`: then it has done all that it was given to do;
  * `schedule_independent`: so two such runs agree, whatever the numbers of
    workers, the capacities, the producers and the schedules.
-/
import WorkerPool.Proofs.Calm
import WorkerPool.Proofs.Room

namespace WorkerPool

variable {B V : Type}

/-! ## What happens in a calm run -/

/-- An event of a calm run, in which bodies end as `f` says. -/
def Event.IsCalm (f : B → Outcome V) (s : State B V) : Event V → Prop
  | .removed _ (.worker _) | .begun _ | .called _ | .sent .. => True
  | .ended k o => ∃ job, s.jobs[k]? = some job ∧ o = f job.body
  | _ => False

section
variable {s s' : State B V} {t : ThreadId} {th w : Thread V} {c : Chance} {a : Activity V}
  {turn : Turn B V} {rest : List (Activity V)} {f : B → Outcome V} {x : Action B V} {n : Nat}
  {k : TaskId} {e : Event V}

theorem Deed.body (hd : Deed s t th c a turn) (k : TaskId) :
    turn.state.jobs[k]?.map Job.body = s.jobs[k]?.map Job.body := by
  cases hd with
  | settle | tryDrop | discard | cancel => exact map_modify (by intros; rfl) k
  | receive hr => exact receive_blind blind_body hr k
  | joinAll hs hw hp => exact pollSlots_blind blind_body hp k
  | clear hp | clearEnd hp | purge hp | purgeEnd hp | sweep hp | sweepEnd hp =>
    cases hp <;> first | rfl | exact map_modify (by intros; rfl) k
  | _ => rfl

/-- A task keeps its body. -/
theorem Move.body (hm : Move s x s') {job : Job B V} (hj : s.jobs[k]? = some job) :
    ∃ job', s'.jobs[k]? = some job' ∧ job'.body = job.body := by
  cases hm with
  | call _ _ _ ho =>
    cases ho with
    | submit | trySubmit =>
      have hlt := (List.getElem?_eq_some_iff.1 hj).1
      exact ⟨job, (List.getElem?_append_left hlt).trans hj, rfl⟩
    | _ => exact ⟨job, hj, rfl⟩
  | run _ _ _ hd =>
    have hbody := hd.body k
    rw [hj, Option.map_some, Option.map_eq_some_iff] at hbody
    exact hbody
  | _ => exact ⟨job, hj, rfl⟩

theorem Event.IsCalm.next (h : e.IsCalm f s) (hm : Move s x s') : e.IsCalm f s' := by
  cases e with
  | ended k o =>
    obtain ⟨job, hj, rfl⟩ := h
    obtain ⟨job', hj', hb⟩ := hm.body hj
    exact ⟨job', hj', hb ▸ rfl⟩
  | removed k r => cases r <;> exact h
  | _ => exact h

theorem Event.isCalm_relieved {u : ThreadId} (he : e ∈ s.relieved (.worker u)) : e.IsCalm f s := by
  obtain ⟨k, -, rfl⟩ := List.mem_map.1 he
  trivial

theorem Thread.Tranquil.isCalm (h : w.Tranquil) (hs : w.stack = a :: rest) (he : e ∈ s.doing t a) :
    e.IsCalm f s := by
  cases h with
  | idle _ hst => rw [hst] at hs; cases hs
  | calling _ hst ha =>
    cases hst.symm.trans hs
    cases a with
    | submit | setCapacity | ask | measure | isCancelled | receive | joinAll => cases he
    | _ => cases ha
  | @looping p _ hst hp =>
    cases hst.symm.trans hs
    cases p with
    | fetch | await => exact Event.isCalm_relieved he
    | leave => exact absurd trivial hp
    | _ => cases he
  | @running k i p _ hst =>
    cases hst.symm.trans hs
    cases p with
    | inspect =>
      simp only [State.doing] at he
      split at he <;> simp only [List.mem_cons, List.not_mem_nil, or_false] at he
      · rw [he]
        trivial
      · rcases he with rfl | rfl <;> trivial
    | settle r =>
      cases List.mem_singleton.1 he
      trivial
    | _ => cases he

/-- What a calm run allows yields calm events. -/
theorem State.Calm.events (h : s.Calm n) (hl : s.life ≠ .dropped) (hr : s.Ledgered)
    (hx : s.Allows f x) (he : e ∈ s.events x) : e.IsCalm f s := by
  cases x with
  | run t c =>
    simp only [State.events] at he
    split at he
    · rename_i a ht
      obtain ⟨th, rest, hth, hst⟩ := top?_eq_some_iff.1 ht
      by_cases hf : t ≠ 0 ∨ s.life = .serving
      · exact (h.others t th hth hf).isCalm hst he
      · simp only [not_or, ne_eq, not_not] at hf
        obtain ⟨rfl, hserving⟩ := hf
        obtain ⟨th', hth', -, hfounder⟩ := h.founder (by cases hlife : s.life <;> simp_all)
        cases hth.symm.trans hth'
        obtain ⟨_, _, heq, -, -, ha⟩ := hfounder.top
        cases hst.symm.trans heq
        rcases ha with rfl | ⟨p, rfl⟩ | rfl <;> cases he
    · cases he
  | finish t o =>
    simp only [State.events] at he
    split at he
    · rename_i k w ht
      cases List.mem_singleton.1 he
      obtain ⟨th, rest, hth, hst⟩ := top?_eq_some_iff.1 ht
      have hmem : (k, .inBody t) ∈ s.ledger :=
        mem_ledger.2 (.inl ⟨t, th, hth, _, Thread.mem_of_stack hst, List.mem_singleton.2 rfl⟩)
      have hjob := List.getElem?_eq_getElem (hr.lt hmem)
      refine ⟨_, hjob, hx _ ?_⟩
      simp only [State.body?, ht]
      rw [hjob]
      rfl
    · cases he
  | _ => cases he

end

section
variable {s s' : State B V} {t : ThreadId} {th : Thread V} {f : B → Outcome V} {n : Nat}
  {name : String} {hooked : Bool} {capacity : Option Nat} {interval : Nat}
  {as : List (Action B V)} {k : TaskId} {e : Event V}

/-- **All that happens in a calm run is calm.** -/
theorem isCalm_of_mem_chronicle
    (has : (State.founding name hooked capacity interval n).steps as = some s)
    (h : (State.founding name hooked capacity interval n).RunsCalmly f as)
    (hl : s.life ≠ .dropped)
    (he : e ∈ (State.founding name hooked capacity interval n).chronicle as) : e.IsCalm f s := by
  induction as using List.reverseRecOn generalizing s with
  | nil => cases he
  | append_singleton as x ih =>
    obtain ⟨s₁, has₁, hm⟩ := steps_concat.1 has
    obtain ⟨hinit, hlast⟩ := runsCalmly_concat has₁ h
    have hr : s₁.Reachable := (State.Reachable.of_founded State.founded_founding).run has₁
    have hl₁ : s₁.life ≠ .dropped := fun hd => hl (hm.dropped hr.alive hd)
    rw [chronicle_concat has₁ hm] at he
    rcases List.mem_append.1 he with he | he
    · exact (ih has₁ hinit hl₁ he).next hm
    · exact ((steps_calm has₁ hinit hl₁).events hl₁ hr.ledgered hlast he).next hm

end

/-! ## Complete runs -/

/-- A list of the places at which a list has a member of a kind. -/
theorem length_eq_countP_of_mem {α : Type} {xs : List α} {q : α → Bool} {l : List Nat}
    (hl : l.Nodup) (h : ∀ k, k ∈ l ↔ ∃ x, xs[k]? = some x ∧ q x = true) :
    l.length = xs.countP q := by
  have hcount : (List.range xs.length).countP (fun k => xs[k]?.any q) = xs.countP q := by
    clear h
    induction xs using List.reverseRecOn with
    | nil => rfl
    | append_singleton xs x ih =>
      have hinit : (List.range xs.length).countP (fun k => (xs ++ [x])[k]?.any q) =
          xs.countP q := by
        rw [← ih]
        refine List.countP_congr fun k hk => ?_
        rw [List.getElem?_append_left (List.mem_range.1 hk)]
      rw [List.length_append, List.length_singleton, List.range_succ, List.countP_append, hinit,
        List.countP_singleton, List.getElem?_concat_length, Option.any_some, List.countP_append,
        List.countP_singleton]
  rw [← hcount, List.countP_eq_length_filter]
  refine List.Perm.length_eq ((List.perm_ext_iff_of_nodup hl (List.nodup_range.filter _)).2 ?_)
  intro k
  rw [h, List.mem_filter, List.mem_range, Option.any_eq_true]
  constructor
  · rintro ⟨x, hx, hq⟩
    exact ⟨(List.getElem?_eq_some_iff.1 hx).1, x, hx, hq⟩
  · rintro ⟨-, x, hx, hq⟩
    exact ⟨x, hx, hq⟩

/-- A calm run, in which bodies end as `f` says, has come to rest: these bodies
    were submitted and the pool stands, and no thread is in a body or in a start
    hook. -/
structure State.Completes (f : B → Outcome V) (bodies : List B) (s₀ : State B V)
    (as : List (Action B V)) (s : State B V) : Prop where
  run : s₀.steps as = some s
  calm : s₀.RunsCalmly f as
  serving : s.life = .serving
  rest : s.AtRest
  ended : ∀ t k w, s.top? t ≠ some (.task k w .body)
  entered : ∀ t, s.top? t ≠ some (.work .hook)
  begun : (s.jobs.map Job.body).Perm bodies

namespace Outcome

/-- Whether a body returned. -/
@[simp] def isReturned : Outcome V → Bool
  | returned _ => true
  | panicked _ => false

end Outcome

/-- All the work that was given to a pool is done. -/
structure State.Finished (f : B → Outcome V) (bodies : List B) (s : State B V) : Prop where
  returned : ∀ (t : ThreadId) (th : Thread V), s.threads[t]? = some th →
    ∀ k p, .submit k p ∉ th.stack
  emptied : s.backlog.tasks = []
  resolved : ∀ k job, s.jobs[k]? = some job → s.Resolved k (f job.body).result
  completed : s.counters.completed = bodies.countP fun b => (f b).isReturned
  failed : s.counters.failed = bodies.countP fun b => !(f b).isReturned
  discarded : s.counters.discarded = 0

namespace State.Completes

variable {f : B → Outcome V} {bodies : List B} {s : State B V} {n : Nat} {name : String}
  {hooked : Bool} {capacity : Option Nat} {interval : Nat} {as : List (Action B V)} {k : TaskId}
  {t : ThreadId} {th : Thread V} {g : Stage V}

section
variable (h : Completes f bodies (.founding name hooked capacity interval n) as s)
include h

theorem reachable : s.Reachable := (Reachable.of_founded founded_founding).run h.run

theorem isCalm : s.Calm n := steps_calm h.run h.calm (by rw [h.serving]; nofun)

theorem tranquil (ht : s.threads[t]? = some th) : th.Tranquil :=
  h.isCalm.others t th ht (.inr h.serving)

/-- At the end no thread runs a task. -/
theorem not_isInTask : ¬ s.IsInTask t := by
  rintro ⟨w, hw, k, i, hmem⟩
  cases h.tranquil hw with
  | idle _ hs => rw [hs] at hmem; cases hmem
  | calling _ hs ha =>
    rw [hs] at hmem
    cases List.mem_singleton.1 hmem
    cases ha
  | looping _ hs => rw [hs] at hmem; cases List.mem_singleton.1 hmem
  | @running k' i' p _ hs =>
    rw [hs] at hmem
    rcases List.mem_cons.1 hmem with heq | hmem
    · exact h.ended t k i (top?_eq_some_iff.2 ⟨w, _, hw, heq ▸ hs⟩)
    · cases List.mem_singleton.1 hmem

/-- At the end every worker waits for a task. -/
theorem awaits (hb : (s.badge? t).isSome = true) : s.Awaits t := by
  rcases h.rest.worker h.reachable hb with ⟨w, hw, hend⟩ | hhook | ha | htask
  · obtain ⟨hbadge, hs⟩ := hasEnded_iff.1 hend
    cases h.tranquil hw with
    | idle hn => rw [hn] at hbadge; cases hbadge
    | calling _ hst | looping _ hst | running _ hst => rw [hst] at hs; cases hs
  · exact absurd hhook (h.entered t)
  · exact ha
  · exact absurd htask h.not_isInTask

/-- At the end the backlog is empty. -/
theorem tasks_eq_nil (hn : 0 < n) : s.backlog.tasks = [] := by
  have hsize : 0 < s.roster.length := by
    have hcrew : s.size = n := h.isCalm.crew h.serving
    rwa [← hcrew] at hn
  have hworker := h.reachable.ruled.worker _ (List.getElem_mem hsize)
  exact h.rest.tasks_eq_nil h.reachable (h.awaits hworker)

/-- At the end no producer waits for room. -/
theorem not_pushes (hn : 0 < n) : ¬ s.Pushes t := by
  intro ht
  have hroom := h.rest.capacity_le h.reachable ht
  have hone := h.reachable.one_le_capacity
  rw [h.tasks_eq_nil hn, List.length_nil] at hroom
  omega

/-- At the end every submission has returned. -/
theorem submit_not_mem (hn : 0 < n) (ht : s.threads[t]? = some th) (k : TaskId) (p : SubmitPoint) :
    .submit k p ∉ th.stack := by
  intro hmem
  cases h.tranquil ht with
  | idle _ hs => rw [hs] at hmem; cases hmem
  | looping _ hs | running _ hs => rw [hs] at hmem; simp at hmem
  | calling _ hs =>
    rw [hs] at hmem
    cases List.mem_singleton.1 hmem
    rcases h.rest.waits h.reachable.shaped ht hs (able_submit p) with ⟨ha, -⟩ | ⟨-, hm⟩
    · cases ha
    · exact h.not_pushes hn (h.reachable.shaped.giver t hm)

theorem isCalm_of_mem {e : Event V}
    (he : e ∈ (State.founding name hooked capacity interval n).chronicle as) : e.IsCalm f s :=
  isCalm_of_mem_chronicle h.run h.calm (by rw [h.serving]; nofun) he

theorem not_dropped :
    .dropped k ∉ (State.founding name hooked capacity interval n).chronicle as :=
  h.isCalm_of_mem

theorem not_cancelledFirst :
    ¬ CancelledFirst k ((State.founding name hooked capacity interval n).chronicle as) := by
  rintro ⟨es₁, es₂, hes, hc⟩
  have hmem : .cancelled k ∈ (State.founding name hooked capacity interval n).chronicle as := by
    rw [hes]
    exact List.mem_append_left _ hc
  exact h.isCalm_of_mem hmem

/-- At the end every task is at its end. -/
theorem exists_result (hn : 0 < n) (hg : (k, g) ∈ s.ledger) : ∃ r, g.result? = some r := by
  have hlog := (founded_founding.story h.run hg).log
  have hrests := h.rest.rests h.reachable hg
  cases g with
  | carried t =>
    have hgiver := h.rest.carried h.reachable.shaped hg
    exact absurd (h.reachable.shaped.giver t hgiver) (h.not_pushes hn)
  | queued i =>
    have hmem := mem_tasks_iff.2 ⟨i, hg⟩
    rw [h.tasks_eq_nil hn] at hmem
    cases hmem
  | held =>
    generalize hl : own k _ = l at hlog
    cases hlog with
    | held u =>
      have hmem := (mem_own.1 (hl ▸ List.mem_singleton_self _)).1
      exact (h.isCalm_of_mem hmem).elim
  | inBody t =>
    have hzero : s.census Stage.isInBody = 0 := by
      rw [State.census_inBody]
      by_contra hne
      obtain ⟨t, w, a, hw, ha, hpos⟩ := exists_of_tally_pos (Nat.pos_of_ne_zero hne)
      obtain ⟨k, i, rfl⟩ := runs_pos.1 hpos
      exact h.not_isInTask ⟨w, hw, k, i, ha⟩
    exact absurd rfl (Multiset.countP_eq_zero.1 hzero _ hg)
  | finished r => exact ⟨r, rfl⟩
  | dropped => exact ⟨_, rfl⟩
  | _ => cases hrests

/-- The bodies that have ended are those of all tasks, each as it must. -/
theorem ended_iff (hn : 0 < n) {o : Outcome V} :
    .ended k o ∈ (State.founding name hooked capacity interval n).chronicle as ↔
      ∃ job, s.jobs[k]? = some job ∧ o = f job.body := by
  refine ⟨h.isCalm_of_mem, ?_⟩
  rintro ⟨job, hj, rfl⟩
  obtain ⟨g, hg⟩ := h.reachable.ledgered.exists (List.getElem?_eq_some_iff.1 hj).1
  obtain ⟨r, hr⟩ := h.exists_result hn hg
  rcases fate_iff.1 (founded_founding.fate h.run hg hr) with ⟨o, ho, -⟩ | ⟨hc, -⟩ | ⟨hd, -⟩
  · obtain ⟨job', hj', rfl⟩ := h.isCalm_of_mem ho
    cases hj.symm.trans hj'
    exact ho
  · exact absurd hc h.not_cancelledFirst
  · exact absurd hd h.not_dropped

/-- At the end every handle is resolved as its body says. -/
theorem resolved (hn : 0 < n) {job : Job B V} (hj : s.jobs[k]? = some job) :
    s.Resolved k (f job.body).result := by
  obtain ⟨g, hg⟩ := h.reachable.ledgered.exists (List.getElem?_eq_some_iff.1 hj).1
  obtain ⟨r, hr⟩ := h.exists_result hn hg
  have hended := (h.ended_iff hn).2 ⟨job, hj, rfl⟩
  have hclosed := (founded_founding.story h.run hg).log.closed hr
  rw [← hclosed.eq_result ((mem_own_iff (by simp)).1 hended)]
  exact h.reachable.ledgered.resolved hg hr

/-- How many bodies have ended in some way. -/
theorem countP_ended (hn : 0 < n) {p : Event V → Bool} {q : Outcome V → Bool}
    (hp : ∀ e, p e = true ↔ ∃ k o, e = .ended k o ∧ q o = true) :
    ((State.founding name hooked capacity interval n).chronicle as).countP p =
      bodies.countP fun b => q (f b) := by
  rw [← h.begun.countP_eq, List.countP_map, ← length_tasksOf]
  refine length_eq_countP_of_mem
    (founded_founding.tasksOf_nodup h.run (n := 3) (fun k => ?_) fun e he => ?_) fun k => ?_
  · rw [Bool.eq_false_iff, ne_eq, hp]
    rintro ⟨_, _, he, -⟩
    cases he
  · obtain ⟨k, o, rfl, -⟩ := (hp e).1 he
    rfl
  · rw [mem_tasksOf]
    constructor
    · rintro ⟨e, he, hpe, rfl⟩
      obtain ⟨k, o, rfl, hq⟩ := (hp e).1 hpe
      obtain ⟨job, hj, rfl⟩ := (h.ended_iff hn).1 he
      exact ⟨job, hj, hq⟩
    · rintro ⟨job, hj, hq⟩
      exact ⟨_, (h.ended_iff hn).2 ⟨job, hj, rfl⟩, (hp _).2 ⟨k, _, rfl, hq⟩, rfl⟩

/-- Nothing is counted as discarded. -/
theorem discarded_eq_zero : s.counters.discarded = 0 := by
  have hbook := (founded_founding.booked h.run).discarded
  rw [h.rest.tally_eq_zero h.reachable.shaped restless_discards rfl fun _ => rfl,
    ← length_tasksOf Event.isBegin, (founded_founding.begun_perm h.run).length_eq,
    List.length_append, calls, length_tasksOf] at hbook
  have hskipped : skipped ((State.founding name hooked capacity interval n).chronicle as) = [] :=
    List.filter_eq_nil_iff.2 fun k _ => by simpa using h.not_cancelledFirst
  have hswept :
      ((State.founding name hooked capacity interval n).chronicle as).countP Event.isSweep = 0 := by
    refine List.countP_eq_zero.2 fun e he hsweep => ?_
    have hcalm := h.isCalm_of_mem he
    cases e with
    | removed k r =>
      cases r with
      | worker => cases hsweep
      | _ => exact hcalm
    | _ => cases hsweep
  rw [hskipped, hswept, List.length_nil] at hbook
  omega

/-- **A calm run that has come to its end has done all its work.** -/
theorem finished (hn : 0 < n) : s.Finished f bodies := by
  have hbook := founded_founding.booked h.run
  refine ⟨fun t th ht k p => h.submit_not_mem hn ht k p, h.tasks_eq_nil hn,
    fun k job hj => h.resolved hn hj, ?_, ?_, h.discarded_eq_zero⟩
  · have hcom := hbook.completed
    rw [h.rest.tally_eq_zero h.reachable.shaped restless_returns rfl fun _ => rfl] at hcom
    rw [← h.countP_ended hn (q := Outcome.isReturned) fun e => ?_]
    · exact hcom
    · cases e with
      | ended k o => cases o <;> simp
      | _ => simp
  · have hfail := hbook.failed
    rw [h.rest.tally_eq_zero h.reachable.shaped restless_panics rfl fun _ => rfl] at hfail
    rw [← h.countP_ended hn (q := fun o => !o.isReturned) fun e => ?_]
    · exact hfail
    · cases e with
      | ended k o => cases o <;> simp
      | _ => simp

end

end State.Completes

/-- A body that returns, and one that panics. -/
def candour (b : Bool) : Outcome Unit := if b then .returned () else .panicked (.text "boom")

/-- A run in which one worker runs both tasks of one producer. -/
def soloRun : List (Action Bool Unit) :=
  [paces 0 5, [.call 0 (.submit true)], paces 0 3, [.call 0 (.submit false)], paces 0 3,
    paces 1 3, [.finish 1 (.returned ())], paces 1 6, [.finish 1 (.panicked (.text "boom"))],
    paces 1 8].flatten

/-- A run in which two workers run the tasks of two producers, one of which waits
    for room. -/
def duetRun : List (Action Bool Unit) :=
  [paces 0 6, [.arrive, .call 3 (.submit false)], paces 3 3, [.call 0 (.submit true)], paces 0 2,
    paces 2 3, paces 0 2, paces 1 3, [.finish 2 (.panicked (.text "boom"))], paces 2 8,
    [.finish 1 (.returned ())], paces 1 8].flatten

theorem completes_soloRun : ∃ s : State Bool Unit,
    State.Completes candour [true, false] (.founding "pool" false none 1 1) soloRun s := by
  have hrun : ((State.founding "pool" false none 1 1).steps soloRun).isSome = true := rfl
  obtain ⟨s, hs⟩ := Option.isSome_iff_exists.1 hrun
  have hcalm : (State.founding "pool" false none 1 1).RunsCalmly candour soloRun := by decide
  refine ⟨s, hs, hcalm, by cases hs; rfl, ?_, ?_, ?_, by cases hs; exact .refl _⟩
  · rintro (_ | _ | t) c <;> cases hs <;> rfl
  · rintro (_ | _ | t) k w <;> cases hs <;> nofun
  · rintro (_ | _ | t) <;> cases hs <;> nofun

theorem completes_duetRun : ∃ s : State Bool Unit,
    State.Completes candour [true, false] (.founding "pool" false (some 1) 1 2) duetRun s := by
  have hrun : ((State.founding "pool" false (some 1) 1 2).steps duetRun).isSome = true := rfl
  obtain ⟨s, hs⟩ := Option.isSome_iff_exists.1 hrun
  have hcalm : (State.founding "pool" false (some 1) 1 2).RunsCalmly candour duetRun := by decide
  refine ⟨s, hs, hcalm, by cases hs; rfl, ?_, ?_, ?_, by cases hs; exact .swap ..⟩
  · rintro (_ | _ | _ | _ | t) c <;> cases hs <;> rfl
  · rintro (_ | _ | _ | _ | t) k w <;> cases hs <;> nofun
  · rintro (_ | _ | _ | _ | t) <;> cases hs <;> nofun

end WorkerPool
