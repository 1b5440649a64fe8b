/-
  Stopping is final.

  * `State.PassesBy`: a call waits for the lock of the roster at most, and
    changes nothing;
  * `State.Spares`: what a step of a stop leaves alone that finds no worker;
  * `State.Lonely`: after a graceful stop, a forced stop finds no worker;
  * `State.Founded.finality`: a pool that was once seen stopped stays so, owns
    nobody, starts nobody, and no later resize or stop changes anything, but for
    a forced stop that throws the backlog away.
-/
import WorkerPool.Proofs.ForcedStop
import WorkerPool.Proofs.Sealed

namespace WorkerPool

variable {B V : Type}

/-! ## Calls that change nothing -/

/-- The next step of thread `t` waits for the lock of the roster if someone
    holds it; else the call of the thread is done, and nothing has changed. -/
def State.PassesBy (s : State B V) (t : ThreadId) : Prop :=
  ∀ c, s.run t c = if s.lock.isSome then none else some (State.settleTurn t ⟨s, [], some .done⟩)

section
variable {s s' : State B V} {t u : ThreadId} {th : Thread V} {c : Chance} {a : Activity V}
  {turn : Turn B V} {rest : List (Activity V)}

theorem run_eq (hw : s.backlog.isAsleep t = false) (ht : s.threads[t]? = some th)
    (hs : th.stack = a :: rest) : s.run t c = (s.act t th c a).map (State.settleTurn t) := by
  simp [State.run, hw, ht, hs]

/-- **A resize of a stopped pool changes nothing**, whatever the number. -/
theorem State.Reachable.resize_passesBy (hr : s.Reachable) (hs : s.isStopped = true) {n : Nat}
    {p : ResizePoint} (ht : s.top? t = some (.resize n p)) : p = .enter ∧ s.PassesBy t := by
  obtain ⟨th, rest, hth, hst⟩ := top?_eq_some_iff.1 ht
  have hzero := hr.sealed.resizes_eq_zero hs hth (Thread.mem_of_stack hst)
  obtain rfl : p = .enter := by
    cases p with
    | enter => rfl
    | _ => cases hzero
  refine ⟨rfl, fun c => ?_⟩
  rw [run_eq (hr.shaped.awake ht nofun nofun) hth hst]
  simp only [State.act, State.resize, hs, if_true]
  split <;> rfl

/-- **A later stop changes nothing**: a graceful one after any stop, and any one
    after a forced stop. -/
theorem State.Reachable.stop_passesBy (hr : s.Reachable) (hs : s.isStopped = true) {g : Bool}
    (hg : g = true ∨ s.forced = true) (ht : s.top? t = some (.stop g .enter)) : s.PassesBy t := by
  intro c
  obtain ⟨th, rest, hth, hst⟩ := top?_eq_some_iff.1 ht
  rw [run_eq (hr.shaped.awake ht nofun nofun) hth hst]
  cases g with
  | true =>
    simp only [State.act, State.stop, hs, if_true]
    split <;> rfl
  | false =>
    have hf : s.forced = true := hg.resolve_left Bool.false_ne_true
    simp only [State.act, State.stop, hf, if_true, Bool.false_eq_true, if_false]
    split <;> rfl

/-- A stopped pool owns nobody, as soon as it can be asked. -/
theorem State.Reachable.ask_stopped (hr : s.Reachable) (hs : s.isStopped = true) {q : Query}
    (hq : q = .size ∨ q = .idle) :
    s.ask q = if s.lock.isSome then none else some ⟨s, [], some (.count 0)⟩ := by
  cases hl : s.lock with
  | some u => rcases hq with rfl | rfl <;> simp [State.ask, hl, Turn.blocked]
  | none =>
    have hroster := hr.sealed.empty hs hl
    rcases hq with rfl | rfl
    · simp [State.ask, hl, State.size, hroster, Turn.answer]
    · simp [State.ask, hl, State.idleCount, hroster, Turn.answer]

/-! ## A forced stop that comes late -/

/-- What a step leaves alone that leads from `s` to `s'`: all but the forced
    flag, the lock, the tasks in the backlog and those who sleep there, the
    promises of the tasks that are thrown away, the counter of discarded tasks,
    and the log. -/
def State.Spares (s s' : State B V) : Prop :=
  s' = { s with
    forced := s'.forced
    lock := s'.lock
    backlog := ⟨s'.backlog.tasks, s.backlog.capacity, s'.backlog.takers, s'.backlog.givers⟩
    counters := { s.counters with discarded := s'.counters.discarded }
    jobs := s'.jobs
    log := s'.log }

/-- The points of a stop that finds no worker. -/
def StopPoint.Alone : StopPoint → Prop
  | tell us => us = []
  | join us n => us = [] ∧ n = 0
  | inspect n | sweep _ n | close n _ => n = 0
  | _ => True

theorem Sweep.spares {p : Clearing} {o : Clearing ⊕ Nat} (hp : Sweep s p s' o) : s.Spares s' := by
  cases hp <;> rfl

/-- **A stop that finds no worker** throws the backlog away and counts it, and
    leaves all else alone. -/
theorem Deed.spares {p : StopPoint} (hd : Deed s t th c (.stop false p) turn) (hp : p.Alone)
    (hr : p = .disband → s.roster = []) : s.Spares turn.state := by
  cases hd with
  | stopTell => cases hp
  | join => cases hp.1
  | purge hsw | purgeEnd hsw | sweep hsw | sweepEnd hsw => exact hsw.spares
  | disband =>
    show _ = _
    rw [← hr rfl]
  | _ => rfl

/-- It takes tasks out in its passes only, all there are, and what it drops are
    these. -/
theorem Deed.discards_all {p : StopPoint} (hd : Deed s t th c (.stop false p) turn) :
    (turn.state.backlog.tasks = s.backlog.tasks ∨
      turn.state.backlog.tasks = [] ∧ s.doing t (.stop false p) = s.emptied (.stop t false)) ∧
    (turn.state.jobs = s.jobs ∨
      ∃ k, turn.state.jobs = (s.abandon k).jobs ∧ s.doing t (.stop false p) = [.dropped k]) := by
  cases hd with
  | purge hp | sweep hp =>
    cases hp with
    | drain => exact ⟨.inr ⟨rfl, rfl⟩, .inl rfl⟩
    | drop k ks n => exact ⟨.inl rfl, .inr ⟨k, rfl, rfl⟩⟩
    | _ => exact ⟨.inl rfl, .inl rfl⟩
  | purgeEnd hp | sweepEnd hp =>
    cases hp
    exact ⟨.inl rfl, .inl rfl⟩
  | _ => exact ⟨.inl rfl, .inl rfl⟩

/-- It goes on without a worker. -/
theorem Deed.alone {p q : StopPoint} (hd : Deed s t th c (.stop false p) turn) (hp : p.Alone)
    (hl : s.lock = none → s.roster = []) (hr : p = .disband → s.roster = [])
    (hq : .stop false q ∈ turn.next) : q.Alone := by
  cases hd with
  | forcedAgain | stopClose => cases hq
  | forced hl' => cases List.mem_singleton.1 hq; exact hl hl'
  | disband =>
    cases List.mem_singleton.1 hq
    have hnil := hr rfl
    exact ⟨hnil, by rw [State.size, hnil, List.length_nil]⟩
  | stopTell => cases hp
  | join => cases hp.1
  | joined => cases List.mem_singleton.1 hq; exact hp.2
  | inspectNone | inspectLeft | sweep | sweepEnd => cases List.mem_singleton.1 hq; exact hp
  | stopTold | purge | purgeEnd | stopWake => cases List.mem_singleton.1 hq; trivial

/-- After a graceful stop has set its flag, every forced stop is without
    workers. -/
structure State.Lonely (s : State B V) : Prop where
  done : s.done = true
  empty : s.forced = true → s.roster = []
  alone : ∀ (t : ThreadId) (th : Thread V) (p : StopPoint), s.threads[t]? = some th →
    .stop false p ∈ th.stack → p.Alone

theorem State.Lonely.isStopped (h : s.Lonely) : s.isStopped = true := by
  rw [State.isStopped, h.done, Bool.true_or]

theorem State.Sealed.empty_of_disband (h : s.Sealed) (hlone : s.Lonely) {p : StopPoint}
    (ht : s.threads[t]? = some th) (ha : .stop false p ∈ th.stack) (hp : p = .disband) :
    s.roster = [] := by
  subst hp
  exact hlone.empty (h.forces (tally_pos ht ha Nat.one_pos))

theorem Thread.Next.alone {o : Option (Thread V)} {w' : Thread V} (hn : Thread.Next s o w')
    (h : s.Sealed) (hlone : s.Lonely) (ho : ∀ w, o = some w → s.threads[u]? = some w)
    {q : StopPoint} (hq : .stop false q ∈ w'.stack) : q.Alone := by
  cases hn with
  | @same w _ hsame =>
    rw [hsame.stack] at hq
    exact hlone.alone u w q (ho w rfl) hq
  | outside => cases hq
  | worker => cases List.mem_singleton.1 hq
  | @call w _ _ _ next hf hl hopen hs hb =>
    rw [hs] at hq
    rcases List.mem_append.1 hq with hq | hq
    · cases hopen with
      | stop => cases List.mem_singleton.1 hq; trivial
      | _ => simp at hq
    · exact hlone.alone u w q (ho w rfl) hq
  | @step w _ x rest next hx hfollows hs hb =>
    have hw := ho w rfl
    rw [hs] at hq
    rcases List.mem_append.1 hq with hq | hq
    · cases hfollows with
      | @run t c _ turn hd =>
        rcases hd.stop_mem hq with ⟨p, rfl⟩ | ⟨hg, -⟩
        · have hmem : .stop false p ∈ w.stack := Thread.mem_of_stack hx
          exact hd.alone (hlone.alone u w p hw hmem) (h.empty hlone.isStopped)
            (h.empty_of_disband hlone hw hmem) hq
        · cases hg
      | _ => simp at hq
    · exact hlone.alone u w q hw (by rw [hx]; exact List.mem_cons_of_mem _ hq)

theorem Move.lonely {x : Action B V} (hm : Move s x s') (h : s.Sealed) (hlone : s.Lonely) :
    s'.Lonely where
  done := hm.done hlone.done
  empty hf' := by
    cases hf : s.forced with
    | true => exact hm.keeps_empty h hlone.isStopped (hlone.empty hf)
    | false =>
      cases hm.ruling with
      | step _ _ _ _ hd =>
        cases hd with
        | forced hl => exact h.empty hlone.isStopped hl
        | clear hp | clearEnd hp | purge hp | purgeEnd hp | sweep hp | sweepEnd hp =>
          cases hp <;> exact absurd (hf.symm.trans hf') Bool.false_ne_true
        | _ => exact absurd (hf.symm.trans hf') Bool.false_ne_true
      | other hu =>
        rw [hu.forced, hf] at hf'
        cases hf'
  alone u w p hw hp := (hm.thread hw).alone h hlone (fun _ ho => ho) hp

/-- No forced stop is under way before its flag is set. -/
theorem State.Reachable.lonely (hr : s.Reachable) (hd : s.done = true) (hf : s.forced = false) :
    s.Lonely where
  done := hd
  empty hf' := by rw [hf] at hf'; cases hf'
  alone t th p ht hp := by
    by_cases henter : p = .enter
    · subst henter
      trivial
    · have hforced := hr.sealed.forces (tally_pos ht hp (by
        cases p with
        | enter => exact absurd rfl henter
        | _ => exact Nat.one_pos))
      rw [hf] at hforced
      cases hforced

/-! ## After a stop -/

/-- One step of a forced stop that finds no worker, and all that it does: it
    may throw away all tasks of the backlog, and it may drop one of those. -/
def State.Purges (s : State B V) (t : ThreadId) (c : Chance) (s' : State B V) : Prop :=
  ∃ turn, s' = State.settleTurn t turn ∧ s.Spares turn.state ∧
    (turn.state.backlog.tasks = s.backlog.tasks ∨
      turn.state.backlog.tasks = [] ∧ s.events (.run t c) = s.emptied (.stop t false)) ∧
    (turn.state.jobs = s.jobs ∨
      ∃ k, turn.state.jobs = (s.abandon k).jobs ∧ s.events (.run t c) = [.dropped k])

/-- After a graceful stop a forced stop joins no worker, and only throws the
    backlog away. -/
theorem State.Reachable.purges (hr : s.Reachable) (hlone : s.Lonely) {p : StopPoint}
    (ht : s.top? t = some (.stop false p)) (hrun : s.run t c = some s') :
    (∀ us n, p = .join us n → us = [] ∧ n = 0) ∧ s.Purges t c s' := by
  obtain ⟨th, rest, hth, hst⟩ := top?_eq_some_iff.1 ht
  have hmem : .stop false p ∈ th.stack := Thread.mem_of_stack hst
  have hp := hlone.alone t th p hth hmem
  constructor
  · rintro us n rfl
    exact hp
  · have hm : Move s (.run t c) s' := step_iff.1 hrun
    obtain ⟨_, turn, heq, hd, rfl⟩ := hm.stop_step rfl hth hst
    cases heq
    have hall := hd.discards_all
    refine ⟨turn, rfl, hd.spares hp (hr.sealed.empty_of_disband hlone hth hmem), ?_⟩
    simp only [State.events, ht]
    exact hall

/-- **What a stop throws away it counts**, and the handles say so when it has
    returned. -/
theorem State.Founded.counts_thrown {s₀ : State B V} (h₀ : s₀.Founded) {as bs : List (Action B V)}
    {g : Bool} {th' : Thread V} (has : s₀.steps as = some s) (ht : s.threads[t]? = some th)
    (hs : th.stack = .stop g .enter :: rest) (hbs : s.steps bs = some s')
    (ht' : s'.threads[t]? = some th') (hs' : th'.stack = rest) :
    s.discardedBy t bs = (s.chronicle bs).countP (Event.isThrownBy t) ∧
      ∀ k g, .removed k (.stop t g) ∈ s.chronicle bs → s'.Resolved k (.error .discarded) := by
  have hr : s.Reachable := (Reachable.of_founded h₀).run has
  have hbelow {x : Activity V} (hx : x ∈ rest) := (hr.shaped.thread t th ht).below hs hx
  constructor
  · refine hr.discardedBy_eq ht (fun a ha => ?_) hbs ht' fun a ha => (hbelow (hs' ▸ ha)).1
    rw [hs] at ha
    rcases List.mem_cons.1 ha with rfl | ha
    · rfl
    · exact (hbelow ha).1
  · intro k g hk
    have hmem : .removed k (.stop t g) ∈ s₀.chronicle (as ++ bs) := by
      rw [chronicle_append has]
      exact List.mem_append_right _ hk
    exact (h₀.thrown_away (steps_append.2 ⟨s, has, hbs⟩) ht'
      (fun a ha => (hbelow (hs' ▸ ha)).2) hmem).1

/-- **Stopping is final.**  Let the pool be seen stopped once, by either flag, even
    while the stop still waits for its workers.  In every later state it is
    stopped; whoever asks for the number of workers, or of idle ones, waits for the
    lock at most and is told zero; no worker was started meanwhile; every
    resize, whatever the number, changes nothing, and so does every later graceful
    stop, and every later stop at all after a forced one.  If it was stopped
    gracefully only, a forced stop joins no worker, and of the pool it changes the
    flag, the backlog, which it throws away, and the counter of discarded tasks,
    to which it adds what it has thrown away.  At rest none of these calls is left
    waiting. -/
theorem State.Founded.finality {s₀ : State B V} (h₀ : s₀.Founded) {as bs : List (Action B V)}
    (has : s₀.steps as = some s) (hstop : s.isStopped = true) (hbs : s.steps bs = some s') :
    s'.ask .stopped = some ⟨s', [], some (.flag true)⟩ ∧
    (∀ q, q = .size ∨ q = .idle →
      s'.ask q = if s'.lock.isSome then none else some ⟨s', [], some (.count 0)⟩) ∧
    (∀ u, (s'.badge? u).isSome = true → (s.badge? u).isSome = true) ∧
    (∀ t n p, s'.top? t = some (.resize n p) → p = .enter ∧ s'.PassesBy t) ∧
    (∀ t g, s'.top? t = some (.stop g .enter) → g = true ∨ s'.forced = true → s'.PassesBy t) ∧
    (s.done = true → s.forced = false →
      (∀ t c p s'', s'.top? t = some (.stop false p) → s'.run t c = some s'' →
        (∀ us n, p = .join us n → us = [] ∧ n = 0) ∧ s'.Purges t c s'') ∧
      ∀ t th rest cs s'' th'', s'.threads[t]? = some th → th.stack = .stop false .enter :: rest →
        s'.steps cs = some s'' → s''.threads[t]? = some th'' → th''.stack = rest →
        s'.discardedBy t cs = (s'.chronicle cs).countP (Event.isThrownBy t) ∧
          ∀ k g, .removed k (.stop t g) ∈ s'.chronicle cs →
            s''.Resolved k (.error .discarded)) ∧
    (s'.AtRest → s'.lock = none ∧ ∀ t a, s'.top? t = some a →
      (∀ n p, a ≠ .resize n p) ∧ (∀ g, a ≠ .stop g .enter) ∧ ∀ q, a ≠ .ask q) := by
  have hr : s.Reachable := (Reachable.of_founded h₀).run has
  have hr' : s'.Reachable := hr.run hbs
  have hstop' : s'.isStopped = true :=
    steps_keep (P := fun s => s.isStopped = true) (fun _ _ _ h hm => hm.keeps_stopped h) hstop hbs
  refine ⟨?_, fun q hq => hr'.ask_stopped hstop' hq, ?_, ?_, ?_, ?_, ?_⟩
  · simp [State.ask, hstop', Turn.answer]
  · intro u
    have hkeep := hr.keep (P := fun s' => s'.isStopped = true ∧
        ((s'.badge? u).isSome = true → (s.badge? u).isSome = true)) ?_ ⟨hstop, id⟩ hbs
    · exact hkeep.2
    · rintro s₁ x s₂ hr₁ ⟨hs₁, hold⟩ hm
      exact ⟨hm.keeps_stopped hs₁,
        fun hb => hold (hm.isSome_badge?_of_stopped hr₁.sealed hs₁ hb)⟩
  · intro t n p ht
    exact hr'.resize_passesBy hstop' ht
  · intro t g ht hg
    exact hr'.stop_passesBy hstop' hg ht
  · intro hd hf
    have hlone : s'.Lonely :=
      hr.keep (fun _ _ _ hr h hm => hm.lonely hr.sealed h) (hr.lonely hd hf) hbs
    constructor
    · intro t c p s'' ht hrun
      exact hr'.purges hlone ht hrun
    · intro t th rest cs s'' th'' ht hs hcs ht'' hs''
      exact h₀.counts_thrown (steps_append.2 ⟨s, has, hbs⟩) ht hs hcs ht'' hs''
  · intro hrest
    exact ⟨hrest.lock_eq_none hr', fun t a ht => hrest.top?_ne hr' ht⟩

end

/-- A run in which a graceful stop has just been let in. -/
def closingRun : List (Action Unit Unit) :=
  [paces 0 5, [.call 0 (.stop true)], paces 0 1].flatten

/-- The stop waits for the worker and returns, a task is submitted that nobody
    will take, and a resize and a forced stop begin. -/
def tryingRun : List (Action Unit Unit) :=
  [paces 0 2, paces 1 10, paces 0 4, [.call 0 (.submit ())], paces 0 3,
    [.arrive, .call 2 (.resize 5), .call 0 (.stop false)]].flatten

theorem finality_tryingRun : ∃ s s' s'' : State Unit Unit,
    (State.founding "pool" false none 1 1).steps closingRun = some s ∧ s.isStopped = true ∧
    s.size = 1 ∧ s.steps tryingRun = some s' ∧ s'.backlog.tasks = [0] ∧
    s'.ask .size = some ⟨s', [], some (.count 0)⟩ ∧ s'.PassesBy 2 ∧
    s'.steps (paces 0 12) = some s'' ∧ s'.discardedBy 0 (paces 0 12) = 1 ∧
    s''.Resolved 0 (.error .discarded) := by
  have h₀ : (State.founding "pool" false none 1 1 : State Unit Unit).Founded :=
    State.founded_founding
  have hrun : ((State.founding "pool" false none 1 1).steps closingRun).isSome = true := rfl
  obtain ⟨s, hs⟩ := Option.isSome_iff_exists.1 hrun
  have hrun' : (s.steps tryingRun).isSome = true := by cases hs; rfl
  obtain ⟨s', hs'⟩ := Option.isSome_iff_exists.1 hrun'
  have hrun'' : (s'.steps (paces 0 12)).isSome = true := by cases hs; cases hs'; rfl
  obtain ⟨s'', hs''⟩ := Option.isSome_iff_exists.1 hrun''
  have hstop : s.isStopped = true := by cases hs; rfl
  have hdone : s.done = true := by cases hs; rfl
  have hforced : s.forced = false := by cases hs; rfl
  have hlock : s'.lock = none := by cases hs; cases hs'; rfl
  have htop : s'.top? 2 = some (.resize 5 .enter) := by cases hs; cases hs'; rfl
  obtain ⟨th, ht, hst⟩ : ∃ th, s'.threads[0]? = some th ∧ th.stack = [.stop false .enter] := by
    cases hs; cases hs'
    exact ⟨_, rfl, rfl⟩
  obtain ⟨th', ht', hst'⟩ : ∃ th, s''.threads[0]? = some th ∧ th.stack = [] := by
    cases hs; cases hs'; cases hs''
    exact ⟨_, rfl, rfl⟩
  have hrem : .removed 0 (.stop 0 false) ∈ s'.chronicle (paces 0 12) := by
    cases hs; cases hs'
    exact List.mem_cons_self
  have hcount : (s'.chronicle (paces 0 12)).countP (Event.isThrownBy 0) = 1 := by
    cases hs; cases hs'
    rfl
  obtain ⟨-, hask, -, hresize, -, hlate, -⟩ := h₀.finality hs hstop hs'
  have hsize := hask .size (.inl rfl)
  rw [hlock] at hsize
  obtain ⟨hdis, hres⟩ := (hlate hdone hforced).2 0 th [] (paces 0 12) s'' th' ht hst hs'' ht' hst'
  exact ⟨s, s', s'', hs, hstop, by cases hs; rfl, hs', by cases hs; cases hs'; rfl, hsize,
    (hresize 2 5 .enter htop).2, hs'', hdis.trans hcount, hres 0 false hrem⟩

end WorkerPool
