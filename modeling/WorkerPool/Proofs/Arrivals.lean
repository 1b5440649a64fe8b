/-
  The order of the backlog: tasks leave it in the order in which they came.

  * `State.arrivals` are the tasks that a run appends to the backlog, in the
    order of the appends; `departures` are those that a chronicle takes out of
    it, in the order of the removals;
  * `Move.passage`, `steps_passage`: what was there and what arrives is what
    departs and what stays;
  * `State.Founded.fifo`: the arrivals of a run are its departures and then the
    backlog, each task once; while at most one worker is alive, bodies are
    called in the order of the arrivals.
-/
import WorkerPool.Proofs.Occurrences
import WorkerPool.Proofs.Ownership
import WorkerPool.Proofs.Roster

namespace WorkerPool

variable {B V : Type}

/-! ## Arrivals and departures -/

namespace State

/-- The tasks that the next step of a thread with this innermost activity
    appends to the backlog. -/
def appending (s : State B V) : Activity V → List TaskId
  | .submit k .push | .trySubmit k .push => if s.backlog.hasRoom then [k] else []
  | _ => []

/-- The tasks that an action appends to the backlog. -/
def appended (s : State B V) : Action B V → List TaskId
  | .run t _ =>
    match s.top? t with
    | some a => s.appending a
    | none => []
  | _ => []

/-- The tasks that a run appends to the backlog, in the order of the appends. -/
def arrivals (s : State B V) : List (Action B V) → List TaskId
  | [] => []
  | a :: as =>
    match s.step a with
    | some s' => s.appended a ++ s'.arrivals as
    | none => []

end State

/-- The tasks that a chronicle takes out of the backlog, in the order of the
    removals; those that are taken out together in their order in it. -/
def departures (es : List (Event V)) : List TaskId := tasksOf Event.isRemoval es

/-- The tasks whose bodies a chronicle calls, in the order of the calls. -/
def calls (es : List (Event V)) : List TaskId := tasksOf Event.isCall es

theorem departures_append (es es' : List (Event V)) :
    departures (es ++ es') = departures es ++ departures es' := tasksOf_append ..

theorem calls_append (es es' : List (Event V)) : calls (es ++ es') = calls es ++ calls es' :=
  tasksOf_append ..

theorem mem_departures {k : TaskId} {es : List (Event V)} :
    k ∈ departures es ↔ ∃ r, .removed k r ∈ es := by
  rw [departures, mem_tasksOf]
  constructor
  · rintro ⟨e, he, hp, rfl⟩
    cases e <;> cases hp
    exact ⟨_, he⟩
  · rintro ⟨r, hr⟩
    exact ⟨_, hr, rfl, rfl⟩

theorem mem_calls {k : TaskId} {es : List (Event V)} : k ∈ calls es ↔ .called k ∈ es := by
  rw [calls, mem_tasksOf]
  constructor
  · rintro ⟨e, he, hp, rfl⟩
    cases e <;> cases hp
    exact he
  · exact fun h => ⟨_, h, rfl, rfl⟩

/-! ## The backlog in an action -/

section
variable {s s' : State B V} {t : ThreadId} {th : Thread V} {c : Chance} {a : Activity V}
  {turn : Turn B V} {as : List (Action B V)}

theorem departures_emptied (r : Remover) : departures (s.emptied r : List (Event V)) =
    s.backlog.tasks := by
  simp [departures, tasksOf, State.emptied, List.filter_map, Function.comp_def]

theorem departures_relieved {k : TaskId} {ks : List TaskId} (hk : s.backlog.tasks = k :: ks)
    (r : Remover) : departures (s.relieved r : List (Event V)) = [k] := by
  rw [State.relieved, hk]
  rfl

theorem relieved_nil (hk : s.backlog.tasks = []) (r : Remover) :
    (s.relieved r : List (Event V)) = [] := by
  simp [State.relieved, hk]

theorem Sweep.passage {p : Clearing} {o : Clearing ⊕ Nat} (hp : Sweep s p s' o) (r : Remover) :
    s.backlog.tasks = departures (s.cleared r p : List (Event V)) ++ s'.backlog.tasks := by
  cases hp with
  | drain => rw [State.cleared, departures_emptied]; exact (List.append_nil _).symm
  | _ => rfl

/-- What a step appends comes after all that is there, and what it takes out
    was the oldest. -/
theorem Deed.passage (hd : Deed s t th c a turn) :
    s.backlog.tasks ++ s.appending a = departures (s.doing t a) ++ turn.state.backlog.tasks := by
  cases hd with
  | fetch _ hk | await _ hk | pop hk =>
    simp only [State.appending, State.doing, departures_relieved hk, List.append_nil, hk,
      List.singleton_append]
  | fetchNone _ hk | awaitStop _ hk | awaitSleep _ hk | popNone hk =>
    simp only [State.appending, State.doing, relieved_nil hk, List.append_nil]
    exact hk ▸ rfl
  | leave _ hs | teardown hs =>
    simp [State.appending, State.doing, Nat.not_le.2 hs, departures, tasksOf]
  | leaveLast _ hs | teardownLast hs =>
    simp [State.appending, State.doing, hs, departures_emptied]
  | inspect hj =>
    simp only [State.appending, State.doing, List.append_nil]
    split <;> rfl
  | submitPush hr | tryPush hr =>
    simp [State.appending, State.doing, Backlog.hasRoom, hr, departures, tasksOf]
  | submitSleep hr | tryFull hr =>
    simp [State.appending, State.doing, Backlog.hasRoom, Nat.not_lt.2 hr, departures,
      tasksOf, Backlog.sleepGiver]
  | clear hp | clearEnd hp | purge hp | purgeEnd hp | sweep hp | sweepEnd hp =>
    exact (List.append_nil _).trans (hp.passage _)
  | _ => exact List.append_nil _

/-- **What was there and what arrives is what departs and what stays.** -/
theorem Move.passage {x : Action B V} (hm : Move s x s') :
    s.backlog.tasks ++ s.appended x = departures (s.events x) ++ s'.backlog.tasks := by
  cases hm with
  | call _ _ _ ho =>
    show _ ++ [] = [] ++ _
    rw [List.append_nil, List.nil_append, ← ho.backlog]
    rfl
  | finish ht hs =>
    simp only [State.appended, State.events, top?_eq_some_iff.2 ⟨_, _, ht, hs⟩]
    exact List.append_nil _
  | run _ ht hs hd =>
    simp only [State.appended, State.events, top?_eq_some_iff.2 ⟨_, _, ht, hs⟩]
    exact hd.passage
  | _ => exact List.append_nil _

theorem arrivals_cons {x : Action B V} (hm : Move s x s') :
    s.arrivals (x :: as) = s.appended x ++ s'.arrivals as := by
  simp only [State.arrivals, step_iff.2 hm]

theorem arrivals_append {bs : List (Action B V)} (h : s.steps as = some s') :
    s.arrivals (as ++ bs) = s.arrivals as ++ s'.arrivals bs := by
  induction as generalizing s with
  | nil => cases h; rfl
  | cons a as ih =>
    obtain ⟨s₁, hm, has⟩ := steps_cons.1 h
    rw [List.cons_append, arrivals_cons hm, arrivals_cons hm, ih has, List.append_assoc]

/-- The passage of a run. -/
theorem steps_passage (has : s.steps as = some s') :
    s.backlog.tasks ++ s.arrivals as = departures (s.chronicle as) ++ s'.backlog.tasks := by
  induction as generalizing s with
  | nil => cases has; exact List.append_nil _
  | cons x as ih =>
    obtain ⟨s₁, hm, has⟩ := steps_cons.1 has
    rw [arrivals_cons hm, chronicle_cons (step_iff.2 hm), departures_append, List.append_assoc,
      ← ih has, ← List.append_assoc, hm.passage, List.append_assoc]

theorem State.Founded.tasks_nil (h : s.Founded) : s.backlog.tasks = [] := by
  obtain ⟨name, hooked, capacity, interval, workers, rfl⟩ := h
  rfl

/-- The arrivals of a run are its departures and then the backlog. -/
theorem State.Founded.arrivals_eq {s₀ : State B V} (h₀ : s₀.Founded)
    (has : s₀.steps as = some s) :
    s₀.arrivals as = departures (s₀.chronicle as) ++ s.backlog.tasks := by
  have h := steps_passage has
  rwa [h₀.tasks_nil, List.nil_append] at h

end

/-! ## The order of the calls -/

section
variable {s s' : State B V} {t u v : ThreadId} {k k' : TaskId} {as bs : List (Action B V)}

/-- A worker whose thread has not ended. -/
def State.IsAlive (s : State B V) (u : ThreadId) : Prop :=
  ∃ w, s.threads[u]? = some w ∧ w.badge.isSome = true ∧ w.hasEnded = false

theorem two_le_countP {α : Type} {p : α → Bool} {l : List α} {i j : Nat} {x y : α}
    (hi : l[i]? = some x) (hj : l[j]? = some y) (hne : i < j) (hx : p x = true)
    (hy : p y = true) : 2 ≤ l.countP p := by
  rw [← List.take_append_drop j l, List.countP_append]
  have hfst : 0 < (l.take j).countP p :=
    List.countP_pos_iff.2 ⟨x, List.mem_of_getElem? (by rwa [List.getElem?_take_of_lt hne]), hx⟩
  have hsnd : 0 < (l.drop j).countP p :=
    List.countP_pos_iff.2 ⟨y, List.mem_of_getElem? (i := 0) (by simpa using hj), hy⟩
  omega

/-- Two workers that are alive make two. -/
theorem State.IsAlive.unique (hone : s.aliveCount ≤ 1) (hu : s.IsAlive u) (hv : s.IsAlive v) :
    u = v := by
  obtain ⟨w, hw, hb, he⟩ := hu
  obtain ⟨w', hw', hb', he'⟩ := hv
  have count {i j : ThreadId} {x y : Thread V} (hi : s.threads[i]? = some x)
      (hj : s.threads[j]? = some y) (hne : i < j) (hx : x.badge.isSome = true)
      (hx' : x.hasEnded = false) (hy : y.badge.isSome = true) (hy' : y.hasEnded = false) : False :=
    Nat.not_succ_le_self 1 (Nat.le_trans (two_le_countP hi hj hne (by simp [hx, hx'])
      (by simp [hy, hy'])) hone)
  rcases Nat.lt_trichotomy u v with hlt | heq | hlt
  · exact (count hw hw' hlt hb he hb' he').elim
  · exact heq
  · exact (count hw' hw hlt hb' he' hb he).elim

/-- Who takes a task to run it is a worker, and stays one. -/
theorem State.Founded.isSome_badge?_of_removed {s₀ : State B V} (h₀ : s₀.Founded)
    (has : s₀.steps as = some s) (hk : .removed k (.worker u) ∈ s₀.chronicle as) :
    (s.badge? u).isSome = true := by
  refine h₀.run_induct (P := fun s es => ∀ k u, .removed k (.worker u) ∈ es →
    (s.badge? u).isSome = true) has nofun ?_ k u hk
  intro s₁ s₂ x es hr ih hm k u hk
  refine hm.isSome_badge? ?_
  rcases List.mem_append.1 hk with hk | hk
  · exact ih k u hk
  · rcases yields_of_mem_events hk with ⟨t, c, a, rfl, ha, hy⟩ | ⟨_, _, _, _, -, -, he⟩
    · obtain ⟨th, rest, ht, hs⟩ := top?_eq_some_iff.1 ha
      have hworker {p : WorkPoint} (hp : a = .work p) : (s₁.badge? t).isSome = true :=
        isSome_badge?_iff.2 ⟨th, ht, (hr.shaped.thread t th ht).worker p (by rw [hs, hp]; simp)⟩
      cases hy with
      | fetch | await => exact hworker rfl
    · cases he

/-- A task that waits to be run is in the hand of the innermost activity. -/
theorem top?_of_fetched (hs : s.Shaped) (hk : (k, .fetched u) ∈ s.ledger) :
    ∃ a, s.top? u = some a ∧ (k, .fetched u) ∈ a.hand u ∧ ∀ k', (k', .fetched u) ∈ a.hand u →
      k' = k := by
  rcases mem_ledger.1 hk with ⟨t, th, ht, a, ha, hm⟩ | ⟨i, -, hg⟩ | ⟨-, hg⟩ | ⟨job, -, hent⟩
  · have hut : u = t := by simpa [Stage.place] using (holds_of_mem hm).place
    subst hut
    have htop (hr : ¬ a.Rests) : s.top? u = some a := by
      obtain ⟨rest, hst⟩ := (hs.thread u th ht).eq_cons ha hr
      exact top?_eq_some_iff.2 ⟨th, rest, ht, hst⟩
    cases a with
    | work p =>
      simp only [Activity.hand, List.mem_map, Option.mem_toList, Prod.mk.injEq, and_true,
        exists_eq_right] at hm
      refine ⟨_, htop ?_, ?_, fun k' hk' => ?_⟩
      · cases p with
        | check => cases hm
        | _ => exact id
      · simp [Activity.hand, hm]
      · simpa [Activity.hand, hm, eq_comm] using hk'
    | task j w p =>
      cases p with
      | inspect =>
        cases List.mem_singleton.1 hm
        refine ⟨_, htop id, List.mem_singleton_self _, fun k' hk' => ?_⟩
        simpa [Activity.hand, TaskPoint.stage] using hk'
      | _ => simp [Activity.hand, TaskPoint.stage] at hm
    | _ => cases holds_of_mem hm
  · cases hg
  · cases hg
  · rcases hent with ⟨r, -, hg⟩ | ⟨-, hg⟩ <;> cases hg

/-- While at most one worker is alive, at most one task that a worker took
    waits to be run. -/
theorem State.Founded.fetched_unique {s₀ : State B V} (h₀ : s₀.Founded)
    (has : s₀.steps as = some s) (hone : s.aliveCount ≤ 1) (hk : (k, .fetched u) ∈ s.ledger)
    (hr : .removed k (.worker u) ∈ s₀.chronicle as) (hk' : (k', .fetched v) ∈ s.ledger)
    (hr' : .removed k' (.worker v) ∈ s₀.chronicle as) : k = k' := by
  have hshaped := ((Reachable.of_founded h₀).run has).shaped
  have halive {k : TaskId} {u : ThreadId} (hk : (k, .fetched u) ∈ s.ledger)
      (hr : .removed k (.worker u) ∈ s₀.chronicle as) : s.IsAlive u := by
    obtain ⟨a, ha, -, -⟩ := top?_of_fetched hshaped hk
    obtain ⟨th, rest, ht, hs⟩ := top?_eq_some_iff.1 ha
    obtain ⟨w, hw, hb⟩ := isSome_badge?_iff.1 (h₀.isSome_badge?_of_removed has hr)
    cases ht.symm.trans hw
    exact ⟨th, ht, hb, by simp [Thread.hasEnded, hs]⟩
  obtain rfl := (halive hk hr).unique hone (halive hk' hr')
  obtain ⟨a, ha, -, hone⟩ := top?_of_fetched hshaped hk
  obtain ⟨a', ha', hm', -⟩ := top?_of_fetched hshaped hk'
  cases ha.symm.trans ha'
  exact (hone k' hm').symm

/-- A step that calls a body does nothing else. -/
theorem events_of_called {x : Action B V} (h : .called k ∈ s.events x) :
    s.events x = [.begun k, .called k] := by
  rcases yields_of_mem_events h with ⟨t, c, a, rfl, ht, hy⟩ | ⟨_, _, _, _, -, -, he⟩
  · cases hy with
    | called hc => simp only [State.events, ht, State.doing, hc, Bool.false_eq_true, if_false]
  · cases he

/-- Who calls a body has waited to run it. -/
theorem Move.called {x : Action B V} (hm : Move s x s') (h : s.Ledgered)
    (hk : .called k ∈ s.events x) :
    ∃ u, (k, .fetched u) ∈ s.ledger ∧ (k, .inBody u) ∈ s'.ledger := by
  have hlt : k < s.jobs.length := hm.own_lt h hk rfl
  obtain ⟨g, hg⟩ := h.exists hlt
  obtain ⟨g', hg', hn⟩ := hm.stage h hg
  have hown : .called k ∈ own k (s.events x) := mem_own.2 ⟨hk, rfl, rfl⟩
  generalize own k (s.events x) = es at hn hown
  cases hn with
  | call t => exact ⟨t, hg, hg'⟩
  | _ => simp at hown

/-- A task that a worker has taken waits to be run, or is taken just now. -/
theorem State.Founded.origin_of_fetched {s₀ : State B V} (h₀ : s₀.Founded)
    (has : s₀.steps as = some s) {x : Action B V} (hm : Move s x s')
    (hk : (k, .fetched u) ∈ s'.ledger)
    (hr : .removed k (.worker u) ∈ s₀.chronicle as ++ s.events x) :
    ((k, .fetched u) ∈ s.ledger ∧ .removed k (.worker u) ∈ s₀.chronicle as) ∨
      .removed k (.worker u) ∈ s.events x := by
  rcases List.mem_append.1 hr with hr | hr
  · rcases hm.origin ((Reachable.of_founded h₀).run has).ledgered hk with
      ⟨g, hg, hn⟩ | ⟨-, ⟨t, hg⟩, -⟩
    · have hmem : .removed k (.worker u) ∈ own k (s₀.chronicle as) := mem_own.2 ⟨hr, rfl, rfl⟩
      have hlog := (h₀.story has hg).log
      generalize own k (s.events x) = es' at hn
      generalize own k (s₀.chronicle as) = es at hlog hmem
      cases hn with
      | stay => exact .inl ⟨hg, hr⟩
      | fetch => cases hlog; cases hmem
      | run => cases hlog; simp at hmem
    · cases hg
  · exact .inr hr

/-- These calls come in the order in which their tasks left the backlog, and
    before the call of any task that a worker has taken since. -/
structure State.InOrder (s : State B V) (es : List (Event V)) (ks : List TaskId) : Prop where
  past : ks.Sublist (departures es)
  next : ∀ k u, (k, .fetched u) ∈ s.ledger → .removed k (.worker u) ∈ es →
    (ks ++ [k]).Sublist (departures es)

theorem State.InOrder.move {s₀ : State B V} (h₀ : s₀.Founded) (has : s₀.steps as = some s)
    {ks : List TaskId} (h : s.InOrder (s₀.chronicle as) ks) {x : Action B V} (hm : Move s x s')
    (hone : s.aliveCount ≤ 1)
    (hpop : ∀ k t, .called k ∈ s.events x → .removed k (.caller t) ∉ s₀.chronicle as) :
    s'.InOrder (s₀.chronicle as ++ s.events x) (ks ++ calls (s.events x)) := by
  have hl : s.Ledgered := ((Reachable.of_founded h₀).run has).ledgered
  by_cases hcall : ∃ k, .called k ∈ s.events x
  · obtain ⟨k, hk⟩ := hcall
    have hev := events_of_called hk
    obtain ⟨u, hf, hb⟩ := hm.called hl hk
    have hrem : .removed k (.worker u) ∈ s₀.chronicle as := by
      have hlog := (h₀.story has hf).log
      cases hlog with
      | fetched hfetch =>
        rcases hfetch with hown | ⟨v, hown⟩
        · exact (mem_own.1 (hown ▸ List.mem_singleton_self _)).1
        · exact absurd (mem_own.1 (hown ▸ List.mem_singleton_self _)).1 (hpop k v hk)
    have hd : departures (s.events x) = [] := by rw [hev]; rfl
    have hc : calls (s.events x) = [k] := by rw [hev]; rfl
    refine ⟨?_, fun k' v hk' hr' => ?_⟩
    · rw [departures_append, hd, hc, List.append_nil]
      exact h.next k u hf hrem
    · -- nobody else waits to run a task that a worker has taken
      rcases h₀.origin_of_fetched has hm hk' hr' with ⟨hf', hrem'⟩ | hr'
      · obtain rfl := h₀.fetched_unique has hone hf hrem hf' hrem'
        cases (hm.ledgered hl).unique hb hk'
      · rw [hev] at hr'
        simp at hr'
  · have hc : calls (s.events x) = [] :=
      List.eq_nil_iff_forall_not_mem.2 fun k hk => hcall ⟨k, mem_calls.1 hk⟩
    rw [hc, List.append_nil]
    refine ⟨?_, fun k u hk hr => ?_⟩
    · rw [departures_append]
      exact h.past.trans (List.sublist_append_left ..)
    · rw [departures_append]
      rcases h₀.origin_of_fetched has hm hk hr with ⟨hk, hr⟩ | hr
      · exact (h.next k u hk hr).trans (List.sublist_append_left ..)
      · exact h.past.append (List.singleton_sublist.2 (mem_departures.2 ⟨_, hr⟩))

theorem State.Founded.inOrder {s₀ : State B V} (h₀ : s₀.Founded) (has : s₀.steps as = some s)
    (hbs : s.steps bs = some s')
    (hone : ∀ cs s₁, cs <+: bs → s.steps cs = some s₁ → s₁.aliveCount ≤ 1)
    (hpop : ∀ k t, .called k ∈ s.chronicle bs → .removed k (.caller t) ∉ s₀.chronicle (as ++ bs)) :
    s'.InOrder (s₀.chronicle (as ++ bs)) (calls (s.chronicle bs)) := by
  induction bs using List.reverseRecOn generalizing s' with
  | nil =>
    cases hbs
    rw [List.append_nil]
    exact ⟨List.nil_sublist _, fun k u _ hr => List.singleton_sublist.2 (mem_departures.2 ⟨_, hr⟩)⟩
  | append_singleton bs x ih =>
    obtain ⟨s₁, hbs, hm⟩ := steps_concat.1 hbs
    have hall : s₀.steps (as ++ bs) = some s₁ := steps_append.2 ⟨s, has, hbs⟩
    rw [← List.append_assoc, chronicle_concat hall hm, chronicle_concat hbs hm] at *
    rw [calls_append]
    refine .move h₀ hall (ih hbs (fun cs s₂ hcs => hone cs s₂ ?_) fun k t hk hr => ?_) hm
      (hone bs s₁ (List.prefix_append ..) hbs) fun k t hk hr => ?_
    · exact hcs.trans (List.prefix_append ..)
    · exact hpop k t (List.mem_append_left _ hk) (List.mem_append_left _ hr)
    · exact hpop k t (List.mem_append_right _ hk) (List.mem_append_left _ hr)

/-! ## First in, first out -/

theorem State.Founded.arrivals_nodup {s₀ : State B V} (h₀ : s₀.Founded)
    (has : s₀.steps as = some s) : (s₀.arrivals as).Nodup := by
  rw [h₀.arrivals_eq has, List.nodup_append]
  refine ⟨h₀.tasksOf_nodup has (n := 0) (fun _ => rfl) fun e he => ?_,
    ((Reachable.of_founded h₀).run has).ledgered.tasks_nodup, fun k hd j hk hjk => ?_⟩
  · cases e <;> simp_all
  · -- nothing has happened to a task in the backlog
    subst hjk
    obtain ⟨r, hr⟩ := mem_departures.1 hd
    obtain ⟨i, hi⟩ := mem_tasks_iff.1 hk
    have hown : .removed k r ∈ own k (s₀.chronicle as) := mem_own.2 ⟨hr, rfl, rfl⟩
    have hlog := (h₀.story has hi).log
    generalize own k (s₀.chronicle as) = es at hlog hown
    cases hlog
    cases hown

/-- **First in, first out.**  In every reachable state the tasks that were ever
    appended to the backlog, in the order of the appends, are those that were
    ever removed from it, in the order of the removals, and then those that are
    in it; no task was appended twice.  While at most one worker is alive and
    nobody runs a task that a caller took out, the bodies are called in the
    order in which their tasks were appended. -/
theorem State.Founded.fifo {s₀ : State B V} (h₀ : s₀.Founded) (has : s₀.steps as = some s) :
    s₀.arrivals as = departures (s₀.chronicle as) ++ s.backlog.tasks ∧
    (s₀.arrivals as).Nodup ∧
    ∀ bs s', s.steps bs = some s' →
      (∀ cs s₁, cs <+: bs → s.steps cs = some s₁ → s₁.aliveCount ≤ 1) →
      (∀ k t, .called k ∈ s.chronicle bs → .removed k (.caller t) ∉ s₀.chronicle (as ++ bs)) →
      (calls (s.chronicle bs)).Sublist (s₀.arrivals (as ++ bs)) := by
  refine ⟨h₀.arrivals_eq has, h₀.arrivals_nodup has, fun bs s' hbs hone hpop => ?_⟩
  rw [h₀.arrivals_eq (steps_append.2 ⟨s, has, hbs⟩)]
  exact (h₀.inOrder has hbs hone hpop).past.trans (List.sublist_append_left ..)

end

/-- A run up to the state in which a task waits for a worker. -/
def loadedRun : List (Action Unit Unit) :=
  [paces 0 5, [.call 0 (.submit ())], paces 0 3].flatten

/-- The rest of it: another task is appended, and the worker runs both. -/
def orderlyRun : List (Action Unit Unit) :=
  [[.call 0 (.submit ())], paces 0 3, paces 1 3, [.finish 1 (.returned ())], paces 1 6].flatten

theorem fifo_orderlyRun : ∃ s s' : State Unit Unit,
    (State.founding "pool" false none 1 1).steps loadedRun = some s ∧
    s.steps orderlyRun = some s' ∧
    (State.founding "pool" false none 1 1).arrivals loadedRun =
      departures ((State.founding "pool" false none 1 1).chronicle loadedRun) ++ s.backlog.tasks ∧
    s.backlog.tasks = [0] ∧ calls (s.chronicle orderlyRun) = [0, 1] ∧
    (calls (s.chronicle orderlyRun)).Sublist
      ((State.founding "pool" false none 1 1).arrivals (loadedRun ++ orderlyRun)) := by
  have h₀ : (State.founding "pool" false none 1 1 : State Unit Unit).Founded :=
    State.founded_founding
  have hrun : ((State.founding "pool" false none 1 1).steps loadedRun).isSome = true := rfl
  obtain ⟨s, hs⟩ := Option.isSome_iff_exists.1 hrun
  have hrun' : (s.steps orderlyRun).isSome = true := by cases hs; rfl
  obtain ⟨s', hs'⟩ := Option.isSome_iff_exists.1 hrun'
  obtain ⟨heq, -, horder⟩ := h₀.fifo hs
  have hone : orderlyRun.inits.all
      (fun cs => (s.steps cs).all fun s₁ => decide (s₁.aliveCount ≤ 1)) = true := by
    cases hs; rfl
  have hpop : ((State.founding "pool" false none 1 1).chronicle (loadedRun ++ orderlyRun)).all
      (fun e => !e.isPop) = true := rfl
  refine ⟨s, s', hs, hs', heq, by cases hs; rfl, by cases hs; rfl,
    horder orderlyRun s' hs' (fun cs s₁ hcs h₁ => ?_) fun k t _ hr => ?_⟩
  · have := List.all_eq_true.1 hone cs ((List.mem_inits ..).2 hcs)
    simpa [h₁] using this
  · simpa using List.all_eq_true.1 hpop _ hr

end WorkerPool
