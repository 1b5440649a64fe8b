/-
  Every action moves each task by itself.

  * `Deed.ledgerWith`: what a step does to the tasks that the thread holds, row
    by row of the table of steps;
  * `State.Ledgered`: every task has exactly one entry in the ledger;
  * `Move.transfer`: an action changes the ledger entry by entry, in the events
    that the chronicle tells, or adds the entry of a new task;
  * `Move.stage`, `Move.origin`: what becomes of a task in an action, and where
    it comes from.
-/
import WorkerPool.Proofs.Ledger

namespace WorkerPool

variable {B V : Type}

/-! ## A step of a thread -/

section
variable {s s' : State B V} {t : ThreadId} {th : Thread V} {c : Chance} {a : Activity V}
  {turn : Turn B V} {rest : List (Activity V)}

theorem hand_worker (i : Nat) (hooked : Bool) :
    (Thread.worker i hooked : Thread V).hand t = [] := by
  cases hooked <;> rfl

theorem gather_hand_modify {ths : List (Thread V)} {g : Thread V → Thread V}
    (hg : ∀ th, (g th).stack = th.stack) :
    gather Thread.hand (ths.modify t g) = gather Thread.hand ths := by
  refine gather_congr fun u => ?_
  rw [List.getElem?_modify]
  by_cases hu : t = u <;> cases ths[u]? <;> simp [hu, Thread.hand, hg]

theorem Deed.hands_state (hd : Deed s t th c a turn) :
    gather Thread.hand turn.state.threads = gather Thread.hand s.threads := by
  obtain h | ⟨u, g, h⟩ | ⟨_, _, _, -, h⟩ := hd.threads
  · rw [h]
  · rw [h]
    exact gather_hand_modify fun _ => rfl
  · rw [h, gather_concat, hand_worker]
    exact Multiset.add_zero _

theorem hands_settleTurn (turn : Turn B V) (ht : turn.state.threads[t]? = some th)
    (hs : th.stack = a :: rest) :
    ∃ C : Multiset (TaskId × Stage V),
      gather Thread.hand turn.state.threads = beside (a.hand t) C ∧
      gather Thread.hand (State.settleTurn t turn).threads =
        beside (turn.next.flatMap (Activity.hand t)) C := by
  obtain ⟨C, hC, hC'⟩ := gather_modify (f := Thread.hand) ht
  simp only [beside_eq]
  refine ⟨(rest.flatMap (Activity.hand t) : List (TaskId × Stage V)) + C, ?_, ?_⟩
  · rw [hC]
    simp [Thread.hand, hs, ← Multiset.coe_add, Multiset.add_assoc]
  · refine (hC' _).trans ?_
    simp [Thread.hand, hs, ← Multiset.coe_add, Multiset.add_assoc]

/-- What a thread holds takes the place of what it held. -/
theorem Deed.hands (hd : Deed s t th c a turn) (ht : s.threads[t]? = some th)
    (hs : th.stack = a :: rest) : ∃ C : Multiset (TaskId × Stage V),
      gather Thread.hand s.threads = beside (a.hand t) C ∧
      gather Thread.hand (State.settleTurn t turn).threads =
        beside (turn.next.flatMap (Activity.hand t)) C := by
  obtain ⟨th', ht', hsame⟩ := hd.same ht
  rw [← hd.hands_state]
  exact hands_settleTurn turn ht' (hsame.stack.trans hs)

/-! ## Promises in a step -/

theorem entries_congr {js js' : List (Job B V)}
    (h : ∀ k : TaskId, js'[k]?.map Job.sender = js[k]?.map Job.sender) :
    gather Job.entry js' = gather Job.entry js := by
  refine gather_congr fun k => ?_
  have := h k
  cases hj : js[k]? <;> cases hj' : js'[k]? <;> simp_all [Job.entry]

theorem entries_modify {k : TaskId} {job : Job B V} (hj : s.jobs[k]? = some job)
    (hu : job.sender = .unsent) (f : Job B V → Job B V) :
    gather Job.entry (s.modifyJob k f).jobs =
      ((f job).entry k : Multiset (TaskId × Stage V)) + gather Job.entry s.jobs := by
  obtain ⟨C, hC, hC'⟩ := gather_modify (f := Job.entry (V := V)) hj
  rw [hC, State.modifyJob, hC']
  simp [Job.entry, hu]

theorem entries_settle {k : TaskId} {job : Job B V} (hj : s.jobs[k]? = some job)
    (hu : job.sender = .unsent) (r : TaskResult V) :
    gather Job.entry (s.settle k r).jobs = (k, .finished r) ::ₘ gather Job.entry s.jobs := by
  rw [State.settle, entries_modify hj hu]
  simp [Job.entry, Job.sender, Promise.send, show job.promise.sender = .unsent from hu]

theorem entries_abandon {k : TaskId} {job : Job B V} (hj : s.jobs[k]? = some job)
    (hu : job.sender = .unsent) :
    gather Job.entry (s.abandon k).jobs = (k, .dropped) ::ₘ gather Job.entry s.jobs := by
  rw [State.abandon, entries_modify hj hu]
  simp [Job.entry, Job.sender, Promise.close, show job.promise.sender = .unsent from hu]

theorem ledgerWith_cons (s : State B V) (e : TaskId × Stage V) (H : Multiset (TaskId × Stage V)) :
    s.ledgerWith (e ::ₘ H) = e ::ₘ s.ledgerWith H := by
  simp only [State.ledgerWith, Multiset.cons_add]

theorem ledgerWith_settle {k : TaskId} {job : Job B V} (hj : s.jobs[k]? = some job)
    (hu : job.sender = .unsent) (r : TaskResult V) (H : Multiset (TaskId × Stage V)) :
    (s.settle k r).ledgerWith H = (k, .finished r) ::ₘ s.ledgerWith H := by
  simp only [State.ledgerWith, entries_settle hj hu, Multiset.add_cons]
  rfl

theorem ledgerWith_abandon {k : TaskId} {job : Job B V} (hj : s.jobs[k]? = some job)
    (hu : job.sender = .unsent) (H : Multiset (TaskId × Stage V)) :
    (s.abandon k).ledgerWith H = (k, .dropped) ::ₘ s.ledgerWith H := by
  simp only [State.ledgerWith, entries_abandon hj hu, Multiset.add_cons]
  rfl

/-- The backlog apart from all else. -/
theorem ledgerWith_tasks (s : State B V) (H : Multiset (TaskId × Stage V)) :
    s.ledgerWith H = queueEntries 0 s.backlog.tasks +
      (H + heldEntries s.taken + gather Job.entry s.jobs) := by
  simp only [State.ledgerWith]
  ac_rfl

/-! ## The ledger in a step -/

/-- The tasks of a pass that is under way have open promises. -/
def State.Open (s : State B V) (k : TaskId) : Prop :=
  ∃ job, s.jobs[k]? = some job ∧ job.sender = .unsent

theorem Sweep.ledger {p : Clearing} {o : Clearing ⊕ Nat} (hp : Sweep s p s' o)
    (hn : s.backlog.tasks.Nodup) (ho : ∀ k ∈ p.tasks, s.Open k)
    {r : Remover} {C : Multiset (TaskId × Stage V)}
    (hr : ∀ (k : TaskId) i, Stage.Next k (.queued i) [.removed k r] (.dropping : Stage V)) :
    Transfer (s.cleared r p) (s.ledgerWith (beside p.hand C))
      (s'.ledgerWith (beside (o.elim Clearing.hand fun _ => []) C)) := by
  cases hp with
  | drain =>
    refine .drain hn (ledgerWith_tasks ..) ?_ hr
    simp only [ledgerWith_tasks, queueEntries, Multiset.zero_add, Sum.elim_inl, Clearing.hand,
      Clearing.tasks, beside_eq, ← Multiset.map_coe, add_assoc, Multiset.coe_nil,
      Multiset.map_zero]
  | drop k ks n =>
    obtain ⟨job, hj, hu⟩ := ho k List.mem_cons_self
    refine .single (ledgerWith_cons ..) (ledgerWith_abandon hj hu _) ?_
      (by simp [State.cleared])
    rw [State.cleared, own_self (by simp)]
    exact .drop
  | _ => exact .still rfl rfl

/-- The oldest task leaves the backlog for the hand of a thread. -/
theorem State.ledgerWith_take {k : TaskId} {ks : List TaskId} (hk : s.backlog.tasks = k :: ks)
    (hn : s.backlog.tasks.Nodup) {r : Remover} {g : Stage V}
    (hr : Stage.Next k (.queued 0) [.removed k r] g) (C : Multiset (TaskId × Stage V)) :
    Transfer (s.relieved r) (s.ledgerWith C)
      (State.ledgerWith { s with backlog := { s.backlog with tasks := ks } } ((k, g) ::ₘ C)) := by
  rw [State.relieved, hk]
  refine Transfer.take (C := C + heldEntries s.taken + gather Job.entry s.jobs)
    (hk ▸ hn) ?_ ?_ hr
  · exact hk ▸ ledgerWith_tasks s C
  · rw [ledgerWith_cons, ledgerWith_tasks]

/-- A thread puts a task into the backlog. -/
theorem State.ledgerWith_push {k : TaskId} (C : Multiset (TaskId × Stage V)) :
    State.ledgerWith { s with backlog := { s.backlog with tasks := s.backlog.tasks ++ [k] } } C =
      (k, .queued s.backlog.tasks.length) ::ₘ s.ledgerWith C := by
  simp only [State.ledgerWith, queueEntries_concat, Multiset.add_cons, Multiset.cons_add,
    Nat.zero_add]

/-- The last to hold a share takes the whole backlog. -/
theorem State.ledgerWith_last (hn : s.backlog.tasks.Nodup) (C : Multiset (TaskId × Stage V)) :
    Transfer (s.emptied (.last t)) (s.ledgerWith C)
      (State.ledgerWith { s with sharers := 0, backlog := { s.backlog with tasks := [] } }
        (beside (s.backlog.tasks.map (·, .dropping)) C)) := by
  refine .drain hn (ledgerWith_tasks ..) ?_ fun k i => .last i t
  simp only [ledgerWith_tasks, queueEntries, Multiset.zero_add, beside_eq, ← Multiset.map_coe,
    add_assoc]

theorem hand_single (a : Activity V) : [a].flatMap (Activity.hand t) = a.hand t := by
  simp

/-- **What a thread does next with the tasks it holds.** -/
theorem Deed.ledgerWith (hd : Deed s t th c a turn) (hn : s.backlog.tasks.Nodup)
    (ho : ∀ e ∈ a.hand t, s.Open e.1) (C : Multiset (TaskId × Stage V)) :
    Transfer (s.doing t a) (s.ledgerWith (beside (a.hand t) C))
      (turn.state.ledgerWith (beside (turn.next.flatMap (Activity.hand t)) C)) := by
  cases hd with
  | fetch _ hk | await _ hk => exact State.ledgerWith_take hk hn (.fetch t) C
  | pop hk => exact State.ledgerWith_take hk hn (.takeOut t) C
  | fetchNone _ hk | awaitStop _ hk | awaitSleep _ hk | popNone hk =>
    exact .still (by simp [State.doing, State.relieved, hk]) rfl
  | @check b =>
    refine .still rfl ?_
    cases b.told <;> rfl
  | clock =>
    refine .still rfl ?_
    rw [hand_single]
    rfl
  | @report b sh =>
    refine .still rfl ?_
    rw [hand_single]
    cases sh <;> rfl
  | @shift b sh now m r =>
    refine .still rfl ?_
    rw [hand_single]
    cases r <;> cases sh <;> rfl
  | leave _ hs => exact .still (by simp [State.doing, Nat.not_le.2 hs]) rfl
  | teardown hs => exact .still (by simp [State.doing, Nat.not_le.2 hs]) rfl
  | leaveLast _ hs | teardownLast hs =>
    simp only [State.doing, if_pos hs, hand_single]
    exact State.ledgerWith_last hn C
  | @inspect k w job hj =>
    have hc : s.isCancelled k = job.cancelled := by simp [State.isCancelled, hj]
    simp only [State.doing, hc]
    cases job.cancelled with
    | true =>
      refine .single (ledgerWith_cons ..) (ledgerWith_cons ..) ?_ (by simp)
      simpa [own, TaskPoint.stage] using Stage.Next.skip t
    | false =>
      refine .single (ledgerWith_cons ..) (ledgerWith_cons ..) ?_ (by simp)
      simpa [own, TaskPoint.stage] using Stage.Next.call t
  | skip =>
    exact .single (ledgerWith_cons ..) (ledgerWith_cons ..) (.skipped t) (List.forall_mem_nil _)
  | tallyReturned =>
    exact .single (ledgerWith_cons ..) (ledgerWith_cons ..) (.tally t (.returned _))
      (List.forall_mem_nil _)
  | tallyPanicked =>
    exact .single (ledgerWith_cons ..) (ledgerWith_cons ..) (.tally t (.panicked _))
      (List.forall_mem_nil _)
  | @settle k w r =>
    obtain ⟨job, hj, hu⟩ := ho _ List.mem_cons_self
    refine .single (ledgerWith_cons ..) (ledgerWith_settle hj hu r _) ?_ (by simp [State.doing])
    rw [State.doing, own_self (by simp)]
    exact .send t r
  | submitPush | tryPush =>
    exact .single (ledgerWith_cons ..) (State.ledgerWith_push _) (.enqueue t _)
      (List.forall_mem_nil _)
  | tryDrop =>
    obtain ⟨job, hj, hu⟩ := ho _ List.mem_cons_self
    refine .single (ledgerWith_cons ..) (ledgerWith_abandon hj hu _) ?_ (by simp [State.doing])
    rw [State.doing, own_self (by simp)]
    exact .refuse t
  | @popWake k =>
    refine .still rfl ?_
    show C + _ + ((k, .held) ::ₘ heldEntries s.taken) + _ = (k, .held) ::ₘ C + _ + _ + _
    simp only [Multiset.cons_add, Multiset.add_cons]
    rfl
  | clear hp =>
    simp only [hand_single]
    exact hp.ledger hn (fun k hk => ho _ (List.mem_map_of_mem hk)) fun k i => .clear i t
  | purge hp =>
    simp only [hand_single]
    exact hp.ledger hn (fun k hk => ho _ (List.mem_map_of_mem hk)) fun k i => .stop i t _
  | sweep hp =>
    simp only [hand_single]
    exact hp.ledger hn (fun k hk => ho _ (List.mem_map_of_mem hk)) fun k i => .stop i t _
  | clearEnd hp | purgeEnd hp | sweepEnd hp => cases hp; exact .still rfl rfl
  | discard =>
    obtain ⟨job, hj, hu⟩ := ho _ List.mem_cons_self
    simp only [hand_single]
    refine .single (ledgerWith_cons ..) (ledgerWith_abandon hj hu _) ?_ (by simp [State.doing])
    rw [State.doing, own_self (by simp)]
    exact .drop
  | @cancel k =>
    refine .none ?_ (by simp [State.doing])
    show C + _ + _ + _ = C + _ + _ + _
    congr 1
    exact entries_congr (map_modify fun _ _ => rfl)
  | receive hr =>
    refine .still rfl ?_
    show C + _ + _ + _ = C + _ + _ + _
    congr 1
    exact entries_congr (receive_blind blind_sender hr)
  | joinAll hs hw hp =>
    refine .still rfl ?_
    show C + _ + _ + _ = C + _ + _ + _
    congr 1
    exact entries_congr (pollSlots_blind blind_sender hp)
  | _ => exact .still rfl rfl

/-! ## Every task has its entry -/

/-- Every task has one entry, and nothing else has one. -/
def State.Ledgered (s : State B V) : Prop :=
  s.ledger.map Prod.fst = Multiset.range s.jobs.length

theorem map_fst_queueEntries (i : Nat) (ks : List TaskId) :
    (queueEntries (V := V) i ks).map Prod.fst = (ks : Multiset TaskId) := by
  induction ks generalizing i with
  | nil => rfl
  | cons k ks ih => rw [queueEntries, Multiset.map_cons, ih, Multiset.cons_coe]

theorem State.Ledgered.nodup (h : s.Ledgered) : (s.ledger.map Prod.fst).Nodup := by
  rw [State.Ledgered] at h
  rw [h]
  exact Multiset.nodup_range _

theorem State.Ledgered.tasks_nodup (h : s.Ledgered) : s.backlog.tasks.Nodup := by
  have := h.nodup
  rw [State.ledger, ledgerWith_tasks, Multiset.map_add, map_fst_queueEntries] at this
  exact (Multiset.nodup_add.1 this).1

theorem State.Ledgered.lt (h : s.Ledgered) {e : TaskId × Stage V} (he : e ∈ s.ledger) :
    e.1 < s.jobs.length := by
  rw [← Multiset.mem_range, ← h]
  exact Multiset.mem_map_of_mem _ he

/-- What a thread holds has an open promise. -/
theorem State.Ledgered.open (h : s.Ledgered) (ht : s.threads[t]? = some th) (ha : a ∈ th.stack)
    {e : TaskId × Stage V} (he : e ∈ a.hand t) : s.Open e.1 := by
  have hmem : e ∈ gather Thread.hand s.threads :=
    mem_gather.2 ⟨t, th, ht, List.mem_flatMap.2 ⟨a, ha, he⟩⟩
  have hled : e ∈ s.ledger := by simp [State.ledger, State.ledgerWith, hmem]
  have hlt := h.lt hled
  refine ⟨s.jobs[e.1], List.getElem?_eq_getElem hlt, ?_⟩
  by_contra hu
  have hent : ∃ g, (e.1, g) ∈ gather Job.entry s.jobs := by
    cases hsend : (s.jobs[e.1]).sender with
    | unsent => exact absurd hsend hu
    | sent r =>
      exact ⟨.finished r,
        mem_gather.2 ⟨e.1, _, List.getElem?_eq_getElem hlt, by simp [Job.entry, hsend]⟩⟩
    | closed =>
      exact ⟨.dropped,
        mem_gather.2 ⟨e.1, _, List.getElem?_eq_getElem hlt, by simp [Job.entry, hsend]⟩⟩
  obtain ⟨g, hg⟩ := hent
  have hn := h.nodup
  simp only [State.ledger, State.ledgerWith, Multiset.map_add] at hn
  refine Multiset.disjoint_left.1 (Multiset.nodup_add.1 hn).2.2 ?_
      (Multiset.mem_map_of_mem Prod.fst hg)
  simp only [Multiset.mem_add]
  exact .inl (.inl (Multiset.mem_map_of_mem _ hmem))

theorem Deed.transfer (hd : Deed s t th c a turn) (h : s.Ledgered) (ht : s.threads[t]? = some th)
    (hs : th.stack = a :: rest) :
    Transfer (s.doing t a) s.ledger (State.settleTurn t turn).ledger := by
  obtain ⟨C, hC, hC'⟩ := hd.hands ht hs
  have := hd.ledgerWith h.tasks_nodup
    (fun e he => h.open ht (Thread.mem_of_stack hs) he) C
  rw [← hC, ← hC'] at this
  exact this

theorem length_of_sender {js js' : List (Job B V)}
    (h : ∀ k : TaskId, js'[k]?.map Job.sender = js[k]?.map Job.sender) :
    js'.length = js.length := by
  have : js'.map Job.sender = js.map Job.sender :=
    List.ext_getElem? fun k => by simpa only [List.getElem?_map] using h k
  simpa using congrArg List.length this

theorem Deed.jobs_length (hd : Deed s t th c a turn) : turn.state.jobs.length = s.jobs.length := by
  cases hd with
  | settle | tryDrop | discard | cancel => exact List.length_modify ..
  | receive hr => exact length_of_sender (receive_blind blind_sender hr)
  | joinAll hs hw hp => exact length_of_sender (pollSlots_blind blind_sender hp)
  | clear hp | clearEnd hp | purge hp | purgeEnd hp | sweep hp | sweepEnd hp =>
    cases hp <;> first | rfl | exact List.length_modify ..
  | _ => rfl

/-- What a thread that begins a call holds more. -/
theorem Opening.hands {cl : Call B} {next : List (Activity V)} (ho : Opening s cl s' next)
    (ht : s.threads[t]? = some th) :
    gather Thread.hand (s'.modifyThread t
        fun th => { th with stack := next ++ th.stack, reply := none }).threads =
      beside (next.flatMap (Activity.hand t)) (gather Thread.hand s.threads) := by
  obtain ⟨C, hC, hC'⟩ := gather_modify (f := Thread.hand) ht
  rw [State.modifyThread, ho.threads, hC', hC, beside_eq, ← add_assoc, Multiset.coe_add]
  simp [Thread.hand]

theorem heldEntries_erase {ks : List TaskId} {k : TaskId} (hk : k ∈ ks) :
    heldEntries (V := V) ks = (k, .held) ::ₘ heldEntries (ks.erase k) := by
  rw [heldEntries, Multiset.coe_eq_coe.2 (List.perm_cons_erase hk)]
  rfl

/-- A new task has its entry where it is carried. -/
theorem ledgerWith_submit (body : B) (H : Multiset (TaskId × Stage V)) :
    State.ledgerWith { s with jobs := s.jobs ++ [.ofBody body] } H = s.ledgerWith H := by
  simp only [State.ledgerWith, gather_concat]
  exact congrArg (_ + ·) (add_zero _)

/-- A call takes a task that was taken out. -/
theorem ledgerWith_claim {k : TaskId} (hk : k ∈ s.taken) (H : Multiset (TaskId × Stage V)) :
    s.ledgerWith H =
      (k, .held) ::ₘ State.ledgerWith { s with taken := s.taken.erase k } H := by
  simp only [State.ledgerWith, heldEntries_erase hk, Multiset.add_cons, Multiset.cons_add]

theorem Opening.transfer {cl : Call B} {next : List (Activity V)} (ho : Opening s cl s' next)
    (ht : s.threads[t]? = some th) {s'' : State B V}
    (hs : s'' = s'.modifyThread t fun th => { th with stack := next ++ th.stack, reply := none }) :
    (Transfer [] s.ledger s''.ledger ∧ s''.jobs.length = s.jobs.length) ∨
      (∃ t, s''.ledger = (s.jobs.length, .carried t) ::ₘ s.ledger) ∧
        s''.jobs.length = s.jobs.length + 1 := by
  have hH := ho.hands ht
  rw [← hs] at hH
  have hled : s''.ledger = s'.ledgerWith (beside (next.flatMap (Activity.hand t))
      (gather Thread.hand s.threads)) := by
    rw [State.ledger, hH, hs]
    rfl
  have hjobs : s''.jobs = s'.jobs := by rw [hs]; rfl
  rw [hled, hjobs, State.ledger]
  generalize gather Thread.hand s.threads = H
  cases ho with
  | submit | trySubmit =>
    refine .inr ⟨⟨t, ?_⟩, List.length_append⟩
    rw [ledgerWith_submit]
    exact ledgerWith_cons s (s.jobs.length, .carried t) _
  | @runTaken k _ hk =>
    exact .inl ⟨.single (ledgerWith_claim hk _) (ledgerWith_cons _ (k, .fetched t) _) (.run t)
      (List.forall_mem_nil _), rfl⟩
  | @dropTaken k hk =>
    exact .inl ⟨.single (ledgerWith_claim hk _) (ledgerWith_cons _ (k, .dropping) _) .discard
      (List.forall_mem_nil _), rfl⟩
  | _ => exact .inl ⟨.still rfl rfl, rfl⟩

/-- **Every action moves each task by itself**, or it makes a new one. -/
theorem Move.transfer {x : Action B V} (hm : Move s x s') (h : s.Ledgered) :
    (Transfer (s.events x) s.ledger s'.ledger ∧ s'.jobs.length = s.jobs.length) ∨
      (∃ t, s'.ledger = (s.jobs.length, .carried t) ::ₘ s.ledger) ∧
        s'.jobs.length = s.jobs.length + 1 ∧ s.events x = [] := by
  cases hm with
  | arrive =>
    refine .inl ⟨.still rfl ?_, rfl⟩
    simp only [State.ledger, gather_concat]
    exact congrArg s.ledgerWith (add_zero _)
  | call ht hf hl ho =>
    rcases ho.transfer ht rfl with h | ⟨h, hlen⟩
    exacts [.inl h, .inr ⟨h, hlen, rfl⟩]
  | @finish t o th k w rest ht hs =>
    refine .inl ⟨?_, rfl⟩
    obtain ⟨C, hC, hC'⟩ := hands_settleTurn ⟨s, [.task k w (.tally o)], none⟩ ht hs
    simp only [State.events, top?_eq_some_iff.2 ⟨_, _, ht, hs⟩]
    refine .single (k := k) ((congrArg s.ledgerWith hC).trans (ledgerWith_cons _ (k, .inBody t) _))
      ((congrArg s.ledgerWith hC').trans (ledgerWith_cons _ (k, .tallying t o) _)) ?_ (by simp)
    rw [own_self (by simp)]
    exact .finish t o
  | hook ht hs =>
    obtain ⟨C, hC, hC'⟩ := hands_settleTurn ⟨s, [.work .fetch], none⟩ ht hs
    exact .inl ⟨.still rfl (congrArg s.ledgerWith (hC'.trans hC.symm)), rfl⟩
  | hookPanic ht hs =>
    obtain ⟨C, hC, hC'⟩ := hands_settleTurn ⟨s, [.work .leave], none⟩ ht hs
    refine .inl ⟨.still rfl ?_, rfl⟩
    refine congrArg s.ledgerWith (Eq.trans ?_ (hC'.trans hC.symm))
    exact gather_hand_modify fun _ => rfl
  | run hw ht hs hd =>
    refine .inl ⟨?_, hd.jobs_length⟩
    simp only [State.events, top?_eq_some_iff.2 ⟨_, _, ht, hs⟩]
    exact hd.transfer h ht hs
  | expire ht hs =>
    obtain ⟨C, hC, hC'⟩ := hands_settleTurn
      ⟨s, [], some (.result (.error .timedOut))⟩ ht hs
    exact .inl ⟨.still rfl (congrArg s.ledgerWith (hC'.trans hC.symm)), rfl⟩
  | rouse | tick => exact .inl ⟨.still rfl rfl, rfl⟩

/-! ## What becomes of a task -/

section
variable {es : List (Event V)} {l l' : Multiset (TaskId × Stage V)} {k : TaskId} {g g' : Stage V}

theorem map_fst_befores (P : List (TaskId × Stage V × Stage V)) :
    (befores P).map Prod.fst = (P.map (·.1) : Multiset TaskId) :=
  Multiset.map_map ..

theorem map_fst_afters (P : List (TaskId × Stage V × Stage V)) :
    (afters P).map Prod.fst = (P.map (·.1) : Multiset TaskId) :=
  Multiset.map_map ..

theorem mem_befores {P : List (TaskId × Stage V × Stage V)} :
    (k, g) ∈ befores P ↔ ∃ g', (k, g, g') ∈ P := by
  simp [befores]

theorem mem_afters {P : List (TaskId × Stage V × Stage V)} :
    (k, g') ∈ afters P ↔ ∃ g, (k, g, g') ∈ P := by
  simp [afters]

namespace Transfer

theorem map_fst (h : Transfer es l l') : l'.map Prod.fst = l.map Prod.fst := by
  obtain ⟨P, C, rfl, rfl, -, -⟩ := h
  rw [Multiset.map_add, Multiset.map_add, map_fst_befores, map_fst_afters]

/-- What does not go on is left in peace. -/
theorem own_eq_nil {P : List (TaskId × Stage V × Stage V)} {C : Multiset (TaskId × Stage V)}
    (hn : ((befores P + C).map Prod.fst).Nodup) (hk : (k, g) ∈ C)
    (he : ∀ e ∈ es, e.isOwn = true → e.task ∈ P.map (·.1)) : own k es = [] := by
  rw [own, List.filter_eq_nil_iff]
  intro e hem hb
  simp only [Event.befalls, Bool.and_eq_true, beq_iff_eq] at hb
  have hP := he e hem hb.1
  rw [Multiset.map_add, map_fst_befores] at hn
  refine Multiset.disjoint_left.1 (Multiset.nodup_add.1 hn).2.2 (Multiset.mem_coe.2 hP) ?_
  rw [hb.2]
  exact Multiset.mem_map_of_mem Prod.fst hk

theorem next (h : Transfer es l l') (hn : (l.map Prod.fst).Nodup) (hk : (k, g) ∈ l) :
    ∃ g', (k, g') ∈ l' ∧ Stage.Next k g (own k es) g' := by
  obtain ⟨P, C, rfl, rfl, hP, he⟩ := h
  rcases Multiset.mem_add.1 hk with hk | hk
  · obtain ⟨g', hp⟩ := mem_befores.1 hk
    exact ⟨g', Multiset.mem_add.2 (.inl (mem_afters.2 ⟨g, hp⟩)), hP _ hp⟩
  · refine ⟨g, Multiset.mem_add.2 (.inr hk), ?_⟩
    rw [own_eq_nil hn hk he]
    exact .stay g

end Transfer

theorem Move.ledgered {x : Action B V} (hm : Move s x s') (h : s.Ledgered) : s'.Ledgered := by
  rcases hm.transfer h with ⟨hT, hlen⟩ | ⟨⟨t, hled⟩, hlen, -⟩
  · rw [State.Ledgered, hT.map_fst, hlen, h]
  · rw [State.Ledgered, hled, Multiset.map_cons, hlen, Multiset.range_succ, h]

theorem State.Founded.ledgered (h : s.Founded) : s.Ledgered := by
  obtain ⟨name, hooked, capacity, interval, workers, rfl⟩ := h
  rfl

/-- A pool that is just being founded has no tasks. -/
theorem State.Founded.not_mem_ledger (h : s.Founded) : (k, g) ∉ s.ledger := by
  intro hg
  have hlt : k < s.jobs.length := h.ledgered.lt hg
  obtain ⟨name, hooked, capacity, interval, workers, rfl⟩ := h
  exact Nat.not_lt_zero _ hlt

/-- **Every task has exactly one entry in the ledger.** -/
theorem State.Reachable.ledgered (h : s.Reachable) : s.Ledgered :=
  h.induct (fun _ => Founded.ledgered) fun _ _ _ _ h hm => hm.ledgered h

theorem State.Ledgered.unique (h : s.Ledgered) (hg : (k, g) ∈ s.ledger) (hg' : (k, g') ∈ s.ledger) :
    g = g' := by
  have := Multiset.inj_on_of_nodup_map h.nodup _ hg _ hg' rfl
  exact congrArg Prod.snd this

theorem State.Ledgered.exists (h : s.Ledgered) (hk : k < s.jobs.length) :
    ∃ g, (k, g) ∈ s.ledger := by
  have : k ∈ s.ledger.map Prod.fst := by rw [h]; exact Multiset.mem_range.2 hk
  obtain ⟨⟨_, g⟩, hg, rfl⟩ := Multiset.mem_map.1 this
  exact ⟨g, hg⟩

/-- **What becomes of a task in an action.** -/
theorem Move.stage {x : Action B V} (hm : Move s x s') (h : s.Ledgered) (hg : (k, g) ∈ s.ledger) :
    ∃ g', (k, g') ∈ s'.ledger ∧ Stage.Next k g (own k (s.events x)) g' := by
  rcases hm.transfer h with ⟨hT, -⟩ | ⟨⟨t, hled⟩, -, hes⟩
  · exact hT.next h.nodup hg
  · refine ⟨g, by rw [hled]; exact Multiset.mem_cons_of_mem hg, ?_⟩
    rw [hes]
    exact .stay g

/-- What every way of a task keeps, its stages keep along a run. -/
theorem steps_stage {P : Stage V → Prop} (next : ∀ g es g', P g → Stage.Next k g es g' → P g')
    (h : s.Ledgered) (hg : (k, g) ∈ s.ledger) (hP : P g) {as : List (Action B V)}
    (has : s.steps as = some s') : ∃ g', (k, g') ∈ s'.ledger ∧ P g' := by
  refine (steps_keep (P := fun s => s.Ledgered ∧ ∃ g, (k, g) ∈ s.ledger ∧ P g) ?_
    ⟨h, g, hg, hP⟩ has).2
  rintro s₁ x s₂ ⟨h, g, hg, hP⟩ hm
  obtain ⟨g', hg', hn⟩ := hm.stage h hg
  exact ⟨hm.ledgered h, g', hg', next _ _ _ hP hn⟩

/-- What happens in an action happens to tasks that are there. -/
theorem Move.own_lt {x : Action B V} (hm : Move s x s') (h : s.Ledgered) {e : Event V}
    (he : e ∈ s.events x) (ho : e.isOwn = true) : e.task < s.jobs.length := by
  rcases hm.transfer h with ⟨⟨P, C, hled, -, -, hP⟩, -⟩ | ⟨-, -, hes⟩
  · obtain ⟨p, hp, hpe⟩ := List.mem_map.1 (hP e he ho)
    have hmem : (p.1, p.2.1) ∈ s.ledger := by
      rw [hled]
      exact Multiset.mem_add.2 (.inl (mem_befores.2 ⟨p.2.2, hp⟩))
    exact hpe ▸ h.lt hmem
  · rw [hes] at he
    cases he

theorem Move.jobs_length_le {x : Action B V} (hm : Move s x s') (h : s.Ledgered) :
    s.jobs.length ≤ s'.jobs.length := by
  rcases hm.transfer h with ⟨-, hlen⟩ | ⟨-, hlen, -⟩
  · exact Nat.le_of_eq hlen.symm
  · exact hlen ▸ Nat.le_succ _

/-- **Where a task comes from in an action.** -/
theorem Move.origin {x : Action B V} (hm : Move s x s') (h : s.Ledgered)
    (hg : (k, g') ∈ s'.ledger) :
    (∃ g, (k, g) ∈ s.ledger ∧ Stage.Next k g (own k (s.events x)) g') ∨
      k = s.jobs.length ∧ (∃ t, g' = .carried t) ∧ s.events x = [] := by
  by_cases hk : k < s.jobs.length
  · obtain ⟨g, hg₀⟩ := h.exists hk
    obtain ⟨g'', hg'', hn⟩ := hm.stage h hg₀
    cases (hm.ledgered h).unique hg hg''
    exact .inl ⟨g, hg₀, hn⟩
  · have hlt := (hm.ledgered h).lt hg
    rcases hm.transfer h with ⟨-, hlen⟩ | ⟨⟨t, hled⟩, hlen, hes⟩
    · exact absurd (hlen ▸ hlt) hk
    · have hk : k = s.jobs.length := by
        rw [hlen] at hlt
        exact Nat.le_antisymm (Nat.le_of_lt_succ hlt) (Nat.not_lt.1 hk)
      refine .inr ⟨hk, ⟨t, ?_⟩, hes⟩
      refine (hm.ledgered h).unique hg ?_
      rw [hled, hk]
      exact Multiset.mem_cons_self _ _

end

end

end WorkerPool
