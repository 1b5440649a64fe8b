/-
  What is left when the pool is gone.

  * `State.Shared`: every share that is out is held by a worker or by the pool,
    and once the last one is given back nothing is left in the backlog;
  * `Thread.TearsDown`: nothing but a stop comes before a pool is torn down;
  * `State.IsBeingDropped`: someone is in the middle of dropping the pool, or
    what was left in it; at rest, with no worker alive, nobody is;
  * `State.Founded.nothing_left`: then every task was run once or dropped, and
    its handle is resolved, unless a caller took it out and still has it.
-/
import WorkerPool.Proofs.Arrivals
import WorkerPool.Proofs.Booking
import WorkerPool.Proofs.Fate
import WorkerPool.Proofs.Waiting

namespace WorkerPool

variable {B V : Type}

/-! ## Shares -/

/-- The shares that are out are no more than their holders.  With `State.Alive`, which gives
    the other bound, the last one to give a share back is known to be the last. -/
structure State.Shared (s : State B V) : Prop where
  /-- every share is held by a worker or by the pool -/
  shares : s.sharers ≤ tally Activity.works s.threads + s.ownShare
  /-- the last one to give back a share empties the backlog -/
  empty : s.sharers = 0 → s.backlog.tasks = []

section
variable {s s' : State B V} {t : ThreadId} {th : Thread V} {c : Chance} {a : Activity V}
  {turn : Turn B V} {rest : List (Activity V)}

/-- While the pool serves, its own share is out. -/
theorem State.Alive.sharers_pos (h : s.Alive) (hl : s.life ≠ .dropped) : 0 < s.sharers := by
  have := h.share
  rw [State.ownShare, if_neg hl] at this
  omega

/-- Nothing gets into the backlog once all shares are given back, and the last
    one to do so has emptied it. -/
theorem Deed.keeps_empty_backlog (hd : Deed s t th c a turn) (ha : s.Alive)
    (ht : s.threads[t]? = some th) (hs : th.stack = a :: rest)
    (h : s.sharers = 0 → s.backlog.tasks = []) :
    turn.state.sharers = 0 → turn.state.backlog.tasks = [] := by
  -- whoever appends a task uses a pool that is there
  have hserves (hpos : 0 < a.serves) (h0 : s.sharers = 0) : False := by
    have hlife := ha.serving (tally_pos ht (Thread.mem_of_stack hs) hpos)
    have := ha.sharers_pos (by simp [hlife])
    omega
  cases hd with
  | fetch _ hk | await _ hk | pop hk => intro h0; rw [h h0] at hk; cases hk
  | leaveLast | teardownLast => exact fun _ => rfl
  | leave _ hlt | teardown hlt =>
    intro h0
    have : s.sharers - 1 = 0 := h0
    omega
  | submitPush | tryPush => exact fun h0 => (hserves Nat.one_pos h0).elim
  | spawn => exact fun h0 => absurd h0 (Nat.succ_ne_zero _)
  | clear hp | clearEnd hp | purge hp | purgeEnd hp | sweep hp | sweepEnd hp =>
    cases hp <;> first | exact h | exact fun _ => rfl
  | _ => exact h

/-- A step in which no more shares go out than there are new holders. -/
theorem State.Shared.congr (h : s.Shared) (hl : s'.life = s.life)
    (hd : tally Activity.tearsDown s'.threads = tally Activity.tearsDown s.threads)
    (hw : tally Activity.works s.threads + s'.sharers ≤
      tally Activity.works s'.threads + s.sharers)
    (he : s'.sharers = 0 → s'.backlog.tasks = []) : s'.Shared where
  shares := by
    have := h.shares
    simp only [State.ownShare] at this ⊢
    rw [hl, hd]
    omega
  empty := he

/-- The pool has been dropped by someone who will give back its share. -/
theorem State.Shared.ended (h : s.Shared) (hl : s.life ≠ .dropped) (hl' : s'.life = .dropped)
    (hd : 0 < tally Activity.tearsDown s'.threads)
    (hw : tally Activity.works s'.threads = tally Activity.works s.threads)
    (hs : s'.sharers = s.sharers) (he : s'.sharers = 0 → s'.backlog.tasks = []) : s'.Shared where
  shares := by
    have := h.shares
    simp only [State.ownShare, if_neg hl, if_pos hl'] at this ⊢
    omega
  empty := he

/-- The pool stands, and holds its share as before. -/
theorem State.Shared.built (h : s.Shared) (hl : s.life ≠ .dropped) (hl' : s'.life ≠ .dropped)
    (hw : tally Activity.works s'.threads = tally Activity.works s.threads)
    (hs : s'.sharers = s.sharers) (he : s'.sharers = 0 → s'.backlog.tasks = []) : s'.Shared where
  shares := by
    have := h.shares
    simp only [State.ownShare, if_neg hl, if_neg hl'] at this ⊢
    omega
  empty := he

/-- The pool gives back its own share. -/
theorem State.Shared.tornDown (h : s.Shared) (hl : s.life = .dropped) (hl' : s'.life = .dropped)
    (hd : tally Activity.tearsDown s'.threads + 1 = tally Activity.tearsDown s.threads)
    (hw : tally Activity.works s'.threads = tally Activity.works s.threads)
    (hs : s'.sharers + 1 ≤ s.sharers) (he : s'.sharers = 0 → s'.backlog.tasks = []) :
    s'.Shared where
  shares := by
    have := h.shares
    simp only [State.ownShare, if_pos hl, if_pos hl'] at this ⊢
    omega
  empty := he

/-- The last share is given back. -/
theorem State.Shared.spent (hs : s.sharers = 0) (hk : s.backlog.tasks = []) : s.Shared :=
  ⟨by omega, fun _ => hk⟩

theorem State.Alive.not_dropped (h : s.Alive) (hb : 0 < tally Activity.builds s.threads) :
    s.life ≠ .dropped := by
  have := h.building
  intro hl
  rw [if_neg (by simp [hl])] at this
  omega

theorem Deed.shared (hd : Deed s t th c a turn) (ha : s.Alive) (h : s.Shared)
    (ht : s.threads[t]? = some th) (hs : th.stack = a :: rest) :
    (State.settleTurn t turn).Shared := by
  have hD := hd.tally (f := Activity.tearsDown) ht hs rfl rfl
  obtain ⟨th', ht', hsame⟩ := hd.same ht
  have hW := tally_settleTurn (f := Activity.works) ht' (hsame.stack.trans hs)
  have hempty : (State.settleTurn t turn).sharers = 0 →
      (State.settleTurn t turn).backlog.tasks = [] := hd.keeps_empty_backlog ha ht hs h.empty
  have hmem : a ∈ th.stack := Thread.mem_of_stack hs
  cases hd with
  | @spawn n i start =>
    have hnew : WorkerPool.tally Activity.works (s.spawn i).threads =
        WorkerPool.tally Activity.works s.threads + 1 := by
      simp only [State.spawn, tally_append, tally_singleton, Thread.tally, Thread.worker]
      rfl
    refine h.congr rfl hD (add_le_add_of_add (q := 0) (Eq.trans hW hnew).symm ?_) hempty
    show 0 + (s.sharers + 1) ≤ 1 + s.sharers
    omega
  | leave _ hlt =>
    refine h.congr rfl hD (add_le_add_of_add hW.symm ?_) hempty
    show 1 + (s.sharers - 1) ≤ 0 + s.sharers
    omega
  | teardown hlt =>
    have hlife := ha.dropped (tally_pos ht hmem Nat.one_pos)
    exact h.tornDown hlife hlife hD (Nat.add_right_cancel hW)
      (Nat.le_of_eq (Nat.sub_add_cancel (Nat.le_of_lt hlt))) hempty
  | leaveLast | teardownLast => exact .spent rfl rfl
  | reserveOverflow | buildRefused | buildPanicked =>
    have hpos := Nat.lt_of_lt_of_eq (Nat.succ_pos _) hD.symm
    exact h.ended (ha.not_dropped (tally_pos ht hmem Nat.one_pos)) rfl hpos
      (Nat.add_right_cancel hW) rfl hempty
  | build =>
    have hserving : Life.serving ≠ .dropped := by simp
    exact h.built (ha.not_dropped (tally_pos ht hmem Nat.one_pos)) hserving
      (Nat.add_right_cancel hW) rfl hempty
  | clear hp | clearEnd hp | purge hp | purgeEnd hp | sweep hp | sweepEnd hp =>
    cases hp <;> exact h.congr rfl hD (add_le_add_of_add hW.symm (Nat.le_refl _)) hempty
  | mark | unmark | unmarkNone | resizeTell | stopTell =>
    have hw := (Nat.add_right_cancel hW).trans (tally_modify_stack fun _ => rfl)
    exact h.congr rfl hD (Nat.le_of_eq (congrArg (· + s.sharers) hw.symm)) hempty
  | _ => exact h.congr rfl hD (add_le_add_of_add hW.symm (Nat.le_refl _)) hempty

theorem Opening.shared {cl : Call B} {s₁ : State B V} {next : List (Activity V)}
    (ho : Opening s cl s₁ next) (hl : cl.usesPool = true → s.life = .serving) (h : s.Shared)
    (ht : s.threads[t]? = some th) :
    (s₁.modifyThread t fun th => { th with stack := next ++ th.stack, reply := none }).Shared := by
  have hD := ho.tally (f := Activity.tearsDown) ht
  have hW := ho.tally (f := Activity.works) ht
  cases ho with
  | drop =>
    have hserving := hl rfl
    exact h.ended (by simp [hserving]) rfl (Nat.lt_of_lt_of_eq (Nat.succ_pos _) hD.symm) hW rfl
      h.empty
  | _ => exact h.congr rfl hD (Nat.le_of_eq (congrArg (· + s.sharers) hW.symm)) h.empty

theorem Move.shared {x : Action B V} (hm : Move s x s') (ha : s.Alive) (h : s.Shared) :
    s'.Shared := by
  cases hm with
  | arrive =>
    have eq (f : Activity V → Nat) : tally f (s.threads ++ [.outside]) = tally f s.threads := by
      rw [tally_append]
      rfl
    exact h.congr rfl (eq _) (Nat.le_of_eq (congrArg (· + s.sharers) (eq _).symm)) h.empty
  | call ht hf hl ho => exact ho.shared hl h ht
  | run hw ht hs hd => exact hd.shared ha h ht hs
  | finish ht hs | hook ht hs | expire ht hs =>
    exact h.congr rfl (tally_settleTurn_same ht hs rfl)
      (Nat.le_of_eq (congrArg (· + s.sharers) (tally_settleTurn_same ht hs rfl).symm)) h.empty
  | @hookPanic t _ _ ht hs =>
    have same {f : Activity V → Nat} (hf : ([.work .leave].map f).sum = f (.work .hook)) :
        tally f ((State.settleTurn t ⟨s, [.work .leave], none⟩).modifyThread t
          ({ · with died := true })).threads = tally f s.threads := by
      refine (tally_modify_stack ?_).trans (tally_settleTurn_same ht hs hf)
      exact fun _ => rfl
    exact h.congr rfl (same rfl) (Nat.le_of_eq (congrArg (· + s.sharers) (same rfl).symm)) h.empty
  | rouse | tick => exact h.congr rfl rfl (Nat.le_refl _) h.empty

/-- **Every share is held by a worker or by the pool**, and nothing is left in
    the backlog once all are given back. -/
theorem State.Reachable.shared (h : s.Reachable) : s.Shared := by
  refine h.induct (P := State.Shared) ?_ fun s x s' hr ih hm => hm.shared hr.alive ih
  rintro s ⟨name, hooked, capacity, interval, workers, rfl⟩
  exact ⟨Nat.le_refl 1, nofun⟩

end

/-! ## Tearing the pool down -/

/-- A stack on which nothing but a stop comes before the pool is torn down. -/
inductive TearsDown : List (Activity V) → Prop where
  | never {l} (h : ∀ r, .teardown r ∉ l) : TearsDown l
  | next {r l} (h : ∀ r, .teardown r ∉ l) : TearsDown (.teardown r :: l)
  | stopped {g p r l} (h : ∀ r, .teardown r ∉ l) : TearsDown (.stop g p :: .teardown r :: l)

section
variable {s s' : State B V} {t : ThreadId} {th : Thread V} {c : Chance} {a : Activity V}
  {turn : Turn B V} {rest : List (Activity V)}

/-- Who tears the pool down stops it before, unless there is nothing to stop. -/
theorem Deed.teardown_next (hd : Deed s t th c a turn) :
    (∀ r, .teardown r ∉ turn.next) ∨ (∃ r, turn.next = [.teardown r]) ∨
      ∃ r, turn.next = [.stop true .enter, .teardown r] := by
  cases hd with
  | reserveOverflow => exact .inr (.inl ⟨_, rfl⟩)
  | buildRefused | buildPanicked => exact .inr (.inr ⟨_, rfl⟩)
  | fetched | unmark => exact .inl fun r hr => by simp [runNext] at hr
  | _ => exact .inl fun r hr => by simp at hr

theorem Deed.stop_next {g : Bool} {p : StopPoint} (hd : Deed s t th c (.stop g p) turn) :
    turn.next = [] ∨ ∃ q, turn.next = [.stop g q] := by
  cases hd <;> first | exact .inl rfl | exact .inr ⟨_, rfl⟩

theorem TearsDown.append {next below : List (Activity V)} (h : ∀ r, .teardown r ∉ below)
    (hn : (∀ r, .teardown r ∉ next) ∨ (∃ r, next = [.teardown r]) ∨
      ∃ r, next = [.stop true .enter, .teardown r]) : TearsDown (next ++ below) := by
  rcases hn with hn | ⟨r, rfl⟩ | ⟨r, rfl⟩
  · refine .never fun r hr => ?_
    exact (List.mem_append.1 hr).elim (hn r) (h r)
  · exact .next h
  · exact .stopped h

theorem Thread.Next.tearsDown {o : Option (Thread V)} {w' : Thread V} (hn : Thread.Next s o w')
    (ho : ∀ w, o = some w → TearsDown w.stack) : TearsDown w'.stack := by
  cases hn with
  | same hsame => rw [hsame.stack]; exact ho _ rfl
  | outside | worker => exact .never fun r hr => by simp [Thread.outside, Thread.worker] at hr
  | @call w _ _ _ next hf hl hopen hs hb =>
    -- whoever is free has not begun to tear the pool down
    have hnot : ∀ r, .teardown r ∉ w.stack := by
      have hw := ho w rfl
      generalize hst : w.stack = l at hw
      cases hw with
      | never h => exact h
      | next | stopped => simp [Thread.isFree, hst] at hf
    rw [hs]
    refine .append hnot ?_
    cases hopen with
    | drop => exact .inr (.inr ⟨_, rfl⟩)
    | _ => exact .inl fun r hr => by simp at hr
  | @step w _ x below next hx hfollows hs hb =>
    rw [hs]
    have hw := ho w rfl
    rw [hx] at hw
    cases hw with
    | never h =>
      have hbelow : ∀ r, .teardown r ∉ below := fun r hr => h r (List.mem_cons_of_mem _ hr)
      refine .append hbelow ?_
      cases hfollows with
      | run hd => exact hd.teardown_next
      | _ => exact .inl fun r hr => by simp at hr
    | next h =>
      refine .append h ?_
      cases hfollows with
      | run hd => exact hd.teardown_next
    | stopped h =>
      cases hfollows with
      | run hd =>
        rcases hd.stop_next with hnext | ⟨q, hnext⟩ <;> rw [hnext]
        exacts [.next h, .stopped h]

theorem State.Reachable.tearsDown (hr : s.Reachable) (ht : s.threads[t]? = some th) :
    TearsDown th.stack := by
  refine hr.induct (P := fun s => ∀ (t : ThreadId) (th : Thread V), s.threads[t]? = some th →
    TearsDown th.stack) ?_ ?_ t th ht
  · rintro s ⟨name, hooked, capacity, interval, workers, rfl⟩ t th ht
    rw [List.mem_singleton.1 (List.mem_of_getElem? ht)]
    exact .never fun r hr => by simp at hr
  · intro s x s' _ ih hm t th ht
    exact (hm.thread ht).tearsDown fun w hw => ih t w hw

/-! ## Dropping the pool -/

/-- An activity in the middle of dropping the pool, or a task that was left in
    it. -/
def Activity.DropsPool (es : List (Event V)) : Activity V → Prop
  | stop .. | teardown _ => True
  | discard ks _ => ∃ k ∈ ks, ∀ u, .removed k (.caller u) ∉ es
  | _ => False

/-- Someone is in the middle of dropping the pool, or a task that was left in
    it. -/
def State.IsBeingDropped (s : State B V) (es : List (Event V)) : Prop :=
  ∃ (t : ThreadId) (th : Thread V), s.threads[t]? = some th ∧ ∃ a ∈ th.stack, a.DropsPool es

/-- A thread that has something to do while no worker is alive is from outside. -/
theorem State.badge_eq_none (h : s.aliveCount = 0) (ht : s.threads[t]? = some th)
    (ha : a ∈ th.stack) : th.badge = none := by
  have hdead := List.countP_eq_zero.1 h th (List.mem_of_getElem? ht)
  have hbusy : th.stack.isEmpty = false := by
    cases hs : th.stack with
    | nil => rw [hs] at ha; cases ha
    | cons => rfl
  by_contra hb
  exact hdead (by simp [Thread.hasEnded, hbusy, Option.isSome_iff_ne_none.2 hb])

/-- **At rest, with no worker alive, nobody is in the middle of dropping the
    pool.** -/
theorem State.AtRest.not_beingDropped (h : s.AtRest) (hr : s.Reachable)
    (hdead : s.aliveCount = 0) {es : List (Event V)} : ¬ s.IsBeingDropped es := by
  rintro ⟨t, th, ht, a, ha, hdrop⟩
  have hend := h.not_ending hr (t := t)
  have hstop {g : Bool} {p : StopPoint} (hp : .stop g p ∈ th.stack) : False := by
    obtain ⟨u, -, hb, -, -, hlive⟩ := h.waitsFor hr ht hp
    obtain ⟨w, hw, hb⟩ := isSome_badge?_iff.1 hb
    cases hs : w.stack with
    | nil => exact hlive ⟨w, hw, by simp [Thread.hasEnded, hb, hs]⟩
    | cons x rest =>
      rw [badge_eq_none hdead hw (Thread.mem_of_stack hs)] at hb
      cases hb
  cases a with
  | stop g p => exact hstop ha
  | teardown r =>
    have htears := hr.tearsDown ht
    generalize hs : th.stack = l at htears
    cases htears with
    | never hnot => exact hnot r (hs ▸ ha)
    | next => exact hend.1 _ (top?_eq_some_iff.2 ⟨th, _, ht, hs⟩)
    | stopped => exact hstop (Thread.mem_of_stack hs)
  | discard ks r =>
    obtain ⟨rest, hs⟩ := (hr.shaped.thread t th ht).eq_cons ha id
    exact hend.2 ks r (top?_eq_some_iff.2 ⟨th, rest, ht, hs⟩)
  | _ => exact hdrop

end

/-! ## What is left -/

/-- The tasks that a chronicle begins to run. -/
def begins (es : List (Event V)) : List TaskId := tasksOf Event.isBegin es

/-- A caller took the task out and still has it: it is one of those that callers
    hold, or a thread from outside is about to run it or to drop it. -/
def State.InCallersHands (s : State B V) (es : List (Event V)) (k : TaskId) : Prop :=
  (∃ u, .removed k (.caller u) ∈ es) ∧
    (k ∈ s.taken ∨ ∃ (t : ThreadId) (th : Thread V), s.threads[t]? = some th ∧ th.badge = none ∧
      ∃ a ∈ th.stack, ∃ g, (k, g) ∈ a.hand t)

section
variable {s s₀ : State B V} {t : ThreadId} {k : TaskId} {as : List (Action B V)}

theorem Fetched.removed {es : List (Event V)} (h : Fetched k t es) :
    .removed k (.worker t) ∈ es ∨ ∃ u, .removed k (.caller u) ∈ es := by
  rcases h with rfl | ⟨u, rfl⟩
  exacts [.inl (List.mem_singleton_self _), .inr ⟨u, List.mem_singleton_self _⟩]

theorem Fetched.countP_begin {es : List (Event V)} (h : Fetched k t es) :
    es.countP Event.isBegin = 0 := by
  rcases h with rfl | ⟨u, rfl⟩ <;> rfl

/-- Whoever runs a task took it out as a worker, or got it from a caller. -/
theorem Stage.Log.removed {g : Stage V} {es : List (Event V)} (h : g.Log k es)
    (hg : g.place = .running t) :
    .removed k (.worker t) ∈ es ∨ ∃ u, .removed k (.caller u) ∈ es := by
  -- what has happened since does not undo it
  have more {l l' : List (Event V)} {v : ThreadId} (hl : Fetched k v l) (hv : v = t) :
      .removed k (.worker t) ∈ l ++ l' ∨ ∃ u, .removed k (.caller u) ∈ l ++ l' := by
    subst hv
    exact hl.removed.imp (List.mem_append_left _) fun ⟨u, hu⟩ => ⟨u, List.mem_append_left _ hu⟩
  cases h with
  | fetched h =>
    cases Place.running.inj hg
    exact h.removed
  | skipping h | inBody h | tallying o h => exact more h (Place.running.inj hg)
  | settling h =>
    cases h with
    | skipped h | ended o h => exact more h (Place.running.inj hg)
  | _ => cases hg

/-- A task that was run has been begun once, one that was dropped never. -/
theorem Stage.Log.countP_begin {g : Stage V} {es : List (Event V)} (h : g.Log k es) :
    (g.place = .finished → es.countP Event.isBegin = 1) ∧
      (g = .dropped → es.countP Event.isBegin = 0) := by
  cases h with
  | finished h =>
    refine ⟨fun _ => ?_, nofun⟩
    cases h with
    | skipped h | ended o h => simp only [List.countP_append, h.countP_begin]; rfl
  | refused | dropped => exact ⟨nofun, fun _ => rfl⟩
  | _ => exact ⟨nofun, nofun⟩

theorem count_begins {es : List (Event V)} :
    (begins es).count k = (own k es).countP Event.isBegin :=
  count_tasksOf fun _ => rfl

/-- Once the pool is gone the backlog is empty. -/
theorem State.Reachable.tasks_nil (hr : s.Reachable) (hlife : s.life = .dropped)
    (hdead : s.aliveCount = 0) {es : List (Event V)} (hdone : ¬ s.IsBeingDropped es) :
    s.backlog.tasks = [] := by
  have hworks : tally Activity.works s.threads = 0 := by
    by_contra hne
    obtain ⟨t, th, a, ht, ha, hpos⟩ := exists_of_tally_pos (Nat.pos_of_ne_zero hne)
    cases a with
    | work p =>
      have hb := (hr.shaped.thread t th ht).worker p ha
      rw [badge_eq_none hdead ht ha] at hb
      cases hb
    | _ => cases hpos
  have htears : tally Activity.tearsDown s.threads = 0 := by
    by_contra hne
    obtain ⟨t, th, a, ht, ha, hpos⟩ := exists_of_tally_pos (Nat.pos_of_ne_zero hne)
    cases a with
    | teardown r => exact hdone ⟨t, th, ht, _, ha, trivial⟩
    | _ => cases hpos
  have hshares := hr.shared.shares
  rw [State.ownShare, if_pos hlife] at hshares
  exact hr.shared.empty (by omega)

/-- **A task that has not come to its end when the pool is gone is with a
    caller.** -/
theorem State.Founded.inCallersHands (h₀ : s₀.Founded) (has : s₀.steps as = some s)
    (hlife : s.life = .dropped) (hdead : s.aliveCount = 0)
    (hdone : ¬ s.IsBeingDropped (s₀.chronicle as)) {g : Stage V} (hg : (k, g) ∈ s.ledger)
    (hopen : g.result? = none) : s.InCallersHands (s₀.chronicle as) k := by
  have hr : s.Reachable := (Reachable.of_founded h₀).run has
  have hlog := (h₀.story has hg).log
  rcases mem_ledger.1 hg with ⟨t, th, ht, a, ha, hm⟩ | ⟨i, hi, rfl⟩ | ⟨hk, rfl⟩ | ⟨job, -, hent⟩
  · have hbadge := badge_eq_none hdead ht ha
    refine ⟨?_, .inr ⟨t, th, ht, hbadge, a, ha, g, hm⟩⟩
    have hserves (hpos : 0 < a.serves) : False := by
      have := hr.alive.serving (tally_pos ht ha hpos)
      rw [hlife] at this
      cases this
    cases holds_of_mem hm with
    | work =>
      have hb := (hr.shaped.thread t th ht).worker _ ha
      rw [hbadge] at hb
      cases hb
    | @task _ w p =>
      have hplace : (p.stage t).place = .running t := by cases p <;> rfl
      rcases hlog.removed hplace with hworker | ⟨u, hu⟩
      · -- no worker, so nobody who took it from the backlog itself
        obtain ⟨w, hw, hb⟩ := isSome_badge?_iff.1
          (h₀.isSome_badge?_of_removed has (mem_own.1 hworker).1)
        cases ht.symm.trans hw
        rw [hbadge] at hb
        cases hb
      · exact ⟨u, (mem_own.1 hu).1⟩
    | submit | trySubmit | pop | clear => exact (hserves Nat.one_pos).elim
    | purge | sweep => exact (hdone ⟨t, th, ht, _, ha, trivial⟩).elim
    | discard hk =>
      by_contra hnone
      exact hdone ⟨t, th, ht, _, ha, k, hk, fun u hu => hnone ⟨u, hu⟩⟩
  · rw [hr.tasks_nil hlife hdead hdone] at hi
    cases hi
  · refine ⟨?_, .inl hk⟩
    generalize hes : own k (s₀.chronicle as) = es at hlog
    cases hlog with
    | held u =>
      have hmem : .removed k (.caller u) ∈ own k (s₀.chronicle as) :=
        hes ▸ List.mem_singleton_self _
      exact ⟨u, (mem_own.1 hmem).1⟩
  · rcases hent with ⟨r, -, rfl⟩ | ⟨-, rfl⟩ <;> cases hopen

/-- **No handle outlives the pool unresolved.**  Once the pool is dropped and no
    worker is alive, whatever came before, the drop comes to its end by itself.
    Then nothing is in the backlog, and each task that was ever submitted was
    begun exactly once and has run to its end, or it was dropped without having
    been begun; nobody holds it any more and its handle is resolved, as its fate
    has it; or else a caller took it out and still has it. -/
theorem State.Founded.nothing_left (h₀ : s₀.Founded) (has : s₀.steps as = some s)
    (hlife : s.life = .dropped) (hdead : s.aliveCount = 0) :
    (s.AtRest → ¬ s.IsBeingDropped (s₀.chronicle as)) ∧
    (¬ s.IsBeingDropped (s₀.chronicle as) →
      s.backlog.tasks = [] ∧
      ∀ k < s.jobs.length,
        (s.places k = {.finished} ∧ (begins (s₀.chronicle as)).count k = 1 ∧
          ∃ r, s.Resolved k r ∧ Fate k (s₀.chronicle as) r) ∨
        (s.places k = {.dropped} ∧ (begins (s₀.chronicle as)).count k = 0 ∧
          s.Resolved k (.error .discarded) ∧ Fate k (s₀.chronicle as) (.error .discarded)) ∨
        s.InCallersHands (s₀.chronicle as) k) := by
  have hr : s.Reachable := (Reachable.of_founded h₀).run has
  refine ⟨fun hrest => hrest.not_beingDropped hr hdead, fun hdone => ?_⟩
  refine ⟨hr.tasks_nil hlife hdead hdone, fun k hk => ?_⟩
  obtain ⟨g, hg⟩ := hr.ledgered.exists hk
  have hplace := hr.ledgered.places_eq hg
  have hbegun := (h₀.story has hg).log.countP_begin
  rw [count_begins]
  cases hres : g.result? with
  | none => exact .inr (.inr (h₀.inCallersHands has hlife hdead hdone hg hres))
  | some r =>
    have hresolved := hr.ledgered.resolved hg hres
    have hfate := h₀.fate has hg hres
    cases g with
    | finished => exact .inl ⟨hplace, hbegun.1 rfl, r, hresolved, hfate⟩
    | dropped =>
      cases hres
      exact .inr (.inl ⟨hplace, hbegun.2 rfl, hresolved, hfate⟩)
    | _ => cases hres

end

/-- A run of a pool with one worker.  The worker is sent away in the middle of a
    task, a caller takes another task out, the pool is stopped, a third task is
    submitted after that, and the pool is dropped; the worker, the last to hold a
    share, drops what was left. -/
def farewellRun : List (Action Unit Unit) :=
  [paces 0 5, [.call 0 (.submit ())], paces 0 3, paces 1 3, [.call 0 (.submit ())], paces 0 3,
    [.call 0 .pop], paces 0 2, [.call 0 (.resize 0)], paces 0 5, [.call 0 (.stop true)], paces 0 6,
    [.call 0 (.submit ())], paces 0 3, [.call 0 .drop], paces 0 3,
    [.finish 1 (.returned ())], paces 1 6].flatten

theorem nothing_left_farewellRun : ∃ s : State Unit Unit,
    (State.founding "pool" false none 1 1).steps farewellRun = some s ∧
    s.life = .dropped ∧ s.aliveCount = 0 ∧ s.AtRest ∧
    s.places 0 = {.finished} ∧ s.places 1 = {.held} ∧ s.places 2 = {.dropped} ∧
    s.backlog.tasks = [] ∧
    ∀ k < 3, (s.places k = {.finished} ∧
        (begins ((State.founding "pool" false none 1 1).chronicle farewellRun)).count k = 1 ∧
        ∃ r, s.Resolved k r ∧ Fate k ((State.founding "pool" false none 1 1).chronicle farewellRun) r) ∨
      (s.places k = {.dropped} ∧
        (begins ((State.founding "pool" false none 1 1).chronicle farewellRun)).count k = 0 ∧
        s.Resolved k (.error .discarded) ∧
        Fate k ((State.founding "pool" false none 1 1).chronicle farewellRun) (.error .discarded)) ∨
      s.InCallersHands ((State.founding "pool" false none 1 1).chronicle farewellRun) k := by
  have h₀ : (State.founding "pool" false none 1 1 : State Unit Unit).Founded :=
    State.founded_founding
  obtain ⟨s, hs, hfacts⟩ := Option.map_eq_some_iff.1
    (show ((State.founding "pool" false none 1 1).steps farewellRun).map
        (fun s => (s.jobs.length, (List.range 3).map s.places)) =
      some (3, [{.finished}, {.held}, {.dropped}]) by decide +kernel)
  obtain ⟨hlen, hran, hheld, hdropped⟩ : s.jobs.length = 3 ∧ s.places 0 = {.finished} ∧
      s.places 1 = {.held} ∧ s.places 2 = {.dropped} := by
    simpa [List.range_succ] using hfacts
  have hlife : s.life = .dropped := by cases hs; rfl
  have hdead : s.aliveCount = 0 := by cases hs; rfl
  have hrest : s.AtRest := by
    rintro (_ | _ | t) c <;> cases hs <;> rfl
  obtain ⟨hdone, hleft⟩ := h₀.nothing_left hs hlife hdead
  obtain ⟨hempty, htasks⟩ := hleft (hdone hrest)
  exact ⟨s, hs, hlife, hdead, hrest, hran, hheld, hdropped, hempty,
    fun k hk => htasks k (hlen ▸ hk)⟩

end WorkerPool
