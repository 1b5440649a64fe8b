/-
  Who asks a handle, and what becomes of it.

  * `Activity.Asks`: an activity is about to ask for the result of a task; `Move.asks`: a
    thread comes to do so by a call of its own; `State.Reachable.asks_lt`: whoever does has
    the handle;
  * `State.Reachable.result?_mono`, `State.Founded.fate_iff_result?`: a result stays, and
    it is the one fate of its task;
  * `State.Reachable.run_receive`: the next step of a thread that asks a handle alone,
    with `run_pending`, `run_result` and `run_spent` for what it finds;
  * `State.Reachable.run_joinAll`: that of one that asks several, with `run_joinAll_spent`
    and `run_joinAll_fresh`;
  * `Move.isSpent_eq`: a handle delivers to those who ask it and to nobody else.
-/
import WorkerPool.Proofs.Asking

namespace WorkerPool

variable {B V : Type}

/-! ## Who asks -/

/-- The next step of this activity asks for the result of a task. -/
def Activity.Asks (k : TaskId) : Activity V → Prop
  | receive j _ => j = k
  | joinAll slots => k ∈ waitedFor slots
  | _ => False

/-- This call asks for the result of a task. -/
def Call.Asks (k : TaskId) : Call B → Prop
  | receive j _ => j = k
  | joinAll ks => k ∈ ks
  | _ => False

/-- Whoever asks for the result of a task has its handle. -/
def State.AsksInRange (s : State B V) : Prop :=
  ∀ (t : ThreadId) (th : Thread V), s.threads[t]? = some th →
    ∀ a ∈ th.stack, ∀ k, a.Asks k → k < s.jobs.length

section
variable {s s' : State B V} {t u : ThreadId} {th w w' : Thread V} {c : Chance}
  {a b : Activity V} {next : List (Activity V)} {turn : Turn B V} {k : TaskId} {x : Action B V}

/-- A step asks on for what was asked for. -/
theorem Deed.asks (hd : Deed s t th c a turn) (hlt : ∀ j, a.Asks j → j < s.jobs.length)
    (hb : b ∈ turn.next) (hk : b.Asks k) : a.Asks k := by
  cases hd with
  | joinAll hs hw hp =>
    obtain ⟨-, rfl, -⟩ := pollSlots_eq hlt hp
    cases List.mem_singleton.1 hb
    rw [Activity.Asks, waitedFor_polled] at hk
    exact (List.mem_filter.1 hk).1
  | fetched | unmark =>
    simp only [runNext, List.mem_cons, List.not_mem_nil, or_false] at hb
    rcases hb with rfl | rfl <;> cases hk
  | reserve | buildRefused | buildPanicked =>
    simp only [List.mem_cons, List.not_mem_nil, or_false] at hb
    rcases hb with rfl | rfl <;> cases hk
  | _ =>
    first
    | cases hb; done
    | cases List.mem_singleton.1 hb; first | done | cases hk

/-- Whoever begins to ask for the result of a task has its handle. -/
theorem Opening.asks {cl : Call B} (ho : Opening s cl s' next)
    (hb : b ∈ next) (hk : b.Asks k) : cl.Asks k ∧ k < s.jobs.length := by
  cases ho with
  | receive hlt =>
    cases List.mem_singleton.1 hb
    cases hk
    exact ⟨rfl, hlt⟩
  | joinAll hlt =>
    cases List.mem_singleton.1 hb
    rw [Activity.Asks, waitedFor_map_waiting] at hk
    exact ⟨hk, hlt k hk⟩
  | drop | runTaken =>
    simp only [List.mem_cons, List.not_mem_nil, or_false] at hb
    rcases hb with rfl | rfl <;> cases hk
  | _ =>
    cases List.mem_singleton.1 hb
    cases hk

/-- What follows on an activity asks on for what that asked for. -/
theorem Follows.asks (hn : Follows s w b next)
    (hlt : ∀ j, b.Asks j → j < s.jobs.length) (ha : a ∈ next) (hk : a.Asks k) : b.Asks k := by
  cases hn with
  | run hd => exact hd.asks hlt ha hk
  | expire => cases ha
  | _ =>
    cases List.mem_singleton.1 ha
    cases hk

/-- What a thread that acts in the middle of a call goes on with. -/
theorem Move.follows (hm : Move s x s') (hx : x.actor? = some u) (hcall : ∀ cl, x ≠ .call u cl)
    (hw' : s'.threads[u]? = some w') : ∃ w b rest next, s.threads[u]? = some w ∧
      w.stack = b :: rest ∧ Follows s w b next ∧ w'.stack = next ++ rest := by
  cases hm with
  | arrive | rouse | tick => cases hx
  | call => exact absurd (by cases hx; rfl) (hcall _)
  | @finish _ o _ _ _ _ ht hs =>
    cases hx
    cases (getElem?_modifyThread_self ht).symm.trans hw'
    exact ⟨_, _, _, _, ht, hs, .finish (o := o), by rw [hs]; rfl⟩
  | hook ht hs =>
    cases hx
    cases (getElem?_modifyThread_self ht).symm.trans hw'
    exact ⟨_, _, _, _, ht, hs, .hook, by rw [hs]; rfl⟩
  | hookPanic ht hs =>
    cases hx
    cases (getElem?_modifyThread_self (getElem?_modifyThread_self ht)).symm.trans hw'
    exact ⟨_, _, _, _, ht, hs, .hookPanic, by rw [hs]; rfl⟩
  | run _ ht hs hd =>
    cases hx
    obtain ⟨v, hv, hstack⟩ := hd.stack ht hs
    cases hv.symm.trans hw'
    exact ⟨_, _, _, _, ht, hs, .run hd, hstack⟩
  | expire ht hs =>
    cases hx
    cases (getElem?_modifyThread_self ht).symm.trans hw'
    exact ⟨_, _, _, _, ht, hs, .expire, by rw [hs]; rfl⟩

/-- **A thread comes to ask for a result by a call of its own.** -/
theorem Move.asks (hm : Move s x s') (h : s.AsksInRange) (hw' : s'.threads[u]? = some w')
    (ha : a ∈ w'.stack) (hk : a.Asks k) :
    (∃ w, s.threads[u]? = some w ∧ ∃ b ∈ w.stack, b.Asks k) ∨
      ∃ cl, x = .call u cl ∧ cl.Asks k ∧ k < s.jobs.length := by
  by_cases hx : x.actor? = some u
  · by_cases hcall : ∃ cl, x = .call u cl
    · obtain ⟨cl, rfl⟩ := hcall
      cases hm with
      | call ht hf hl ho =>
        cases (getElem?_modifyThread_self (ho.threads ▸ ht)).symm.trans hw'
        rcases List.mem_append.1 ha with ha | ha
        exacts [.inr ⟨cl, rfl, ho.asks ha hk⟩, .inl ⟨_, ht, a, ha, hk⟩]
    · obtain ⟨w, b, rest, next, hw, hs, hn, hs'⟩ := hm.follows hx (fun cl h => hcall ⟨cl, h⟩) hw'
      refine .inl ⟨w, hw, ?_⟩
      rw [hs]
      rw [hs'] at ha
      rcases List.mem_append.1 ha with ha | ha
      · have hlt := h u w hw b (Thread.mem_of_stack hs)
        exact ⟨b, List.mem_cons_self, hn.asks hlt ha hk⟩
      · exact ⟨a, List.mem_cons_of_mem b ha, hk⟩
  · cases hw : s.threads[u]? with
    | some w =>
      obtain ⟨v, hv, hsame⟩ := hm.same hx hw
      cases hv.symm.trans hw'
      exact .inl ⟨w, rfl, a, hsame.stack ▸ ha, hk⟩
    | none =>
      -- a new thread is in the middle of nothing that asks
      have hnew := hm.thread hw'
      rw [hw] at hnew
      cases hnew with
      | outside => cases ha
      | worker i =>
        cases List.mem_singleton.1 ha
        cases hk

theorem Move.asksInRange (hm : Move s x s') (hl : s.Ledgered) (h : s.AsksInRange) :
    s'.AsksInRange := by
  intro u w' hw' a ha k hk
  refine Nat.lt_of_lt_of_le ?_ (hm.jobs_length_le hl)
  rcases hm.asks h hw' ha hk with ⟨w, hw, b, hb, hk⟩ | ⟨cl, -, -, hlt⟩
  exacts [h u w hw b hb k hk, hlt]

theorem State.Founded.asksInRange (h : s.Founded) : s.AsksInRange := by
  obtain ⟨name, hooked, capacity, interval, workers, rfl⟩ := h
  intro t th ht a ha k hk
  obtain rfl := List.mem_singleton.1 (List.mem_of_getElem? ht)
  cases List.mem_singleton.1 ha
  cases hk

theorem State.Reachable.asksInRange (h : s.Reachable) : s.AsksInRange :=
  h.induct (fun _ => Founded.asksInRange) fun _ _ _ h ih hm => hm.asksInRange h.ledgered ih

theorem State.Reachable.asks_lt (h : s.Reachable) (ht : s.top? t = some a) (hk : a.Asks k) :
    k < s.jobs.length := by
  obtain ⟨th, rest, hth, hs⟩ := top?_eq_some_iff.1 ht
  exact h.asksInRange t th hth a (Thread.mem_of_stack hs) k hk

end

/-! ## Results stay -/

section
variable {s s' s₀ : State B V} {k : TaskId} {r r' : TaskResult V} {as : List (Action B V)}

/-- The stage of a task that has a result. -/
theorem State.Reachable.exists_stage (h : s.Reachable) (hr : s.result? k = some r) :
    ∃ g, (k, g) ∈ s.ledger ∧ g.result? = some r := by
  have hk := lt_of_result? hr
  obtain ⟨g, hg⟩ := h.ledgered.exists hk
  have hj := List.getElem?_eq_getElem hk
  exact ⟨g, hg, by rw [← h.ledgered.answer_eq hj hg, ← result?_eq hj, hr]⟩

/-- A result is there for ever. -/
theorem State.Reachable.result?_mono (h : s.Reachable) (has : s.steps as = some s')
    (hr : s.result? k = some r) : s'.result? k = some r := by
  obtain ⟨g, hg, hgr⟩ := h.exists_stage hr
  exact resolved_iff.1 ((h.run has).ledgered.resolved (steps_final h.ledgered has hg hgr) hgr)

/-- A result is the one fate of its task. -/
theorem State.Founded.fate_iff_result? (h₀ : s₀.Founded) (has : s₀.steps as = some s)
    (hr : s.result? k = some r) : Fate k (s₀.chronicle as) r' ↔ r' = r := by
  obtain ⟨g, hg, hgr⟩ := ((Reachable.of_founded h₀).run has).exists_stage hr
  exact ((h₀.story has hg).log.closed hgr).fate_iff
    ((h₀.cancelledFirst_iff has hg).trans (Stage.isSkipped_of_result hgr))

end

/-! ## The next step of those who ask -/

section
variable {s : State B V} {t : ThreadId} {k : TaskId} {how : Asking} {r : TaskResult V}
  {slots : List (Slot V)} {a : Activity V}

/-- Whoever is not in the middle of a wait that it can sleep in takes its next step. -/
theorem State.Reachable.run_act (h : s.Reachable) (ht : s.top? t = some a) (ha : a ≠ .work .await)
    (hp : ∀ k, a ≠ .submit k .push) (c : Chance) : ∃ th, s.threads[t]? = some th ∧
      s.run t c = (s.act t th c a).map (State.settleTurn t) := by
  have hw := h.shaped.awake ht ha hp
  obtain ⟨th, rest, hth, hs⟩ := top?_eq_some_iff.1 ht
  exact ⟨th, hth, by simp only [State.run, hw, hth, hs, Bool.false_eq_true, if_false]⟩

/-- **The next step of a thread that asks a handle alone.** -/
theorem State.Reachable.run_receive (h : s.Reachable) (ht : s.top? t = some (.receive k how))
    (c : Chance) : s.run t c = (how.answer? (s.isSpent k) (s.result? k)).map fun q =>
      State.settleTurn t ⟨s.deliver k, [], some q⟩ := by
  obtain ⟨th, -, hrun⟩ := h.run_act ht nofun nofun c
  rw [hrun, State.act, receive_eq (h.asks_lt ht rfl), Option.map_map]
  rfl

/-- **The next step of a thread that asks several handles**, as long as one is waited for. -/
theorem State.Reachable.run_joinAll (h : s.Reachable) (ht : s.top? t = some (.joinAll slots))
    (hne : waitedFor slots ≠ []) (c : Chance) :
    s.run t c = if (waitedFor slots).all s.isPending then none
      else match s.pollSlots slots with
        | none => some (State.settleTurn t ⟨s, [], some (.panicked .spentHandle)⟩)
        | some p => some (State.settleTurn t ⟨p.1, [.joinAll p.2], none⟩) := by
  obtain ⟨th, -, hrun⟩ := h.run_act ht nofun nofun c
  rw [hrun, State.act, joinAll_eq hne]
  split
  · rfl
  · cases s.pollSlots slots <;> rfl

/-- A wait for several handles is over once none is waited for. -/
theorem State.Reachable.run_joinAll_got {rs : List (TaskResult V)} (h : s.Reachable)
    (ht : s.top? t = some (.joinAll (rs.map .got))) (c : Chance) :
    s.run t c = some (State.settleTurn t ⟨s, [], some (.results rs)⟩) := by
  obtain ⟨th, -, hrun⟩ := h.run_act ht nofun nofun c
  rw [hrun, State.act, joinAll_got]
  rfl

/-- A handle that has no result and has not delivered has nothing to say yet. -/
theorem State.Reachable.run_pending (h : s.Reachable) (ht : s.top? t = some (.receive k how))
    (hk : s.isSpent k = false) (hr : s.result? k = none) (c : Chance) :
    s.run t c = if how = .once ∨ how = .poll then some (State.settleTurn t ⟨s, [], some .pending⟩)
      else none := by
  rw [h.run_receive ht, hk, hr, deliver_of_none hr]
  cases how <;> rfl

/-- A handle that has a result and has not delivered it delivers it, however it is asked. -/
theorem State.Reachable.run_result (h : s.Reachable) (ht : s.top? t = some (.receive k how))
    (hk : s.isSpent k = false) (hr : s.result? k = some r) (c : Chance) :
    s.run t c = some (State.settleTurn t ⟨s.spend k, [], some (.result r)⟩) := by
  rw [h.run_receive ht, hk, hr, deliver_of_some hr]
  cases how <;> rfl

/-- A handle that has delivered has nothing more to say. -/
theorem State.Reachable.run_spent (h : s.Reachable) (ht : s.top? t = some (.receive k how))
    (hk : s.isSpent k = true) (c : Chance) :
    s.run t c = some (State.settleTurn t ⟨s, [], some
      (if how = .once then .result (.error .discarded) else .panicked .spentHandle)⟩) := by
  rw [h.run_receive ht, hk, deliver_of_isSpent hk]
  cases how <;> rfl

/-- A wait for several handles of which one has delivered is a misuse. -/
theorem State.Reachable.run_joinAll_spent (h : s.Reachable) (ht : s.top? t = some (.joinAll slots))
    (hk : k ∈ waitedFor slots) (hspent : s.isSpent k = true) (c : Chance) :
    s.run t c = some (State.settleTurn t ⟨s, [], some (.panicked .spentHandle)⟩) := by
  have hlt (j : TaskId) (hj : j ∈ waitedFor slots) : j < s.jobs.length := h.asks_lt ht hj
  have hwait : ¬ (waitedFor slots).all s.isPending = true := fun hall => by
    have hpending := (all_isPending_iff hlt).1 hall k hk
    rw [hspent] at hpending
    exact nomatch hpending.1
  have hpoll : s.pollSlots slots = none := by
    refine Option.eq_none_iff_forall_ne_some.2 fun p hp => ?_
    have hfresh := (pollSlots_eq hlt hp).1 k hk
    rw [hspent] at hfresh
    cases hfresh
  rw [h.run_joinAll ht (List.ne_nil_of_mem hk), if_neg hwait, hpoll]

/-- A wait for several different handles, none of which has delivered, goes on once there
    is a result. -/
theorem State.Reachable.run_joinAll_fresh (h : s.Reachable) (ht : s.top? t = some (.joinAll slots))
    (hne : waitedFor slots ≠ []) (hfresh : ∀ k ∈ waitedFor slots, s.isSpent k = false)
    (hnodup : (waitedFor slots).Nodup) (c : Chance) :
    (∀ k ∈ waitedFor slots, s.result? k = none) ∧ s.run t c = none ∨
      (∃ k ∈ waitedFor slots, ∃ r, s.result? k = some r) ∧
        ∃ js, s.run t c = some (State.settleTurn t
            ⟨{ s with jobs := js }, [.joinAll (slots.map (Slot.polled s))], none⟩) ∧
          ∀ k ∈ waitedFor slots,
            State.isSpent { s with jobs := js } k = (s.result? k).isSome := by
  have hlt (j : TaskId) (hj : j ∈ waitedFor slots) : j < s.jobs.length := h.asks_lt ht hj
  rw [h.run_joinAll ht hne]
  by_cases hall : (waitedFor slots).all s.isPending = true
  · exact .inl ⟨fun k hk => ((all_isPending_iff hlt).1 hall k hk).2, if_pos hall⟩
  · rw [if_neg hall]
    obtain ⟨p, hp⟩ := Option.isSome_iff_exists.1 (pollSlots_isSome hlt hfresh hnodup)
    obtain ⟨-, hslots, hspent⟩ := pollSlots_eq hlt hp
    have hstate : { s with jobs := p.1.jobs } = p.1 := pollSlots_jobs hp
    refine .inr ⟨exists_result?_of_not_all hlt hfresh hall, p.1.jobs,
      by rw [hp, hstate, ← hslots], fun k hk => ?_⟩
    rw [hstate, hspent, hfresh k hk, decide_eq_true hk, Bool.false_or, Bool.true_and]

end

/-! ## What becomes of a handle -/

section
variable {s s' : State B V} {t : ThreadId} {th : Thread V} {c : Chance} {a : Activity V}
  {turn : Turn B V} {k : TaskId} {x : Action B V}

theorem Promise.spent_send {α : Type} (p : Promise α) (a : α) : (p.send a).spent = p.spent := by
  simp only [Promise.send]
  split <;> rfl

theorem Promise.spent_close {α : Type} (p : Promise α) : p.close.spent = p.spent := by
  simp only [Promise.close]
  split <;> rfl

theorem isSpent_abandon {j : TaskId} : (s.abandon j).isSpent k = s.isSpent k :=
  isSpent_congr (map_modify (fun job _ => job.promise.spent_close) k)

theorem Sweep.isSpent {p : Clearing} {o : Clearing ⊕ Nat} (hp : Sweep s p s' o) :
    s'.isSpent k = s.isSpent k := by
  cases hp with
  | drop => exact isSpent_abandon
  | _ => rfl

/-- Whoever does not ask a handle does not make it deliver. -/
theorem Deed.isSpent_eq (hd : Deed s t th c a turn) (hlt : ∀ j, a.Asks j → j < s.jobs.length)
    (ha : ¬ a.Asks k) : turn.state.isSpent k = s.isSpent k := by
  cases hd with
  | settle => exact isSpent_congr (map_modify (fun job _ => job.promise.spent_send _) k)
  | cancel => exact isSpent_congr (map_modify (by intros; rfl) k)
  | tryDrop | discard => exact isSpent_abandon
  | @receive j _ _ _ hr =>
    rw [receive_eq (hlt j rfl)] at hr
    obtain ⟨q, -, hturn⟩ := Option.map_eq_some_iff.1 hr
    have hne : k ≠ j := fun h => ha h.symm
    rw [← hturn, isSpent_deliver, decide_eq_false hne, Bool.false_and, Bool.or_false]
  | @joinAll slots _ _ hs hw hp =>
    obtain ⟨-, -, hspent⟩ := pollSlots_eq hlt hp
    have hnot : k ∉ waitedFor slots := ha
    rw [hspent, decide_eq_false hnot, Bool.false_and, Bool.or_false]
  | clear hp | clearEnd hp | purge hp | purgeEnd hp | sweep hp | sweepEnd hp => exact hp.isSpent
  | _ => rfl

theorem Opening.isSpent_eq {cl : Call B} {next : List (Activity V)} (ho : Opening s cl s' next) :
    s'.isSpent k = s.isSpent k := by
  cases ho with
  | submit | trySubmit =>
    simp only [State.isSpent]
    by_cases hk : k < s.jobs.length
    · rw [List.getElem?_append_left hk]
    · rw [List.getElem?_append_right (Nat.not_lt.1 hk), List.getElem?_eq_none (Nat.not_lt.1 hk)]
      cases k - s.jobs.length <;> rfl
  | _ => rfl

/-- **A handle delivers to those who ask it**, and to nobody else. -/
theorem Move.isSpent_eq (hm : Move s x s') (hr : s.Reachable)
    (h : ∀ t c a, x = .run t c → s.top? t = some a → ¬ a.Asks k) :
    s'.isSpent k = s.isSpent k := by
  cases hm with
  | call ht hf hl ho => exact ho.isSpent_eq (k := k)
  | run hw ht hs hd =>
    have htop := top?_eq_some_iff.2 ⟨_, _, ht, hs⟩
    exact hd.isSpent_eq (fun j => hr.asks_lt htop) (h _ _ _ rfl htop)
  | _ => rfl

end

end WorkerPool
