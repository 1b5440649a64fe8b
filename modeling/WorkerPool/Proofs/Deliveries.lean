/-
  A handle delivers its result once.

  * `State.answers`: all that a handle has said in a run, to whom and how ever it was
    asked;
  * `Speaks`, `Move.speaks`: what a handle says in one action, and whether it has
    delivered after that;
  * `Spoken`, `State.Founded.spoken`: before the delivery a handle says that there is
    no result, then it delivers the one that its task has, and after that nothing more is
    to be had from it;
  * `State.Founded.delivered_once`: this, and what the next step of those who ask is;
  * `panicked_misusingRun`: after the delivery, one way to ask says that there is nothing
    further, and all others are a misuse by which the call panics.
-/
import WorkerPool.Proofs.Askers

namespace WorkerPool

variable {B V : Type}

/-! ## What a handle says -/

/-- How a handle is asked. -/
inductive Manner where
  | alone (how : Asking)
  /-- with others that are waited for -/
  | together
  deriving DecidableEq, Repr

/-- What a handle says to someone. -/
structure Utterance (V : Type) where
  manner : Manner
  /-- the result that its task has -/
  found : Option (TaskResult V)
  reply : Reply V

/-- The result that a handle gave when these were polled and became those. -/
def given? (k : TaskId) (slots slots' : List (Slot V)) : Option (TaskResult V) :=
  (slots.zip slots').findSome? fun
    | (.waiting j, .got r) => if j = k then some r else none
    | _ => none

namespace State

/-- What the handle of a task says in the next step of a thread with this innermost
    activity. -/
def said? (s : State B V) (k : TaskId) : Activity V → Option (Utterance V)
  | .receive j how =>
    if j = k then
      (s.receive k how).bind fun turn => turn.reply.map (⟨.alone how, s.result? k, ·⟩)
    else none
  | .joinAll slots =>
    if k ∈ waitedFor slots then
      match s.pollSlots slots with
      | none => some ⟨.together, s.result? k, .panicked .spentHandle⟩
      | some p => (given? k slots p.2).map fun r => ⟨.together, s.result? k, .result r⟩
    else none
  | _ => none

/-- What the handle of a task says in an action. -/
def answer? (s : State B V) (k : TaskId) : Action B V → Option (Utterance V)
  | .run t _ => (s.top? t).bind (s.said? k)
  | .expire t =>
    match s.top? t with
    | some (.receive j .deadline) =>
      if j = k then some ⟨.alone .deadline, s.result? k, .result (.error .timedOut)⟩ else none
    | _ => none
  | _ => none

/-- All that the handle of a task says in a run. -/
def answers (s : State B V) (k : TaskId) : List (Action B V) → List (Utterance V)
  | [] => []
  | x :: as =>
    match s.step x with
    | some s' => (s.answer? k x).toList ++ s'.answers k as
    | none => []

end State

section
variable {s s' s₁ : State B V} {k : TaskId} {x : Action B V} {as : List (Action B V)}
  {a : Activity V} {slots : List (Slot V)} {how : Asking} {q : Reply V}

theorem answers_cons (hm : Move s x s') :
    s.answers k (x :: as) = (s.answer? k x).toList ++ s'.answers k as := by
  simp only [State.answers, step_iff.2 hm]

theorem answers_concat (has : s.steps as = some s₁) (hm : Move s₁ x s') :
    s.answers k (as ++ [x]) = s.answers k as ++ (s₁.answer? k x).toList := by
  induction as generalizing s with
  | nil =>
    cases has
    rw [List.nil_append, answers_cons hm]
    simp only [State.answers, List.append_nil, List.nil_append]
  | cons y as ih =>
    obtain ⟨s₂, hy, has⟩ := steps_cons.1 has
    rw [List.cons_append, answers_cons hy, answers_cons hy, ih has, List.append_assoc]

/-- A handle says nothing to those who do not ask it. -/
theorem said?_of_not_asks (h : ¬ a.Asks k) : s.said? k a = none := by
  cases a with
  | receive j how => exact if_neg h
  | joinAll slots => exact if_neg h
  | _ => rfl

theorem given?_cons {slot slot' : Slot V} {slots' : List (Slot V)} :
    given? k (slot :: slots) (slot' :: slots') =
      (given? k [slot] [slot']).or (given? k slots slots') := by
  simp only [given?, List.zip_cons_cons, List.findSome?_cons, List.zip_nil_left, List.findSome?_nil]
  split <;> rfl

/-- A handle that is polled gives the result that its task has. -/
theorem given?_polled : given? k slots (slots.map (Slot.polled s)) =
    if k ∈ waitedFor slots then s.result? k else none := by
  induction slots with
  | nil => rfl
  | cons slot slots ih =>
    rw [List.map_cons, given?_cons, ih]
    cases slot with
    | got r => rfl
    | waiting j =>
      have hone : given? k [.waiting j] [(Slot.waiting j).polled s] =
          if j = k then s.result? k else none := by
        rw [Slot.polled]
        by_cases hj : j = k
        · subst hj
          cases hr : s.result? j <;> simp [given?]
        · cases s.result? j <;> simp [given?, hj]
      rw [hone, waitedFor_waiting]
      by_cases hj : j = k
      · subst hj
        cases s.result? j <;> simp
      · simp [hj, Ne.symm hj]

end

/-! ## One action -/

/-- A handle has nothing to say yet, or those it is asked with make the call panic. -/
inductive Utterance.IsEarly : Utterance V → Prop where
  | pending {how} (h : how = .once ∨ how = .poll) : IsEarly ⟨.alone how, none, .pending⟩
  | timedOut : IsEarly ⟨.alone .deadline, none, .result (.error .timedOut)⟩
  | spoilt {found} : IsEarly ⟨.together, found, .panicked .spentHandle⟩

/-- A handle has nothing more to say. -/
inductive Utterance.IsLate : Utterance V → Prop where
  | discarded {found} : IsLate ⟨.alone .once, found, .result (.error .discarded)⟩
  | misused {manner found} (h : manner ≠ .alone .once) :
      IsLate ⟨manner, found, .panicked .spentHandle⟩

/-- What a handle says in an action from `s` to `s'`. -/
inductive Speaks (s : State B V) (k : TaskId) (s' : State B V) : Option (Utterance V) → Prop where
  | silent (h : s'.isSpent k = s.isSpent k) : Speaks s k s' none
  | early {e} (he : e.IsEarly) (h : s.isSpent k = false) (h' : s'.isSpent k = false) :
      Speaks s k s' (some e)
  | delivers {manner r} (hr : s.result? k = some r) (h : s.isSpent k = false)
      (h' : s'.isSpent k = true) : Speaks s k s' (some ⟨manner, some r, .result r⟩)
  | late {e} (he : e.IsLate) (h : s.isSpent k = true) (h' : s'.isSpent k = true) :
      Speaks s k s' (some e)

section
variable {s s' s₁ : State B V} {k : TaskId} {x : Action B V} {as : List (Action B V)}
  {t : ThreadId} {th : Thread V} {c : Chance} {turn : Turn B V}
  {a : Activity V} {slots : List (Slot V)} {how : Asking} {q : Reply V}

/-- What a handle says that is asked alone. -/
theorem Asking.speaks (hq : how.answer? (s.isSpent k) (s.result? k) = some q)
    (hs : s'.isSpent k = (s.isSpent k || (s.result? k).isSome)) :
    Speaks s k s' (some ⟨.alone how, s.result? k, q⟩) := by
  cases hspent : s.isSpent k with
  | true =>
    rw [hspent] at hq
    refine .late ?_ hspent (by rw [hs, hspent, Bool.true_or])
    cases how <;> cases hq
    · exact .discarded
    all_goals exact .misused nofun
  | false =>
    rw [hspent] at hq
    rw [hspent, Bool.false_or] at hs
    cases hr : s.result? k with
    | none =>
      rw [hr] at hq hs
      refine .early ?_ hspent hs
      cases how <;> cases hq
      · exact .pending (.inl rfl)
      · exact .pending (.inr rfl)
    | some r =>
      rw [hr] at hq hs
      have hq : q = .result r := by cases how <;> cases hq <;> rfl
      rw [hq]
      exact .delivers hr hspent hs

theorem Deed.speaks (hd : Deed s t th c a turn) (hlt : ∀ j, a.Asks j → j < s.jobs.length)
    (hs : s'.isSpent k = turn.state.isSpent k) : Speaks s k s' (s.said? k a) := by
  by_cases ha : a.Asks k
  · cases hd with
    | @receive j how js q hr =>
      obtain rfl : j = k := ha
      have hsaid : s.said? j (.receive j how) = some ⟨.alone how, s.result? j, q⟩ := by
        simp only [State.said?, hr, if_true, Option.bind_some, Option.map_some]
      rw [receive_eq (hlt j rfl)] at hr
      obtain ⟨q', hq, hturn⟩ := Option.map_eq_some_iff.1 hr
      simp only [Turn.mk.injEq, Option.some.injEq, true_and] at hturn
      obtain ⟨hstate, rfl⟩ := hturn
      rw [← hstate, isSpent_deliver, decide_eq_true rfl, Bool.true_and] at hs
      rw [hsaid]
      exact Asking.speaks hq hs
    | @joinedAll slots rs hrs =>
      have hk : k ∈ waitedFor slots := ha
      obtain ⟨-, hnil⟩ | ⟨-, hnone⟩ := mapM_result?_cases slots
      · rw [hnil] at hk
        cases hk
      · rw [hnone] at hrs
        cases hrs
    | @joinMisuse slots hrs hw hp =>
      have hsaid : s.said? k (.joinAll slots) =
          some ⟨.together, s.result? k, .panicked .spentHandle⟩ := by
        simp only [State.said?, hp]
        exact if_pos ha
      rw [hsaid]
      cases hspent : s.isSpent k with
      | true => exact .late (.misused nofun) hspent (hs.trans hspent)
      | false => exact .early .spoilt hspent (hs.trans hspent)
    | @joinAll slots slots' js hrs hw hp =>
      have hk : k ∈ waitedFor slots := ha
      obtain ⟨hfresh, rfl, hspent⟩ := pollSlots_eq hlt hp
      have hsaid : s.said? k (.joinAll slots) =
          (s.result? k).map fun r => ⟨.together, s.result? k, .result r⟩ := by
        simp only [State.said?, hp, given?_polled, if_pos hk]
      rw [hspent, hfresh k hk, decide_eq_true hk, Bool.false_or, Bool.true_and] at hs
      rw [hsaid]
      cases hr : s.result? k with
      | none =>
        rw [hr] at hs
        exact .silent (hs.trans (hfresh k hk).symm)
      | some r =>
        rw [hr] at hs
        exact .delivers hr (hfresh k hk) hs
    | _ => cases ha
  · rw [said?_of_not_asks ha]
    exact .silent (hs.trans (hd.isSpent_eq hlt ha))

/-- **What a handle says in an action**, and whether it has delivered after that. -/
theorem Move.speaks (hm : Move s x s') (hr : s.Reachable) : Speaks s k s' (s.answer? k x) := by
  cases hm with
  | run hw ht hs hd =>
    have htop := top?_eq_some_iff.2 ⟨_, _, ht, hs⟩
    rw [State.answer?, htop, Option.bind_some]
    exact hd.speaks (fun j => hr.asks_lt htop) rfl
  | @expire t th j rest ht hs hp =>
    have htop := top?_eq_some_iff.2 ⟨_, _, ht, hs⟩
    obtain ⟨hspent, hnone⟩ := (isPending_iff (hr.asks_lt htop rfl)).1 hp
    simp only [State.answer?, htop]
    split
    · rename_i hj
      obtain rfl := hj
      rw [hnone]
      exact .early .timedOut hspent hspent
    · exact .silent rfl
  | call ht hf hl ho => exact .silent (ho.isSpent_eq (k := k))
  | _ => exact .silent rfl

end

/-! ## A run -/

/-- What a handle may have said: as long as it has not delivered, that it has nothing to
    say; then its result, once; and after that nothing more. -/
inductive Spoken (s : State B V) (k : TaskId) : List (Utterance V) → Prop where
  | undelivered {early} (h : s.isSpent k = false) (hearly : ∀ e ∈ early, e.IsEarly) :
      Spoken s k early
  | delivered {early manner r late} (h : s.isSpent k = true) (hr : s.result? k = some r)
      (hearly : ∀ e ∈ early, e.IsEarly) (hlate : ∀ e ∈ late, e.IsLate) :
      Spoken s k (early ++ ⟨manner, some r, .result r⟩ :: late)

section
variable {s s' s₀ : State B V} {k : TaskId} {as : List (Action B V)} {es : List (Utterance V)}
  {o : Option (Utterance V)}

theorem Spoken.next (h : Spoken s k es) (ho : Speaks s k s' o)
    (hstays : ∀ r, s.result? k = some r → s'.result? k = some r) :
    Spoken s' k (es ++ o.toList) := by
  cases h with
  | undelivered h hearly =>
    cases ho with
    | silent hs => exact .undelivered (hs.trans h) (by simpa using hearly)
    | early he _ h' =>
      refine .undelivered h' (List.forall_mem_append.2 ⟨hearly, ?_⟩)
      exact List.forall_mem_singleton.2 he
    | delivers hr _ h' => exact .delivered h' (hstays _ hr) hearly nofun
    | late _ hspent =>
      rw [h] at hspent
      cases hspent
  | delivered h hr hearly hlate =>
    rw [List.append_assoc, List.cons_append]
    cases ho with
    | silent hs => exact .delivered (hs.trans h) (hstays _ hr) hearly (by simpa using hlate)
    | early _ hfresh | delivers _ hfresh =>
      rw [h] at hfresh
      cases hfresh
    | late he _ h' =>
      refine .delivered h' (hstays _ hr) hearly (List.forall_mem_append.2 ⟨hlate, ?_⟩)
      exact List.forall_mem_singleton.2 he

/-- **All that a handle says in a run.** -/
theorem State.Founded.spoken (h₀ : s₀.Founded) (has : s₀.steps as = some s) :
    Spoken s k (s₀.answers k as) := by
  induction as using List.reverseRecOn generalizing s with
  | nil =>
    cases has
    obtain ⟨name, hooked, capacity, interval, workers, rfl⟩ := h₀
    exact .undelivered rfl nofun
  | append_singleton as x ih =>
    obtain ⟨s₁, has₁, hm⟩ := steps_concat.1 has
    have hr : s₁.Reachable := (Reachable.of_founded h₀).run has₁
    rw [answers_concat has₁ hm]
    exact (ih has₁).next (hm.speaks hr) fun r => hr.result?_mono (steps_cons.2 ⟨s, hm, steps_nil s⟩)

end

/-! ## One delivery -/

/-- What is promised of the handle of a task in state `s`, to which a run `as` from `s₀`
    has led. -/
structure DeliveredOnce (s₀ : State B V) (as : List (Action B V)) (s : State B V) (k : TaskId) :
    Prop where
  /-- whoever has asked it, and in whatever order: first it had nothing to say, then it
      delivered its result, and then it had nothing more to say -/
  spoken : Spoken s k (s₀.answers k as)
  /-- its result is the one fate of its task -/
  fate : ∀ r, s.result? k = some r → ∀ r', Fate k (s₀.chronicle as) r' ↔ r' = r
  /-- before there is a result, to ask for it without waiting changes nothing, and a wait
      goes on -/
  before : s.isSpent k = false → s.result? k = none → ∀ t how,
    s.top? t = some (.receive k how) → ∀ c, s.run t c =
      if how = .once ∨ how = .poll then some (State.settleTurn t ⟨s, [], some .pending⟩) else none
  /-- the first one to ask when there is a result, or to have waited for it, gets it -/
  first : s.isSpent k = false → ∀ r, s.result? k = some r → ∀ t how,
    s.top? t = some (.receive k how) → ∀ c,
      s.run t c = some (State.settleTurn t ⟨s.spend k, [], some (.result r)⟩)
  /-- after that, to ask without waiting says that there is nothing further, and to ask in
      any other way is a misuse -/
  after : s.isSpent k = true → ∀ t how, s.top? t = some (.receive k how) → ∀ c, s.run t c =
    some (State.settleTurn t ⟨s, [], some
      (if how = .once then .result (.error .discarded) else .panicked .spentHandle)⟩)
  /-- to ask it again with others is a misuse, too -/
  again : s.isSpent k = true → ∀ t slots, s.top? t = some (.joinAll slots) → k ∈ waitedFor slots →
    ∀ c, s.run t c = some (State.settleTurn t ⟨s, [], some (.panicked .spentHandle)⟩)
  /-- to ask it with others is none as long as they are different handles and none has
      delivered: those with a result deliver it -/
  together : ∀ t slots, s.top? t = some (.joinAll slots) → k ∈ waitedFor slots →
    (∀ j ∈ waitedFor slots, s.isSpent j = false) → (waitedFor slots).Nodup → ∀ c,
    (∀ j ∈ waitedFor slots, s.result? j = none) ∧ s.run t c = none ∨
      ∃ js, s.run t c = some
        (State.settleTurn t ⟨{ s with jobs := js }, [.joinAll (slots.map (Slot.polled s))], none⟩) ∧
        State.isSpent { s with jobs := js } k = (s.result? k).isSome

/-- **A handle delivers its result once**, in every run and whatever the fate of its task
    is, and whoever asks without waiting may ask again for ever.  To ask in another way after
    the delivery is a misuse. -/
theorem State.Founded.delivered_once {s₀ s : State B V} {as : List (Action B V)}
    (h₀ : s₀.Founded) (has : s₀.steps as = some s) (k : TaskId) : DeliveredOnce s₀ as s k := by
  have hr : s.Reachable := (Reachable.of_founded h₀).run has
  refine ⟨h₀.spoken has, fun r hres r' => h₀.fate_iff_result? has hres,
    fun hk hres t how ht => hr.run_pending ht hk hres, fun hk r hres t how ht =>
    hr.run_result ht hk hres, fun hk t how ht => hr.run_spent ht hk, fun hk t slots ht hmem =>
    hr.run_joinAll_spent ht hmem hk, fun t slots ht hmem hfresh hnodup c => ?_⟩
  rcases hr.run_joinAll_fresh ht (List.ne_nil_of_mem hmem) hfresh hnodup c with
    hwaits | ⟨-, js, hrun, hspent⟩
  · exact .inl hwaits
  · exact .inr ⟨js, hrun, hspent k hmem⟩

/-- A run in which a handle is asked without waiting: before there is a result, when there is
    one, and again. -/
def deliveringRun : List (Action Unit Unit) :=
  [paces 0 5, [.call 0 (.submit ())], paces 0 3, [.call 0 (.receive 0 .once)], paces 0 1,
    paces 1 3, [.finish 1 (.returned ())], paces 1 2, [.call 0 (.receive 0 .once)], paces 0 1,
    [.call 0 (.receive 0 .once)], paces 0 1].flatten

theorem delivered_once_deliveringRun : ∃ s : State Unit Unit,
    (State.founding "pool" false none 1 1).steps deliveringRun = some s ∧
    DeliveredOnce (State.founding "pool" false none 1 1) deliveringRun s 0 ∧
    s.isSpent 0 = true ∧
    (∀ r, Fate 0 ((State.founding "pool" false none 1 1).chronicle deliveringRun) r ↔ r = .ok ()) ∧
    (State.founding "pool" false none 1 1).answers 0 deliveringRun =
      [⟨.alone .once, none, .pending⟩, ⟨.alone .once, some (.ok ()), .result (.ok ())⟩,
        ⟨.alone .once, some (.ok ()), .result (.error .discarded)⟩] := by
  have hrun : ((State.founding "pool" false none 1 1).steps deliveringRun).isSome = true := rfl
  obtain ⟨s, hs⟩ := Option.isSome_iff_exists.1 hrun
  have h₀ : (State.founding "pool" false none 1 1 : State Unit Unit).Founded :=
    State.founded_founding
  have hstate : s.isSpent 0 = true ∧ s.result? 0 = some (.ok ()) := by
    cases hs
    exact ⟨rfl, rfl⟩
  have hdelivered := h₀.delivered_once hs 0
  exact ⟨s, hs, hdelivered, hstate.1, hdelivered.fate _ hstate.2, rfl⟩

/-- The same run, after which the handle is asked in all other ways. -/
def misusingRun : List (Action Unit Unit) :=
  [deliveringRun, [.call 0 (.receive 0 .poll)], paces 0 1, [.call 0 (.receive 0 .wait)], paces 0 1,
    [.call 0 (.receive 0 .deadline)], paces 0 1, [.call 0 (.joinAll [0])], paces 0 1].flatten

/-- **After the delivery, only one way to ask is safe**: whoever polls or waits then has
    a panic for an answer, not word that there is nothing further. -/
theorem panicked_misusingRun : ∃ s : State Unit Unit,
    (State.founding "pool" false none 1 1).steps misusingRun = some s ∧
    (State.founding "pool" false none 1 1).answers 0 misusingRun =
      [⟨.alone .once, none, .pending⟩, ⟨.alone .once, some (.ok ()), .result (.ok ())⟩,
        ⟨.alone .once, some (.ok ()), .result (.error .discarded)⟩,
        ⟨.alone .poll, some (.ok ()), .panicked .spentHandle⟩,
        ⟨.alone .wait, some (.ok ()), .panicked .spentHandle⟩,
        ⟨.alone .deadline, some (.ok ()), .panicked .spentHandle⟩,
        ⟨.together, some (.ok ()), .panicked .spentHandle⟩] ∧
    s.threads[0]?.bind Thread.reply = some (.panicked .spentHandle) := by
  have hrun : ((State.founding "pool" false none 1 1).steps misusingRun).isSome = true := rfl
  obtain ⟨s, hs⟩ := Option.isSome_iff_exists.1 hrun
  refine ⟨s, hs, rfl, ?_⟩
  cases hs
  rfl

end WorkerPool
