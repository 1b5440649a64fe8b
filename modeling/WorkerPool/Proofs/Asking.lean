/-
  What a handle answers.

  A handle has two things to go by: the result of its task, once there is one, and
  whether it has delivered it.  It can be asked alone, in four ways, or together
  with others.

  * `State.result?` and `State.isSpent` read the two, `State.spend` is a delivery;
  * `Asking.answer?` is what a handle says that is asked alone, `receive_eq` that
    `State.receive` is this and the delivery;
  * `Slot.polled` is what becomes of a handle that is asked together with others;
    `pollSlots_eq`: none of them has delivered before, and those with a result
    deliver it; `pollSlots_isSome`: different handles that have not delivered can be
    polled together; `joinAll_eq`: when they are.
-/
import WorkerPool.Proofs.Calls
import WorkerPool.Proofs.Fate

namespace WorkerPool

variable {B V : Type}

/-! ## The two readings -/

namespace State

/-- The result of a task, if there is one. -/
def result? (s : State B V) (k : TaskId) : Option (TaskResult V) :=
  s.jobs[k]?.bind fun job => job.promise.answer? (.error .discarded)

/-- Whether the handle of a task has delivered its result. -/
def isSpent (s : State B V) (k : TaskId) : Bool := s.jobs[k]?.any (·.promise.spent)

/-- The handle of a task has delivered from now on. -/
def spend (s : State B V) (k : TaskId) : State B V :=
  s.modifyJob k fun job => { job with promise := { job.promise with spent := true } }

/-- The handle of a task delivers its result, if there is one. -/
def deliver (s : State B V) (k : TaskId) : State B V :=
  if (s.result? k).isSome then s.spend k else s

end State

section
variable {s s' : State B V} {k j : TaskId} {job : Job B V} {r : TaskResult V}

theorem resolved_iff : s.Resolved k r ↔ s.result? k = some r := by
  simp only [State.Resolved, State.result?, Option.bind_eq_some_iff]

theorem result?_eq (hj : s.jobs[k]? = some job) :
    s.result? k = job.promise.answer? (.error .discarded) := by
  rw [State.result?, hj, Option.bind_some]

theorem isSpent_eq (hj : s.jobs[k]? = some job) : s.isSpent k = job.promise.spent := by
  rw [State.isSpent, hj, Option.any_some]

theorem lt_of_result? (h : s.result? k = some r) : k < s.jobs.length := by
  obtain ⟨job, hj, -⟩ := resolved_iff.2 h
  exact (List.getElem?_eq_some_iff.1 hj).1

/-- A wait for a result goes on as long as there is none, unless the handle is spent. -/
theorem isPending_iff (hk : k < s.jobs.length) :
    s.isPending k = true ↔ s.isSpent k = false ∧ s.result? k = none := by
  have hj := List.getElem?_eq_getElem hk
  rw [result?_eq hj, isSpent_eq hj, ← isOpen_iff, State.isPending, hj, Option.any_some,
    Bool.and_eq_true, Bool.not_eq_true', and_comm]

theorem result?_congr
    (h : s'.jobs[k]?.map Job.sender = s.jobs[k]?.map Job.sender) : s'.result? k = s.result? k := by
  -- only the sending end is looked at
  have hsender (s : State B V) : s.result? k = (s.jobs[k]?.map Job.sender).bind fun sender =>
      Promise.answer? (.error .discarded) ⟨sender, false⟩ := by
    rw [State.result?]
    cases s.jobs[k]? <;> rfl
  rw [hsender, hsender, h]

theorem isSpent_congr
    (h : s'.jobs[k]?.map (·.promise.spent) = s.jobs[k]?.map (·.promise.spent)) :
    s'.isSpent k = s.isSpent k := by
  have hspent (s : State B V) : s.isSpent k = (s.jobs[k]?.map (·.promise.spent)).any id := by
    rw [State.isSpent]
    cases s.jobs[k]? <;> rfl
  rw [hspent, hspent, h]

/-! ### A delivery -/

theorem setPromise_self (hj : s.jobs[k]? = some job) : s.setPromise k job.promise = s := by
  have hjobs : s.jobs.modify k (fun job' => { job' with promise := job.promise }) = s.jobs := by
    obtain ⟨hk, rfl⟩ := List.getElem?_eq_some_iff.1 hj
    rw [List.modify_eq_set_getElem?, hj]
    exact List.set_getElem_self hk
  simp only [State.setPromise, State.modifyJob, hjobs]

theorem setPromise_spend (hj : s.jobs[k]? = some job) :
    s.setPromise k { job.promise with spent := true } = s.spend k := by
  simp only [State.setPromise, State.spend, State.modifyJob, List.modify_eq_set_getElem?, hj]
  rfl

theorem spend_of_isSpent (h : s.isSpent k = true) : s.spend k = s := by
  obtain ⟨job, hj, hspent⟩ := Option.any_eq_true _ _ |>.1 h
  rw [← setPromise_spend hj, ← hspent]
  exact setPromise_self hj

theorem result?_spend : (s.spend k).result? j = s.result? j :=
  result?_congr (map_modify (by intros; rfl) j)

theorem isSpent_spend (hk : k < s.jobs.length) :
    (s.spend k).isSpent j = (s.isSpent j || decide (k = j)) := by
  simp only [State.isSpent, State.spend, State.modifyJob, List.getElem?_modify]
  by_cases hj : k = j
  · subst hj
    simp [List.getElem?_eq_getElem hk]
  · cases s.jobs[j]? <;> simp [hj]

theorem deliver_of_none (h : s.result? k = none) : s.deliver k = s := by
  rw [State.deliver, h]
  rfl

theorem deliver_of_some (h : s.result? k = some r) : s.deliver k = s.spend k := by
  rw [State.deliver, h]
  rfl

/-- To deliver once more changes nothing. -/
theorem deliver_of_isSpent (h : s.isSpent k = true) : s.deliver k = s := by
  rw [State.deliver, spend_of_isSpent h, ite_self]

theorem length_deliver : (s.deliver k).jobs.length = s.jobs.length := by
  rw [State.deliver]
  split
  · exact List.length_modify ..
  · rfl

@[simp] theorem result?_deliver : (s.deliver k).result? j = s.result? j := by
  rw [State.deliver]
  split
  · exact result?_spend
  · rfl

theorem isSpent_deliver :
    (s.deliver k).isSpent j = (s.isSpent j || (decide (j = k) && (s.result? k).isSome)) := by
  cases hr : s.result? k with
  | none => rw [deliver_of_none hr, Option.isSome_none, Bool.and_false, Bool.or_false]
  | some r =>
    rw [deliver_of_some hr, isSpent_spend (lt_of_result? hr), Option.isSome_some, Bool.and_true,
      decide_eq_decide.2 eq_comm]

/-! ## One handle alone -/

/-- What a handle says that is asked alone, by whether it has delivered and what its
    result is; nothing if the caller has to wait. -/
def Asking.answer? : Asking → Bool → Option (TaskResult V) → Option (Reply V)
  | once, true, _ => some (.result (.error .discarded))
  | _, true, _ => some (.panicked .spentHandle)
  | _, false, some r => some (.result r)
  | once, false, none | poll, false, none => some .pending
  | wait, false, none | deadline, false, none => none

theorem pollJob_of_spent (h : s.isSpent k = true) : s.pollJob k = (s, .misuse) := by
  obtain ⟨job, hj, hspent⟩ := Option.any_eq_true _ _ |>.1 h
  simp only [State.pollJob, hj, Promise.poll, hspent, if_true, setPromise_self hj]

theorem pollJob_of_pending (hk : k < s.jobs.length) (h : s.isSpent k = false)
    (hr : s.result? k = none) : s.pollJob k = (s, .pending) := by
  have hj := List.getElem?_eq_getElem hk
  rw [isSpent_eq hj] at h
  rw [result?_eq hj] at hr
  simp only [State.pollJob, hj, Promise.poll, h, Bool.false_eq_true, if_false, hr,
    setPromise_self hj]

theorem pollJob_of_result (h : s.isSpent k = false) (hr : s.result? k = some r) :
    s.pollJob k = (s.spend k, .ready r) := by
  have hj := List.getElem?_eq_getElem (lt_of_result? hr)
  rw [isSpent_eq hj] at h
  rw [result?_eq hj] at hr
  simp only [State.pollJob, hj, Promise.poll, h, Bool.false_eq_true, if_false, hr,
    setPromise_spend hj]

/-- **A handle that is asked alone** says what it has to say, and delivers its result if
    there is one. -/
theorem receive_eq (hk : k < s.jobs.length) (how : Asking) :
    s.receive k how = (how.answer? (s.isSpent k) (s.result? k)).map fun q =>
      ⟨s.deliver k, [], some q⟩ := by
  cases how with
  | once =>
    have hj := List.getElem?_eq_getElem hk
    have hspent := isSpent_eq hj
    have hresult := result?_eq hj
    simp only [State.receive, hj, Promise.tryTake]
    cases h : s.isSpent k with
    | true =>
      rw [h] at hspent
      rw [← hspent, deliver_of_isSpent h, if_pos rfl, setPromise_self hj]
      rfl
    | false =>
      rw [h] at hspent
      rw [← hspent, ← hresult]
      cases hr : s.result? k with
      | none =>
        simp only [Bool.false_eq_true, if_false, setPromise_self hj, deliver_of_none hr]
        rfl
      | some r =>
        simp only [Bool.false_eq_true, if_false, setPromise_spend hj, deliver_of_some hr]
        rfl
  | poll | wait | deadline =>
    simp only [State.receive]
    cases h : s.isSpent k with
    | true =>
      rw [pollJob_of_spent h, deliver_of_isSpent h]
      rfl
    | false =>
      cases hr : s.result? k with
      | none =>
        rw [pollJob_of_pending hk h hr, deliver_of_none hr]
        rfl
      | some r =>
        rw [pollJob_of_result h hr, deliver_of_some hr]
        rfl

end

/-! ## Several handles together -/

/-- The task of a handle that is still waited for. -/
def Slot.awaited? : Slot V → Option TaskId
  | waiting k => some k
  | got _ => none

/-- The tasks of the handles that are still waited for. -/
def waitedFor (slots : List (Slot V)) : List TaskId := slots.filterMap Slot.awaited?

/-- What becomes of a handle that is polled. -/
def Slot.polled (s : State B V) : Slot V → Slot V
  | waiting k =>
    match s.result? k with
    | some r => got r
    | none => waiting k
  | got r => got r

section
variable {s s' : State B V} {k : TaskId} {r : TaskResult V} {slot : Slot V}
  {slots slots' : List (Slot V)}

@[simp] theorem waitedFor_waiting : waitedFor (.waiting k :: slots) = k :: waitedFor slots := rfl

@[simp] theorem waitedFor_got : waitedFor (.got r :: slots) = waitedFor slots := rfl

@[simp] theorem waitedFor_map_waiting (ks : List TaskId) :
    waitedFor (ks.map (Slot.waiting (V := V))) = ks := by
  induction ks with
  | nil => rfl
  | cons k ks ih => rw [List.map_cons, waitedFor_waiting, ih]

theorem polled_congr (h : ∀ k, s'.result? k = s.result? k) (slot : Slot V) :
    slot.polled s' = slot.polled s := by
  cases slot with
  | waiting k => simp only [Slot.polled, h]
  | got r => rfl

/-- Those who have no result yet are still waited for. -/
theorem waitedFor_polled : waitedFor (slots.map (Slot.polled s)) =
    (waitedFor slots).filter fun k => (s.result? k).isNone := by
  induction slots with
  | nil => rfl
  | cons slot slots ih =>
    cases slot with
    | got r => rw [List.map_cons, Slot.polled, waitedFor_got, waitedFor_got, ih]
    | waiting k =>
      rw [List.map_cons, waitedFor_waiting, Slot.polled]
      cases hr : s.result? k with
      | none => rw [waitedFor_waiting, ih, List.filter_cons_of_pos (by rw [hr]; rfl)]
      | some r => rw [waitedFor_got, ih, List.filter_cons_of_neg (by simp [hr])]

/-- Handles that are polled together are polled one after another. -/
theorem pollSlots_waiting (hk : k < s.jobs.length) :
    s.pollSlots (.waiting k :: slots) = if s.isSpent k then none
      else ((s.deliver k).pollSlots slots).map fun p =>
        (p.1, (Slot.waiting k).polled s :: p.2) := by
  simp only [State.pollSlots]
  cases h : s.isSpent k with
  | true =>
    rw [pollJob_of_spent h]
    rfl
  | false =>
    cases hr : s.result? k with
    | none =>
      simp only [pollJob_of_pending hk h hr, deliver_of_none hr, Slot.polled, hr]
      cases s.pollSlots slots <;> rfl
    | some r =>
      simp only [pollJob_of_result h hr, deliver_of_some hr, Slot.polled, hr]
      cases (s.spend k).pollSlots slots <;> rfl

theorem pollSlots_got :
    s.pollSlots (.got r :: slots) = (s.pollSlots slots).map fun p => (p.1, .got r :: p.2) := by
  simp only [State.pollSlots]
  cases s.pollSlots slots <;> rfl

/-- **Handles that are polled together**: none of them has delivered before, and those
    with a result deliver it. -/
theorem pollSlots_eq (hlt : ∀ k ∈ waitedFor slots, k < s.jobs.length)
    (h : s.pollSlots slots = some (s', slots')) :
    (∀ k ∈ waitedFor slots, s.isSpent k = false) ∧ slots' = slots.map (Slot.polled s) ∧
    ∀ j, s'.isSpent j =
      (s.isSpent j || (decide (j ∈ waitedFor slots) && (s.result? j).isSome)) := by
  induction slots generalizing s slots' with
  | nil =>
    cases h
    exact ⟨nofun, rfl, fun j => by simp [waitedFor]⟩
  | cons slot slots ih =>
    cases slot with
    | got r =>
      rw [pollSlots_got, Option.map_eq_some_iff] at h
      obtain ⟨⟨s₁, slots₁⟩, hrest, h⟩ := h
      cases h
      obtain ⟨hfresh, hslots, hspent⟩ := ih hlt hrest
      exact ⟨hfresh, by rw [hslots]; rfl, hspent⟩
    | waiting k =>
      rw [waitedFor_waiting] at hlt
      rw [pollSlots_waiting (hlt k List.mem_cons_self)] at h
      simp only [Option.ite_none_left_eq_some, Option.map_eq_some_iff] at h
      obtain ⟨hk, ⟨s₁, slots₁⟩, hrest, h⟩ := h
      cases h
      obtain ⟨hfresh, hslots, hspent⟩ := ih
        (fun j hj => by rw [length_deliver]; exact hlt j (List.mem_cons_of_mem k hj)) hrest
      refine ⟨?_, ?_, fun j => ?_⟩
      · refine List.forall_mem_cons.2 ⟨by simpa using hk, fun j hj => ?_⟩
        have hj := hfresh j hj
        rw [isSpent_deliver, Bool.or_eq_false_iff] at hj
        exact hj.1
      · rw [hslots, List.map_cons]
        refine congrArg _ (List.map_congr_left fun slot _ => ?_)
        exact polled_congr (fun _ => result?_deliver) slot
      · have hmem : decide (j ∈ k :: waitedFor slots) =
            (decide (j = k) || decide (j ∈ waitedFor slots)) := by simp
        rw [hspent, isSpent_deliver, result?_deliver, waitedFor_waiting, hmem,
          Bool.and_or_distrib_right, Bool.or_assoc]
        by_cases hj : j = k <;> simp [hj]

/-- Different handles that have not delivered can be polled together. -/
theorem pollSlots_isSome (hlt : ∀ k ∈ waitedFor slots, k < s.jobs.length)
    (hfresh : ∀ k ∈ waitedFor slots, s.isSpent k = false) (hnodup : (waitedFor slots).Nodup) :
    (s.pollSlots slots).isSome = true := by
  induction slots generalizing s with
  | nil => rfl
  | cons slot slots ih =>
    cases slot with
    | got r =>
      rw [pollSlots_got, Option.isSome_map]
      exact ih hlt hfresh hnodup
    | waiting k =>
      rw [waitedFor_waiting] at hlt hfresh hnodup
      obtain ⟨hk, hnodup⟩ := List.nodup_cons.1 hnodup
      rw [pollSlots_waiting (hlt k List.mem_cons_self), hfresh k List.mem_cons_self,
        if_neg Bool.false_ne_true, Option.isSome_map]
      refine ih (fun j hj => ?_) (fun j hj => ?_) hnodup
      · rw [length_deliver]
        exact hlt j (List.mem_cons_of_mem k hj)
      have hne : j ≠ k := fun h => hk (h ▸ hj)
      rw [isSpent_deliver, hfresh j (List.mem_cons_of_mem k hj)]
      simp [hne]

theorem mapM_result?_got (rs : List (TaskResult V)) :
    (rs.map Slot.got).mapM Slot.result? = some rs := by
  induction rs with
  | nil => rfl
  | cons r rs ih =>
    rw [List.map_cons, List.mapM_cons, ih]
    rfl

/-- A wait for several handles is over once none is waited for. -/
theorem mapM_result?_cases (slots : List (Slot V)) :
    (∃ rs : List (TaskResult V), slots = rs.map .got) ∧ waitedFor slots = [] ∨
      waitedFor slots ≠ [] ∧ slots.mapM Slot.result? = none := by
  induction slots with
  | nil => exact .inl ⟨⟨[], rfl⟩, rfl⟩
  | cons slot slots ih =>
    cases slot with
    | waiting k => exact .inr ⟨List.cons_ne_nil _ _, rfl⟩
    | got r =>
      rcases ih with ⟨⟨rs, rfl⟩, hnil⟩ | ⟨hne, hnone⟩
      · exact .inl ⟨⟨r :: rs, rfl⟩, hnil⟩
      · refine .inr ⟨hne, ?_⟩
        rw [List.mapM_cons, hnone]
        rfl

theorem all_stillWaits : slots.all s.stillWaits = (waitedFor slots).all s.isPending := by
  induction slots with
  | nil => rfl
  | cons slot slots ih =>
    cases slot with
    | waiting k => rw [List.all_cons, ih, waitedFor_waiting, List.all_cons]; rfl
    | got r => rw [List.all_cons, ih, waitedFor_got]; rfl

theorem all_isPending_iff (hlt : ∀ k ∈ waitedFor slots, k < s.jobs.length) :
    (waitedFor slots).all s.isPending = true ↔
      ∀ k ∈ waitedFor slots, s.isSpent k = false ∧ s.result? k = none := by
  rw [List.all_eq_true]
  exact forall₂_congr fun k hk => isPending_iff (hlt k hk)

/-- Handles that have not delivered need not wait once there is a result. -/
theorem exists_result?_of_not_all (hlt : ∀ k ∈ waitedFor slots, k < s.jobs.length)
    (hfresh : ∀ k ∈ waitedFor slots, s.isSpent k = false)
    (h : ¬ (waitedFor slots).all s.isPending = true) :
    ∃ k ∈ waitedFor slots, ∃ r, s.result? k = some r := by
  by_contra hnone
  refine h ((all_isPending_iff hlt).2 fun k hk => ⟨hfresh k hk, ?_⟩)
  exact Option.eq_none_iff_forall_ne_some.2 fun r hr => hnone ⟨k, hk, r, hr⟩

/-- **A wait for several handles**: it waits as long as all those that have not answered
    have nothing to say; then it polls them. -/
theorem joinAll_eq (hne : waitedFor slots ≠ []) :
    s.joinAll slots = if (waitedFor slots).all s.isPending then none
      else match s.pollSlots slots with
        | none => some ⟨s, [], some (.panicked .spentHandle)⟩
        | some p => some ⟨p.1, [.joinAll p.2], none⟩ := by
  obtain ⟨-, hnil⟩ | ⟨-, hnone⟩ := mapM_result?_cases slots
  · exact absurd hnil hne
  · simp only [State.joinAll, hnone, all_stillWaits]
    split
    · rfl
    · cases s.pollSlots slots <;> rfl

theorem joinAll_got (rs : List (TaskResult V)) :
    s.joinAll (rs.map .got) = some ⟨s, [], some (.results rs)⟩ := by
  simp only [State.joinAll, mapM_result?_got]
  rfl

end

end WorkerPool
