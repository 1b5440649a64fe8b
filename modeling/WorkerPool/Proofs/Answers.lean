/-
  Asking a handle changes nothing but whether it has answered.

  * `Blind`: an observation of a task that does not see whether the handle has
    answered, such as the sending end of the promise or the cancel flag;
  * `receive_blind`, `pollSlots_blind`: asking changes no such observation.
-/
import WorkerPool.Pool.Step

namespace WorkerPool

variable {B V : Type}

/-- The sending end of the promise of a task. -/
def Job.sender (job : Job B V) : Sender (TaskResult V) := job.promise.sender

/-- An observation of a task that does not see whether its handle has
    answered. -/
def Blind {α : Type} (f : Job B V → α) : Prop :=
  ∀ job p, p.sender = job.promise.sender → f { job with promise := p } = f job

theorem blind_sender : Blind (Job.sender (B := B) (V := V)) := fun _ _ h => h

theorem blind_cancelled : Blind (Job.cancelled (B := B) (V := V)) := fun _ _ _ => rfl

theorem blind_body : Blind (Job.body (B := B) (V := V)) := fun _ _ _ => rfl

theorem Promise.sender_tryTake {α : Type} (lost : α) (p : Promise α) :
    (p.tryTake lost).1.sender = p.sender := by
  simp only [Promise.tryTake]
  split
  · rfl
  · split <;> rfl

theorem Promise.sender_poll {α : Type} (lost : α) (p : Promise α) :
    (p.poll lost).1.sender = p.sender := by
  simp only [Promise.poll]
  split
  · rfl
  · split <;> rfl

/-- An update of a task that an observation does not see. -/
theorem map_modify {α : Type} {f : Job B V → α} {js : List (Job B V)} {k : TaskId}
    {g : Job B V → Job B V} (hg : ∀ job, js[k]? = some job → f (g job) = f job) (u : TaskId) :
    (js.modify k g)[u]?.map f = js[u]?.map f := by
  rw [List.getElem?_modify]
  by_cases hu : k = u
  · subst hu
    cases hj : js[k]? with
    | none => simp
    | some job => simp [hg job hj]
  · simp [hu]

section
variable {α : Type} {f : Job B V → α} {s s' : State B V} {k : TaskId}

theorem setPromise_blind (hf : Blind f) {p : Promise (TaskResult V)} {job : Job B V}
    (hj : s.jobs[k]? = some job) (hp : p.sender = job.promise.sender) (u : TaskId) :
    (s.setPromise k p).jobs[u]?.map f = s.jobs[u]?.map f := by
  refine map_modify (fun job' hj' => ?_) u
  cases hj.symm.trans hj'
  exact hf job p hp

theorem pollJob_blind (hf : Blind f) {o : Poll (TaskResult V)} (h : s.pollJob k = (s', o))
    (u : TaskId) : s'.jobs[u]?.map f = s.jobs[u]?.map f := by
  simp only [State.pollJob] at h
  split at h
  · cases h; rfl
  · rename_i job hj
    cases h
    exact setPromise_blind hf hj (job.promise.sender_poll _) u

theorem receive_blind (hf : Blind f) {how : Asking} {turn : Turn B V}
    (h : s.receive k how = some turn) (u : TaskId) :
    turn.state.jobs[u]?.map f = s.jobs[u]?.map f := by
  cases how with
  | once =>
    simp only [State.receive] at h
    split at h
    · cases h
    · rename_i job hj
      cases h
      exact setPromise_blind hf hj (job.promise.sender_tryTake _) u
  | _ =>
    simp only [State.receive] at h
    split at h <;> rename_i hp <;> cases h <;> exact pollJob_blind hf hp u

theorem pollSlots_blind (hf : Blind f) {slots slots' : List (Slot V)}
    (h : s.pollSlots slots = some (s', slots')) (u : TaskId) :
    s'.jobs[u]?.map f = s.jobs[u]?.map f := by
  induction slots generalizing s slots' with
  | nil => cases h; rfl
  | cons slot slots ih =>
    cases slot with
    | got r =>
      simp only [State.pollSlots, Option.bind_eq_bind, Option.bind_eq_some_iff] at h
      obtain ⟨⟨s₁, slots₁⟩, h₁, h⟩ := h
      cases h
      exact ih h₁
    | waiting k =>
      simp only [State.pollSlots] at h
      split at h
      · cases h
      all_goals
        rename_i hp
        simp only [Option.bind_eq_bind, Option.bind_eq_some_iff] at h
        obtain ⟨⟨s₂, slots₂⟩, h₂, h⟩ := h
        cases h
        exact (ih h₂).trans (pollJob_blind hf hp u)

end

end WorkerPool
