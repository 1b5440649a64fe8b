/-
  Runs in which bodies may burst.

  * `Burst` and `Meets` are the bursts and the incidents as relations;
  * `Burst.same`: a burst moves only the thread that ran the body;
  * `Burst.ledger`: it drops the task of that body and leaves all others where they are;
  * `State.Attained`: the states that such runs lead to.  They keep the shape of the stacks
    and the ledger of the tasks;
  * `State.annals` is the chronicle of such a run.  A burst is neither told nor counted, so
    the counters agree with the annals as they do with a chronicle.
-/
import WorkerPool.Pool.Burst
import WorkerPool.Proofs.Booking

namespace WorkerPool

variable {B V : Type}

/-! ## Bursts -/

/-- What a burst makes of the thread that runs the body of task `k`. -/
inductive Thread.Bursts (th : Thread V) (message : String) (k : TaskId) : Thread V → Prop where
  | worker {i rest} (hs : th.stack = .task k i .body :: .work .check :: rest) :
      Bursts th message k { th with stack := .work .leave :: rest, died := true }
  | inline {i rest} (hs : th.stack = .task k i .body :: .inline :: rest) :
      Bursts th message k { th with stack := rest, reply := some (.panicked (.dropped message)) }

/-- A burst of the body of task `k`. -/
inductive Burst (s : State B V) (t : ThreadId) (message : String) (k : TaskId) :
    State B V → Prop where
  | intro {th th'} (ht : s.threads[t]? = some th) (hb : th.Bursts message k th') :
      Burst s t message k ((s.abandon k).modifyThread t fun _ => th')

/-- What each incident does. -/
inductive Meets (s : State B V) : Incident B V → State B V → Prop where
  | action {x s'} (hm : Move s x s') : Meets s (.action x) s'
  | burst {t message k s'} (hb : Burst s t message k s') : Meets s (.burst t message) s'

section
variable {s s' s₁ : State B V} {t u : ThreadId} {th th' w : Thread V} {message : String}
  {k : TaskId} {i : Incident B V} {is js : List (Incident B V)}

theorem Thread.burst_iff : th.burst message = some (k, th') ↔ th.Bursts message k th' := by
  constructor
  · intro h
    unfold Thread.burst at h
    split at h
    · rename_i hs
      cases h
      exact .worker hs
    · rename_i hs
      cases h
      exact .inline hs
    · cases h
  · rintro (hs | hs) <;> simp [Thread.burst, hs]

theorem burst_iff : s.burst t message = some s' ↔ ∃ k, Burst s t message k s' := by
  simp only [State.burst, Option.bind_eq_bind, Option.bind_eq_some_iff, Option.pure_def,
    Option.some.injEq, Prod.exists]
  constructor
  · rintro ⟨th, ht, k, th', hb, rfl⟩
    exact ⟨k, .intro ht (Thread.burst_iff.1 hb)⟩
  · rintro ⟨k, ht, hb⟩
    exact ⟨_, ht, k, _, Thread.burst_iff.2 hb, rfl⟩

theorem meet_iff : s.meet i = some s' ↔ Meets s i s' := by
  cases i with
  | action x =>
    refine step_iff.trans ⟨.action, fun h => ?_⟩
    cases h with
    | action hm => exact hm
  | burst t message =>
    refine burst_iff.trans ⟨fun ⟨_, hb⟩ => .burst hb, fun h => ?_⟩
    cases h with
    | burst hb => exact ⟨_, hb⟩

/-! ## Courses -/

theorem course_cons :
    s.course (i :: is) = some s' ↔ ∃ s₁, Meets s i s₁ ∧ s₁.course is = some s' := by
  simp only [State.course, List.foldlM_cons, Option.bind_eq_bind, Option.bind_eq_some_iff,
    meet_iff]

theorem course_append :
    s.course (is ++ js) = some s' ↔ ∃ s₁, s.course is = some s₁ ∧ s₁.course js = some s' := by
  simp only [State.course, List.foldlM_append, Option.bind_eq_bind, Option.bind_eq_some_iff]

theorem course_concat :
    s.course (is ++ [i]) = some s' ↔ ∃ s₁, s.course is = some s₁ ∧ Meets s₁ i s' := by
  rw [course_append]
  refine exists_congr fun s₁ => and_congr_right fun _ => ?_
  rw [course_cons]
  exact ⟨fun ⟨_, hm, h⟩ => by cases h; exact hm, fun hm => ⟨s', hm, rfl⟩⟩

/-- A run in which no body bursts. -/
theorem course_actions (as : List (Action B V)) : s.course (as.map .action) = s.steps as :=
  List.foldlM_map ..

/-- What every incident keeps, a course keeps. -/
theorem course_keep {P : State B V → Prop} (meets : ∀ s i s', P s → Meets s i s' → P s')
    (h : P s) (his : s.course is = some s') : P s' := by
  induction is generalizing s with
  | nil =>
    cases his
    exact h
  | cons i is ih =>
    obtain ⟨s₁, hm, his⟩ := course_cons.1 his
    exact ih (meets s i s₁ h hm) his

/-- A state of some run of some pool in which bodies may burst. -/
def State.Attained (s : State B V) : Prop :=
  ∃ (s₀ : State B V) (is : List (Incident B V)), s₀.Founded ∧ s₀.course is = some s

namespace State.Attained

theorem course (h : s.Attained) (his : s.course is = some s') : s'.Attained := by
  obtain ⟨s₀, js, h₀, hjs⟩ := h
  exact ⟨s₀, js ++ is, h₀, course_append.2 ⟨s, hjs, his⟩⟩

theorem next (h : s.Attained) (hm : Meets s i s') : s'.Attained :=
  h.course (show s.course [i] = some s' from course_cons.2 ⟨s', hm, rfl⟩)

/-- What holds of a founding and is kept by every incident. -/
theorem induct {P : State B V → Prop} (h : s.Attained) (founded : ∀ s, s.Founded → P s)
    (meets : ∀ s i s', P s → Meets s i s' → P s') : P s := by
  obtain ⟨s₀, is, h₀, his⟩ := h
  exact course_keep meets (founded s₀ h₀) his

end State.Attained

/-! ## What a burst leaves alone -/

theorem Thread.Bursts.body (hb : th.Bursts message k th') :
    ∃ i rest, th.stack = .task k i .body :: rest := by
  cases hb with
  | worker hs | inline hs => exact ⟨_, _, hs⟩

theorem Burst.top? (hb : Burst s t message k s') : ∃ i, s.top? t = some (.task k i .body) := by
  cases hb with
  | intro ht hb =>
    obtain ⟨i, rest, hs⟩ := hb.body
    exact ⟨i, top?_eq_some_iff.2 ⟨_, rest, ht, hs⟩⟩

/-- **A burst moves only the thread that ran the body.** -/
theorem Burst.same (hb : Burst s t message k s') (hu : u ≠ t) (hw : s.threads[u]? = some w) :
    s'.threads[u]? = some w := by
  cases hb with
  | intro ht hb => exact same_modify hu.symm hw

/-- Each thread is as it was, or is the one whose body has burst. -/
theorem Burst.thread (hb : Burst s t message k s') (hw : s'.threads[u]? = some w) :
    s.threads[u]? = some w ∨
      u = t ∧ ∃ th, s.threads[t]? = some th ∧ th.Bursts message k w := by
  cases hb with
  | intro ht hb =>
    rcases getElem?_modify_cases hw with ⟨-, hw⟩ | ⟨_, rfl, -, rfl⟩
    · exact .inl hw
    · exact .inr ⟨rfl, _, ht, hb⟩

theorem Burst.counters (hb : Burst s t message k s') : s'.counters = s.counters := by
  cases hb
  rfl

/-- Whoever stands at another point than in a body stays there. -/
theorem Burst.keeps_top (hb : Burst s t message k s') {a : Activity V} (hu : s.top? u = some a)
    (ha : ∀ k i, a ≠ .task k i .body) : s'.top? u = some a := by
  obtain ⟨i, ht⟩ := hb.top?
  have hne : u ≠ t := by
    rintro rfl
    exact ha k i (Option.some.inj (hu.symm.trans ht))
  obtain ⟨w, rest, hw, hs⟩ := top?_eq_some_iff.1 hu
  exact top?_eq_some_iff.2 ⟨w, rest, hb.same hne hw, hs⟩

/-! ## Shape -/

theorem Thread.Bursts.shaped (hb : th.Bursts message k th') (h : th.Shaped) : th'.Shaped := by
  have htail := h.tail
  have hworker := h.worker
  cases hb with
  | worker hs =>
    rw [hs] at htail hworker
    refine ⟨fun a ha => htail a (List.mem_cons_of_mem _ ha), fun p _ => ?_⟩
    exact hworker .check (by simp)
  | inline hs =>
    rw [hs] at htail hworker
    refine ⟨fun a ha => htail a (List.mem_cons_of_mem _ (List.mem_of_mem_tail ha)), fun p hp => ?_⟩
    exact hworker p (by simp [hp])

theorem Burst.shaped (hb : Burst s t message k s') (h : s.Shaped) : s'.Shaped := by
  have hbacklog : s'.backlog = s.backlog := by cases hb; rfl
  refine ⟨fun u w hw => ?_, fun u hu => ?_, fun u hu => ?_, ?_, ?_⟩
  · rcases hb.thread hw with hw | ⟨-, th, ht, hb⟩
    · exact h.thread u w hw
    · exact hb.shaped (h.thread t th ht)
  · exact hb.keeps_top (h.taker u (hbacklog ▸ hu)) nofun
  · obtain ⟨j, hj⟩ := h.giver u (hbacklog ▸ hu)
    exact ⟨j, hb.keeps_top hj nofun⟩
  · exact hbacklog ▸ h.takers_nodup
  · exact hbacklog ▸ h.givers_nodup

theorem Meets.shaped (hm : Meets s i s') (h : s.Shaped) : s'.Shaped := by
  cases hm with
  | action hm => exact hm.shaped h
  | burst hb => exact hb.shaped h

theorem State.Attained.shaped (h : s.Attained) : s.Shaped :=
  h.induct (fun _ => Founded.shaped) fun _ _ _ h hm => hm.shaped h

/-! ## The ledger -/

theorem Thread.Bursts.hand (hb : th.Bursts message k th') :
    th.hand t = (k, .inBody t) :: th'.hand t := by
  cases hb with
  | worker hs | inline hs => simp [Thread.hand, hs, Activity.hand, WorkPoint.task?, TaskPoint.stage]

/-- **A burst drops the task of the body**, and every other task is where it was. -/
theorem Burst.ledger (hb : Burst s t message k s') (h : s.Ledgered) :
    ∃ C : Multiset (TaskId × Stage V),
      s.ledger = (k, .inBody t) ::ₘ C ∧ s'.ledger = (k, .dropped) ::ₘ C := by
  cases hb with
  | @intro th th' ht hb =>
    obtain ⟨i, rest, hs⟩ := hb.body
    obtain ⟨job, hj, hu⟩ := h.open ht (Thread.mem_of_stack hs) (List.mem_singleton_self _)
    obtain ⟨C, hC, hC'⟩ := gather_modify (f := Thread.hand) ht
    refine ⟨s.ledgerWith (th'.hand t + C), ?_, ?_⟩
    · rw [State.ledger, hC, hb.hand, ← ledgerWith_cons, ← Multiset.cons_coe, Multiset.cons_add]
    · have hgather : gather Thread.hand ((s.abandon k).modifyThread t fun _ => th').threads =
          th'.hand t + C := hC' fun _ => th'
      rw [State.ledger, hgather]
      exact ledgerWith_abandon hj hu _

theorem Burst.jobs_length (hb : Burst s t message k s') : s'.jobs.length = s.jobs.length := by
  cases hb
  exact List.length_modify ..

theorem Burst.ledgered (hb : Burst s t message k s') (h : s.Ledgered) : s'.Ledgered := by
  obtain ⟨C, hC, hC'⟩ := hb.ledger h
  have hmap := h
  rw [State.Ledgered, hC, Multiset.map_cons] at hmap
  rw [State.Ledgered, hC', Multiset.map_cons, hb.jobs_length, hmap]

theorem Meets.ledgered (hm : Meets s i s') (h : s.Ledgered) : s'.Ledgered := by
  cases hm with
  | action hm => exact hm.ledgered h
  | burst hb => exact hb.ledgered h

theorem State.Attained.ledgered (h : s.Attained) : s.Ledgered :=
  h.induct (fun _ => Founded.ledgered) fun _ _ _ h hm => hm.ledgered h

/-- A task that was dropped stays so. -/
theorem Meets.dropped (hm : Meets s i s') (h : s.Ledgered) (hk : (k, .dropped) ∈ s.ledger) :
    (k, .dropped) ∈ s'.ledger := by
  cases hm with
  | action hm =>
    obtain ⟨g, hg, hn⟩ := hm.stage h hk
    generalize own k (s.events _) = es at hn
    cases hn with
    | stay => exact hg
  | burst hb =>
    obtain ⟨C, hC, hC'⟩ := hb.ledger h
    rw [hC] at hk
    rw [hC']
    rcases Multiset.mem_cons.1 hk with heq | hk
    · cases heq
    · exact Multiset.mem_cons_of_mem hk

theorem State.Attained.dropped (h : s.Attained) (his : s.course is = some s')
    (hk : (k, .dropped) ∈ s.ledger) : (k, .dropped) ∈ s'.ledger := by
  induction is generalizing s with
  | nil =>
    cases his
    exact hk
  | cons i is ih =>
    obtain ⟨s₁, hm, his⟩ := course_cons.1 his
    exact ih (h.next hm) his (hm.dropped h.ledgered hk)

/-! ## The annals -/

/-- What happens to tasks in an incident. -/
def State.tidings (s : State B V) : Incident B V → List (Event V)
  | .action x => s.events x
  | .burst .. => []

/-- What happens to tasks in a run in which bodies may burst. -/
def State.annals (s : State B V) : List (Incident B V) → List (Event V)
  | [] => []
  | i :: is =>
    s.tidings i ++
      match s.meet i with
      | some s' => s'.annals is
      | none => []

theorem annals_cons (hm : Meets s i s₁) : s.annals (i :: is) = s.tidings i ++ s₁.annals is := by
  simp only [State.annals, meet_iff.2 hm]

theorem annals_concat (his : s.course is = some s') (hm : Meets s' i s₁) :
    s.annals (is ++ [i]) = s.annals is ++ s'.tidings i := by
  induction is generalizing s with
  | nil =>
    cases his
    exact (annals_cons hm).trans (List.append_nil _)
  | cons j is ih =>
    obtain ⟨s₂, hj, his⟩ := course_cons.1 his
    rw [List.cons_append, annals_cons hj, annals_cons hj, ih his, List.append_assoc]

/-! ## The counters -/

/-- A weight that is carried neither by a body nor by what runs it. -/
theorem Burst.tally {f : Activity V → Nat} (hb : Burst s t message k s')
    (hbody : ∀ i, f (.task k i .body) = 0) (hwork : ∀ p, f (.work p) = 0)
    (hinline : f .inline = 0) :
    WorkerPool.tally f s'.threads = WorkerPool.tally f s.threads := by
  cases hb with
  | @intro th th' ht hb =>
    have hsame : th'.tally f = th.tally f := by
      cases hb with
      | worker hs | inline hs => simp [Thread.tally, hs, hbody, hwork, hinline]
    have h := tally_modify (f := f) (fun _ => th') ht
    have hthreads : ((s.abandon k).modifyThread t fun _ => th').threads =
        s.threads.modify t fun _ => th' := rfl
    rw [hthreads]
    omega

/-- **A burst is not counted.** -/
theorem Burst.booked (hb : Burst s t message k s') {n : Nat} {es : List (Event V)}
    (h : s.Booked n es) : s'.Booked n es := by
  refine h.congr hb.counters ?_ ?_ ?_ ?_ <;>
    exact hb.tally (fun _ => rfl) (fun _ => rfl) rfl

/-- **The counters agree with the annals** but for what the threads hold. -/
theorem State.Founded.booked_annals {s₀ : State B V} (h₀ : s₀.Founded)
    (his : s₀.course is = some s) : ∃ n, s.Booked n (s₀.annals is) := by
  induction is using List.reverseRecOn generalizing s with
  | nil =>
    cases his
    have hbook := h₀.booked (steps_nil _)
    exact ⟨_, hbook⟩
  | append_singleton is i ih =>
    obtain ⟨s₁, his, hm⟩ := course_concat.1 his
    obtain ⟨n, hn⟩ := ih his
    rw [annals_concat his hm]
    cases hm with
    | action hm => exact ⟨_, hm.booked hn⟩
    | burst hb =>
      refine ⟨n, ?_⟩
      rw [State.tidings, List.append_nil]
      exact hb.booked hn

end

end WorkerPool
