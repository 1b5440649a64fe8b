/-
  A panicking task is invisible to everything but its own handle, unless its body bursts.

  * `annals_amended`: in the amended run the same happens, but that the bodies for
    which there is a value return it;
  * `State.Founded.counters_amended`: each of them counts as completed instead
    of failed;
  * `State.Founded.cause_of_hasDied`: a worker dies of its start hook or of a burst;
  * `State.Attained.host`: whoever runs a task is a worker in its loop or in a
    call that runs it inline;
  * `State.Attained.catches`: if its body panics, that is counted and sent, and
    the thread goes on with what waited for the task;
  * `Burst.escapes`: if its body bursts, that ends the loop or the call, and
    nothing is counted or sent;
  * `State.Founded.contained` puts these together.
-/
import WorkerPool.Proofs.Census
import WorkerPool.Proofs.Fate
import WorkerPool.Proofs.Likeness
import WorkerPool.Proofs.Tenure

namespace WorkerPool

variable {B V : Type}

section
variable {v : TaskId → Option V} {s s' s₁ s₁' : State B V} {t u : ThreadId} {th : Thread V}
  {a a' : Activity V} {k : TaskId} {i : Incident B V} {is : List (Incident B V)}

/-! ## The annals -/

theorem Event.amend_of_mute {e : Event V} (ha : a.isMute = true) (he : e ∈ s.doing t a) :
    e.amend v = e := by
  cases yields_of_mem he with
  | sent => cases ha
  | _ => rfl

theorem State.Alike.doing_mute (h : s.Alike v s') (ha : a.isMute = true) :
    s'.doing t a = s.doing t a := by
  have hcancelled := h.isCancelled
  cases h with
  | intro hc hj ht =>
    cases a with
    | task k w p =>
      cases p with
      | inspect => simp only [State.doing, hcancelled]
      | _ => rfl
    | work p => cases p <;> rfl
    | trySubmit k p => cases p <;> rfl
    | pop o => cases o <;> rfl
    | clear p => cases p <;> rfl
    | stop g p => cases p <;> rfl
    | discard ks r => cases ks <;> rfl
    | _ => rfl

theorem State.Alike.doing (h : s.Alike v s') (ha : a.Alike v a') :
    s'.doing t a' = (s.doing t a).map (Event.amend v) := by
  cases ha with
  | tally | settle | measure | joinAll => rfl
  | mute ha =>
    rw [h.doing_mute ha]
    exact ((List.map_congr_left fun e he => Event.amend_of_mute ha he).trans (List.map_id _)).symm

/-- In place of an action the same happens, but that a body returns instead of
    panicking. -/
theorem Move.events_amend {x : Action B V} (hm : Move s x s₁) (h : s.Alike v s') :
    s'.events (s.amend v x) = (s.events x).map (Event.amend v) := by
  cases hm with
  | @run t c th a rest turn hw ht hs hd =>
    have htop := h.top? t
    rw [top?_eq_some_iff.2 ⟨_, _, ht, hs⟩] at htop
    simp only [State.amend, State.events, top?_eq_some_iff.2 ⟨_, _, ht, hs⟩]
    generalize s'.top? t = o at htop
    cases htop with
    | some ha => exact h.doing ha
  | @finish t o th k w rest ht hs =>
    have htop := h.top? t
    have hbody := top?_eq_some_iff.2 ⟨_, _, ht, hs⟩
    rw [hbody] at htop
    simp only [amend_finish hbody, State.events, hbody]
    generalize s'.top? t = o at htop
    cases htop with
    | some ha =>
      rw [ha.eq rfl]
      rfl
  | _ => rfl

theorem Meets.tidings_amend (hm : Meets s i s₁) (h : s.Alike v s') :
    s'.tidings (i.map (s.amend v)) = (s.tidings i).map (Event.amend v) := by
  cases hm with
  | action hm => exact hm.events_amend h
  | burst => rfl

/-- **In the amended run the same happens**, but that the bodies for which
    there is a value return it. -/
theorem annals_amended (h : s.Alike v s') (his : s.course is = some s₁) :
    s'.annals (s.amended v is) = (s.annals is).map (Event.amend v) := by
  induction is generalizing s s' with
  | nil => rfl
  | cons i is ih =>
    obtain ⟨s₂, hm, his⟩ := course_cons.1 his
    obtain ⟨s₂', hm', h₂⟩ := hm.alike h
    rw [amended_cons hm, annals_cons hm, annals_cons hm', hm.tidings_amend h, ih h₂ his,
      List.map_append]

/-! ## The counters -/

/-- A body ends by a panic in the place of which there is a value. -/
def Event.isAmended (v : TaskId → Option V) : Event V → Bool
  | ended k (.panicked _) => (v k).isSome
  | _ => false

/-- One for a body that ended by such a panic and is not counted yet. -/
def Activity.owes (v : TaskId → Option V) : Activity V → Nat
  | task k _ (.tally (.panicked _)) => (v k).isSome.toNat
  | _ => 0

/-- What is owed counts as returned in one and as panicked in the other. -/
theorem Activity.Alike.ended (h : a.Alike v a') :
    a'.returns = a.returns + a.owes v ∧ a'.panics + a.owes v = a.panics := by
  cases h with
  | mute ha =>
    cases a with
    | task k w p => cases p <;> first | exact ⟨rfl, rfl⟩ | cases ha
    | _ => exact ⟨rfl, rfl⟩
  | @tally k w o =>
    cases o with
    | returned x => exact ⟨rfl, rfl⟩
    | panicked p => cases hv : v k <;> simp [Outcome.amend, returns, panics, owes, hv]
  | settle | measure | joinAll => exact ⟨rfl, rfl⟩

/-- Weights that add up for the elements of two lists add up for the lists. -/
theorem sum_add_of_forall₂ {α β : Type} {R : α → β → Prop} {p : β → Nat} {q f g : α → Nat}
    {l : List α} {l' : List β} (hl : List.Forall₂ R l l')
    (hf : ∀ x y, R x y → p y + q x = f x + g x) :
    (l'.map p).sum + (l.map q).sum = (l.map f).sum + (l.map g).sum := by
  induction hl with
  | nil => rfl
  | cons hx _ ih =>
    have := hf _ _ hx
    simp only [List.map_cons, List.sum_cons]
    omega

theorem State.Alike.tally_add (h : s.Alike v s') (p q f g : Activity V → Nat)
    (hf : ∀ a a' : Activity V, a.Alike v a' → p a' + q a = f a + g a) :
    tally p s'.threads + tally q s.threads = tally f s.threads + tally g s.threads := by
  cases h with
  | intro hc hj ht =>
    refine sum_add_of_forall₂ ht fun th th' hth => ?_
    cases hth with
    | intro hs hr => exact sum_add_of_forall₂ hs hf

theorem countP_eq_sum_toNat {α : Type} (p : α → Bool) (l : List α) :
    l.countP p = (l.map fun x => (p x).toNat).sum := by
  simpa using countP_eq_sum p (l : Multiset α)

theorem Event.ended_amend (e : Event V) :
    (e.amend v).isReturn.toNat = e.isReturn.toNat + (e.isAmended v).toNat ∧
      (e.amend v).isPanic.toNat + (e.isAmended v).toNat = e.isPanic.toNat := by
  cases e with
  | ended k o =>
    cases o with
    | returned x => exact ⟨rfl, rfl⟩
    | panicked p => cases hv : v k <;> simp [amend, Outcome.amend, isAmended, hv]
  | _ => exact ⟨rfl, rfl⟩

/-- What is counted of the events of an amended run. -/
theorem countP_amend (es : List (Event V)) (p q f g : Event V → Bool)
    (hp : ∀ e : Event V, (p (e.amend v)).toNat + (q e).toNat = (f e).toNat + (g e).toNat) :
    (es.map (Event.amend v)).countP p + es.countP q = es.countP f + es.countP g := by
  simp only [countP_eq_sum_toNat]
  refine sum_add_of_forall₂ (R := fun e e' => e' = e.amend v) ?_ ?_
  · exact List.forall₂_map_right_iff.2 (List.forall₂_same.2 fun _ _ => rfl)
  · rintro e _ rfl
    exact hp e

/-- **Each body that returns instead of panicking counts as completed instead
    of failed**, as soon as it is counted. -/
theorem State.Founded.counters_amended (h₀ : s.Founded) (his : s.course is = some s₁)
    (his' : s.course (s.amended v is) = some s₁') (h : s₁.Alike v s₁') :
    s₁'.counters.completed + tally (Activity.owes v) s₁.threads =
        s₁.counters.completed + (s.annals is).countP (Event.isAmended v) ∧
      s₁'.counters.failed + (s.annals is).countP (Event.isAmended v) =
        s₁.counters.failed + tally (Activity.owes v) s₁.threads := by
  obtain ⟨_, hbook⟩ := h₀.booked_annals his
  obtain ⟨_, hbook'⟩ := h₀.booked_annals his'
  rw [annals_amended h₀.alike his] at hbook'
  have hnone : tally (fun _ : Activity V => 0) s₁.threads = 0 := tally_zero _
  have hnot : (s.annals is).countP (fun _ => false) = 0 :=
    congrFun List.countP_false _
  have hreturns := h.tally_add Activity.returns (fun _ => 0) Activity.returns (Activity.owes v)
    fun _ _ ha => ha.ended.1
  have hpanics := h.tally_add Activity.panics (Activity.owes v) Activity.panics (fun _ => 0)
    fun _ _ ha => ha.ended.2
  have hended := countP_amend (s.annals is) Event.isReturn (fun _ => false) Event.isReturn
    (Event.isAmended v) fun e => e.ended_amend.1
  have hpanicked := countP_amend (s.annals is) Event.isPanic (Event.isAmended v) Event.isPanic
    (fun _ => false) fun e => e.ended_amend.2
  rw [hnone] at hreturns hpanics
  rw [hnot] at hended hpanicked
  have hcompleted := hbook.completed
  have hcompleted' := hbook'.completed
  have hfailed := hbook.failed
  have hfailed' := hbook'.failed
  omega

/-! ## Deaths -/

/-- What a worker can die of. -/
inductive Incident.Kills (u : ThreadId) : Incident B V → Prop where
  | hook : Kills u (.action (.hook u true))
  | burst (message : String) : Kills u (.burst u message)

/-- Whoever is found dead had died before, or has just died. -/
theorem Meets.cause_of_hasDied (hm : Meets s i s') (h : s'.HasDied u) :
    s.HasDied u ∨ i.Kills u := by
  obtain ⟨w', hw', hdied⟩ := h
  cases hm with
  | action hm =>
    cases hw : s.threads[u]? with
    | none =>
      have hnext := hm.thread hw'
      rw [hw] at hnext
      cases hnext with
      | outside | worker => cases hdied
    | some w =>
      obtain ⟨w₁, hw₁, hiff⟩ := hm.died hw
      cases hw'.symm.trans hw₁
      rcases hiff.1 hdied with hdied | rfl
      · exact .inl ⟨w, hw, hdied⟩
      · exact .inr .hook
  | @burst t message k _ hb =>
    rcases hb.thread hw' with hw | ⟨rfl, -⟩
    · exact .inl ⟨w', hw, hdied⟩
    · exact .inr (.burst message)

/-- **A worker dies of its start hook, or of a body that bursts in its loop.** -/
theorem State.Founded.cause_of_hasDied (h₀ : s.Founded) (his : s.course is = some s₁)
    (hdied : s₁.HasDied u) : ∃ i ∈ is, i.Kills u := by
  induction is using List.reverseRecOn generalizing s₁ with
  | nil =>
    cases his
    obtain ⟨name, hooked, capacity, interval, workers, rfl⟩ := h₀
    obtain ⟨w, hw, hdied⟩ := hdied
    rw [List.mem_singleton.1 (List.mem_of_getElem? hw)] at hdied
    cases hdied
  | append_singleton is i ih =>
    obtain ⟨s₂, his, hm⟩ := course_concat.1 his
    rcases hm.cause_of_hasDied hdied with hdied | hi
    · obtain ⟨j, hj, hkills⟩ := ih his hdied
      exact ⟨j, List.mem_append_left _ hj, hkills⟩
    · exact ⟨i, List.mem_append_right _ (List.mem_singleton_self _), hi⟩

/-! ## What waits for a task -/

/-- The loop of a worker, which goes on with its stop check, and the call that
    runs a task inline. -/
def Activity.hosts : Activity V → Bool
  | work .check | inline => true
  | _ => false

/-- Whoever runs a task does so in its loop or in a call. -/
def hosted : List (Activity V) → Bool
  | [] => true
  | .task .. :: rest => rest.head?.any Activity.hosts && hosted rest
  | _ :: rest => hosted rest

theorem hosted_tail {rest : List (Activity V)} (h : hosted (a :: rest) = true) :
    hosted rest = true := by
  cases a with
  | task => exact (Bool.and_eq_true_iff.1 h).2
  | _ => exact h

theorem hosted_append {next rest : List (Activity V)} (hn : hosted next = true)
    (hr : hosted rest = true) : hosted (next ++ rest) = true := by
  induction next with
  | nil => exact hr
  | cons a next ih =>
    have hnext := ih (hosted_tail hn)
    cases a with
    | task =>
      cases next with
      | nil => cases hn
      | cons b next => exact Bool.and_eq_true_iff.2 ⟨(Bool.and_eq_true_iff.1 hn).1, hnext⟩
    | _ => exact hnext

theorem Follows.hosted {x : Activity V} {next rest : List (Activity V)}
    (h : Follows s th x next) (hr : WorkerPool.hosted (x :: rest) = true) :
    WorkerPool.hosted (next ++ rest) = true := by
  cases h with
  | run hd =>
    cases hd with
    | inspect | skip | tallyReturned | tallyPanicked => exact hr
    | settle => exact hosted_tail hr
    | _ => exact hosted_append rfl (hosted_tail hr)
  | finish => exact hr
  | hook | hookPanic | expire => exact hosted_append rfl (hosted_tail hr)

theorem Thread.Next.hosted {o : Option (Thread V)} {w : Thread V} (h : Thread.Next s o w)
    (ho : ∀ w, o = some w → WorkerPool.hosted w.stack = true) :
    WorkerPool.hosted w.stack = true := by
  cases h with
  | same hw => exact hw.stack ▸ ho _ rfl
  | outside | worker => rfl
  | call hf hl hc hs hb =>
    rw [hs]
    refine hosted_append ?_ (ho _ rfl)
    cases hc <;> rfl
  | step hx hn hs hb =>
    rw [hs]
    exact hn.hosted (hx ▸ ho _ rfl)

theorem Thread.Bursts.hosted {w : Thread V} {message : String} (hb : th.Bursts message k w)
    (h : WorkerPool.hosted th.stack = true) : WorkerPool.hosted w.stack = true := by
  cases hb with
  | worker hs | inline hs =>
    rw [hs] at h
    have hrest := hosted_tail (hosted_tail h)
    exact hrest

theorem Meets.hosted (hm : Meets s i s')
    (h : ∀ (t : ThreadId) (w : Thread V), s.threads[t]? = some w →
      WorkerPool.hosted w.stack = true) {t : ThreadId} {w : Thread V}
    (hw : s'.threads[t]? = some w) : WorkerPool.hosted w.stack = true := by
  cases hm with
  | action hm => exact (hm.thread hw).hosted fun w hw => h t w hw
  | burst hb =>
    rcases hb.thread hw with hw | ⟨-, th, ht, hb⟩
    · exact h t w hw
    · exact hb.hosted (h _ th ht)

/-- **Whoever runs a task is a worker in its loop, or is in a call that runs it
    inline.** -/
theorem State.Attained.host (ha : s.Attained) {w : Nat} {p : TaskPoint V}
    {rest : List (Activity V)} (ht : s.threads[t]? = some th)
    (hs : th.stack = .task k w p :: rest) :
    rest.head? = some (.work .check) ∨ rest.head? = some .inline := by
  have hhosted : hosted th.stack = true := by
    refine ha.induct (P := fun s => ∀ (t : ThreadId) (w : Thread V), s.threads[t]? = some w →
      hosted w.stack = true) ?_ (fun _ _ _ h hm _ _ => hm.hosted h) t th ht
    rintro s ⟨name, hooked, capacity, interval, workers, rfl⟩ t w hw
    rw [List.mem_singleton.1 (List.mem_of_getElem? hw)]
    rfl
  rw [hs] at hhosted
  obtain ⟨b, hb, hhost⟩ := (Option.any_eq_true ..).1 (Bool.and_eq_true_iff.1 hhosted).1
  rw [hb]
  unfold Activity.hosts at hhost
  split at hhost
  · exact .inl rfl
  · exact .inr rfl
  · cases hhost

/-! ## After a panic -/

/-- The points at which a body has panicked and its handle does not say so
    yet. -/
inductive Activity.Catches (k : TaskId) (p : Payload) : Activity V → Prop where
  | count (w) : Catches k p (.task k w (.tally (.panicked p)))
  | send (w) : Catches k p (.task k w (.settle (.error (.panicked p.message))))

/-- Nothing of a thread has changed but, perhaps, its stack and its badge. -/
structure Thread.Kept (th w : Thread V) (stack : List (Activity V)) : Prop where
  stack : w.stack = stack
  reply : w.reply = th.reply
  died : w.died = th.died

/-- The body of `k` has panicked, and the thread that ran it has yet to count it
    or to send the result. -/
def State.Catching (s : State B V) (t : ThreadId) (th : Thread V) (k : TaskId) (p : Payload)
    (rest : List (Activity V)) : Prop :=
  ∃ w a, s.threads[t]? = some w ∧ a.Catches k p ∧ th.Kept w (a :: rest)

/-- The handle says that the body of `k` has panicked, and the thread that ran
    it stands at what waited for it. -/
structure State.Caught (s : State B V) (t : ThreadId) (th : Thread V) (k : TaskId) (p : Payload)
    (rest : List (Activity V)) : Prop where
  thread : ∃ w, s.threads[t]? = some w ∧ th.Kept w rest
  resolved : s.Resolved k (.error (.panicked p.message))

variable {p : Payload} {rest : List (Activity V)}

theorem Thread.Kept.same {w w' : Thread V} {l : List (Activity V)} (h : th.Kept w l)
    (hs : w.Same w') : th.Kept w' l :=
  ⟨hs.stack.trans h.stack, hs.reply.trans h.reply, hs.died.trans h.died⟩

/-- A result that is sent on an open promise is there. -/
theorem State.Ledgered.resolved_settle (h : s.Ledgered) {w : Thread V} {i : Nat}
    {r : TaskResult V} (hw : s.threads[t]? = some w) (hs : .task k i (.settle r) ∈ w.stack) :
    (s.settle k r).Resolved k r := by
  obtain ⟨job, hj, hopen⟩ := h.open hw hs (List.mem_singleton_self _)
  refine ⟨{ job with promise := job.promise.send r }, by simp [State.settle, State.modifyJob, hj],
    ?_⟩
  simp [Promise.send, Promise.answer?, show job.promise.sender = .unsent from hopen]

/-- **A panic is counted and sent, and the thread is where it was before.** -/
theorem Move.catching {x : Action B V} (hm : Move s x s') (hl : s.Ledgered)
    (h : s.Catching t th k p rest) : s'.Catching t th k p rest ∨ s'.Caught t th k p rest := by
  obtain ⟨w, a, hw, ha, hkept⟩ := h
  by_cases hx : x.actor? = some t
  · cases hm with
    | arrive | rouse | tick => cases hx
    | call ht hf =>
      cases hx
      cases hw.symm.trans ht
      simp only [Thread.isFree, hkept.stack] at hf
      cases ha <;> cases hf
    | finish ht hs | hook ht hs | hookPanic ht hs | expire ht hs =>
      cases hx
      cases hw.symm.trans ht
      cases hkept.stack.symm.trans hs
      cases ha
    | run _ ht hs hd =>
      cases hx
      cases hw.symm.trans ht
      cases hkept.stack.symm.trans hs
      cases ha with
      | count j =>
        cases hd
        refine .inl ⟨_, _, getElem?_modifyThread_self hw, .send j, ?_, hkept.reply, hkept.died⟩
        simp [hs]
      | send =>
        cases hd
        refine .inr ⟨⟨_, getElem?_modifyThread_self hw, ?_, hkept.reply, hkept.died⟩, ?_⟩
        · simp [hs]
        · exact hl.resolved_settle hw (Thread.mem_of_stack hs)
  · obtain ⟨w', hw', hsame⟩ := hm.same hx hw
    exact .inl ⟨w', a, hw', ha, hkept.same hsame⟩

theorem Meets.catching (hm : Meets s i s') (hl : s.Ledgered) (h : s.Catching t th k p rest) :
    s'.Catching t th k p rest ∨ s'.Caught t th k p rest := by
  cases hm with
  | action hm => exact hm.catching hl h
  | burst hb =>
    -- the body that bursts is run by another thread
    obtain ⟨w, a, hw, ha, hkept⟩ := h
    obtain ⟨j, hbody⟩ := hb.top?
    refine .inl ⟨w, a, hb.same ?_ hw, ha, hkept⟩
    rintro rfl
    cases hbody.symm.trans (top?_eq_some_iff.2 ⟨w, rest, hw, hkept.stack⟩)
    cases ha

/-- Nothing can keep a thread from it. -/
theorem State.Catching.runs (h : s.Catching t th k p rest) (hs : s.Shaped) (c : Chance) :
    ∃ s', s.run t c = some s' := by
  obtain ⟨w, a, hw, ha, hkept⟩ := h
  have htop := top?_eq_some_iff.2 ⟨w, rest, hw, hkept.stack⟩
  cases ha with
  | count =>
    exact ⟨_, run_iff.2 ⟨hs.awake htop nofun nofun, _, _, _, _, hw, hkept.stack,
      .tallyPanicked, rfl⟩⟩
  | send =>
    exact ⟨_, run_iff.2 ⟨hs.awake htop nofun nofun, _, _, _, _, hw, hkept.stack, .settle, rfl⟩⟩

theorem course_catching (ha : s.Attained) (h : s.Catching t th k p rest)
    (his : s.course is = some s₁) :
    s₁.Catching t th k p rest ∨
      ∃ js ks s₂, is = js ++ ks ∧ s.course js = some s₂ ∧ s₂.Caught t th k p rest := by
  induction is generalizing s with
  | nil =>
    cases his
    exact .inl h
  | cons i is ih =>
    obtain ⟨s₂, hm, his⟩ := course_cons.1 his
    rcases hm.catching ha.ledgered h with h | h
    · rcases ih (ha.next hm) h his with h | ⟨js, ks, s₃, rfl, hjs, h⟩
      · exact .inl h
      · exact .inr ⟨i :: js, ks, s₃, rfl, course_cons.2 ⟨s₂, hm, hjs⟩, h⟩
    · exact .inr ⟨[i], is, s₂, rfl, course_cons.2 ⟨s₂, hm, rfl⟩, h⟩

/-- A body that panics is run by a worker in its loop or in a call, and its
    panic is caught. -/
theorem State.Attained.catches (ha : s.Attained)
    (his : s.course (.action (.finish t (.panicked p)) :: is) = some s₁) :
    ∃ th k w rest, s.threads[t]? = some th ∧ th.stack = .task k w .body :: rest ∧
      (rest.head? = some (.work .check) ∨ rest.head? = some .inline) ∧
      (s₁.Catching t th k p rest ∧ (∀ c, ∃ s', s₁.run t c = some s') ∨
        ∃ js ks s₂, is = js ++ ks ∧
          s.course (.action (.finish t (.panicked p)) :: js) = some s₂ ∧
          s₂.Caught t th k p rest) := by
  obtain ⟨s', hm, his⟩ := course_cons.1 his
  have hm' := hm
  cases hm with
  | action hm =>
  cases hm with
  | @finish _ _ th k w rest ht hs =>
    refine ⟨th, k, w, rest, ht, hs, ha.host ht hs, ?_⟩
    have hcatch : State.Catching (State.settleTurn t ⟨s, [.task k w (.tally (.panicked p))], none⟩)
        t th k p rest := by
      refine ⟨_, _, getElem?_modifyThread_self ht, .count w, ?_, rfl, rfl⟩
      simp [hs]
    rcases course_catching (ha.next hm') hcatch his with h | ⟨js, ks, s₂, rfl, hjs, h⟩
    · exact .inl ⟨h, fun c => h.runs ((ha.next hm').course his).shaped c⟩
    · exact .inr ⟨js, ks, s₂, rfl, course_cons.2 ⟨_, hm', hjs⟩, h⟩

/-! ## After a burst -/

/-- What nothing catches: a worker has died and leaves, or a call has panicked. -/
inductive State.Escaped (s : State B V) (t : ThreadId) (message : String) : Prop where
  | worker (hdied : s.HasDied t) (htop : s.top? t = some (.work .leave))
  | call {w} (hw : s.threads[t]? = some w) (hr : w.reply = some (.panicked (.dropped message)))

/-- **A burst ends what runs the body.** -/
theorem Burst.escapes {message : String} (hb : Burst s t message k s') :
    s'.Escaped t message := by
  cases hb with
  | @intro th th' ht hb =>
    have hth : ((s.abandon k).modifyThread t fun _ => th').threads[t]? = some th' :=
      getElem?_modifyThread_self (s := s.abandon k) ht
    cases hb with
    | worker hs => exact .worker ⟨_, hth, rfl⟩ (top?_eq_some_iff.2 ⟨_, _, hth, rfl⟩)
    | inline hs => exact .call hth rfl

/-- What becomes of a body that bursts: it is counted nowhere, what runs it ends, and
    its handle says for ever that the task was discarded. -/
theorem State.Attained.bursts {message : String} (ha : s.Attained)
    (his : s.course (.burst t message :: is) = some s₁) :
    ∃ s' k w, s.top? t = some (.task k w .body) ∧ s.burst t message = some s' ∧
      s'.counters = s.counters ∧ s'.Escaped t message ∧ s₁.Resolved k (.error .discarded) := by
  obtain ⟨s', hm, his⟩ := course_cons.1 his
  have hm' := hm
  cases hm with
  | @burst _ _ k _ hb =>
    obtain ⟨w, htop⟩ := hb.top?
    obtain ⟨C, -, hC⟩ := hb.ledger ha.ledgered
    have ha' := ha.next hm'
    have hk : (k, .dropped) ∈ s₁.ledger := ha'.dropped his (by rw [hC]; simp)
    exact ⟨s', k, w, htop, burst_iff.2 ⟨k, hb⟩, hb.counters, hb.escapes,
      (ha'.course his).ledgered.resolved hk rfl⟩

/-! ## Containment -/

/-- **A panicking task is invisible to everything but its own handle**, in a run in
    which bodies may burst as well.  Whichever of the panicking bodies return a value
    instead, the same run is possible, incident by incident.  At every point of it the
    two states are the same but for the results of these bodies and for what was counted
    of them: the other handles are the same, the same has happened, and each of these
    bodies counts as completed instead of failed.  A panic, whatever text it carries or
    none, is caught on what runs the body, the loop of a worker or an inline call: there
    it is counted and sent to the handle, which nothing can prevent, and the thread goes
    on where it would have gone on.  A worker dies of its start hook or of a burst only.

    Of a burst nothing of this holds: it ends the loop or the call, is not counted, and
    the handle says that the task was discarded. -/
theorem State.Founded.contained {s₀ : State B V} (h₀ : s₀.Founded)
    (his : s₀.course is = some s) (v : TaskId → Option V) :
    (∀ js ks s₁, is = js ++ ks → s₀.course js = some s₁ →
      s₀.amended v is = s₀.amended v js ++ s₁.amended v ks ∧
      ∃ s₁', s₀.course (s₀.amended v js) = some s₁' ∧ s₁.Alike v s₁' ∧
        (∀ k : TaskId, v k = none → s₁'.jobs[k]? = s₁.jobs[k]?) ∧
        s₀.annals (s₀.amended v js) = (s₀.annals js).map (Event.amend v) ∧
        s₁'.counters.completed + tally (Activity.owes v) s₁.threads =
          s₁.counters.completed + (s₀.annals js).countP (Event.isAmended v) ∧
        s₁'.counters.failed + (s₀.annals js).countP (Event.isAmended v) =
          s₁.counters.failed + tally (Activity.owes v) s₁.threads) ∧
    (∀ js ks t p s₁, is = js ++ .action (.finish t (.panicked p)) :: ks →
      s₀.course js = some s₁ →
      ∃ th k w rest, s₁.threads[t]? = some th ∧ th.stack = .task k w .body :: rest ∧
        (rest.head? = some (.work .check) ∨ rest.head? = some .inline) ∧
        (s.Catching t th k p rest ∧ (∀ c, ∃ s', s.run t c = some s') ∨
          ∃ ls ms s₂, ks = ls ++ ms ∧
            s₁.course (.action (.finish t (.panicked p)) :: ls) = some s₂ ∧
            s₂.Caught t th k p rest)) ∧
    (∀ u, s.HasDied u → ∃ i ∈ is, i.Kills u) ∧
    ∀ js ks t message s₁, is = js ++ .burst t message :: ks → s₀.course js = some s₁ →
      ∃ s₂ k w, s₁.top? t = some (.task k w .body) ∧ s₁.burst t message = some s₂ ∧
        s₂.counters = s₁.counters ∧ s₂.Escaped t message ∧
        s.Resolved k (.error .discarded) := by
  -- the state between the two parts of the run
  have rests {js ks : List (Incident B V)} {s₁ : State B V} (heq : is = js ++ ks)
      (hjs : s₀.course js = some s₁) : s₁.Attained ∧ s₁.course ks = some s := by
    obtain ⟨s₂, hjs', hks⟩ := course_append.1 (heq ▸ his)
    cases hjs.symm.trans hjs'
    exact ⟨⟨s₀, js, h₀, hjs⟩, hks⟩
  refine ⟨?_, ?_, fun u => h₀.cause_of_hasDied his, ?_⟩
  · rintro js ks s₁ rfl hjs
    obtain ⟨s₁', hjs', halike⟩ := course_alike h₀.alike hjs
    refine ⟨amended_append hjs, s₁', hjs', halike, fun k hk => ?_,
      annals_amended h₀.alike hjs, h₀.counters_amended hjs hjs' halike⟩
    rw [halike.job, funext (Job.amend_of_none hk), Option.map_id']
  · intro js ks t p s₁ heq hjs
    obtain ⟨ha, hks⟩ := rests heq hjs
    exact ha.catches hks
  · intro js ks t message s₁ heq hjs
    obtain ⟨ha, hks⟩ := rests heq hjs
    exact ha.bursts hks

end

/-- A run in which two bodies panic, one on a worker and one on a worker that was detached
    meanwhile, while a third task is run inline. -/
def panickingRun : List (Action Unit Nat) :=
  [paces 0 6, [.call 0 (.submit ())], paces 0 3, paces 1 3,
    [.call 0 (.submit ())], paces 0 3, paces 2 3, [.call 0 (.resize 1)], paces 0 5,
    [.call 0 (.submit ())], paces 0 3, [.call 0 .pop], paces 0 2, [.call 0 (.runTaken 2 0)],
    paces 0 1, [.finish 1 (.panicked (.text "boom"))], paces 1 2, [.finish 2 (.panicked .other)],
    paces 2 2].flatten

/-- A worker takes another task. -/
def resumingRun : List (Action Unit Nat) :=
  [paces 0 3, [.call 0 (.submit ())], paces 0 3, paces 1 4].flatten

/-- The third body panics as well, and then a fourth bursts on a worker. -/
def burstingCourse : List (Incident Unit Nat) :=
  panickingRun.map .action ++ .action (.finish 0 (.panicked (.text "inline"))) ::
    (resumingRun.map .action ++ [.burst 1 "dropped"])

/-- The first two of these bodies return instead. -/
def sparing : TaskId → Option Nat
  | 2 => none
  | k => some k

theorem contained_burstingCourse : ∃ s s' : State Unit Nat,
    (State.founding "pool" false none 1 2).course burstingCourse = some s ∧
    (State.founding "pool" false none 1 2).course
      ((State.founding "pool" false none 1 2).amended sparing burstingCourse) = some s' ∧
    s.Alike sparing s' ∧ s'.jobs[2]? = s.jobs[2]? ∧
    s.counters.completed = 0 ∧ s'.counters.completed = 2 ∧
    s.counters.failed = 3 ∧ s'.counters.failed = 1 ∧
    (∃ js ks s₂, burstingCourse = js ++ ks ∧
      (State.founding "pool" false none 1 2).course js = some s₂ ∧
      s₂.Resolved 2 (.error (.panicked "inline"))) ∧
    (∀ u, s.HasDied u → u = 1) ∧ s.Resolved 3 (.error .discarded) := by
  obtain ⟨s, hs, hfacts⟩ := Option.map_eq_some_iff.1
    (show ((State.founding "pool" false none 1 2).course burstingCourse).map
        (fun s => (s.counters, tally (Activity.owes sparing) s.threads, (s.top? 0).isNone)) =
      some (⟨4, 0, 3, 0⟩, 0, true) by decide +kernel)
  obtain ⟨hcounters, howes, hdone⟩ : s.counters = ⟨4, 0, 3, 0⟩ ∧
      tally (Activity.owes sparing) s.threads = 0 ∧ s.top? 0 = none := by
    simpa using hfacts
  have h₀ : (State.founding "pool" false none 1 2 : State Unit Nat).Founded :=
    State.founded_founding
  obtain ⟨halike, hcaught, hdied, hburst⟩ := h₀.contained hs sparing
  obtain ⟨-, s', hs', hlike, hjobs, -, hcompleted, hfailed⟩ :=
    halike burstingCourse [] s (List.append_nil _).symm hs
  have hamended : ((State.founding "pool" false none 1 2).annals burstingCourse).countP
      (Event.isAmended sparing) = 2 := by decide +kernel
  rw [hamended, howes, hcounters] at hcompleted hfailed
  refine ⟨s, s', hs, hs', hlike, hjobs 2 rfl, congrArg _ hcounters, hcompleted,
    congrArg _ hcounters, Nat.add_right_cancel hfailed, ?_, fun u hu => ?_, ?_⟩
  · obtain ⟨s₁, hs₁, -⟩ := course_append.1 hs
    obtain ⟨th, k, w, rest, hth, hst, -, hcatch | ⟨ls, ms, s₂, heq, hls, hcaught⟩⟩ :=
      hcaught _ _ 0 (.text "inline") s₁ rfl hs₁
    · -- the call in which the third body was run is over
      obtain ⟨⟨w, a, hw, -, hkept⟩, -⟩ := hcatch
      cases hdone.symm.trans (top?_eq_some_iff.2 ⟨w, rest, hw, hkept.stack⟩)
    · have htop : s₁.top? 0 = some (.task 2 0 .body) := by
        rw [course_actions] at hs₁
        cases hs₁
        rfl
      cases (top?_eq_some_iff.2 ⟨th, rest, hth, hst⟩).symm.trans htop
      refine ⟨_, ms, s₂, ?_, course_append.2 ⟨s₁, hs₁, hls⟩, hcaught.resolved⟩
      rw [burstingCourse, heq]
      simp only [List.append_assoc, List.cons_append]
  · obtain ⟨i, hi, hkills⟩ := hdied u hu
    cases hkills with
    | hook => simp [burstingCourse, panickingRun, resumingRun, paces] at hi
    | burst message =>
      obtain ⟨rfl, -⟩ : u = 1 ∧ message = "dropped" := by
        simpa [burstingCourse, panickingRun, resumingRun, paces] using hi
      rfl
  · have hsplit : burstingCourse =
        (panickingRun ++ .finish 0 (.panicked (.text "inline")) :: resumingRun).map .action ++
          [.burst 1 "dropped"] := by
      simp [burstingCourse]
    obtain ⟨s₁, hs₁, -⟩ := course_append.1 (hsplit ▸ hs)
    obtain ⟨s₂, k, w, htop, -, -, -, hresolved⟩ := hburst _ _ 1 "dropped" s₁ hsplit hs₁
    have hbody : ((State.founding "pool" false none 1 2).steps
        (panickingRun ++ .finish 0 (.panicked (.text "inline")) :: resumingRun)).map (·.top? 1) =
      some (some (.task 3 0 .body)) := rfl
    rw [← course_actions, hs₁, Option.map_some, htop] at hbody
    cases hbody
    exact hresolved

/-- The one worker is in the body of a task, and another task waits. -/
def laboringRun : List (Action Unit Nat) :=
  [paces 0 5, [.call 0 (.submit ())], paces 0 3, paces 1 3, [.call 0 (.submit ())],
    paces 0 3].flatten

/-- A caller has taken a task out and is in its body. -/
def inlineRun : List (Action Unit Nat) :=
  [paces 0 4, [.call 0 (.submit ())], paces 0 3, [.call 0 .pop], paces 0 2,
    [.call 0 (.runTaken 0 0)], paces 0 1].flatten

/-- **A burst is not contained.**  The worker ends, so that nobody is left to take the other
    task, nothing is counted as failed, and the handle speaks of a task that was never run;
    had the body returned, the worker would go on.  An inline call panics. -/
theorem escaped_laboringRun :
    (∃ s s' : State Unit Nat,
      (State.founding "pool" false none 1 1).course
        (laboringRun.map .action ++ .burst 1 "dropped" :: (paces 1 2).map .action) = some s ∧
      (State.founding "pool" false none 1 1).course
        (laboringRun.map .action ++ .action (.finish 1 (.returned 7)) ::
          (paces 1 2).map .action) = some s' ∧
      s.HasDied 1 ∧ s.HasEnded 1 ∧ s'.top? 1 = some (.work .check) ∧
      s.counters = ⟨2, 0, 0, 0⟩ ∧ s'.counters = ⟨2, 1, 0, 0⟩ ∧
      s.Resolved 0 (.error .discarded) ∧ s'.Resolved 0 (.ok 7) ∧
      s.backlog.tasks = [1] ∧ s.AtRest) ∧
    ∃ s s' : State Unit Nat,
      (State.founding "pool" false none 1 0).course
        (inlineRun.map .action ++ [.burst 0 "dropped"]) = some s ∧
      (State.founding "pool" false none 1 0).course
        (inlineRun.map .action ++ .action (.finish 0 (.returned 7)) ::
          (paces 0 3).map .action) = some s' ∧
      s.threads[0]?.bind Thread.reply = some (.panicked (.dropped "dropped")) ∧
      s'.threads[0]?.bind Thread.reply = some .done ∧
      s.Resolved 0 (.error .discarded) ∧ s'.Resolved 0 (.ok 7) := by
  constructor
  · refine ⟨_, _, rfl, rfl, ⟨_, rfl, rfl⟩, ⟨_, rfl, rfl⟩, rfl, rfl, rfl, ⟨_, rfl, rfl⟩,
      ⟨_, rfl, rfl⟩, rfl, ?_⟩
    rintro (_ | _ | t) c <;> rfl
  · exact ⟨_, _, rfl, rfl, rfl, rfl, ⟨_, rfl, rfl⟩, ⟨_, rfl, rfl⟩⟩

end WorkerPool
