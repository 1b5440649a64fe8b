/-
  An offer that finds room is a submission.

  `submit` and `trySubmit` are two separate calls that agree as long as there is
  room: they count, append and wake alike.

  * `State.patient k` is a state in which the offer of task `k` is a submission
    that waits;
  * `Deed.patient`, `Move.patient`: whatever happens in a state happens in its
    patient copy, but for an offer that is refused;
  * `steps_patient`: so it is with a run in which the offer finds room.
-/
import WorkerPool.Proofs.Booking

namespace WorkerPool

variable {B V : Type}

/-! ## Patient copies -/

/-- The same point of a submission that waits; there is none once the offer was
    refused. -/
def TrySubmitPoint.patient? : TrySubmitPoint → Option SubmitPoint
  | count => some .count
  | push => some .push
  | wake => some .wake
  | uncount | refuse | drop _ => none

/-- The offer of task `k` as a submission that waits. -/
def Activity.patient (k : TaskId) : Activity V → Activity V
  | trySubmit k' p =>
    match p.patient? with
    | some q => if k' = k then .submit k' q else .trySubmit k' p
    | none => .trySubmit k' p
  | a => a

/-- A thread in the patient copy of a state. -/
def Thread.patient (k : TaskId) (th : Thread V) : Thread V :=
  { th with stack := th.stack.map (Activity.patient k) }

/-- The patient copy of a state: the offer of task `k` is a submission that waits. -/
def State.patient (k : TaskId) (s : State B V) : State B V :=
  { s with threads := s.threads.map (Thread.patient k) }

/-- A step in the patient copy of a state. -/
def Turn.patient (k : TaskId) (turn : Turn B V) : Turn B V where
  state := turn.state.patient k
  next := turn.next.map (Activity.patient k)
  reply := turn.reply

/-- The offer of task `k` finds room whenever it looks for it in a run. -/
def State.FindsRoom (k : TaskId) (s : State B V) : List (Action B V) → Prop
  | [] => True
  | x :: as =>
    ((∃ t c, x = .run t c ∧ s.top? t = some (.trySubmit k .push)) → s.backlog.hasRoom = true) ∧
      ∀ s' ∈ s.step x, s'.FindsRoom k as

theorem map_modify_comm {α β : Type} {f : α → β} {g : α → α} {g' : β → β} (l : List α) (i : Nat)
    (h : ∀ x, f (g x) = g' (f x)) : (l.modify i g).map f = (l.map f).modify i g' := by
  induction l generalizing i with
  | nil => cases i <;> rfl
  | cons x l ih => cases i <;> simp [ih, h]

section
variable {s s' : State B V} {t u : ThreadId} {th w : Thread V} {c : Chance} {a : Activity V}
  {turn : Turn B V} {rest next : List (Activity V)} {x : Action B V} {as : List (Action B V)}
  {k : TaskId}

theorem patient_usesPool (a : Activity V) : (a.patient k).usesPool = a.usesPool := by
  cases a with
  | trySubmit k' p =>
    by_cases hk : k' = k <;> cases p <;>
      simp [Activity.patient, TrySubmitPoint.patient?, hk, Activity.usesPool]
  | _ => rfl

theorem patient_isFree (th : Thread V) : (th.patient k).isFree = th.isFree := by
  cases hs : th.stack with
  | nil => simp [Thread.isFree, Thread.patient, hs]
  | cons a rest =>
    cases a with
    | trySubmit k' p =>
      by_cases hk : k' = k <;> cases p <;>
        simp [Thread.isFree, Thread.patient, hs, Activity.patient, TrySubmitPoint.patient?, hk]
    | task k' w p => cases p <;> simp [Thread.isFree, Thread.patient, hs, Activity.patient]
    | _ => simp [Thread.isFree, Thread.patient, hs, Activity.patient]

theorem patient_thread (ht : s.threads[t]? = some th) :
    (s.patient k).threads[t]? = some (th.patient k) := by
  simp [State.patient, ht]

theorem patient_badge? (s : State B V) (u : ThreadId) : (s.patient k).badge? u = s.badge? u := by
  rw [badge?_eq, badge?_eq, State.patient, List.getElem?_map]
  cases s.threads[u]? <;> rfl

theorem patient_inUse (s : State B V) : (s.patient k).inUse = s.inUse := by
  simp only [State.inUse, State.patient, Thread.patient, List.any_map, Function.comp_def,
    patient_usesPool]

theorem patient_modifyThread (s : State B V) (u : ThreadId) (g g' : Thread V → Thread V)
    (h : ∀ th, (g th).patient k = g' (th.patient k)) :
    (s.modifyThread u g).patient k = (s.patient k).modifyThread u g' := by
  simp only [State.modifyThread, State.patient, map_modify_comm _ _ h]

theorem patient_modifyBadge (s : State B V) (u : ThreadId) (g : Badge → Badge) :
    (s.modifyBadge u g).patient k = (s.patient k).modifyBadge u g :=
  patient_modifyThread s u _ _ fun _ => rfl

theorem patient_spawn (s : State B V) (i : Nat) :
    (s.spawn i).patient k = (s.patient k).spawn i := by
  have hworker : (Thread.worker i s.hooked : Thread V).patient k = .worker i s.hooked := by
    cases s.hooked <;> simp [Thread.patient, Thread.worker, Activity.patient]
  simp only [State.spawn, State.patient, List.map_append, List.map_cons, List.map_nil, hworker,
    List.length_map]

theorem patient_settleTurn (t : ThreadId) (turn : Turn B V) :
    (State.settleTurn t turn).patient k = State.settleTurn t (turn.patient k) := by
  refine patient_modifyThread turn.state t _ _ fun th => ?_
  simp only [Thread.patient, Turn.patient, List.map_append, List.map_tail]

/-! ## What happens in the copy -/

theorem Sweep.patient {p : Clearing} {o : Clearing ⊕ Nat} (hp : Sweep s p s' o) :
    Sweep (s.patient k) p (s'.patient k) o := by
  cases hp with
  | drain => exact .drain
  | wake ks => exact .wake ks
  | dropped n => exact .dropped n
  | drop k' ks n => exact .drop k' ks n
  | count n => exact .count n

theorem patient_join (s : State B V) (t u : ThreadId) :
    (s.patient k).join t u = (s.join t u).map (State.patient k) := by
  simp only [State.join, State.patient, List.getElem?_map]
  split
  · rfl
  · cases s.threads[u]? with
    | none => rfl
    | some w =>
      have hend : (w.patient k).hasEnded = w.hasEnded := by
        simp only [Thread.hasEnded, Thread.patient, List.isEmpty_map]
      have hdied : (w.patient k).died = w.died := rfl
      simp only [Option.map_some, hend, hdied]
      split
      · rfl
      · split <;> rfl

theorem patient_ask {q : Query} {r : Reply V} (hq : s.ask q = some ⟨s, [], some r⟩) :
    (s.patient k).ask q = some ⟨s.patient k, [], some r⟩ := by
  have hcount : (s.patient k).idleCount = s.idleCount := by
    simp only [State.idleCount, patient_badge?]
    rfl
  cases q with
  | size | idle | thread =>
    simp only [State.ask, State.threadName?, patient_badge?, hcount] at hq ⊢
    split at hq
    · cases hq
    · rename_i hlock
      rw [State.patient, if_neg hlock]
      cases hq
      rfl
  | _ => cases hq; rfl

theorem patient_measure {g : Gauge} {m : Metrics} (hg : s.measure m g = some turn) :
    (s.patient k).measure m g = some (turn.patient k) := by
  have hcount : (s.patient k).idleCount = s.idleCount := by
    simp only [State.idleCount, patient_badge?]
    rfl
  cases g with
  | roster =>
    simp only [State.measure, hcount] at hg ⊢
    split at hg
    · cases hg
    · rename_i hlock
      rw [State.patient, if_neg hlock]
      cases hg
      rfl
  | _ => cases hg; rfl

theorem patient_pollJob (s : State B V) (k' : TaskId) :
    (s.patient k).pollJob k' = ((s.pollJob k').1.patient k, (s.pollJob k').2) := by
  simp only [State.pollJob, State.patient]
  split <;> rfl

theorem patient_receive {k' : TaskId} {how : Asking} (hr : s.receive k' how = some turn) :
    (s.patient k).receive k' how = some (turn.patient k) := by
  cases how with
  | once =>
    simp only [State.receive, State.patient] at hr ⊢
    split at hr <;> cases hr
    rfl
  | _ =>
    simp only [State.receive, patient_pollJob] at hr ⊢
    generalize s.pollJob k' = o at hr ⊢
    obtain ⟨s₁, o⟩ := o
    cases o <;> cases hr <;> rfl

theorem patient_pollSlots (s : State B V) (slots : List (Slot V)) :
    (s.patient k).pollSlots slots = (s.pollSlots slots).map fun x => (x.1.patient k, x.2) := by
  induction slots generalizing s with
  | nil => rfl
  | cons slot slots ih =>
    cases slot with
    | got r =>
      simp only [State.pollSlots, ih]
      cases s.pollSlots slots <;> rfl
    | waiting k' =>
      simp only [State.pollSlots, patient_pollJob]
      generalize s.pollJob k' = o
      obtain ⟨s₁, o⟩ := o
      cases o with
      | misuse => rfl
      | _ =>
        simp only [ih]
        cases s₁.pollSlots slots <;> rfl

/-- **What a thread can do next it can do in the patient copy**, but for an offer that
    is refused. -/
theorem Deed.patient (hd : Deed s t th c a turn)
    (hroom : a = .trySubmit k .push → s.backlog.hasRoom = true) :
    Deed (s.patient k) t (th.patient k) c (a.patient k) (turn.patient k) := by
  cases hd with
  -- badges and threads
  | mark hb =>
    rw [Turn.patient, State.markIdle, patient_modifyBadge]
    exact .mark hb
  | unmark hb =>
    rw [Turn.patient, State.markIdle, patient_modifyBadge]
    exact .unmark hb
  | unmarkNone hb =>
    rw [Turn.patient, State.markIdle, patient_modifyBadge]
    exact .unmarkNone hb
  | resizeTell =>
    rw [Turn.patient, State.tell, patient_modifyBadge]
    exact .resizeTell
  | stopTell =>
    rw [Turn.patient, State.tell, patient_modifyBadge]
    exact .stopTell
  | @spawn n i start hz hg =>
    have hnext : ([.resize n (.grow n (i + 1) start)] : List (Activity V)).map
        (Activity.patient k) = [.resize n (.grow n (i + 1) start)] := rfl
    rw [Turn.patient, patient_spawn, hnext]
    exact .spawn hz hg
  | join hj => exact .join (by rw [patient_join, hj]; rfl)
  -- offers
  | @tryCount k' =>
    by_cases hk : k' = k <;> simp only [Activity.patient, TrySubmitPoint.patient?, hk, Turn.patient,
      List.map_cons, List.map_nil, if_true, if_false]
    · exact .submitCount
    · exact .tryCount
  | @tryPush k' hr =>
    by_cases hk : k' = k <;> simp only [Activity.patient, TrySubmitPoint.patient?, hk, Turn.patient,
      List.map_cons, List.map_nil, if_true, if_false]
    · exact .submitPush hr
    · exact .tryPush hr
  | @tryFull k' hr =>
    have hk : k' ≠ k := by
      rintro rfl
      have hlt := hroom rfl
      simp only [Backlog.hasRoom, decide_eq_true_eq] at hlt
      omega
    simp only [Activity.patient, TrySubmitPoint.patient?, hk, Turn.patient, List.map_cons,
      List.map_nil, if_false]
    exact .tryFull hr
  | @tryWake k' =>
    by_cases hk : k' = k <;> simp only [Activity.patient, TrySubmitPoint.patient?, hk, Turn.patient,
      List.map_nil, if_true, if_false]
    · exact .submitWake
    · exact .tryWake
  -- passes
  | clear hp => exact .clear hp.patient
  | clearEnd hp => exact .clearEnd hp.patient
  | purge hp => exact .purge hp.patient
  | purgeEnd hp => exact .purgeEnd hp.patient
  | sweep hp => exact .sweep hp.patient
  | sweepEnd hp => exact .sweepEnd hp.patient
  -- questions and handles
  | ask hq => exact .ask (patient_ask hq)
  | measure hg => exact .measure (patient_measure hg)
  | measured hg => exact .measured (patient_measure hg)
  | receive hr => exact .receive (patient_receive hr)
  | joinedAll hs => exact .joinedAll hs
  | joinMisuse hs hw hp => exact .joinMisuse hs hw (by rw [patient_pollSlots, hp]; rfl)
  | joinAll hs hw hp => exact .joinAll hs hw (by rw [patient_pollSlots, hp]; rfl)
  | @shift b sh now m r hb hm =>
    have hshift : (s.patient k).shift sh now = ({ s.patient k with monitor := m }, r) := by
      have hmonitor : (s.shift sh now).1.monitor = m := by rw [hm]
      have hreport : (s.shift sh now).2 = r := by rw [hm]
      rw [← hmonitor, ← hreport]
      rfl
    have hbadge : (th.patient k).badge = some b := hb
    cases r <;> cases sh <;> exact .shift hbadge hshift
  | _ => constructor <;> assumption

theorem Opening.patient {cl : Call B} (ho : Opening s cl s' next) (hk : k < s.jobs.length) :
    Opening (s.patient k) cl (s'.patient k) next ∧ next.map (Activity.patient k) = next := by
  cases ho with
  | trySubmit =>
    have hne : s.jobs.length ≠ k := (Nat.ne_of_lt hk).symm
    exact ⟨.trySubmit, by simp [Activity.patient, TrySubmitPoint.patient?, hne]⟩
  | drop hu => exact ⟨.drop ((patient_inUse s).trans hu), rfl⟩
  | _ => exact ⟨by constructor <;> assumption, rfl⟩

theorem patient_stack (hs : th.stack = a :: rest) :
    (th.patient k).stack = a.patient k :: rest.map (Activity.patient k) := by
  rw [Thread.patient, hs, List.map_cons]

/-- **Every action is possible in the patient copy**, but for the refusal of an
    offer. -/
theorem Move.patient (hm : Move s x s') (hk : k < s.jobs.length)
    (hroom : (∃ t c, x = .run t c ∧ s.top? t = some (.trySubmit k .push)) →
      s.backlog.hasRoom = true) :
    Move (s.patient k) x (s'.patient k) := by
  cases hm with
  | arrive =>
    have harrive : ({ s with threads := s.threads ++ [.outside] } : State B V).patient k =
        { s.patient k with threads := (s.patient k).threads ++ [.outside] } := by
      simp only [State.patient, List.map_append]
      rfl
    rw [harrive]
    exact .arrive
  | @call t cl th s₁ next ht hf hl ho =>
    obtain ⟨ho', hnext⟩ := ho.patient hk
    rw [patient_modifyThread s₁ t _ (fun th => { th with stack := next ++ th.stack, reply := none })
      fun th => by simp only [Thread.patient, List.map_append, hnext]]
    exact .call (patient_thread ht) ((patient_isFree th).trans hf) hl ho'
  | finish ht hs =>
    rw [patient_settleTurn]
    exact .finish (patient_thread ht) (patient_stack hs)
  | hook ht hs =>
    rw [patient_settleTurn]
    exact .hook (patient_thread ht) (patient_stack hs)
  | @hookPanic t th rest ht hs =>
    rw [patient_modifyThread _ t _ ({ · with died := true }) fun _ => rfl, patient_settleTurn]
    exact .hookPanic (patient_thread ht) (patient_stack hs)
  | @run t c th a rest turn hw ht hs hd =>
    rw [patient_settleTurn]
    refine .run hw (patient_thread ht) (patient_stack hs) (hd.patient fun ha => ?_)
    exact hroom ⟨t, c, rfl, by rw [top?_eq_some_iff.2 ⟨th, rest, ht, hs⟩, ha]⟩
  | expire ht hs hp =>
    rw [patient_settleTurn]
    exact .expire (patient_thread ht) (patient_stack hs) hp
  | rouse hw => exact .rouse hw
  | tick => exact .tick

theorem findsRoom_cons (hm : Move s x s') : s.FindsRoom k (x :: as) ↔
    ((∃ t c, x = .run t c ∧ s.top? t = some (.trySubmit k .push)) → s.backlog.hasRoom = true) ∧
      s'.FindsRoom k as := by
  simp only [State.FindsRoom, step_iff.2 hm, Option.mem_some_iff, forall_eq']

theorem steps_patient (hr : s.Reachable) (hk : k < s.jobs.length) (has : s.steps as = some s')
    (hroom : s.FindsRoom k as) : (s.patient k).steps as = some (s'.patient k) := by
  induction as generalizing s with
  | nil =>
    cases has
    rfl
  | cons x as ih =>
    obtain ⟨s₁, hm, has⟩ := steps_cons.1 has
    obtain ⟨hlook, hroom⟩ := (findsRoom_cons hm).1 hroom
    exact steps_cons.2 ⟨s₁.patient k, hm.patient hk hlook,
      ih (hr.next hm) (hk.trans_le (hm.jobs_length_le hr.ledgered)) has hroom⟩

/-! ## Who is in the middle of an offer -/

/-- One for the offer of task `k`. -/
def Activity.offers (k : TaskId) : Activity V → Nat
  | trySubmit k' _ => if k' = k then 1 else 0
  | _ => 0

theorem Deed.offers_le (hd : Deed s t th c a turn) :
    (turn.next.map (Activity.offers k)).sum ≤ a.offers k := by
  cases hd with
  | @check b => cases b.told <;> exact Nat.le_refl _
  | tryWake | tryDrop => exact Nat.zero_le _
  | _ => exact Nat.le_refl _

/-- A task is offered by nobody before it is there, and by one thread at most. -/
theorem Move.offers_le (hm : Move s x s') (hr : s.Reachable)
    (h : ∀ k, tally (Activity.offers k) s.threads ≤ (decide (k < s.jobs.length)).toNat) :
    tally (Activity.offers k) s'.threads ≤ (decide (k < s'.jobs.length)).toNat := by
  have hmono : (decide (k < s.jobs.length)).toNat ≤ (decide (k < s'.jobs.length)).toNat := by
    have hle := hm.jobs_length_le hr.ledgered
    by_cases hk : k < s.jobs.length
    · simp [hk, hk.trans_le hle]
    · simp [hk]
  have hold := (h k).trans hmono
  cases hm with
  | arrive =>
    rw [tally_append]
    exact hold
  | @call t cl th s₁ next ht _ _ ho =>
    rw [ho.tally ht]
    cases ho with
    | trySubmit =>
      by_cases hk : s.jobs.length = k
      · have hnone := h k
        simp [← hk] at hnone
        simp [← hk, hnone, State.modifyThread, Activity.offers]
      · simpa [Activity.offers, hk] using hold
    | _ => exact hold
  | finish ht hs | hook ht hs | expire ht hs =>
    rw [tally_settleTurn_same ht hs rfl]
    exact hold
  | hookPanic ht hs =>
    refine (le_of_eq ((tally_modify_stack ?_).trans (tally_settleTurn_same ht hs rfl))).trans hold
    exact fun _ => rfl
  | @run t c th a rest turn _ ht hs hd =>
    have htally := hd.tally (f := Activity.offers k) ht hs rfl rfl
    have hle := hd.offers_le (k := k)
    omega
  | rouse | tick => exact hold

theorem State.Reachable.offers_le (hr : s.Reachable) (k : TaskId) :
    tally (Activity.offers k) s.threads ≤ (decide (k < s.jobs.length)).toNat := by
  refine hr.induct (P := fun s => ∀ k, tally (Activity.offers k) s.threads ≤
    (decide (k < s.jobs.length)).toNat) ?_ (fun _ _ _ hr ih hm k => hm.offers_le hr ih) k
  rintro s ⟨name, hooked, capacity, interval, workers, rfl⟩ k
  exact Nat.zero_le _

theorem State.Reachable.offers_eq_zero (hr : s.Reachable) (hk : s.jobs.length ≤ k) :
    tally (Activity.offers k) s.threads = 0 := by
  have hle := hr.offers_le k
  rwa [decide_eq_false (Nat.not_lt.2 hk), Bool.toNat_false, Nat.le_zero] at hle

theorem patient_of_offers (ha : a.offers k = 0) : a.patient k = a := by
  cases a with
  | trySubmit k' p =>
    have hk : k' ≠ k := fun hk => by simp [Activity.offers, hk] at ha
    cases p <;> simp [Activity.patient, TrySubmitPoint.patient?, hk]
  | _ => rfl

/-- A state in which nobody is in the middle of the offer is its own patient copy. -/
theorem patient_eq_self (h : tally (Activity.offers k) s.threads = 0) : s.patient k = s := by
  have hthreads : s.threads.map (Thread.patient k) = s.threads := by
    refine (List.map_congr_left fun th hth => ?_).trans (List.map_id _)
    have hth0 : th.tally (Activity.offers k) = 0 :=
      List.sum_eq_zero_iff_forall_eq_nat.1 h _ (List.mem_map_of_mem hth)
    have hstack : th.stack.map (Activity.patient k) = th.stack := by
      refine (List.map_congr_left fun a ha => patient_of_offers ?_).trans (List.map_id _)
      exact List.sum_eq_zero_iff_forall_eq_nat.1 hth0 _ (List.mem_map_of_mem ha)
    simp only [Thread.patient, hstack, id_eq]
  simp only [State.patient, hthreads]

/-- An offer is on top of the stack of whoever is in the middle of it. -/
theorem State.Reachable.offers_eq_zero_of_top (hr : s.Reachable)
    (h : ∀ u p, s.top? u ≠ some (.trySubmit k p)) : tally (Activity.offers k) s.threads = 0 := by
  by_contra hne
  obtain ⟨u, w, a, hw, ha, hpos⟩ := exists_of_tally_pos (Nat.pos_of_ne_zero hne)
  cases a with
  | trySubmit k' p =>
    obtain ⟨rest, hs⟩ := (hr.shaped.thread u w hw).eq_cons ha id
    obtain rfl : k' = k := by
      by_contra hk
      simp [Activity.offers, hk] at hpos
    exact h u p (top?_eq_some_iff.2 ⟨w, rest, hw, hs⟩)
  | _ => exact absurd hpos (Nat.lt_irrefl 0)

/-- **An offer that finds room is a submission**, whatever others do meanwhile: the
    same run leads to the same state, once the call has returned. -/
theorem State.Reachable.steps_submit {body : B} (hr : s.Reachable)
    (has : s.steps (.call t (.trySubmit body) :: as) = some s')
    (hroom : s.FindsRoom s.jobs.length (.call t (.trySubmit body) :: as))
    (hreturned : ∀ u p, s'.top? u ≠ some (.trySubmit s.jobs.length p)) :
    s.steps (.call t (.submit body) :: as) = some s' := by
  obtain ⟨s₁, hm, hsteps⟩ := steps_cons.1 has
  have hr₁ := hr.next hm
  have hrun := ((findsRoom_cons hm).1 hroom).2
  have hself := patient_eq_self ((hr.run has).offers_eq_zero_of_top hreturned)
  cases hm with
  | @call _ _ th s₂ next ht hf hl ho =>
    cases ho
    -- the two calls begin in states that differ in the name of the call only
    have hbegin := patient_modifyThread (k := s.jobs.length)
      { s with jobs := s.jobs ++ [.ofBody body] } t
      (fun th => { th with stack := [.trySubmit s.jobs.length .count] ++ th.stack, reply := none })
      (fun th => { th with stack := [.submit s.jobs.length .count] ++ th.stack, reply := none })
      (fun th => by simp [Thread.patient, Activity.patient, TrySubmitPoint.patient?])
    have hold : tally (Activity.offers s.jobs.length)
        ({ s with jobs := s.jobs ++ [.ofBody body] } : State B V).threads = 0 :=
      hr.offers_eq_zero (Nat.le_refl _)
    rw [patient_eq_self hold] at hbegin
    have hpatient := steps_patient hr₁ (by simp [State.modifyThread]) hsteps hrun
    rw [hself, hbegin] at hpatient
    exact steps_cons.2 ⟨_, .call ht hf hl .submit, hpatient⟩

end

end WorkerPool
