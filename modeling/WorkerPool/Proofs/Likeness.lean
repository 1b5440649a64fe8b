/-
  Amended runs go through alike states.

  * `Deed.alike`: in alike states the same step can be taken, and it leads to
    alike states; results and counts are passed on and never looked at;
  * `Move.alike`: so it is with every action, and in place of the panic of a
    body its return;
  * `Burst.alike`: a body that bursts in one bursts in the other;
  * `course_alike`: so it is with every run.
-/
import WorkerPool.Proofs.Amendment
import WorkerPool.Proofs.Burst

namespace WorkerPool

variable {B V : Type}

section
variable {v : TaskId → Option V} {s s' s₁ : State B V} {t : ThreadId} {th th' : Thread V}
  {c : Chance} {a a' : Activity V} {turn : Turn B V} {k : TaskId}

/-! ## Passes that clear the backlog -/

theorem Sweep.alike {p : Clearing} {o : Clearing ⊕ Nat} (hp : Sweep s p s₁ o)
    (h : s.Alike v s') : ∃ s₁', Sweep s' p s₁' o ∧ s₁.Alike v s₁' := by
  cases hp with
  | drop k ks n => exact ⟨_, .drop k ks n, h.abandon k⟩
  | drain => cases h with | intro hc hj ht => exact ⟨_, .drain, .intro hc hj ht⟩
  | wake ks => cases h with | intro hc hj ht => exact ⟨_, .wake ks, .intro hc hj ht⟩
  | dropped n => exact ⟨_, .dropped n, h⟩
  | count n =>
    cases h with
    | intro hc hj ht =>
      refine ⟨_, .count n, .intro ?_ hj ht⟩
      cases hc
      exact .intro

/-! ## Questions -/

theorem State.Alike.shift (h : s.Alike v s') {sh : Shift} {now : Int} {m : Idle.Monitor}
    {r : Option Idle.Histogram} (hm : s.shift sh now = ({ s with monitor := m }, r)) :
    s'.shift sh now = ({ s' with monitor := m }, r) := by
  have hmonitor : (s.shift sh now).1.monitor = m := by rw [hm]
  have hreport : (s.shift sh now).2 = r := by rw [hm]
  cases h with
  | intro hc hj ht =>
    rw [← hmonitor, ← hreport]
    rfl

theorem State.Alike.join (h : s.Alike v s') {u : ThreadId} :
    s'.join t u = (s.join t u).map fun s₁ => { s' with log := s₁.log } := by
  have hu := h.thread u
  have hlog : s.log = s'.log := by cases h; rfl
  simp only [State.join]
  split
  · rw [Option.map_some, hlog]
  · generalize s.threads[u]? = o, s'.threads[u]? = o' at hu
    cases hu with
    | none => rw [Option.map_some, hlog]
    | @some w w' hw =>
      have hend := hw.hasEnded
      cases hw with
      | intro hs hr =>
        simp only [hend]
        split
        · rfl
        · split
          · rw [Option.map_some, State.record, State.record, hlog]
          · rw [Option.map_some, hlog]

theorem State.Alike.ask (h : s.Alike v s') {q : Query} {r : Reply V}
    (hq : s.ask q = some ⟨s, [], some r⟩) :
    s'.ask q = some ⟨s', [], some r⟩ ∧ r.isMute = true := by
  have hcount := h.idleCount
  have hbadge := h.badge?
  cases h with
  | intro hc hj ht =>
    cases q with
    | size | idle | thread =>
      simp only [State.ask] at hq ⊢
      split at hq
      · cases hq
      · rename_i hlock
        cases hq
        simp only [if_neg hlock, hcount, State.threadName?, hbadge]
        exact ⟨rfl, rfl⟩
    | _ => cases hq; exact ⟨rfl, rfl⟩

theorem State.Alike.measure (h : s.Alike v s') {g : Gauge} {m m' : Metrics} (hm : m.Alike m')
    (hg : s.measure m g = some turn) :
    ∃ turn', s'.measure m' g = some turn' ∧ turn.Alike v turn' := by
  have hcount := h.idleCount
  have hsame := h
  cases hm
  cases h with
  | intro hc hj ht =>
    cases hc
    cases g with
    | roster =>
      simp only [State.measure] at hg ⊢
      split at hg
      · cases hg
      · rename_i hlock
        cases hg
        rw [if_neg hlock, hcount]
        exact ⟨_, rfl, hsame, .cons (.measure .intro) .nil, .none⟩
    | submitted =>
      cases hg
      exact ⟨_, rfl, hsame, .nil, .some (.metrics .intro)⟩
    | _ =>
      cases hg
      exact ⟨_, rfl, hsame, .cons (.measure .intro) .nil, .none⟩

/-! ## Handles -/

theorem State.Alike.pollJob (h : s.Alike v s') (k : TaskId) :
    (s.pollJob k).1.Alike v (s'.pollJob k).1 ∧
      (s'.pollJob k).2 = (s.pollJob k).2.map (amendResult v k) := by
  simp only [State.pollJob, h.job]
  cases s.jobs[k]? with
  | none => exact ⟨h, rfl⟩
  | some job =>
    have hpoll := job.promise.poll_map (f := amendResult v k) (.error .discarded)
    simp only [Option.map_some, Job.amend]
    rw [show (.error .discarded : TaskResult V) = amendResult v k (.error .discarded) from rfl,
      hpoll]
    exact ⟨h.setPromise k _, rfl⟩

theorem State.Alike.receive (h : s.Alike v s') {how : Asking} (hr : s.receive k how = some turn) :
    ∃ turn', s'.receive k how = some turn' ∧ turn.Alike v turn' := by
  obtain ⟨hstate, hanswer⟩ := h.pollJob k
  cases how with
  | once =>
    simp only [State.receive, h.job] at hr ⊢
    cases hj : s.jobs[k]? with
    | none => rw [hj] at hr; cases hr
    | some job =>
      rw [hj] at hr
      cases hr
      have htake := job.promise.tryTake_map (f := amendResult v k) (.error .discarded)
      rw [show amendResult v k (.error .discarded) = .error .discarded from rfl] at htake
      simp only [Option.map_some, Job.amend, htake]
      refine ⟨_, rfl, h.setPromise k _, .nil, .some ?_⟩
      cases (job.promise.tryTake (.error .discarded)).2 with
      | none => exact .mute rfl
      | some r => exact .result
  | _ =>
    simp only [State.receive] at hr ⊢
    generalize s.pollJob k = q, s'.pollJob k = q' at hstate hanswer hr
    obtain ⟨s₁, o⟩ := q
    obtain ⟨s₁', o'⟩ := q'
    obtain rfl : o' = _ := hanswer
    cases o with
    | pending => cases hr <;> exact ⟨_, rfl, .mute hstate rfl rfl⟩
    | ready r => cases hr; exact ⟨_, rfl, hstate, .nil, .some .result⟩
    | misuse => cases hr; exact ⟨_, rfl, .mute hstate rfl rfl⟩

/-- What polling some handles comes to, alike in both. -/
abbrev PolledAlike (v : TaskId → Option V) (p p' : State B V × List (Slot V)) : Prop :=
  p.1.Alike v p'.1 ∧ List.Forall₂ (Slot.Alike v) p.2 p'.2

theorem State.Alike.pollSlots {slots slots' : List (Slot V)} (h : s.Alike v s')
    (hs : List.Forall₂ (Slot.Alike v) slots slots') :
    Option.Rel (PolledAlike v) (s.pollSlots slots) (s'.pollSlots slots') := by
  -- a slot that is put before what becomes of the others
  have onto {slot slot' : Slot V} {o o' : Option (State B V × List (Slot V))}
      (hslot : slot.Alike v slot') (ho : Option.Rel (PolledAlike v) o o') :
      Option.Rel (PolledAlike v) (o >>= fun p => pure (p.1, slot :: p.2))
        (o' >>= fun p => pure (p.1, slot' :: p.2)) := by
    cases ho with
    | none => exact .none
    | some hp => exact .some ⟨hp.1, .cons hslot hp.2⟩
  induction hs generalizing s s' with
  | nil => exact .some ⟨h, .nil⟩
  | cons hslot _ ih =>
    cases hslot with
    | got => exact onto .got (ih h)
    | @waiting k =>
      obtain ⟨hstate, hanswer⟩ := h.pollJob k
      simp only [State.pollSlots]
      generalize s.pollJob k = q, s'.pollJob k = q' at hstate hanswer
      obtain ⟨s₁, o⟩ := q
      obtain ⟨s₁', o'⟩ := q'
      obtain rfl : o' = _ := hanswer
      cases o with
      | pending => exact onto .waiting (ih hstate)
      | ready r => exact onto .got (ih hstate)
      | misuse => exact .none

theorem mapM_result?_alike {slots slots' : List (Slot V)}
    (hs : List.Forall₂ (Slot.Alike v) slots slots') :
    Option.Rel (List.Forall₂ fun r r' => ∃ k, r' = amendResult v k r)
      (slots.mapM Slot.result?) (slots'.mapM Slot.result?) := by
  induction hs with
  | nil => exact .some .nil
  | @cons slot slot' slots slots' hslot _ ih =>
    rw [List.mapM_cons, List.mapM_cons]
    cases hslot with
    | waiting => exact .none
    | @got k r =>
      generalize slots.mapM Slot.result? = o, slots'.mapM Slot.result? = o' at ih
      cases ih with
      | none => exact .none
      | some h => exact .some (.cons ⟨k, rfl⟩ h)

theorem State.Alike.joinAll {slots slots' : List (Slot V)} (h : s.Alike v s')
    (hs : List.Forall₂ (Slot.Alike v) slots slots') (hj : s.joinAll slots = some turn) :
    ∃ turn', s'.joinAll slots' = some turn' ∧ turn.Alike v turn' := by
  have hall : slots'.all s'.stillWaits = slots.all s.stillWaits :=
    all_of_forall₂ (fun slot slot' hslot => by
      cases hslot with
      | waiting => exact h.isPending _
      | got => rfl) hs
  have hpoll := h.pollSlots hs
  have hgot := mapM_result?_alike hs
  simp only [State.joinAll] at hj ⊢
  rw [hall]
  generalize slots.mapM Slot.result? = rs, slots'.mapM Slot.result? = rs' at hgot hj ⊢
  cases hgot with
  | some hrs => cases hj; exact ⟨_, rfl, h, .nil, .some (.results hrs)⟩
  | none =>
    simp only at hj ⊢
    split at hj
    · cases hj
    · rename_i hwaits
      rw [if_neg hwaits]
      generalize s.pollSlots slots = o, s'.pollSlots slots' = o' at hpoll hj ⊢
      cases hpoll with
      | none => cases hj; exact ⟨_, rfl, .mute h rfl rfl⟩
      | some hp => cases hj; exact ⟨_, rfl, hp.1, .cons (.joinAll hp.2) .nil, .none⟩

/-! ## Steps -/

/-- The end of a body is counted, in each run as what it is there. -/
theorem Deed.alike_tally {w : Nat} {o : Outcome V} (hd : Deed s t th c (.task k w (.tally o)) turn)
    (h : s.Alike v s') :
    ∃ turn', Deed s' t th' c (.task k w (.tally (o.amend v k))) turn' ∧ turn.Alike v turn' := by
  have hnext : List.Forall₂ (Activity.Alike v) [.task k w (.settle o.result)]
      [.task k w (.settle (o.amend v k).result)] :=
    .cons (o.result_amend ▸ .settle) .nil
  cases h with
  | intro hc hj ht =>
    cases hc
    cases hd with
    | tallyReturned => exact ⟨_, .tallyReturned, .intro .intro hj ht, hnext, .none⟩
    | @tallyPanicked _ _ p =>
      cases hv : v k with
      | none =>
        have heq : (Outcome.panicked p).amend v k = .panicked p := by simp [Outcome.amend, hv]
        rw [heq] at hnext ⊢
        exact ⟨_, .tallyPanicked, .intro .intro hj ht, hnext, .none⟩
      | some x =>
        have heq : (Outcome.panicked p).amend v k = .returned x := by simp [Outcome.amend, hv]
        rw [heq] at hnext ⊢
        exact ⟨_, .tallyReturned, .intro .intro hj ht, hnext, .none⟩

/-- A step from a point at which neither a result nor a snapshot is carried. -/
theorem Deed.alike_mute (hd : Deed s t th c a turn) (h : s.Alike v s') (hth : th.Alike v th')
    (ha : a.isMute = true) : ∃ turn', Deed s' t th' c a turn' ∧ turn.Alike v turn' := by
  have hsame := h
  have hbadge : th'.badge = th.badge := by cases hth; rfl
  cases h with
  | intro hc hj ht =>
  cases hth with
  | intro hs hr =>
  cases hd with
  | fetch | fetchNone | fetched | check | clock | report | await | awaitStop | awaitSleep | awaited
  | leave | leaveLast | inline | submitPush | submitSleep | submitWake | tryPush | tryFull | tryWake
  | tryRefuse | pop | popNone | popWake | capacityWarn | capacitySet | capacityWake | resizeStopped
  | resizeShrink | resizeOverflow | resizeGrow | spawnNul | spawnRefused | resizeTold | resizeWake
  | resizeClose | gracefulAgain | graceful | forcedAgain | forced | stopTold | stopWake | disband
  | joined | inspectNone | inspectLeft | stopClose | reserveOverflow | reserve =>
    exact ⟨_, by constructor <;> assumption, .mute (.intro hc hj ht) rfl rfl⟩
  | @shift _ _ _ _ r hb hm =>
    cases r <;>
      exact ⟨_, .shift (hbadge.trans hb) (hsame.shift hm), .mute (.intro hc hj ht) rfl rfl⟩
  -- the replies of the one who builds the pool carry no result
  | buildRefused hrefused =>
    exact ⟨_, .buildRefused ((reply_eq_iff hr rfl).2 hrefused), .mute (.intro hc hj ht) rfl rfl⟩
  | buildPanicked hpanicked =>
    exact ⟨_, .buildPanicked ((reply_eq_iff hr rfl).2 hpanicked), .mute (.intro hc hj ht) rfl rfl⟩
  | build hrefused hpanicked =>
    exact ⟨_, .build (fun i => mt (reply_eq_iff hr rfl).1 (hrefused i))
      fun p => mt (reply_eq_iff hr rfl).1 (hpanicked p), .mute (.intro hc hj ht) rfl rfl⟩
  | teardown | teardownLast =>
    refine ⟨_, by constructor; assumption, .mute (.intro hc hj ht) ?_ rfl⟩
    simpa [Activity.isMute] using ha
  | discarded => exact ⟨_, .discarded, .mute hsame rfl ha⟩
  | discard =>
    refine ⟨_, .discard, .mute (hsame.abandon _) ?_ rfl⟩
    simpa [Activity.isMute] using ha
  | tryDrop => exact ⟨_, .tryDrop, .mute (hsame.abandon _) rfl rfl⟩
  -- badges and threads
  | mark | unmark | unmarkNone | resizeTell | stopTell =>
    exact ⟨_, by constructor <;> assumption, .mute (hsame.modifyBadge _ _) rfl rfl⟩
  | spawn hz hg => exact ⟨_, .spawn hz hg, .mute (hsame.spawn _) rfl rfl⟩
  | join hlog =>
    refine ⟨_, .join (hsame.join.trans ?_), .mute (.intro hc hj ht) rfl rfl⟩
    rw [hlog]
    rfl
  -- counters
  | submitCount | tryCount | tryUncount =>
    cases hc
    exact ⟨_, by constructor, .mute (.intro .intro hj ht) rfl rfl⟩
  | skip =>
    cases hc
    exact ⟨_, .skip, .intro .intro hj ht, .cons .settle .nil, .none⟩
  -- passes
  | clear hp | clearEnd hp | purge hp | purgeEnd hp | sweep hp | sweepEnd hp =>
    obtain ⟨_, hp', h₁⟩ := hp.alike hsame
    exact ⟨_, by constructor <;> assumption, .mute h₁ rfl rfl⟩
  -- handles and questions
  | @inspect k w job hjob =>
    have hjob' := (hsame.job k).trans (congrArg _ hjob)
    refine ⟨_, .inspect hjob', .mute hsame ?_ rfl⟩
    cases hcancelled : job.cancelled <;> rfl
  | ask hq =>
    obtain ⟨hq', hmute⟩ := hsame.ask hq
    exact ⟨_, .ask hq', .mute hsame rfl hmute⟩
  | cancel => exact ⟨_, .cancel, .mute (hsame.cancel _) rfl rfl⟩
  | @isCancelled k =>
    refine ⟨_, .isCancelled, ?_⟩
    rw [hsame.isCancelled]
    exact .mute hsame rfl rfl
  | receive hreceive =>
    obtain ⟨turn', hreceive', halike⟩ := hsame.receive hreceive
    exact ⟨turn', .of_receive hreceive', halike⟩
  | tallyReturned | tallyPanicked | settle | measure | measured | joinedAll | joinMisuse
  | joinAll => cases ha

/-- **In alike states the same step can be taken**, and it leads to alike
    states. -/
theorem Deed.alike (hd : Deed s t th c a turn) (h : s.Alike v s') (hth : th.Alike v th')
    (ha : a.Alike v a') : ∃ turn', Deed s' t th' c a' turn' ∧ turn.Alike v turn' := by
  cases ha with
  | mute ha => exact hd.alike_mute h hth ha
  | tally => exact hd.alike_tally h
  | settle =>
    cases hd
    exact ⟨_, .settle, h.settle _ _, .nil, .none⟩
  | measure hm =>
    obtain ⟨turn', hturn', halike⟩ := h.measure hm hd.act
    exact ⟨turn', .of_measure hturn', halike⟩
  | joinAll hs =>
    obtain ⟨turn', hturn', halike⟩ := h.joinAll hs hd.act
    exact ⟨turn', .of_joinAll hturn', halike⟩

/-! ## Calls -/

theorem Opening.alike {cl : Call B} {next : List (Activity V)} (ho : Opening s cl s₁ next)
    (h : s.Alike v s') :
    ∃ s₁', Opening s' cl s₁' next ∧ s₁.Alike v s₁' ∧ List.Forall₂ (Activity.Alike v) next next := by
  have hsame := h
  have hlen := h.jobs_length
  have huse := h.inUse
  cases h with
  | intro hc hj ht =>
  cases ho with
  | submit | trySubmit =>
    rw [← hlen]
    exact ⟨_, by constructor, hsame.submit _, alike_of_isMute rfl⟩
  | pop | clear | resize | stop | ask | setCapacity =>
    exact ⟨_, by constructor, hsame, alike_of_isMute rfl⟩
  | drop hu => exact ⟨_, .drop (huse.trans hu), .intro hc hj ht, alike_of_isMute rfl⟩
  | metrics => exact ⟨_, .metrics, hsame, .cons (.measure .intro) .nil⟩
  | cancel hk => exact ⟨_, .cancel (hlen ▸ hk), hsame, alike_of_isMute rfl⟩
  | isCancelled hk => exact ⟨_, .isCancelled (hlen ▸ hk), hsame, alike_of_isMute rfl⟩
  | receive hk => exact ⟨_, .receive (hlen ▸ hk), hsame, alike_of_isMute rfl⟩
  | joinAll hk =>
    refine ⟨_, .joinAll (hlen ▸ hk), hsame, .cons (.joinAll ?_) .nil⟩
    exact List.forall₂_map_left_iff.2 (List.forall₂_map_right_iff.2 (List.forall₂_same.2
      fun k _ => .waiting))
  | runTaken hk => exact ⟨_, .runTaken hk, .intro hc hj ht, alike_of_isMute rfl⟩
  | dropTaken hk => exact ⟨_, .dropTaken hk, .intro hc hj ht, alike_of_isMute rfl⟩

/-! ## Actions -/

theorem amend_finish {o : Outcome V} {w : Nat} (ht : s.top? t = some (.task k w .body)) :
    s.amend v (.finish t o) = .finish t (o.amend v k) := by
  simp only [State.amend, ht]

/-- **In alike states the same action is possible**, and it leads to alike
    states, where in place of a panic the body returns. -/
theorem Move.alike {x : Action B V} (hm : Move s x s₁) (h : s.Alike v s') :
    ∃ s₁', Move s' (s.amend v x) s₁' ∧ s₁.Alike v s₁' := by
  have hbacklog : s'.backlog = s.backlog := by cases h; rfl
  have hlife : s'.life = s.life := by cases h; rfl
  -- whoever stands at a point that carries nothing stands there in both
  have stands {u : ThreadId} {w : Thread V} {b : Activity V} {rest : List (Activity V)}
      (hw : s.threads[u]? = some w) (hs : w.stack = b :: rest) (hb : b.isMute = true) :
      ∃ w' rest', s'.threads[u]? = some w' ∧ w'.stack = b :: rest' := by
    obtain ⟨w', hw', hlike⟩ := h.exists_thread hw
    obtain ⟨b', rest', hs', hb'⟩ := hlike.exists_cons hs
    cases hb'.eq hb
    exact ⟨w', rest', hw', hs'⟩
  cases hm with
  | arrive => exact ⟨_, .arrive, h.arrive⟩
  | tick => cases h with | intro hc hj ht => exact ⟨_, .tick, .intro hc hj ht⟩
  | rouse hw =>
    rw [← hbacklog] at hw
    cases h with
    | intro hc hj ht => exact ⟨_, .rouse hw, .intro hc hj ht⟩
  | call ht hf hl ho =>
    obtain ⟨th', ht', hth⟩ := h.exists_thread ht
    obtain ⟨s₂, ho', h₂, hnext⟩ := ho.alike h
    refine ⟨_, .call ht' (hth.isFree.trans hf) (fun hu => hlife.trans (hl hu)) ho',
      h₂.modifyThread (fun w w' hw => ?_) _⟩
    cases hw with
    | intro hs hr => exact .intro (List.rel_append hnext hs) .none
  | finish ht hs =>
    obtain ⟨th', rest', ht', hs'⟩ := stands ht hs rfl
    rw [amend_finish (top?_eq_some_iff.2 ⟨_, _, ht, hs⟩)]
    exact ⟨_, .finish ht' hs', Turn.Alike.settleTurn ⟨h, .cons .tally .nil, .none⟩ _⟩
  | hook ht hs =>
    obtain ⟨th', rest', ht', hs'⟩ := stands ht hs rfl
    exact ⟨_, .hook ht' hs', Turn.Alike.settleTurn (.mute h rfl rfl) _⟩
  | hookPanic ht hs =>
    obtain ⟨th', rest', ht', hs'⟩ := stands ht hs rfl
    refine ⟨_, .hookPanic ht' hs', State.Alike.modifyThread
      (Turn.Alike.settleTurn (.mute h rfl rfl) _) (fun w w' hw => ?_) _⟩
    cases hw with
    | intro hs hr => exact .intro hs hr
  | run hw ht hs hd =>
    obtain ⟨th', ht', hth⟩ := h.exists_thread ht
    obtain ⟨a', rest', hs', ha⟩ := hth.exists_cons hs
    obtain ⟨turn', hd', hturn⟩ := hd.alike h hth ha
    exact ⟨_, .run (hbacklog ▸ hw) ht' hs' hd', hturn.settleTurn _⟩
  | @expire _ _ k _ ht hs hp =>
    obtain ⟨th', rest', ht', hs'⟩ := stands ht hs rfl
    exact ⟨_, .expire ht' hs' ((h.isPending _).trans hp),
      Turn.Alike.settleTurn ⟨h, .nil, .some (.result (k := k))⟩ _⟩

/-! ## Bursts -/

/-- Activities that begin with one that carries nothing begin with it in both. -/
theorem mute_cons_alike {l l' : List (Activity V)} (ha : a.isMute = true)
    (h : List.Forall₂ (Activity.Alike v) (a :: l) l') :
    ∃ rest, l' = a :: rest ∧ List.Forall₂ (Activity.Alike v) l rest := by
  cases h with
  | cons hhead hrest =>
    cases hhead.eq ha
    exact ⟨_, rfl, hrest⟩

theorem Thread.Bursts.alike {message : String} {w : Thread V} (hb : th.Bursts message k w)
    (h : th.Alike v th') : ∃ w', th'.Bursts message k w' ∧ w.Alike v w' := by
  cases h with
  | intro hlike hr =>
  cases hb with
  | worker hs =>
    rw [hs] at hlike
    obtain ⟨_, rfl, htail⟩ := mute_cons_alike rfl hlike
    obtain ⟨rest, rfl, hrest⟩ := mute_cons_alike rfl htail
    exact ⟨_, .worker rfl, .intro (.cons (.mute rfl) hrest) hr⟩
  | inline hs =>
    rw [hs] at hlike
    obtain ⟨_, rfl, htail⟩ := mute_cons_alike rfl hlike
    obtain ⟨rest, rfl, hrest⟩ := mute_cons_alike rfl htail
    exact ⟨_, .inline rfl, .intro hrest (.some (.mute rfl))⟩

theorem Burst.alike {message : String} (hb : Burst s t message k s₁) (h : s.Alike v s') :
    ∃ s₁', Burst s' t message k s₁' ∧ s₁.Alike v s₁' := by
  cases hb with
  | intro ht hb =>
    obtain ⟨th', ht', hth⟩ := h.exists_thread ht
    obtain ⟨w', hb', hw⟩ := hb.alike hth
    exact ⟨_, .intro ht' hb', (h.abandon k).modifyThread (fun _ _ _ => hw) t⟩

/-! ## Runs -/

/-- In alike states the same incident is possible, and it leads to alike states. -/
theorem Meets.alike {i : Incident B V} (hm : Meets s i s₁) (h : s.Alike v s') :
    ∃ s₁', Meets s' (i.map (s.amend v)) s₁' ∧ s₁.Alike v s₁' := by
  cases hm with
  | action hm =>
    obtain ⟨s₁', hm', h₁⟩ := hm.alike h
    exact ⟨s₁', .action hm', h₁⟩
  | burst hb =>
    obtain ⟨s₁', hb', h₁⟩ := hb.alike h
    exact ⟨s₁', .burst hb', h₁⟩

theorem amended_cons {i : Incident B V} {is : List (Incident B V)} (hm : Meets s i s₁) :
    s.amended v (i :: is) = i.map (s.amend v) :: s₁.amended v is := by
  simp only [State.amended, meet_iff.2 hm]

theorem amended_append {is js : List (Incident B V)} (his : s.course is = some s₁) :
    s.amended v (is ++ js) = s.amended v is ++ s₁.amended v js := by
  induction is generalizing s with
  | nil => cases his; rfl
  | cons i is ih =>
    obtain ⟨s₂, hm, his⟩ := course_cons.1 his
    rw [List.cons_append, amended_cons hm, amended_cons hm, ih his, List.cons_append]

/-- **The amended run is possible, and it leads to an alike state.** -/
theorem course_alike {is : List (Incident B V)} (h : s.Alike v s')
    (his : s.course is = some s₁) :
    ∃ s₁', s'.course (s.amended v is) = some s₁' ∧ s₁.Alike v s₁' := by
  induction is generalizing s s' with
  | nil => cases his; exact ⟨s', rfl, h⟩
  | cons i is ih =>
    obtain ⟨s₂, hm, his⟩ := course_cons.1 his
    obtain ⟨s₂', hm', h₂⟩ := hm.alike h
    obtain ⟨s₁', his', h₁⟩ := ih h₂ his
    rw [amended_cons hm]
    exact ⟨s₁', course_cons.2 ⟨s₂', hm', his'⟩, h₁⟩

end

end WorkerPool
