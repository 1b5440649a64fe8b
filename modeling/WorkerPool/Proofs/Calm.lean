/-
  Calm runs: bodies end and call nothing, start hooks return, and threads from
  outside submit tasks, ask, and set the capacity.

  * `State.Allows` says which actions belong to such a run;
  * `Thread.Tranquil`: a worker is in its loop, not on its way out, or in a task,
    and a thread from outside makes one call at most;
  * `Founder` says how far the one who builds the pool has come;
  * `State.Calm`: until the pool is dropped, nobody stops it, nobody is told to
    leave, and once it stands it has the workers that were asked for;
    `Move.calm`: what a calm run allows keeps it so.
-/
import WorkerPool.Proofs.Accounts
import WorkerPool.Proofs.Duty

namespace WorkerPool

variable {B V : Type}

/-! ## What is allowed -/

/-- Whether a call leaves the tasks and the workers of the pool alone, but for a
    submission that waits for room. -/
def Call.isPlain : Call B → Bool
  | submit _ | setCapacity _ | ask _ | metrics | isCancelled _ | receive .. | joinAll _ => true
  | _ => false

/-- Whether an activity is a call of that kind which has been begun. -/
def Activity.isPlain : Activity V → Bool
  | submit .. | setCapacity .. | ask _ | measure .. | isCancelled _ | receive .. | joinAll _ => true
  | _ => false

/-- The body that a thread is in. -/
def State.body? (s : State B V) (t : ThreadId) : Option B :=
  match s.top? t with
  | some (.task k _ .body) => s.jobs[k]?.map Job.body
  | _ => none

/-- The actions of a calm run, in which bodies end as `f` says: threads from
    outside make plain calls, bodies make none, and no start hook panics. -/
def State.Allows (f : B → Outcome V) (s : State B V) : Action B V → Prop
  | .call t c => (s.top? t).isNone = true ∧ c.isPlain = true
  | .finish t o => ∀ b ∈ s.body? t, o = f b
  | .hook _ panics => panics = false
  | _ => True

/-- Whether an action belongs to a calm run can be computed. -/
instance State.decideAllows [DecidableEq V] (f : B → Outcome V) (s : State B V) :
    ∀ x, Decidable (s.Allows f x)
  | .call .. => inferInstanceAs (Decidable (_ ∧ _))
  | .finish t o => inferInstanceAs (Decidable (∀ b ∈ s.body? t, o = f b))
  | .hook _ panics => inferInstanceAs (Decidable (panics = false))
  | .arrive | .run .. | .expire _ | .rouse _ | .tick _ => isTrue trivial

/-! ## Tranquil threads -/

/-- What a thread of a calm run can be in the middle of. -/
inductive Thread.Tranquil (th : Thread V) : Prop where
  | idle (hb : th.badge = none) (hs : th.stack = [])
  | calling {a} (hb : th.badge = none) (hs : th.stack = [a]) (ha : a.isPlain = true)
  | looping {p} (hb : th.badge.isSome = true) (hs : th.stack = [.work p]) (hp : ¬ p.Leaves)
  | running {k i p} (hb : th.badge.isSome = true) (hs : th.stack = [.task k i p, .work .check])

section
variable {s s' : State B V} {t u : ThreadId} {th w w' : Thread V} {c : Chance} {a : Activity V}
  {turn : Turn B V} {rest : List (Activity V)} {f : B → Outcome V} {x : Action B V}

theorem Thread.Tranquil.same (h : w.Tranquil) (hs : w.Same w') : w'.Tranquil := by
  have hbadge : w.badge = none → w'.badge = none := fun hb => by
    rw [← Option.isNone_iff_eq_none, ← Option.not_isSome, hs.worker, hb]
    rfl
  cases h with
  | idle hb hst => exact .idle (hbadge hb) (hs.stack.trans hst)
  | calling hb hst ha => exact .calling (hbadge hb) (hs.stack.trans hst) ha
  | looping hb hst hp => exact .looping (hs.worker.trans hb) (hs.stack.trans hst) hp
  | running hb hst => exact .running (hs.worker.trans hb) (hs.stack.trans hst)

/-- A plain call goes on as one. -/
theorem Deed.plain_next (hd : Deed s t th c a turn) (ha : a.isPlain = true) :
    turn.next = [] ∨ ∃ b, turn.next = [b] ∧ b.isPlain = true := by
  cases hd with
  | submitWake | capacityWake | ask | measured | isCancelled | receive | joinedAll | joinMisuse =>
    exact .inl rfl
  | submitCount | submitPush | submitSleep | capacityWarn | capacitySet | measure | joinAll =>
    exact .inr ⟨_, rfl, rfl⟩
  | _ => cases ha

/-- A worker that nobody sends away goes on in its loop, or runs a task. -/
theorem Deed.work_next {p : WorkPoint} (hd : Deed s t th c (.work p) turn) (hp : ¬ p.Leaves)
    (hdone : s.done = false) (htold : ∀ b, th.badge = some b → b.told = false) :
    (∃ q, turn.next = [.work q] ∧ ¬ q.Leaves) ∨
      ∃ k i, turn.next = [.task k i .inspect, .work .check] := by
  have hstay := hd.stays hp
  cases hd with
  | fetched | unmark => exact .inr ⟨_, _, rfl⟩
  | leave | leaveLast => exact absurd trivial hp
  | unmarkNone => exact absurd rfl hp
  | _ =>
    refine .inl ⟨_, rfl, ?_⟩
    rcases hstay with ⟨q, hq, hleaves⟩ | ⟨b, hb, ht⟩ | ⟨hd, -⟩
    · cases List.mem_singleton.1 hq
      exact hleaves
    · rw [htold b hb] at ht
      cases ht
    · rw [hdone] at hd
      cases hd

theorem Deed.tranquil (hd : Deed s t th c a turn) (h : th.Tranquil) (hs : th.stack = a :: rest)
    (hdone : s.done = false) (htold : ∀ b, th.badge = some b → b.told = false)
    (hw : w.stack = turn.next ++ rest) (hb : w.badge.isSome = th.badge.isSome) : w.Tranquil := by
  cases h with
  | idle _ hst => rw [hst] at hs; cases hs
  | calling hbadge hst ha =>
    cases hst.symm.trans hs
    have hnone : w.badge = none := by
      rw [← Option.isNone_iff_eq_none, ← Option.not_isSome, hb, hbadge]
      rfl
    rcases hd.plain_next ha with hn | ⟨b, hn, hplain⟩ <;> rw [hn] at hw
    exacts [.idle hnone hw, .calling hnone hw hplain]
  | looping hbadge hst hp =>
    cases hst.symm.trans hs
    rcases hd.work_next hp hdone htold with ⟨q, hn, hleaves⟩ | ⟨k, i, hn⟩ <;> rw [hn] at hw
    exacts [.looping (hb.trans hbadge) hw hleaves, .running (hb.trans hbadge) hw]
  | running hbadge hst =>
    cases hst.symm.trans hs
    rcases (Follows.run hd).task with hn | ⟨q, hn⟩ <;> rw [hn] at hw
    exacts [.looping (hb.trans hbadge) hw id, .running (hb.trans hbadge) hw]

/-- A thread that takes no part in an action stays tranquil, and a new one is. -/
theorem Move.tranquil_other (hm : Move s x s') (hu : x.actor? ≠ some u)
    (hw' : s'.threads[u]? = some w') (h : ∀ w, s.threads[u]? = some w → w.Tranquil) :
    w'.Tranquil := by
  cases ho : s.threads[u]? with
  | some w =>
    obtain ⟨w₁, hw₁, hsame⟩ := hm.same hu ho
    cases hw'.symm.trans hw₁
    exact (h w ho).same hsame
  | none =>
    have hn := hm.thread hw'
    rw [ho] at hn
    cases hn with
    | outside => exact .idle rfl rfl
    | worker i =>
      refine .looping rfl rfl ?_
      split <;> exact id

theorem Opening.plain {cl : Call B} {s₁ : State B V} {next : List (Activity V)}
    (ho : Opening s cl s₁ next) (hc : cl.isPlain = true) :
    ∃ a, next = [a] ∧ a.isPlain = true := by
  cases ho with
  | submit | setCapacity | ask | metrics | isCancelled | receive | joinAll =>
    exact ⟨_, rfl, rfl⟩
  | _ => cases hc

/-- A tranquil thread stays so in what a calm run allows. -/
theorem Move.tranquil_self (hm : Move s x s') (hx : s.Allows f x) (hdone : s.done = false)
    (htold : ∀ u, ¬ s.IsTold u) (hu : x.actor? = some u) (hw : s.threads[u]? = some w)
    (h : w.Tranquil) (hw' : s'.threads[u]? = some w') : w'.Tranquil := by
  cases hm with
  | arrive | rouse | tick => cases hu
  | call ht hf hl ho =>
    cases hu
    cases hw.symm.trans ht
    obtain ⟨a, rfl, ha⟩ := ho.plain hx.2
    cases hw'.symm.trans (getElem?_modifyThread_self (ho.threads ▸ ht))
    cases h with
    | idle hb hs => exact .calling hb (by simp [hs]) ha
    | calling _ hs | looping _ hs | running _ hs =>
      have htop := hx.1
      rw [top?_eq_some_iff.2 ⟨w, _, hw, hs⟩] at htop
      cases htop
  | finish ht hs =>
    cases hu
    cases hw.symm.trans ht
    cases hw'.symm.trans (getElem?_modifyThread_self ht)
    cases h with
    | idle _ hst | looping _ hst => cases hst.symm.trans hs
    | calling _ hst ha => cases hst.symm.trans hs; cases ha
    | running hb hst =>
      cases hst.symm.trans hs
      exact .running hb (congrArg (_ :: ·) (congrArg List.tail hst))
  | hook ht hs =>
    cases hu
    cases hw.symm.trans ht
    cases hw'.symm.trans (getElem?_modifyThread_self ht)
    cases h with
    | idle _ hst | running _ hst => cases hst.symm.trans hs
    | calling _ hst ha => cases hst.symm.trans hs; cases ha
    | looping hb hst =>
      refine .looping hb (p := .fetch) ?_ id
      cases hst.symm.trans hs
      simp [hst]
  | hookPanic => cases hx
  | run _ ht hs hd =>
    cases hu
    cases hw.symm.trans ht
    obtain ⟨w₁, hw₁, hsame⟩ := hd.same ht
    cases hw'.symm.trans (getElem?_modifyThread_self hw₁)
    refine hd.tranquil h hs hdone (fun b hb => ?_) (by simp [hsame.stack, hs]) hsame.worker
    by_contra hne
    exact htold u ⟨b, by rw [badge?_eq, hw, Option.bind_some, hb], by simpa using hne⟩
  | expire ht hs =>
    cases hu
    cases hw.symm.trans ht
    cases hw'.symm.trans (getElem?_modifyThread_self ht)
    cases h with
    | idle _ hst | looping _ hst | running _ hst => cases hst.symm.trans hs
    | calling hb hst => cases hst.symm.trans hs; exact .idle hb (by simp [hst])

end

/-! ## The founder -/

/-- How far the one who builds a pool with `n` workers has come: how many there
    are, what the latest call has replied, and what it is in the middle of. -/
inductive Founder (n : Nat) : Nat → Option (Reply V) → List (Activity V) → Prop where
  | reserve {r} : Founder n 0 r [.reserve n]
  | enter {r} : Founder n 0 r [.resize n .enter, .build n]
  | spawn {i r} (hi : i < n) : Founder n i r [.resize n (.spawn i 0), .build n]
  | close {r} : Founder n n r [.resize n (.close 0), .build n]
  | built : Founder n n (some .done) [.build n]
  | refused {m i} : Founder n m (some (.refused i)) [.build n]
  | panicked {m p} : Founder n m (some (.panicked p)) [.build n]

/-- A pool with `n` workers, built or being built, that nobody has stopped and
    from which nobody is sent away. -/
structure State.Calm (n : Nat) (s : State B V) : Prop where
  unstopped : s.isStopped = false
  untold : ∀ u, ¬ s.IsTold u
  others : ∀ (t : ThreadId) (th : Thread V), s.threads[t]? = some th →
    t ≠ 0 ∨ s.life = .serving → th.Tranquil
  founder : s.life = .building → ∃ th, s.threads[0]? = some th ∧ th.badge = none ∧
    Founder n s.size th.reply th.stack
  crew : s.life = .serving → s.size = n

section
variable {s s' : State B V} {t u : ThreadId} {th w w' : Thread V} {c : Chance} {a : Activity V}
  {turn : Turn B V} {rest : List (Activity V)} {f : B → Outcome V} {x : Action B V} {n : Nat}

theorem Founder.grow {i : Nat} {r : Option (Reply V)} (hi : i ≤ n) :
    Founder n i r [.resize n (.grow n i 0), .build n] := by
  unfold ResizePoint.grow
  split
  · exact .spawn ‹_›
  · obtain rfl : i = n := by omega
    exact .close

/-- The founder takes its next step: it goes on, or the pool stands, or there is
    none. -/
theorem Deed.founder {m : Nat} (hd : Deed s t th c a turn) (h : Founder n m th.reply (a :: rest))
    (hm : s.size = m) (hs : s.isStopped = false) :
    (turn.state.life = s.life ∧
        Founder n turn.state.size (turn.reply <|> th.reply) (turn.next ++ rest)) ∨
      (turn.state.life = .serving ∧ turn.state.size = n ∧ turn.next ++ rest = []) ∨
      turn.state.life = .dropped := by
  generalize hst : a :: rest = st at h
  generalize hreply : th.reply = r at h ⊢
  cases h with
  | reserve =>
    cases hst
    cases hd with
    | reserveOverflow => exact .inr (.inr rfl)
    | reserve => exact .inl ⟨rfl, hm ▸ .enter⟩
  | enter =>
    cases hst
    cases hd with
    | resizeStopped _ hstop => rw [hs] at hstop; cases hstop
    | resizeShrink _ _ hn => omega
    | resizeOverflow => exact .inl ⟨rfl, .panicked⟩
    | resizeGrow =>
      refine .inl ⟨rfl, ?_⟩
      show Founder n s.size r [.resize n (.grow n s.size s.size), .build n]
      rw [hm]
      exact .grow (Nat.zero_le n)
  | spawn hi =>
    cases hst
    cases hd with
    | spawnNul => exact .inl ⟨rfl, .panicked⟩
    | spawnRefused => exact .inl ⟨rfl, .refused⟩
    | spawn =>
      refine .inl ⟨rfl, ?_⟩
      have hsize : (s.spawn m).size = m + 1 := by
        rw [← hm]
        exact List.length_append
      show Founder n (s.spawn m).size r [.resize n (.grow n (m + 1) 0), .build n]
      rw [hsize]
      exact .grow hi
  | close =>
    cases hst
    cases hd with
    | resizeClose => exact .inl ⟨rfl, hm ▸ .built⟩
  | built =>
    cases hst
    cases hd with
    | buildRefused | buildPanicked => exact .inr (.inr rfl)
    | build => exact .inr (.inl ⟨rfl, hm, rfl⟩)
  | refused =>
    cases hst
    cases hd with
    | buildRefused | buildPanicked => exact .inr (.inr rfl)
    | build hr => exact absurd hreply (hr _)
  | panicked =>
    cases hst
    cases hd with
    | buildRefused | buildPanicked => exact .inr (.inr rfl)
    | build _ hp => exact absurd hreply (hp _)

/-- Nobody but a stop stops the pool. -/
theorem Deed.isStopped (hd : Deed s t th c a turn) (ha : ∀ g p, a ≠ .stop g p) :
    turn.state.isStopped = s.isStopped := by
  cases hd with
  | graceful | forced => exact absurd rfl (ha _ _)
  | clear hp | clearEnd hp | purge hp | purgeEnd hp | sweep hp | sweepEnd hp => cases hp <;> rfl
  | _ => rfl

/-- Only the one who builds the pool takes it to another stage of its life. -/
theorem Deed.life (hd : Deed s t th c a turn) (ha : a.builds = 0) : turn.state.life = s.life := by
  cases hd with
  | reserveOverflow | buildRefused | buildPanicked | build => cases ha
  | clear hp | clearEnd hp | purge hp | purgeEnd hp | sweep hp | sweepEnd hp => cases hp <;> rfl
  | _ => rfl

/-- A tranquil thread neither builds the pool nor changes its roster. -/
theorem Thread.Tranquil.top (h : w.Tranquil) (hs : w.stack = a :: rest) :
    a.builds = 0 ∧ ¬ a.IsRuling := by
  cases h with
  | idle _ hst => rw [hst] at hs; cases hs
  | calling _ hst ha =>
    cases hst.symm.trans hs
    cases a <;> first | exact ⟨rfl, id⟩ | cases ha
  | looping _ hst | running _ hst =>
    cases hst.symm.trans hs
    exact ⟨rfl, id⟩

theorem Founder.top {m : Nat} {r : Option (Reply V)} {l : List (Activity V)} (h : Founder n m r l) :
    ∃ a rest, l = a :: rest ∧ (∀ g p, a ≠ .stop g p) ∧ (∀ u, ¬ a.Tells u) ∧
      (a = .reserve n ∨ (∃ p, a = .resize n p) ∨ a = .build n) := by
  cases h with
  | reserve => exact ⟨_, _, rfl, nofun, fun _ => id, .inl rfl⟩
  | enter | spawn | close => exact ⟨_, _, rfl, nofun, fun _ => id, .inr (.inl ⟨_, rfl⟩)⟩
  | built | refused | panicked => exact ⟨_, _, rfl, nofun, fun _ => id, .inr (.inr rfl)⟩

/-- The one who builds the pool does nothing else. -/
theorem Move.founder (hm : Move s x s') (h : s.Calm n) (hl : s.life = .building)
    (hx : x.actor? = some 0) : ∃ th c a rest turn, x = .run 0 c ∧ s.threads[0]? = some th ∧
      th.badge = none ∧ th.stack = a :: rest ∧ Founder n s.size th.reply (a :: rest) ∧
      Deed s 0 th c a turn ∧ s' = State.settleTurn 0 turn := by
  obtain ⟨th, ht, hb, hf⟩ := h.founder hl
  obtain ⟨a, rest, hs, -, -, ha⟩ := hf.top
  cases hm with
  | arrive | rouse | tick => cases hx
  | call ht' hfree =>
    cases hx
    cases ht.symm.trans ht'
    rcases ha with rfl | ⟨p, rfl⟩ | rfl <;> simp [Thread.isFree, hs] at hfree
  | finish ht' hs' | hook ht' hs' | hookPanic ht' hs' | expire ht' hs' =>
    cases hx
    cases ht.symm.trans ht'
    cases hs.symm.trans hs'
    rcases ha with ha | ⟨p, ha⟩ | ha <;> cases ha
  | run _ ht' hs' hd =>
    cases hx
    cases ht.symm.trans ht'
    cases hs.symm.trans hs'
    exact ⟨th, _, a, rest, _, rfl, ht, hb, hs, hs ▸ hf, hd, rfl⟩

/-- The one who builds the pool takes a step, and the pool is not dropped. -/
theorem Move.calm_founder (hm : Move s x s') (h : s.Calm n) (hl : s.life = .building)
    (hx : x.actor? = some 0) (hl' : s'.life ≠ .dropped) : s'.Calm n := by
  obtain ⟨th, c, a, rest, turn, rfl, ht, hb, hs, hf, hd, rfl⟩ := hm.founder h hl hx
  obtain ⟨_, _, heq, hstop, htells, -⟩ := hf.top
  cases heq
  obtain ⟨w, hw, hsame⟩ := hd.same ht
  have hself := getElem?_modifyThread_self
    (f := fun th =>
      { th with stack := turn.next ++ th.stack.tail, reply := turn.reply <|> th.reply }) hw
  have hbadge : w.badge = none := by
    rw [← Option.isNone_iff_eq_none, ← Option.not_isSome, hsame.worker, hb]
    rfl
  have others (u : ThreadId) (w' : Thread V) (hw' : (State.settleTurn 0 turn).threads[u]? = some w')
      (hu : u ≠ 0) : w'.Tranquil :=
    hm.tranquil_other (fun h0 => hu (Option.some.inj h0).symm) hw' fun w hw =>
      h.others u w hw (.inl hu)
  have unstopped : (State.settleTurn 0 turn).isStopped = false :=
    (hd.isStopped hstop).trans h.unstopped
  have untold (u : ThreadId) : ¬ (State.settleTurn 0 turn).IsTold u := by
    rw [isTold_settleTurn, hd.isTold_iff]
    exact fun hor => hor.elim (h.untold u) fun ht => htells u ht.1
  rcases hd.founder hf rfl h.unstopped with ⟨hlife, hgoes⟩ | ⟨hlife, hsize, hdone⟩ | hlife
  · have hbuilding : (State.settleTurn 0 turn).life = .building := hlife.trans hl
    refine ⟨unstopped, untold, fun u w' hw' hu => others u w' hw' ?_, fun _ => ?_, ?_⟩
    · exact hu.resolve_right (by simp [hbuilding])
    · refine ⟨_, hself, hbadge, ?_⟩
      rw [hsame.stack, hsame.reply, hs]
      exact hgoes
    · simp [hbuilding]
  · have hserving : (State.settleTurn 0 turn).life = .serving := hlife
    refine ⟨unstopped, untold, fun u w' hw' _ => ?_, by simp [hserving], fun _ => hsize⟩
    by_cases hu : u = 0
    · subst hu
      cases hw'.symm.trans hself
      exact .idle hbadge (by simp [hsame.stack, hs, hdone])
    · exact others u w' hw' hu
  · exact absurd hlife hl'

/-- Someone else acts, or the world. -/
theorem Move.calm_other (hm : Move s x s') (h : s.Calm n) (hx : s.Allows f x)
    (hl : s.life ≠ .dropped) (hne : s.life = .building → x.actor? ≠ some 0) : s'.Calm n := by
  have hdone : s.done = false := (Bool.or_eq_false_iff.1 h.unstopped).1
  -- whoever acts is tranquil
  have calm {u : ThreadId} {w : Thread V} (hu : x.actor? = some u) (hw : s.threads[u]? = some w) :
      w.Tranquil := by
    refine h.others u w hw ?_
    cases hlife : s.life with
    | building =>
      refine .inl fun h0 => hne hlife ?_
      rw [hu, h0]
    | serving => exact .inr rfl
    | dropped => exact absurd hlife hl
  have hquiet : s.Undisturbed s' := by
    cases hm.ruling with
    | step _ ht hs ha => exact absurd ha ((calm rfl ht).top hs).2
    | other hu => exact hu
  have hlife : s'.life = s.life := by
    cases hm with
    | call _ _ _ ho =>
      show State.life _ = _
      cases ho <;> first | rfl | exact nomatch hx.2
    | run _ ht hs hd => exact hd.life ((calm rfl ht).top hs).1
    | _ => rfl
  have hsize : s'.size = s.size := congrArg List.length hquiet.roster
  refine ⟨?_, fun u hu => h.untold u ((hquiet.told u).1 hu), fun u w' hw' hu => ?_, fun hb => ?_,
    fun hs => hsize.trans (h.crew (hlife ▸ hs))⟩
  · rw [State.isStopped, hquiet.done, hquiet.forced]
    exact h.unstopped
  · by_cases hself : x.actor? = some u
    · obtain ⟨w, hw⟩ := hm.exists_actor hself
      exact hm.tranquil_self hx hdone h.untold hself hw (calm hself hw) hw'
    · exact hm.tranquil_other hself hw' fun w hw => h.others u w hw (hlife ▸ hu)
  · obtain ⟨th, ht, hbadge, hf⟩ := h.founder (hlife ▸ hb)
    obtain ⟨w, hw, hsame⟩ := hm.same (hne (hlife ▸ hb)) ht
    refine ⟨w, hw, ?_, ?_⟩
    · rw [← Option.isNone_iff_eq_none, ← Option.not_isSome, hsame.worker, hbadge]
      rfl
    · rw [hsize, hsame.reply, hsame.stack]
      exact hf

/-- **What a calm run allows keeps the pool calm**, until it is dropped. -/
theorem Move.calm (hm : Move s x s') (ha : s.Alive) (hx : s.Allows f x) (hl : s'.life ≠ .dropped)
    (h : s.Calm n) : s'.Calm n := by
  by_cases hf : s.life = .building ∧ x.actor? = some 0
  · exact hm.calm_founder h hf.1 hf.2 hl
  · exact hm.calm_other h hx (fun hd => hl (hm.dropped ha hd)) fun hb h0 => hf ⟨hb, h0⟩

/-! ## Calm runs -/

/-- A run in which nothing happens but what a calm run allows. -/
def State.RunsCalmly (f : B → Outcome V) (s : State B V) : List (Action B V) → Prop
  | [] => True
  | x :: as => s.Allows f x ∧ ∀ s' ∈ s.step x, s'.RunsCalmly f as

/-- Whether a run is calm can be computed, action by action. -/
instance State.decideRunsCalmly [DecidableEq V] (f : B → Outcome V) :
    ∀ (s : State B V) as, Decidable (s.RunsCalmly f as)
  | _, [] => isTrue trivial
  | s, x :: as =>
    have := fun s' : State B V => State.decideRunsCalmly f s' as
    inferInstanceAs (Decidable (s.Allows f x ∧ ∀ s' ∈ s.step x, s'.RunsCalmly f as))

theorem runsCalmly_concat {as : List (Action B V)} (has : s.steps as = some s')
    (h : s.RunsCalmly f (as ++ [x])) : s.RunsCalmly f as ∧ s'.Allows f x := by
  induction as generalizing s with
  | nil =>
    cases has
    exact ⟨trivial, h.1⟩
  | cons y as ih =>
    obtain ⟨s₁, hm, has⟩ := steps_cons.1 has
    have hstep : s.step y = some s₁ := step_iff.2 hm
    obtain ⟨has₁, hlast⟩ := ih has (h.2 s₁ hstep)
    refine ⟨⟨h.1, fun s₂ hs₂ => ?_⟩, hlast⟩
    cases hstep.symm.trans hs₂
    exact has₁

/-- **A calm run leads to a calm pool**, unless that is dropped. -/
theorem steps_calm {name : String} {hooked : Bool} {capacity : Option Nat} {interval : Nat}
    {as : List (Action B V)}
    (has : (State.founding name hooked capacity interval n).steps as = some s)
    (h : (State.founding name hooked capacity interval n).RunsCalmly f as)
    (hl : s.life ≠ .dropped) : s.Calm n := by
  induction as using List.reverseRecOn generalizing s with
  | nil =>
    cases has
    refine ⟨rfl, fun u => ?_, fun t th ht hor => ?_, fun _ => ⟨_, rfl, rfl, .reserve⟩, nofun⟩
    · rintro ⟨b, hb, -⟩
      obtain ⟨w, hw, hb⟩ := Option.bind_eq_some_iff.1 (badge?_eq _ u ▸ hb)
      rw [List.mem_singleton.1 (List.mem_of_getElem? hw)] at hb
      cases hb
    · have hlt := (List.getElem?_eq_some_iff.1 ht).1
      exact absurd (Nat.lt_one_iff.1 hlt) (hor.resolve_right nofun)
  | append_singleton as x ih =>
    obtain ⟨s₁, has₁, hm⟩ := steps_concat.1 has
    have ha : s₁.Alive := ((State.Reachable.of_founded State.founded_founding).run has₁).alive
    obtain ⟨hinit, hlast⟩ := runsCalmly_concat has₁ h
    exact hm.calm ha hlast hl (ih has₁ hinit fun hd => hl (hm.dropped ha hd))

end

end WorkerPool
