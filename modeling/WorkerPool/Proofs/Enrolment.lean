/-
  Who is on the roster, and what becomes of those who are not.

  * `State.Numbered`: the workers of the roster are numbered by their places, and
    whoever is about to start one gives it the number of the next place;
    `State.Reachable.numbered`: this holds in every reachable state;
  * `State.Reachable.enrolled`: a worker is on the roster, or it was sent away, or
    a resize is about to tell it to leave; `State.Reachable.sent_away` is what
    this says while nobody holds the lock;
  * `State.Founded.enrolment`: every worker is found on the roster or has been
    told, so that no thread is left behind.
-/
import WorkerPool.Proofs.Arrivals
import WorkerPool.Proofs.Waiting

namespace WorkerPool

variable {B V : Type}

/-! ## Numbers -/

/-- The workers of the roster are numbered by their places, and so is the next
    one that is started. -/
structure State.Numbered (s : State B V) : Prop where
  place : ∀ i u, s.roster[i]? = some u → (s.badge? u).map Badge.id = some i
  next : ∀ t n i start, s.top? t = some (.resize n (.spawn i start)) → i = s.size

section
variable {s s' : State B V} {t u : ThreadId} {th : Thread V} {c : Chance} {a : Activity V}
  {turn : Turn B V} {rest : List (Activity V)} {n i start : Nat}

/-- Only a resize goes on to start a worker. -/
theorem Deed.spawn_mem (hd : Deed s t th c a turn)
    (hm : .resize n (.spawn i start) ∈ turn.next) : ∃ n p, a = .resize n p := by
  cases hd with
  | resizeShrink | resizeGrow | spawn | resizeTold | resizeTell | resizeWake => exact ⟨_, _, rfl⟩
  | fetched | unmark => simp [runNext] at hm
  | _ => simp at hm

/-- A resize starts workers from the number of those who are there. -/
theorem Deed.spawn_next (hd : Deed s t th c a turn)
    (ha : ∀ n i start, a = .resize n (.spawn i start) → i = s.size)
    (hm : .resize n (.spawn i start) ∈ turn.next) : i = turn.state.size := by
  obtain ⟨n', p, rfl⟩ := hd.spawn_mem hm
  cases hd with
  | resizeGrow =>
    have hn := List.mem_singleton.1 hm
    unfold ResizePoint.grow at hn
    split at hn <;> cases hn
    rfl
  | spawn =>
    have hn := List.mem_singleton.1 hm
    unfold ResizePoint.grow at hn
    split at hn <;> cases hn
    rw [ha _ _ _ rfl]
    simp [State.size, State.spawn]
  | _ => simp at hm

/-- Who is about to start a worker was in the middle of a resize before. -/
theorem Thread.Next.spawn {o : Option (Thread V)} {w : Thread V} (hn : Thread.Next s o w)
    (hw : w.stack = .resize n (.spawn i start) :: rest) (ho : ∀ w, o = some w → w.Shaped) :
    ∃ w₀ n p below, o = some w₀ ∧ w₀.stack = .resize n p :: below := by
  cases hn with
  | @same w₀ _ hsame => exact ⟨w₀, n, _, rest, rfl, hsame.stack.symm.trans hw⟩
  | outside | worker => cases hw
  | @call w₀ _ _ _ next hf hl hopen hs hb =>
    rw [hs] at hw
    cases hopen <;> cases hw
  | @step w₀ _ x below next hx hfollows hs hb =>
    have hmem := (ho w₀ rfl).mem_of_append hx (hs.symm.trans hw) id
    cases hfollows with
    | run hd =>
      obtain ⟨n', p, rfl⟩ := hd.spawn_mem hmem
      exact ⟨w₀, n', p, below, rfl, hx⟩
    | _ => simp at hmem

theorem Move.numbered {x : Action B V} (hm : Move s x s') (hr : s.Reachable) (h : s.Numbered) :
    s'.Numbered where
  place i u hu := by
    cases hm.ruling with
    | other hu' => exact hm.badge_id (h.place i u (hu'.roster ▸ hu))
    | @step t c th a rest turn hw ht hs _ hd =>
      rcases hd.roster with ⟨l, hl⟩ | ⟨n, j, start, rfl, heq, -⟩
      · refine hm.badge_id (h.place i u ?_)
        rw [← hl]
        exact List.getElem?_append_left (List.getElem?_eq_some_iff.1 hu).1 ▸ hu
      · have hnext := h.next t n j start (top?_eq_some_iff.2 ⟨th, rest, ht, hs⟩)
        replace hu : (s.spawn j).roster[i]? = some u := heq ▸ hu
        rcases concat_cases hu with hu | ⟨rfl, rfl⟩
        · exact hm.badge_id (h.place i u hu)
        · rw [badge?_settleTurn, heq, badge?_eq, hnext]
          exact congrArg (Option.map Badge.id <| Option.bind · _) List.getElem?_concat_length
  next t n i start ht := by
    obtain ⟨w', rest', hw', hst'⟩ := top?_eq_some_iff.1 ht
    obtain ⟨w, m, p, rest, hw, hst⟩ :=
      (hm.thread hw').spawn hst' fun w hw => hr.shaped.thread t w hw
    have htop := top?_eq_some_iff.2 ⟨w, rest, hw, hst⟩
    by_cases hx : x.actor? = some t
    · obtain ⟨c, turn, rfl, hd, rfl⟩ := hm.ruling_step hx hw hst trivial
      obtain ⟨w₁, hw₁, hst₁⟩ := hd.stack hw hst
      cases hw'.symm.trans hw₁
      have hmem := (hr.shaped.thread t w hw).mem_of_append hst (hst₁.symm.trans hst') id
      refine hd.spawn_next (fun n' j start' heq => ?_) hmem
      exact h.next t n' j start' (heq ▸ htop)
    · cases ht.symm.trans (hm.top? hx htop)
      have hroster := (hm.keeps_lock hr.ruled hw (Thread.mem_of_stack hst) Nat.one_pos hx).2
      rw [h.next t _ _ _ htop, State.size, State.size, hroster]

theorem State.Reachable.numbered (hr : s.Reachable) : s.Numbered := by
  refine hr.induct (P := State.Numbered) ?_ fun _ _ _ hr ih hm => hm.numbered hr ih
  rintro s ⟨name, hooked, capacity, interval, workers, rfl⟩
  refine ⟨nofun, fun t n i start ht => ?_⟩
  obtain ⟨th, rest, hth, hst⟩ := top?_eq_some_iff.1 ht
  rw [List.mem_singleton.1 (List.mem_of_getElem? hth)] at hst
  cases hst

end

/-! ## Those who are not on the roster -/

section
variable {s s' : State B V} {t u : ThreadId} {th : Thread V} {c : Chance} {a : Activity V}
  {turn : Turn B V} {rest : List (Activity V)}

/-- Who is taken off the roster is going to be told to leave, or was taken off by
    a stop. -/
theorem Deed.keeps_or_dismisses (hd : Deed s t th c a turn) (hu : u ∈ s.roster) :
    u ∈ turn.state.roster ∨ 0 < (turn.next.map (Activity.dismisses u)).sum ∨
      ∃ g, a = .stop g .disband := by
  cases hd with
  | @resizeShrink n =>
    rw [← List.take_append_drop n s.roster] at hu
    rcases List.mem_append.1 hu with hu | hu
    · exact .inl hu
    · exact .inr (.inl (List.count_pos_iff.2 hu))
  | spawn => exact .inl (List.mem_append_left _ hu)
  | disband => exact .inr (.inr ⟨_, rfl⟩)
  | clear hp | clearEnd hp | purge hp | purgeEnd hp | sweep hp | sweepEnd hp =>
    exact .inl (hp.roster ▸ hu)
  | _ => exact .inl hu

/-- Who is struck from a list of those to be told is told. -/
theorem Deed.dismisses_or_tells (hd : Deed s t th c a turn) :
    a.dismisses u ≤ (turn.next.map (Activity.dismisses u)).sum ∨ a.Tells u := by
  cases hd with
  | @resizeTell n v us start =>
    by_cases hv : v = u
    · exact .inr hv
    · left
      show (v :: us).count u ≤ us.count u + 0
      rw [List.count_cons_of_ne hv]
      exact Nat.le_refl _
  | _ => exact .inl (Nat.zero_le _)

/-- A worker that is on the roster or on the list of a resize stays there, or it
    is sent away. -/
theorem Move.enrolled {x : Action B V} (hm : Move s x s') (hr : s.Reachable)
    (hb : (s.badge? u).isSome = true)
    (h : u ∈ s.roster ∨ 0 < tally (Activity.dismisses u) s.threads) :
    (u ∈ s'.roster ∨ 0 < tally (Activity.dismisses u) s'.threads) ∨ s'.done = true ∨
      s'.IsTold u := by
  cases hm.ruling with
  | other hu =>
    rw [hu.roster, hu.tally _ fun _ => dismisses_of_not_rules]
    exact .inl h
  | @step t c th a rest turn hw ht hs _ hd =>
    have htop := top?_eq_some_iff.2 ⟨th, rest, ht, hs⟩
    have htally := hd.tally (f := Activity.dismisses u) ht hs rfl rfl
    have hmine : a.dismisses u ≤ th.tally (Activity.dismisses u) := by simp [Thread.tally, hs]
    have hall := le_tally (f := Activity.dismisses u) ht
    rcases hd.dismisses_or_tells (u := u) with hle | htells
    · rcases h with hu | hpos
      · rcases hd.keeps_or_dismisses hu with hu' | hnext | ⟨g, rfl⟩
        · exact .inl (.inl hu')
        · exact .inl (.inr (by omega))
        · exact .inr (hm.isSentAway (hr.dismisses htop u hu)).2
      · exact .inl (.inr (by omega))
    · exact .inr (.inr (hm.isTold_iff.2 (.inr ⟨t, c, a, rfl, htop, htells, hb⟩)))

/-- **A worker is on the roster, or it was sent away**, or a resize is about to
    tell it to leave. -/
theorem State.Reachable.enrolled (hr : s.Reachable) (hb : (s.badge? u).isSome = true) :
    (u ∈ s.roster ∨ 0 < tally (Activity.dismisses u) s.threads) ∨ s.done = true ∨ s.IsTold u := by
  refine hr.induct (P := fun s => (s.badge? u).isSome = true →
    (u ∈ s.roster ∨ 0 < tally (Activity.dismisses u) s.threads) ∨ s.done = true ∨ s.IsTold u)
    ?_ ?_ hb
  · rintro s ⟨name, hooked, capacity, interval, workers, rfl⟩ hb
    obtain ⟨w, hw, hb⟩ := isSome_badge?_iff.1 hb
    rw [List.mem_singleton.1 (List.mem_of_getElem? hw)] at hb
    cases hb
  · intro s x s' hr ih hm hb'
    cases hb : (s.badge? u).isSome with
    | true =>
      rcases ih hb with h | h | h
      · exact hm.enrolled hr hb h
      · exact .inr (.inl (hm.done h))
      · exact .inr (.inr (hm.isTold h))
    | false =>
      obtain ⟨b, hb'⟩ := Option.isSome_iff_exists.1 hb'
      obtain ⟨t, c, n, i, start, -, -, -, -, hroster⟩ := hm.enrols (by simpa using hb) hb'
      exact .inl (.inl (by rw [hroster]; simp))

theorem dismisses_le_locks (ha : 0 < a.dismisses u) : 0 < a.locks := by
  cases a with
  | resize n p =>
    cases p with
    | tell => exact Nat.one_pos
    | _ => cases ha
  | _ => cases ha

/-- **While nobody holds the lock, every worker that is not on the roster was sent
    away.** -/
theorem State.Reachable.sent_away (hr : s.Reachable) (hl : s.lock = none)
    (hb : (s.badge? u).isSome = true) (hu : u ∉ s.roster) : s.done = true ∨ s.IsTold u := by
  refine (hr.enrolled hb).resolve_left fun h => ?_
  obtain ⟨t, th, a, ht, ha, hpos⟩ := exists_of_tally_pos (h.resolve_left hu)
  have hlock := tally_pos ht ha (dismisses_le_locks hpos)
  rw [hr.ruled.lock, hl] at hlock
  cases hlock

end

/-! ## The roster -/

section
variable {s s' : State B V} {u : ThreadId} {i : Nat} {as : List (Action B V)}

/-- Whoever sleeps is a worker. -/
theorem State.Reachable.isSome_badge?_of_awaits (hr : s.Reachable) (ha : s.Awaits u) :
    (s.badge? u).isSome = true := by
  obtain ⟨w, rest, hw, hst⟩ := top?_eq_some_iff.1 ha
  exact isSome_badge?_iff.2 ⟨w, hw, (hr.shaped.thread u w hw).worker _ (Thread.mem_of_stack hst)⟩

/-- At rest only the workers of the roster sleep. -/
theorem State.AtRest.mem_roster (h : s.AtRest) (hr : s.Reachable) (ha : s.Awaits u) :
    u ∈ s.roster := by
  by_contra hout
  have hb := hr.isSome_badge?_of_awaits ha
  exact h.not_awaits hr (hr.sent_away (h.lock_eq_none hr) hb hout) ha

/-- At rest a pool with workers on its roster was not stopped. -/
theorem State.AtRest.isStopped_eq_false (h : s.AtRest) (hr : s.Reachable) (hu : u ∈ s.roster) :
    s.isStopped = false := by
  refine Bool.eq_false_iff.2 fun hs => ?_
  rw [hr.sealed.empty hs (h.lock_eq_none hr)] at hu
  cases hu

/-- The name is never changed. -/
theorem Move.name {x : Action B V} (hm : Move s x s') : s'.name = s.name := by
  cases hm with
  | call _ _ _ ho =>
    show State.name _ = _
    cases ho <;> rfl
  | @run t c th a rest turn _ _ _ hd =>
    show turn.state.name = s.name
    cases hd with
    | clear hp | clearEnd hp | purge hp | purgeEnd hp | sweep hp | sweepEnd hp => cases hp <;> rfl
    | _ => rfl
  | _ => rfl

/-- The threads of the workers are named by their places. -/
theorem State.Numbered.threadName? (h : s.Numbered) : s.threadName? i =
    if i < s.size then some (s.name ++ "-" ++ toString i) else none := by
  unfold State.threadName?
  split
  · rename_i hi
    have hu : s.roster[i]? = some s.roster[i] := List.getElem?_eq_getElem hi
    obtain ⟨b, hb, hid⟩ := Option.map_eq_some_iff.1 (h.place i _ hu)
    simp [hu, hb, hid, State.threadName]
  · rename_i hi
    simp [List.getElem?_eq_none (Nat.not_lt.1 hi)]

/-- **No thread is left behind.**  While nobody holds the lock of the roster, its
    workers have the numbers from zero on in this order, and a worker is found by
    its number, under its name, just as long as it is below their number; every
    other worker thread has its own order to leave, or the pool was stopped
    gracefully; and once the pool was stopped this is so of all of them.  At rest
    all worker threads that live and are not on the roster are in the middle of
    a task, but for start hooks that still run; and who sleeps is on the roster
    of a pool that was not stopped, in the reach of the next stop. -/
theorem State.Founded.enrolment {s₀ : State B V} (h₀ : s₀.Founded) (has : s₀.steps as = some s) :
    (s.lock = none →
      (∀ i u, s.roster[i]? = some u → (s.badge? u).map Badge.id = some i) ∧
      (∀ i, s.ask (.thread i) = Turn.answer s (.name
        (if i < s.size then some (s₀.name ++ "-" ++ toString i) else none))) ∧
      (∀ u, s.IsAlive u → u ∉ s.roster → s.done = true ∨ s.IsTold u) ∧
      (s.isStopped = true → ∀ u, s.IsAlive u → s.done = true ∨ s.IsTold u)) ∧
    (s.AtRest →
      (∀ u, s.IsAlive u → u ∉ s.roster → s.top? u = some (.work .hook) ∨ s.IsInTask u) ∧
      (∀ u, s.Awaits u → u ∈ s.roster ∧ s.isStopped = false)) := by
  have hr : s.Reachable := (Reachable.of_founded h₀).run has
  have hname : s.name = s₀.name :=
    steps_keep (P := fun s => s.name = s₀.name) (fun _ _ _ h hm => hm.name.trans h) rfl has
  have worker {u : ThreadId} (hu : s.IsAlive u) : (s.badge? u).isSome = true := by
    obtain ⟨w, hw, hb, -⟩ := hu
    exact isSome_badge?_iff.2 ⟨w, hw, hb⟩
  refine ⟨fun hl => ⟨hr.numbered.place, fun i => ?_, fun u hu => hr.sent_away hl (worker hu),
    fun hs u hu => ?_⟩, fun hrest => ⟨fun u hu hout => ?_, fun u ha => ?_⟩⟩
  · simp [State.ask, hl, hr.numbered.threadName?, hname]
  · refine hr.sent_away hl (worker hu) ?_
    rw [hr.sealed.empty hs hl]
    exact List.not_mem_nil
  · have hsent := hr.sent_away (hrest.lock_eq_none hr) (worker hu) hout
    rcases hrest.sent_away hr (worker hu) hsent with ⟨w, hw, hend⟩ | h
    · obtain ⟨w', hw', -, hlive⟩ := hu
      cases hw.symm.trans hw'
      rw [hend] at hlive
      cases hlive
    · exact h
  · have hmem := hrest.mem_roster hr ha
    exact ⟨hmem, hrest.isStopped_eq_false hr hmem⟩

end

/-- A run after which one worker was sent away and runs a task, and another one
    has its number. -/
def replacingRun : List (Action Unit Unit) :=
  [paces 0 6, [.call 0 (.submit ())], paces 0 3, paces 2 3, [.call 0 (.resize 1)], paces 0 5,
    [.call 0 (.resize 2)], paces 0 3, paces 1 5, paces 3 5].flatten

theorem enrolment_replacingRun : ∃ s : State Unit Unit,
    (State.founding "pool" false none 1 2).steps replacingRun = some s ∧ s.AtRest ∧
    s.roster = [1, 3] ∧ (s.badge? 2).map Badge.id = some 1 ∧ (s.badge? 3).map Badge.id = some 1 ∧
    s.ask (.thread 1) = Turn.answer s (.name (some "pool-1")) ∧
    s.IsAlive 2 ∧ (s.done = true ∨ s.IsTold 2) ∧
    (s.top? 2 = some (.work .hook) ∨ s.IsInTask 2) ∧ s.Awaits 3 ∧ s.isStopped = false := by
  have hrun : ((State.founding "pool" false none 1 2).steps replacingRun).isSome = true := rfl
  obtain ⟨s, hs⟩ := Option.isSome_iff_exists.1 hrun
  have hrest : s.AtRest := by
    rintro (_ | _ | _ | _ | t) c <;> cases hs <;> rfl
  have h₀ : (State.founding "pool" false none 1 2 : State Unit Unit).Founded :=
    State.founded_founding
  have hroster : s.roster = [1, 3] := by cases hs; rfl
  have halive : s.IsAlive 2 := by cases hs; exact ⟨_, rfl, rfl, rfl⟩
  have hawaits : s.Awaits 3 := by cases hs; rfl
  have hout : 2 ∉ s.roster := by rw [hroster]; decide
  obtain ⟨hfree, hquiet⟩ := h₀.enrolment hs
  obtain ⟨hplace, hthread, hsent, -⟩ := hfree (by cases hs; rfl)
  obtain ⟨hlive, hparked⟩ := hquiet hrest
  exact ⟨s, hs, hrest, hroster, by cases hs; rfl, hplace 1 3 (by rw [hroster]; rfl),
    by cases hs; exact hthread 1, halive, hsent 2 halive hout, hlive 2 halive hout, hawaits,
    (hparked 3 hawaits).2⟩

end WorkerPool
