/-
  The table of atomic steps: every step that a thread can take next, with its
  condition, the state it leaves behind and the activities that follow.

  `State.act` computes the next step from the innermost activity; the table
  has one row for each step, so that a fact about all steps is one case
  analysis with named cases.  The rows stand in the order of `Pool/Work`,
  `Pool/Calls` and `Pool/Roster`.

  * `Sweep` are the rows of a pass that clears the backlog;
  * `Deed s t th c a turn`: thread `t`, which stands in the table as `th` with
    innermost activity `a`, may take the step `turn`;
  * `act_iff`: the table says what `State.act` does, no more and no less.
-/
import WorkerPool.Pool.Step

namespace WorkerPool

variable {B V : Type}

/-! ## Clearing passes -/

/-- The steps of a clearing pass. -/
inductive Sweep (s : State B V) : Clearing → State B V → Clearing ⊕ Nat → Prop where
  | drain : Sweep s .drain { s with backlog := { s.backlog with tasks := [] } }
      (.inl (.wake s.backlog.tasks))
  | wake (ks : List TaskId) : Sweep s (.wake ks) { s with backlog := s.backlog.wakeGivers }
      (.inl (.drop ks ks.length))
  | dropped (n : Nat) : Sweep s (.drop [] n) s (.inl (.count n))
  | drop (k : TaskId) (ks : List TaskId) (n : Nat) :
      Sweep s (.drop (k :: ks) n) (s.abandon k) (.inl (.drop ks n))
  | count (n : Nat) : Sweep s (.count n)
      { s with counters := { s.counters with discarded := s.counters.discarded + n } } (.inr n)

theorem sweep_iff {s s' : State B V} {p : Clearing} {o : Clearing ⊕ Nat} :
    s.sweep p = (s', o) ↔ Sweep s p s' o := by
  constructor
  · intro h
    cases p with
    | drain => cases h; exact .drain
    | wake ks => cases h; exact .wake ks
    | drop ks n =>
      cases ks with
      | nil => cases h; exact .dropped n
      | cons k ks => cases h; exact .drop k ks n
    | count n => cases h; exact .count n
  · intro h
    cases h <;> rfl

/-! ## The table -/

/-- What a thread with innermost activity `a` may do next. -/
inductive Deed (s : State B V) (t : ThreadId) (th : Thread V) (c : Chance) :
    Activity V → Turn B V → Prop where
  -- the loop of a worker
  | fetch {b k ks} (hb : th.badge = some b) (hk : s.backlog.tasks = k :: ks) :
      Deed s t th c (.work .fetch)
        ⟨{ s with backlog := { s.backlog with tasks := ks } }, [.work (.fetched k)], none⟩
  | fetchNone {b} (hb : th.badge = some b) (hk : s.backlog.tasks = []) :
      Deed s t th c (.work .fetch) ⟨s, [.work .mark], none⟩
  | fetched {b k} (hb : th.badge = some b) :
      Deed s t th c (.work (.fetched k))
        ⟨{ s with backlog := s.backlog.wakeGiver c.pick }, runNext b k, none⟩
  | check {b} (hb : th.badge = some b) :
      Deed s t th c (.work .check) ⟨s, [.work (if b.told then .leave else .fetch)], none⟩
  | mark {b} (hb : th.badge = some b) :
      Deed s t th c (.work .mark) ⟨s.markIdle t true, [.work (.clock .settle)], none⟩
  | clock {b sh} (hb : th.badge = some b) :
      Deed s t th c (.work (.clock sh)) ⟨s, [.work (.shift sh s.clock)], none⟩
  | shift {b sh now m r} (hb : th.badge = some b)
      (hm : s.shift sh now = ({ s with monitor := m }, r)) :
      Deed s t th c (.work (.shift sh now))
        ⟨{ s with monitor := m },
          [.work (match r with | some h => .report sh h | none => sh.after)], none⟩
  | report {b sh h} (hb : th.badge = some b) :
      Deed s t th c (.work (.report sh h)) ⟨s.record (.idleReport h), [.work sh.after], none⟩
  | await {b k ks} (hb : th.badge = some b) (hk : s.backlog.tasks = k :: ks) :
      Deed s t th c (.work .await)
        ⟨{ s with backlog := { s.backlog with tasks := ks } }, [.work (.awaited k)], none⟩
  | awaitStop {b} (hb : th.badge = some b) (hk : s.backlog.tasks = [])
      (hd : s.done = true ∨ b.told = true) :
      Deed s t th c (.work .await) ⟨s, [.work (.clock (.resume none))], none⟩
  | awaitSleep {b} (hb : th.badge = some b) (hk : s.backlog.tasks = [])
      (hd : s.done = false) (ht : b.told = false) :
      Deed s t th c (.work .await)
        ⟨{ s with backlog := s.backlog.sleepTaker t }, [.work .await], none⟩
  | awaited {b k} (hb : th.badge = some b) :
      Deed s t th c (.work (.awaited k))
        ⟨{ s with backlog := s.backlog.wakeGiver c.pick },
          [.work (.clock (.resume (some k)))], none⟩
  | unmark {b k} (hb : th.badge = some b) :
      Deed s t th c (.work (.unmark (some k))) ⟨s.markIdle t false, runNext b k, none⟩
  | unmarkNone {b} (hb : th.badge = some b) :
      Deed s t th c (.work (.unmark none)) ⟨s.markIdle t false, [.work .leave], none⟩
  | leave {b} (hb : th.badge = some b) (hs : 1 < s.sharers) :
      Deed s t th c (.work .leave)
        ⟨{ s with sharers := s.sharers - 1 }, [.discard [] .done], none⟩
  | leaveLast {b} (hb : th.badge = some b) (hs : s.sharers ≤ 1) :
      Deed s t th c (.work .leave)
        ⟨{ s with sharers := 0, backlog := { s.backlog with tasks := [] } },
          [.discard s.backlog.tasks .done], none⟩
  -- the run of a task
  | inspect {k w job} (hj : s.jobs[k]? = some job) :
      Deed s t th c (.task k w .inspect)
        ⟨s, [.task k w (if job.cancelled then .skip else .body)], none⟩
  | skip {k w} :
      Deed s t th c (.task k w .skip)
        ⟨{ s with counters := { s.counters with discarded := s.counters.discarded + 1 } },
          [.task k w (.settle (.error .cancelled))], none⟩
  | tallyReturned {k w v} :
      Deed s t th c (.task k w (.tally (.returned v)))
        ⟨{ s with counters := { s.counters with completed := s.counters.completed + 1 } },
          [.task k w (.settle (.ok v))], none⟩
  | tallyPanicked {k w p} :
      Deed s t th c (.task k w (.tally (.panicked p)))
        ⟨{ s with counters := { s.counters with failed := s.counters.failed + 1 } },
          [.task k w (.settle (.error (.panicked p.message)))], none⟩
  | settle {k w r} : Deed s t th c (.task k w (.settle r)) ⟨s.settle k r, [], none⟩
  | inline : Deed s t th c .inline ⟨s, [], some .done⟩
  -- submissions
  | submitCount {k} :
      Deed s t th c (.submit k .count)
        ⟨{ s with counters := { s.counters with submitted := s.counters.submitted + 1 } },
          [.submit k .push], none⟩
  | submitPush {k} (hr : s.backlog.tasks.length < s.backlog.capacity) :
      Deed s t th c (.submit k .push)
        ⟨{ s with backlog := { s.backlog with tasks := s.backlog.tasks ++ [k] } },
          [.submit k .wake], none⟩
  | submitSleep {k} (hr : s.backlog.capacity ≤ s.backlog.tasks.length) :
      Deed s t th c (.submit k .push)
        ⟨{ s with backlog := s.backlog.sleepGiver t }, [.submit k .push], none⟩
  | submitWake {k} :
      Deed s t th c (.submit k .wake)
        ⟨{ s with backlog := s.backlog.wakeTaker c.pick }, [], some (.handle k)⟩
  | tryCount {k} :
      Deed s t th c (.trySubmit k .count)
        ⟨{ s with counters := { s.counters with submitted := s.counters.submitted + 1 } },
          [.trySubmit k .push], none⟩
  | tryPush {k} (hr : s.backlog.tasks.length < s.backlog.capacity) :
      Deed s t th c (.trySubmit k .push)
        ⟨{ s with backlog := { s.backlog with tasks := s.backlog.tasks ++ [k] } },
          [.trySubmit k .wake], none⟩
  | tryFull {k} (hr : s.backlog.capacity ≤ s.backlog.tasks.length) :
      Deed s t th c (.trySubmit k .push) ⟨s, [.trySubmit k .uncount], none⟩
  | tryWake {k} :
      Deed s t th c (.trySubmit k .wake)
        ⟨{ s with backlog := s.backlog.wakeTaker c.pick }, [], some (.handle k)⟩
  | tryUncount {k} :
      Deed s t th c (.trySubmit k .uncount)
        ⟨{ s with counters := { s.counters with submitted := s.counters.submitted - 1 } },
          [.trySubmit k .refuse], none⟩
  | tryRefuse {k} :
      Deed s t th c (.trySubmit k .refuse) ⟨s, [.trySubmit k (.drop s.backlog.capacity)], none⟩
  | tryDrop {k n} :
      Deed s t th c (.trySubmit k (.drop n)) ⟨s.abandon k, [], some (.full n)⟩
  -- taking out, clearing and the capacity
  | pop {k ks} (hk : s.backlog.tasks = k :: ks) :
      Deed s t th c (.pop none)
        ⟨{ s with backlog := { s.backlog with tasks := ks } }, [.pop (some k)], none⟩
  | popNone (hk : s.backlog.tasks = []) :
      Deed s t th c (.pop none) ⟨s, [], some (.taken none)⟩
  | popWake {k} :
      Deed s t th c (.pop (some k))
        ⟨{ s with backlog := s.backlog.wakeGiver c.pick, taken := k :: s.taken }, [],
          some (.taken (some k))⟩
  | clear {p p' s'} (hp : Sweep s p s' (.inl p')) :
      Deed s t th c (.clear p) ⟨s', [.clear p'], none⟩
  | clearEnd {p n s'} (hp : Sweep s p s' (.inr n)) :
      Deed s t th c (.clear p) ⟨s', [], some (.count n)⟩
  | capacityWarn {n} :
      Deed s t th c (.setCapacity n .warn)
        ⟨s.record .capacityClamped, [.setCapacity n .set], none⟩
  | capacitySet {n} :
      Deed s t th c (.setCapacity n .set)
        ⟨{ s with backlog := { s.backlog with capacity := max n 1 } }, [.setCapacity n .wake], none⟩
  | capacityWake {n} :
      Deed s t th c (.setCapacity n .wake)
        ⟨{ s with backlog := s.backlog.wakeGivers }, [], some .done⟩
  -- resizing
  | resizeStopped {n} (hl : s.lock = none) (hs : s.isStopped = true) :
      Deed s t th c (.resize n .enter) ⟨s, [], some .done⟩
  | resizeShrink {n} (hl : s.lock = none) (hs : s.isStopped = false) (hn : n < s.size) :
      Deed s t th c (.resize n .enter)
        ⟨{ s with lock := some t, roster := s.roster.take n },
          [.resize n (.tell (s.roster.drop n) s.size)], none⟩
  | resizeOverflow {n} (hl : s.lock = none) (hs : s.isStopped = false) (hn : s.size ≤ n)
      (ho : rosterLimit < n) :
      Deed s t th c (.resize n .enter) ⟨s, [], some (.panicked .rosterOverflow)⟩
  | resizeGrow {n} (hl : s.lock = none) (hs : s.isStopped = false) (hn : s.size ≤ n)
      (ho : n ≤ rosterLimit) :
      Deed s t th c (.resize n .enter)
        ⟨{ s with lock := some t }, [.resize n (.grow n s.size s.size)], none⟩
  | spawnNul {n i start} (hz : (s.threadName i).toList.contains '\x00' = true) :
      Deed s t th c (.resize n (.spawn i start))
        ⟨{ s with lock := none }, [], some (.panicked (.nulInName (s.threadName i)))⟩
  | spawn {n i start} (hz : (s.threadName i).toList.contains '\x00' = false)
      (hg : c.granted = true) :
      Deed s t th c (.resize n (.spawn i start))
        ⟨s.spawn i, [.resize n (.grow n (i + 1) start)], none⟩
  | spawnRefused {n i start} (hz : (s.threadName i).toList.contains '\x00' = false)
      (hg : c.granted = false) :
      Deed s t th c (.resize n (.spawn i start)) ⟨{ s with lock := none }, [], some (.refused i)⟩
  | resizeTold {n start} :
      Deed s t th c (.resize n (.tell [] start)) ⟨s, [.resize n (.wake start)], none⟩
  | resizeTell {n u us start} :
      Deed s t th c (.resize n (.tell (u :: us) start))
        ⟨s.tell u, [.resize n (.tell us start)], none⟩
  | resizeWake {n start} :
      Deed s t th c (.resize n (.wake start))
        ⟨{ s with backlog := s.backlog.wakeAll }, [.resize n (.close start)], none⟩
  | resizeClose {n start} :
      Deed s t th c (.resize n (.close start))
        ⟨{ s with
            lock := none
            log := if start = n then s.log else s.log ++ [.resized start n] }, [], some .done⟩
  -- stopping
  | gracefulAgain (hl : s.lock = none) (hs : s.isStopped = true) :
      Deed s t th c (.stop true .enter) ⟨s, [], some .done⟩
  | graceful (hl : s.lock = none) (hs : s.isStopped = false) :
      Deed s t th c (.stop true .enter)
        ⟨{ s with lock := some t, done := true }, [.stop true .wake], none⟩
  | forcedAgain (hl : s.lock = none) (hs : s.forced = true) :
      Deed s t th c (.stop false .enter) ⟨s, [], some .done⟩
  | forced (hl : s.lock = none) (hs : s.forced = false) :
      Deed s t th c (.stop false .enter)
        ⟨{ s with lock := some t, forced := true }, [.stop false (.tell s.roster)], none⟩
  | stopTold {g} : Deed s t th c (.stop g (.tell [])) ⟨s, [.stop g (.purge .drain)], none⟩
  | stopTell {g u us} :
      Deed s t th c (.stop g (.tell (u :: us))) ⟨s.tell u, [.stop g (.tell us)], none⟩
  | purge {g p p' s'} (hp : Sweep s p s' (.inl p')) :
      Deed s t th c (.stop g (.purge p)) ⟨s', [.stop g (.purge p')], none⟩
  | purgeEnd {g p n s'} (hp : Sweep s p s' (.inr n)) :
      Deed s t th c (.stop g (.purge p)) ⟨s', [.stop g .wake], none⟩
  | stopWake {g} :
      Deed s t th c (.stop g .wake)
        ⟨{ s with backlog := s.backlog.wakeAll }, [.stop g .disband], none⟩
  | disband {g} :
      Deed s t th c (.stop g .disband)
        ⟨{ s with lock := none, roster := [] }, [.stop g (.join s.roster s.size)], none⟩
  | joined {g n} : Deed s t th c (.stop g (.join [] n)) ⟨s, [.stop g (.inspect n)], none⟩
  | join {g u us n l} (hj : s.join t u = some { s with log := l }) :
      Deed s t th c (.stop g (.join (u :: us) n))
        ⟨{ s with log := l }, [.stop g (.join us n)], none⟩
  | inspectNone {g n} (hk : s.backlog.tasks = []) :
      Deed s t th c (.stop g (.inspect n)) ⟨s, [.stop g (.close n 0)], none⟩
  | inspectLeft {g n} (hk : s.backlog.tasks ≠ []) :
      Deed s t th c (.stop g (.inspect n)) ⟨s, [.stop g (.sweep .drain n)], none⟩
  | sweep {g p p' n s'} (hp : Sweep s p s' (.inl p')) :
      Deed s t th c (.stop g (.sweep p n)) ⟨s', [.stop g (.sweep p' n)], none⟩
  | sweepEnd {g p m n s'} (hp : Sweep s p s' (.inr m)) :
      Deed s t th c (.stop g (.sweep p n)) ⟨s', [.stop g (.close n m)], none⟩
  | stopClose {g n m} :
      Deed s t th c (.stop g (.close n m)) ⟨s.record (.stopped g n m), [], some .done⟩
  -- the two ends
  | reserveOverflow {n} (hn : rosterLimit < n) :
      Deed s t th c (.reserve n)
        ⟨{ s with life := .dropped }, [.teardown (.panicked .rosterOverflow)], none⟩
  | reserve {n} (hn : n ≤ rosterLimit) :
      Deed s t th c (.reserve n) ⟨s, [.resize n .enter, .build n], none⟩
  | buildRefused {n i} (hr : th.reply = some (.refused i)) :
      Deed s t th c (.build n)
        ⟨{ s with life := .dropped }, [.stop true .enter, .teardown (.refused i)], none⟩
  | buildPanicked {n p} (hr : th.reply = some (.panicked p)) :
      Deed s t th c (.build n)
        ⟨{ s with life := .dropped }, [.stop true .enter, .teardown (.panicked p)], none⟩
  | build {n} (hr : ∀ i, th.reply ≠ some (.refused i)) (hp : ∀ p, th.reply ≠ some (.panicked p)) :
      Deed s t th c (.build n)
        ⟨{ s.record (.created n s.backlog.capacity) with life := .serving }, [], some .done⟩
  | teardown {r} (hs : 1 < s.sharers) :
      Deed s t th c (.teardown r) ⟨{ s with sharers := s.sharers - 1 }, [.discard [] r], none⟩
  | teardownLast {r} (hs : s.sharers ≤ 1) :
      Deed s t th c (.teardown r)
        ⟨{ s with sharers := 0, backlog := { s.backlog with tasks := [] } },
          [.discard s.backlog.tasks r], none⟩
  | discarded {r} : Deed s t th c (.discard [] r) ⟨s, [], some r⟩
  | discard {k ks r} : Deed s t th c (.discard (k :: ks) r) ⟨s.abandon k, [.discard ks r], none⟩
  -- questions and handles
  | ask {q r} (hq : s.ask q = some ⟨s, [], some r⟩) : Deed s t th c (.ask q) ⟨s, [], some r⟩
  | measure {g m g' m'} (hg : s.measure m g = some ⟨s, [.measure g' m'], none⟩) :
      Deed s t th c (.measure g m) ⟨s, [.measure g' m'], none⟩
  | measured {g m m'} (hg : s.measure m g = some ⟨s, [], some (.metrics m')⟩) :
      Deed s t th c (.measure g m) ⟨s, [], some (.metrics m')⟩
  | cancel {k} : Deed s t th c (.cancel k) ⟨s.cancel k, [], some .done⟩
  | isCancelled {k} : Deed s t th c (.isCancelled k) ⟨s, [], some (.flag (s.isCancelled k))⟩
  | receive {k how js r} (hr : s.receive k how = some ⟨{ s with jobs := js }, [], some r⟩) :
      Deed s t th c (.receive k how) ⟨{ s with jobs := js }, [], some r⟩
  | joinedAll {slots rs} (hs : slots.mapM Slot.result? = some rs) :
      Deed s t th c (.joinAll slots) ⟨s, [], some (.results rs)⟩
  | joinMisuse {slots} (hs : slots.mapM Slot.result? = none) (hw : slots.all s.stillWaits = false)
      (hp : s.pollSlots slots = none) :
      Deed s t th c (.joinAll slots) ⟨s, [], some (.panicked .spentHandle)⟩
  | joinAll {slots slots' js} (hs : slots.mapM Slot.result? = none)
      (hw : slots.all s.stillWaits = false)
      (hp : s.pollSlots slots = some ({ s with jobs := js }, slots')) :
      Deed s t th c (.joinAll slots) ⟨{ s with jobs := js }, [.joinAll slots'], none⟩

/-! ## The table is complete -/

section
variable {s : State B V} {t : ThreadId} {th : Thread V} {c : Chance} {turn : Turn B V}

theorem shift_monitor {sh : Shift} {now : Int} {s' : State B V} {r : Option Idle.Histogram}
    (h : s.shift sh now = (s', r)) : { s with monitor := s'.monitor } = s' := by
  cases h
  rfl

theorem Deed.of_work {b : Badge} {p : WorkPoint} (hb : th.badge = some b)
    (h : s.work t b c p = some turn) : Deed s t th c (.work p) turn := by
  cases p with
  | hook => cases h
  | fetch =>
    simp only [State.work, Backlog.take?] at h
    cases hk : s.backlog.tasks with
    | nil => rw [hk] at h; cases h; exact .fetchNone hb hk
    | cons k ks => rw [hk] at h; cases h; exact .fetch hb hk
  | fetched k => cases h; exact .fetched hb
  | check => cases h; exact .check hb
  | mark => cases h; exact .mark hb
  | clock sh => cases h; exact .clock hb
  | shift sh now =>
    simp only [State.work] at h
    split at h
    · rename_i hs
      cases h
      exact shift_monitor hs ▸ .shift hb (shift_monitor hs ▸ hs)
    · rename_i hs
      cases h
      exact shift_monitor hs ▸ .shift hb (shift_monitor hs ▸ hs)
  | report sh r => cases h; exact .report hb
  | await =>
    simp only [State.work, Backlog.take?] at h
    cases hk : s.backlog.tasks with
    | cons k ks => rw [hk] at h; cases h; exact .await hb hk
    | nil =>
      rw [hk] at h
      by_cases hd : (s.done || b.told) = true
      · rw [if_pos hd] at h
        cases h
        exact .awaitStop hb hk (by simpa using hd)
      · rw [if_neg hd] at h
        simp only [Bool.or_eq_true, not_or, Bool.not_eq_true] at hd
        cases h
        exact .awaitSleep hb hk hd.1 hd.2
  | awaited k => cases h; exact .awaited hb
  | unmark next =>
    cases next with
    | none => cases h; exact .unmarkNone hb
    | some k => cases h; exact .unmark hb
  | leave =>
    simp only [State.work, State.release] at h
    split at h
    · rename_i hs; cases h; exact .leaveLast hb hs
    · rename_i hs; cases h; exact .leave hb (by omega)

theorem Deed.of_runTask {k : TaskId} {w : Nat} {p : TaskPoint V}
    (h : s.runTask k w p = some turn) : Deed s t th c (.task k w p) turn := by
  cases p with
  | inspect =>
    simp only [State.runTask] at h
    cases hj : s.jobs[k]? with
    | none => rw [hj] at h; cases h
    | some job => rw [hj] at h; cases h; exact .inspect hj
  | skip => cases h; exact .skip
  | body => cases h
  | tally o =>
    cases o with
    | returned v => cases h; exact .tallyReturned
    | panicked p => cases h; exact .tallyPanicked
  | settle r => cases h; exact .settle

theorem Deed.of_submit {k : TaskId} {p : SubmitPoint}
    (h : s.submit t c k p = some turn) : Deed s t th c (.submit k p) turn := by
  cases p with
  | count => cases h; exact .submitCount
  | push =>
    simp only [State.submit, Backlog.push?, Backlog.hasRoom, decide_eq_true_eq] at h
    by_cases hr : s.backlog.tasks.length < s.backlog.capacity
    · rw [if_pos hr] at h; cases h; exact .submitPush hr
    · rw [if_neg hr] at h; cases h; exact .submitSleep (by omega)
  | wake => cases h; exact .submitWake

theorem Deed.of_trySubmit {k : TaskId} {p : TrySubmitPoint}
    (h : s.trySubmit c k p = some turn) : Deed s t th c (.trySubmit k p) turn := by
  cases p with
  | count => cases h; exact .tryCount
  | push =>
    simp only [State.trySubmit, Backlog.push?, Backlog.hasRoom, decide_eq_true_eq] at h
    by_cases hr : s.backlog.tasks.length < s.backlog.capacity
    · rw [if_pos hr] at h; cases h; exact .tryPush hr
    · rw [if_neg hr] at h; cases h; exact .tryFull (by omega)
  | wake => cases h; exact .tryWake
  | uncount => cases h; exact .tryUncount
  | refuse => cases h; exact .tryRefuse
  | drop n => cases h; exact .tryDrop

theorem Deed.of_pop {o : Option TaskId} (h : s.pop c o = some turn) :
    Deed s t th c (.pop o) turn := by
  cases o with
  | none =>
    simp only [State.pop, Backlog.take?] at h
    cases hk : s.backlog.tasks with
    | nil => rw [hk] at h; cases h; exact .popNone hk
    | cons k ks => rw [hk] at h; cases h; exact .pop hk
  | some k => cases h; exact .popWake

theorem Deed.of_clear {p : Clearing} (h : s.clear p = some turn) :
    Deed s t th c (.clear p) turn := by
  simp only [State.clear] at h
  split at h
  · rename_i hp; cases h; exact .clear (sweep_iff.1 hp)
  · rename_i hp; cases h; exact .clearEnd (sweep_iff.1 hp)

theorem Deed.of_setCapacity {n : Nat} {p : CapacityPoint} (h : s.setCapacity n p = some turn) :
    Deed s t th c (.setCapacity n p) turn := by
  cases p with
  | warn => cases h; exact .capacityWarn
  | set => cases h; exact .capacitySet
  | wake => cases h; exact .capacityWake

theorem Deed.of_resize {n : Nat} {p : ResizePoint} (h : s.resize t c n p = some turn) :
    Deed s t th c (.resize n p) turn := by
  cases p with
  | enter =>
    simp only [State.resize] at h
    split at h
    · cases h
    rename_i hl
    have hl : s.lock = none := by simpa using hl
    split at h
    · rename_i hs; cases h; exact .resizeStopped hl hs
    rename_i hs
    have hs : s.isStopped = false := by simpa using hs
    split at h
    · rename_i hn; cases h; exact .resizeShrink hl hs hn
    rename_i hn
    split at h
    · rename_i ho; cases h; exact .resizeOverflow hl hs (by omega) ho
    · rename_i ho; cases h; exact .resizeGrow hl hs (by omega) (by omega)
  | spawn i start =>
    simp only [State.resize] at h
    split at h
    · rename_i hz; cases h; exact .spawnNul hz
    rename_i hz
    have hz := Bool.not_eq_true _ ▸ hz
    split at h
    · rename_i hg; cases h; exact .spawn hz hg
    · rename_i hg; cases h; exact .spawnRefused hz (by simpa using hg)
  | tell us start =>
    cases us with
    | nil => cases h; exact .resizeTold
    | cons u us => cases h; exact .resizeTell
  | wake start => cases h; exact .resizeWake
  | close start =>
    have hc : turn = ⟨{ s with
        lock := none
        log := if start = n then s.log else s.log ++ [.resized start n] }, [], some .done⟩ := by
      by_cases hn : start = n <;> simp only [State.resize, hn, if_true, if_false] at h ⊢ <;>
        cases h <;> rfl
    rw [hc]
    exact .resizeClose

theorem join_log {u : ThreadId} {s' : State B V} (h : s.join t u = some s') :
    { s with log := s'.log } = s' := by
  simp only [State.join] at h
  split at h
  · cases h; rfl
  split at h
  · cases h; rfl
  split at h
  · cases h
  split at h <;> cases h <;> rfl

theorem Deed.of_stop {g : Bool} {p : StopPoint} (h : s.stop t g p = some turn) :
    Deed s t th c (.stop g p) turn := by
  cases p with
  | enter =>
    simp only [State.stop] at h
    split at h
    · cases h
    rename_i hl
    have hl : s.lock = none := by simpa using hl
    cases g with
    | true =>
      simp only [if_true] at h
      split at h
      · rename_i hs; cases h; exact .gracefulAgain hl hs
      · rename_i hs; cases h; exact .graceful hl (by simpa using hs)
    | false =>
      simp only [Bool.false_eq_true, if_false] at h
      split at h
      · rename_i hs; cases h; exact .forcedAgain hl hs
      · rename_i hs; cases h; exact .forced hl (by simpa using hs)
  | tell us =>
    cases us with
    | nil => cases h; exact .stopTold
    | cons u us => cases h; exact .stopTell
  | purge p =>
    simp only [State.stop] at h
    split at h
    · rename_i hp; cases h; exact .purge (sweep_iff.1 hp)
    · rename_i hp; cases h; exact .purgeEnd (sweep_iff.1 hp)
  | wake => cases h; exact .stopWake
  | disband => cases h; exact .disband
  | join us n =>
    cases us with
    | nil => cases h; exact .joined
    | cons u us =>
      simp only [State.stop] at h
      split at h
      · cases h
      · rename_i s' hj
        cases h
        exact join_log hj ▸ .join (join_log hj ▸ hj)
  | inspect n =>
    simp only [State.stop, List.isEmpty_iff] at h
    by_cases hk : s.backlog.tasks = []
    · rw [if_pos hk] at h; cases h; exact .inspectNone hk
    · rw [if_neg hk] at h; cases h; exact .inspectLeft hk
  | sweep p n =>
    simp only [State.stop] at h
    split at h
    · rename_i hp; cases h; exact .sweep (sweep_iff.1 hp)
    · rename_i hp; cases h; exact .sweepEnd (sweep_iff.1 hp)
  | close n m => cases h; exact .stopClose

theorem Deed.of_reserve {n : Nat} (h : s.reserve n = some turn) :
    Deed s t th c (.reserve n) turn := by
  simp only [State.reserve] at h
  split at h
  · rename_i hn; cases h; exact .reserveOverflow hn
  · rename_i hn; cases h; exact .reserve (by omega)

theorem Deed.of_build {n : Nat} (h : s.build n th.reply = some turn) :
    Deed s t th c (.build n) turn := by
  unfold State.build at h
  split at h
  · rename_i hr; cases h; exact .buildRefused hr
  · rename_i hr; cases h; exact .buildPanicked hr
  · rename_i hr hp; cases h; exact .build hr hp

theorem Deed.of_teardown {r : Reply V} (h : s.teardown r = some turn) :
    Deed s t th c (.teardown r) turn := by
  simp only [State.teardown, State.release] at h
  split at h
  · rename_i hs; cases h; exact .teardownLast hs
  · rename_i hs; cases h; exact .teardown (by omega)

theorem Deed.of_ask {q : Query} (h : s.ask q = some turn) : Deed s t th c (.ask q) turn := by
  obtain ⟨r, rfl⟩ : ∃ r, turn = ⟨s, [], some r⟩ := by
    cases q <;> simp only [State.ask] at h <;> (try split at h) <;> cases h <;> exact ⟨_, rfl⟩
  exact .ask h

theorem Deed.of_measure {g : Gauge} {m : Metrics} (h : s.measure m g = some turn) :
    Deed s t th c (.measure g m) turn := by
  cases g with
  | roster =>
    simp only [State.measure] at h
    split at h
    · cases h
    · rename_i hl
      cases h
      exact .measure (by simp only [State.measure, if_neg hl, Turn.go])
  | submitted => cases h; exact .measured rfl
  | _ => cases h; exact .measure rfl

theorem pollJob_jobs {k : TaskId} {s' : State B V} {o : Poll (TaskResult V)}
    (h : s.pollJob k = (s', o)) : { s with jobs := s'.jobs } = s' := by
  simp only [State.pollJob] at h
  split at h <;> cases h <;> rfl

theorem receive_jobs {k : TaskId} {how : Asking} (h : s.receive k how = some turn) :
    ∃ js r, turn = ⟨{ s with jobs := js }, [], some r⟩ := by
  cases how with
  | once =>
    simp only [State.receive] at h
    split at h
    · cases h
    · cases h; exact ⟨_, _, rfl⟩
  | _ =>
    simp only [State.receive] at h
    split at h <;> rename_i hp <;> cases h <;> exact ⟨_, _, by rw [pollJob_jobs hp]⟩

theorem Deed.of_receive {k : TaskId} {how : Asking} (h : s.receive k how = some turn) :
    Deed s t th c (.receive k how) turn := by
  obtain ⟨js, r, rfl⟩ := receive_jobs h
  exact .receive h

theorem pollSlots_jobs {slots slots' : List (Slot V)} {s s' : State B V}
    (h : s.pollSlots slots = some (s', slots')) : { s with jobs := s'.jobs } = s' := by
  induction slots generalizing s slots' with
  | nil => cases h; rfl
  | cons slot slots ih =>
    cases slot with
    | got r =>
      simp only [State.pollSlots, Option.bind_eq_bind, Option.bind_eq_some_iff] at h
      obtain ⟨⟨s₁, slots₁⟩, h₁, h⟩ := h
      cases h
      exact ih h₁
    | waiting k =>
      simp only [State.pollSlots] at h
      split at h
      · cases h
      all_goals
        rename_i hp
        simp only [Option.bind_eq_bind, Option.bind_eq_some_iff] at h
        obtain ⟨⟨s₂, slots₂⟩, h₂, h⟩ := h
        cases h
        have := ih h₂
        rw [← pollJob_jobs hp] at this
        exact this

theorem Deed.of_joinAll {slots : List (Slot V)} (h : s.joinAll slots = some turn) :
    Deed s t th c (.joinAll slots) turn := by
  simp only [State.joinAll] at h
  split at h
  · rename_i rs hs; cases h; exact .joinedAll hs
  rename_i hs
  split at h
  · cases h
  rename_i hw
  have hw := Bool.not_eq_true _ ▸ hw
  split at h
  · rename_i hp; cases h; exact .joinMisuse hs hw hp
  · rename_i hp
    cases h
    exact pollSlots_jobs hp ▸ .joinAll hs hw (pollSlots_jobs hp ▸ hp)

theorem Deed.of_act {a : Activity V} (h : s.act t th c a = some turn) : Deed s t th c a turn := by
  cases a with
  | work p =>
    simp only [State.act] at h
    cases hb : th.badge with
    | none => rw [hb] at h; cases h
    | some b => rw [hb] at h; exact .of_work hb h
  | task k w p => exact .of_runTask h
  | inline => cases h; exact .inline
  | submit k p => exact .of_submit h
  | trySubmit k p => exact .of_trySubmit h
  | pop o => exact .of_pop h
  | clear p => exact .of_clear h
  | setCapacity n p => exact .of_setCapacity h
  | resize n p => exact .of_resize h
  | stop g p => exact .of_stop h
  | reserve n => exact .of_reserve h
  | build n => exact .of_build h
  | teardown r => exact .of_teardown h
  | discard ks r =>
    cases ks with
    | nil => cases h; exact .discarded
    | cons k ks => cases h; exact .discard
  | ask q => exact .of_ask h
  | measure g m => exact .of_measure h
  | cancel k => cases h; exact .cancel
  | isCancelled k => cases h; exact .isCancelled
  | receive k how => exact .of_receive h
  | joinAll slots => exact .of_joinAll h

theorem Deed.act {a : Activity V} (h : Deed s t th c a turn) : s.act t th c a = some turn := by
  cases h with
  | fetch hb hk | fetchNone hb hk | await hb hk =>
    simp only [State.act, State.work, Backlog.take?, hb, hk, Turn.go]
  | fetched hb | check hb | mark hb | clock hb | report hb | awaited hb | unmark hb
  | unmarkNone hb => simp only [State.act, State.work, hb, Turn.go]
  | @shift _ _ _ _ r hb hm => cases r <;> simp only [State.act, State.work, hb, hm, Turn.go]
  | awaitStop hb hk hd => simp [State.act, State.work, Backlog.take?, hb, hk, hd, Turn.go]
  | awaitSleep hb hk hd ht =>
    simp [State.act, State.work, Backlog.take?, hb, hk, hd, ht, Turn.go]
  | leave hb hs => simp [State.act, State.work, State.release, hb, Nat.not_le.2 hs, Turn.go]
  | leaveLast hb hs =>
    simp [State.act, State.work, State.release, Backlog.drain, hb, hs, Turn.go]
  | inspect hj => simp only [State.act, State.runTask, hj, Turn.go]
  | submitPush hr =>
    simp [State.act, State.submit, Backlog.push?, Backlog.hasRoom, hr, Turn.go]
  | submitSleep hr =>
    simp [State.act, State.submit, Backlog.push?, Backlog.hasRoom, Nat.not_lt.2 hr, Turn.go]
  | tryPush hr =>
    simp [State.act, State.trySubmit, Backlog.push?, Backlog.hasRoom, hr, Turn.go]
  | tryFull hr =>
    simp [State.act, State.trySubmit, Backlog.push?, Backlog.hasRoom, Nat.not_lt.2 hr, Turn.go]
  | pop hk | popNone hk => simp only [State.act, State.pop, Backlog.take?, hk, Turn.go, Turn.answer]
  | clear hp | clearEnd hp =>
    simp only [State.act, State.clear, sweep_iff.2 hp, Turn.go, Turn.answer]
  | resizeStopped hl hs => simp [State.act, State.resize, hl, hs, Turn.answer]
  | resizeShrink hl hs hn => simp [State.act, State.resize, hl, hs, hn, Turn.go]
  | resizeOverflow hl hs hn ho =>
    simp [State.act, State.resize, hl, hs, Nat.not_lt.2 hn, ho, Turn.answer]
  | resizeGrow hl hs hn ho =>
    simp [State.act, State.resize, hl, hs, Nat.not_lt.2 hn, Nat.not_lt.2 ho, Turn.go]
  | spawnNul hz => simp only [State.act, State.resize, hz, if_true, Turn.answer]
  | @resizeClose n start =>
    by_cases hn : start = n <;>
      simp only [State.act, State.resize, hn, if_true, if_false, State.record, Turn.answer]
  | spawn hz hg | spawnRefused hz hg =>
    simp only [State.act, State.resize, hz, hg, if_true, Bool.false_eq_true, if_false, Turn.go,
      Turn.answer]
  | gracefulAgain hl hs | graceful hl hs =>
    simp [State.act, State.stop, hl, hs, Turn.go, Turn.answer]
  | forcedAgain hl hs | forced hl hs => simp [State.act, State.stop, hl, hs, Turn.go, Turn.answer]
  | purge hp | purgeEnd hp | sweep hp | sweepEnd hp =>
    simp only [State.act, State.stop, sweep_iff.2 hp, Turn.go]
  | join hj => simp only [State.act, State.stop, hj, Turn.go]
  | inspectNone hk => simp [State.act, State.stop, hk, Turn.go]
  | inspectLeft hk => simp [State.act, State.stop, hk, Turn.go]
  | reserveOverflow hn => simp [State.act, State.reserve, hn, Turn.go]
  | reserve hn => simp [State.act, State.reserve, Nat.not_lt.2 hn, Turn.go]
  | buildRefused hr | buildPanicked hr =>
    simp only [State.act, State.build, hr, Activity.ending, Turn.go]
  | build hr hp => simp only [State.act, State.build, Turn.answer]
  | teardown hs => simp [State.act, State.teardown, State.release, Nat.not_le.2 hs, Turn.go]
  | teardownLast hs =>
    simp [State.act, State.teardown, State.release, Backlog.drain, hs, Turn.go]
  | ask hq => exact hq
  | measure hg | measured hg => exact hg
  | receive hr => exact hr
  | joinedAll hs => simp only [State.act, State.joinAll, hs, Turn.answer]
  | joinMisuse hs hw hp =>
    simp only [State.act, State.joinAll, hs, hw, hp, Bool.false_eq_true, if_false, Turn.answer]
  | joinAll hs hw hp =>
    simp only [State.act, State.joinAll, hs, hw, hp, Bool.false_eq_true, if_false, Turn.go]
  | _ => rfl

/-- **The table says what a step is**, no more and no less. -/
theorem act_iff {a : Activity V} : s.act t th c a = some turn ↔ Deed s t th c a turn :=
  ⟨Deed.of_act, Deed.act⟩

end
end WorkerPool
