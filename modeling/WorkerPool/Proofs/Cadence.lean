/-
  The cadence of the reports.

  The monitor keeps two marks of time.  That of the last change follows the clock,
  also back; that of the last report only goes on.  One call may book time, put a
  count on record and give the histogram away, and what it books goes into the
  report it makes.  The clock may jump as it likes.

  * `Monitor.perform_due`: a call reports if its reading is at least the interval
    after the last report, and otherwise not;
  * `Monitor.reports_apart`: so the reports are at least the interval apart;
  * `bookings` is what several calls book, each the time of the count that it puts
    an end to; `Divided`: the reports divide this among them;
  * `Monitor.cadence`: all of this, for every list of calls.
-/
import WorkerPool.Proofs.Periods

namespace WorkerPool.Idle

/-! ## Bookings -/

/-- Whether a call says how many workers are idle; the others only look. -/
def Act.tells : Act → Bool
  | enter | leave | set _ => true
  | dump | nothing => false

/-- What several calls book: each one that changes the count on record books the time
    since the last change at the count that held until then. -/
def bookings (since : Int) (idle : Nat) : List Notice → List (Nat × Nat)
  | [] => []
  | n :: ns =>
    if n.act.recorded idle = idle then bookings since idle ns
    else (idle, elapsed since n.time) :: bookings n.time (n.act.recorded idle) ns

/-- Several bookings one after another. -/
def Histogram.addAll (h : Histogram) (bs : List (Nat × Nat)) : Histogram :=
  bs.foldl (fun h b => h.add b.1 b.2) h

/-- The reports divide among them what several calls book.  Each holds what was booked
    since the one before it, the booking of the call that makes it included; `last`
    holds the rest.  The first one holds the histogram `h` too, that of before. -/
inductive Divided : Histogram → Int → Nat → List Notice → List Report → Histogram → Prop where
  | rest {h since idle ns} : Divided h since idle ns [] (h.addAll (bookings since idle ns))
  | report {h since idle ns n ns' rs last}
      (hrest : Divided .empty (lastChange since idle (ns ++ [n])) (recorded idle (ns ++ [n]))
        ns' rs last) :
      Divided h since idle (ns ++ n :: ns')
        (⟨n.time, h.addAll (bookings since idle (ns ++ [n]))⟩ :: rs) last

/-- When the last report was made, `since` if there was none. -/
def lastReport (since : Int) : List Report → Int
  | [] => since
  | r :: rs => lastReport r.time rs

section
variable {since : Int} {idle : Nat} {n : Notice} {ns : List Notice} {rs : List Report}
  {h last : Histogram} {r : Report}

/-- A call whose booking is in the histogram already goes before the others. -/
theorem Divided.cons
    (hd : Divided (h.addAll (bookings since idle [n])) (lastChange since idle [n])
      (n.act.recorded idle) ns rs last) :
    Divided h since idle (n :: ns) rs last := by
  have hbookings (ns : List Notice) :
      (h.addAll (bookings since idle [n])).addAll
          (bookings (lastChange since idle [n]) (n.act.recorded idle) ns) =
        h.addAll (bookings since idle (n :: ns)) := by
    by_cases hn : n.act.recorded idle = idle <;>
      simp [bookings, lastChange, hn, Histogram.addAll]
  generalize hh : h.addAll (bookings since idle [n]) = h₁ at hd hbookings
  generalize hs : lastChange since idle [n] = since₁ at hd hbookings
  generalize hi : n.act.recorded idle = idle₁ at hd hbookings
  cases hd with
  | rest =>
    rw [hbookings]
    exact .rest
  | @report _ _ _ ns n' ns' rs last hrest =>
    rw [hbookings, ← List.cons_append]
    refine .report ?_
    have hchange : lastChange since idle (n :: ns ++ [n']) =
        lastChange since₁ idle₁ (ns ++ [n']) := by
      rw [← hs, ← hi]
      rfl
    have hrecorded : recorded idle (n :: ns ++ [n']) = recorded idle₁ (ns ++ [n']) := by
      rw [← hi]
      rfl
    rwa [hchange, hrecorded]

end

namespace Monitor

variable {m : Monitor} {n : Notice} {ns : List Notice} {r : Histogram}

/-! ## One call -/

/-- A call at which the monitor makes a report: it says how many workers are idle, and its
    reading is at least the interval after the last report. -/
def IsDueAt (m : Monitor) (n : Notice) : Prop :=
  n.act.tells = true ∧ (m.interval = 0 ∨ m.reportedAt + m.interval ≤ n.time)

theorem book_histogram (m : Monitor) (n : Notice) :
    (m.book (n.act.recorded m.current) n.time).histogram =
      m.histogram.addAll (bookings m.changedAt m.current [n]) := by
  by_cases hn : n.act.recorded m.current = m.current <;>
    simp [book, bookings, Histogram.addAll, hn]

theorem book_reportedAt {idle : Nat} {now : Int} : (m.book idle now).reportedAt = m.reportedAt := by
  simp only [book]
  split <;> rfl

theorem book_isDue (m : Monitor) (idle : Nat) (now : Int) :
    (m.book idle now).isDue now = true ↔ m.interval = 0 ∨ m.reportedAt + m.interval ≤ now := by
  have hinterval : (m.book idle now).interval = m.interval := by
    simp only [book]
    split <;> rfl
  simp only [isDue, elapsed, book_reportedAt, hinterval, decide_eq_true_eq]
  omega

theorem set_due (m : Monitor) (idle : Nat) (now : Int) :
    ((m.interval = 0 ∨ m.reportedAt + m.interval ≤ now) ∧
      m.set idle now = ({ m.book idle now with reportedAt := now, histogram := .empty },
        some (m.book idle now).histogram)) ∨
    (¬ (m.interval = 0 ∨ m.reportedAt + m.interval ≤ now) ∧
      m.set idle now = (m.book idle now, none)) := by
  rw [← m.book_isDue idle, set]
  split
  · rename_i hdue
    exact .inl ⟨hdue, rfl⟩
  · rename_i hdue
    exact .inr ⟨hdue, rfl⟩

/-- **A call reports if its reading is at least the interval after the last report**,
    and otherwise not.  A report takes along what was booked, by this call too, and the
    histogram is empty after it. -/
theorem perform_due (m : Monitor) (n : Notice) :
    (m.IsDueAt n ∧ (m.perform n.time n.act).2.1 =
        some (m.histogram.addAll (bookings m.changedAt m.current [n])) ∧
      (m.perform n.time n.act).1.reportedAt = n.time ∧
      (m.perform n.time n.act).1.histogram = .empty) ∨
    (¬ m.IsDueAt n ∧ (m.perform n.time n.act).2.1 = none ∧
      (m.perform n.time n.act).1.reportedAt = m.reportedAt ∧
      (m.perform n.time n.act).1.histogram =
        m.histogram.addAll (bookings m.changedAt m.current [n])) := by
  rw [← book_histogram]
  obtain ⟨now, a⟩ := n
  cases a with
  | enter | leave | set =>
    simp only [perform, enter, leave, IsDueAt, Act.tells, true_and, Act.recorded]
    obtain ⟨hdue, hset⟩ | ⟨hdue, hset⟩ := m.set_due _ now
    · rw [hset]
      exact .inl ⟨hdue, rfl, rfl, rfl⟩
    · rw [hset]
      exact .inr ⟨hdue, rfl, book_reportedAt, rfl⟩
  | dump | nothing =>
    have hbook : m.book m.current now = m := if_pos rfl
    exact .inr ⟨fun hdue => Bool.false_ne_true hdue.1, rfl, rfl, by rw [Act.recorded, hbook]; rfl⟩

/-! ## All calls -/

theorem play_interval : (m.play ns).1.interval = m.interval := by
  induction ns generalizing m with
  | nil => rfl
  | cons n ns ih => rw [play_cons, ih, perform_interval]

/-- The mark of the last report is where the last report has put it. -/
theorem play_reportedAt : (m.play ns).1.reportedAt = lastReport m.reportedAt (m.reports ns) := by
  induction ns generalizing m with
  | nil => rfl
  | cons n ns ih =>
    rw [play_cons, ih, reports]
    obtain ⟨-, hreport, hmark, -⟩ | ⟨-, hreport, hmark, -⟩ := m.perform_due n <;>
      rw [hreport, hmark] <;> rfl

/-- **The reports divide what is booked.** -/
theorem divided : Divided m.histogram m.changedAt m.current ns (m.reports ns)
    (m.play ns).1.histogram := by
  induction ns generalizing m with
  | nil => exact .rest
  | cons n ns ih =>
    have hrest := ih (m := (m.perform n.time n.act).1)
    have hchange : (m.perform n.time n.act).1.changedAt = lastChange m.changedAt m.current [n] :=
      perform_changedAt m n.time n.act
    rw [perform_current, hchange] at hrest
    rw [play_cons, reports]
    obtain ⟨-, hreport, -, hempty⟩ | ⟨-, hreport, -, hbooked⟩ := m.perform_due n
    · rw [hempty] at hrest
      rw [hreport]
      show Divided _ _ _ ([] ++ n :: ns) _ _
      exact .report hrest
    · rw [hbooked] at hrest
      rw [hreport]
      exact hrest.cons

/-- **The reports are at least the interval apart**, and the first one is as long after the
    mark that the monitor had. -/
theorem reports_apart (hpos : 0 < m.interval) :
    (m.reportedAt :: (m.reports ns).map Report.time).Pairwise
      fun (a b : Int) => a + m.interval ≤ b := by
  induction ns generalizing m with
  | nil => exact List.pairwise_singleton _ _
  | cons n ns ih =>
    have hinterval := perform_interval m n.time n.act
    have hrest := ih (m := (m.perform n.time n.act).1) (by rwa [hinterval])
    rw [hinterval] at hrest
    rw [reports]
    obtain ⟨hdue, hreport, hmark, -⟩ | ⟨-, hreport, hmark, -⟩ := m.perform_due n
    · rw [hmark] at hrest
      rw [hreport]
      have hle := hdue.2.resolve_left (Nat.ne_of_gt hpos)
      refine List.pairwise_cons.2 ⟨List.forall_mem_cons.2 ⟨hle, fun time htime => ?_⟩, hrest⟩
      have hlater := (List.pairwise_cons.1 hrest).1 time htime
      omega
    · rw [hmark] at hrest
      rw [hreport]
      exact hrest

/-- **The cadence of the reports**, for every list of calls and under any clock.  A call
    that says how many workers are idle makes a report exactly if its reading is at least
    the interval after the last one, after the creation of the monitor for the first; with
    an interval of zero each does.  After a report the histogram is empty.  If the interval
    is positive, the reports go on in time and are at least the interval apart, whatever
    the clock does.  They divide what is booked: each holds what was booked since the one
    before it, the time that its own call has put an end to included, and no later one
    holds any of this.  The count on record and the time of the last change are those that
    the calls say, whether or not they report. -/
theorem cadence (interval : Nat) (created : Int) (ns : List Notice) :
    (∀ n : Notice,
      ((((start interval created).play ns).1.perform n.time n.act).2.1.isSome = true ↔
        n.act.tells = true ∧ (interval = 0 ∨
          lastReport created ((start interval created).reports ns) + interval ≤ n.time)) ∧
      ((((start interval created).play ns).1.perform n.time n.act).2.1.isSome = true →
        (((start interval created).play ns).1.perform n.time n.act).1.histogram = .empty)) ∧
    (0 < interval → (created :: ((start interval created).reports ns).map Report.time).Pairwise
      fun (a b : Int) => a < b ∧ a + interval ≤ b) ∧
    Divided .empty created 0 ns ((start interval created).reports ns)
      ((start interval created).play ns).1.histogram ∧
    ((start interval created).play ns).1.current = recorded 0 ns ∧
    ((start interval created).play ns).1.changedAt = lastChange created 0 ns := by
  have hinterval : ((start interval created).play ns).1.interval = interval := play_interval
  have hmark : ((start interval created).play ns).1.reportedAt =
      lastReport created ((start interval created).reports ns) := play_reportedAt
  refine ⟨fun n => ?_, fun hpos => ?_, divided (m := start interval created), play_current,
    play_changedAt⟩
  · have hdue := ((start interval created).play ns).1.perform_due n
    rw [IsDueAt, hinterval, hmark] at hdue
    obtain ⟨hdue, hreport, -, hempty⟩ | ⟨hdue, hreport, -⟩ := hdue
    · rw [hreport]
      exact ⟨iff_of_true rfl hdue, fun _ => hempty⟩
    · rw [hreport]
      exact ⟨iff_of_false Bool.false_ne_true hdue, fun h => absurd h Bool.false_ne_true⟩
  · have hapart : (created :: ((start interval created).reports ns).map Report.time).Pairwise
        fun (a b : Int) => a + interval ≤ b := reports_apart (m := start interval created) hpos
    refine hapart.imp fun {a b : Int} hle => ?_
    omega

/-- The clock goes back twice, once behind the creation; the second report is made by a
    call that changes nothing. -/
def jumpingCalls : List Notice :=
  [⟨4, .enter⟩, ⟨12, .enter⟩, ⟨-7, .leave⟩, ⟨3, .set 5⟩, ⟨21, .leave⟩, ⟨22, .set 4⟩, ⟨15, .enter⟩]

theorem cadence_jumpingCalls : 0 < 10 ∧
    ((start 10 0).reports jumpingCalls).map (fun r => (r.time, r.histogram.total)) =
      [(12, 12), (22, 28)] ∧
    (0 :: ((start 10 0).reports jumpingCalls).map Report.time).Pairwise
      (fun (a b : Int) => a < b ∧ a + 10 ≤ b) ∧
    bookings 0 0 jumpingCalls = [(0, 4), (1, 8), (2, 0), (1, 10), (5, 18), (4, 0)] ∧
    Divided .empty 0 0 jumpingCalls ((start 10 0).reports jumpingCalls)
      ((start 10 0).play jumpingCalls).1.histogram := by
  obtain ⟨-, hapart, hdivided, -⟩ := cadence 10 0 jumpingCalls
  exact ⟨by decide, by decide, hapart (by decide), by decide, hdivided⟩

end Monitor

end WorkerPool.Idle
