/-
  The idle histogram as a profile of time.

  A monitor is told by and by how many workers are idle, books the time in
  between and gives its histogram away now and then.  Times are instants, and
  the time during which something holds is the number of instants at which it
  does.

  * `Monitor.play` is a list of calls, with the reports they make;
    `recordedAt` is the count that is on record at an instant, `lastChange`
    the instant since which it has stood;
  * `Reads`: what can be read off a histogram and adds up, such as a bucket or
    the total;
  * `Monitor.play_reads`: no time is lost by a report, and none is counted
    twice;
  * `Monitor.profile`: the reports and the histogram together say for how long
    the count was in each bucket.
-/
import Mathlib
import WorkerPool.Idle.Rehearsal

namespace WorkerPool.Idle

/-! ## Calls -/

/-- A call of the monitor, and the clock reading it is made at. -/
structure Notice where
  time : Int
  act : Act

/-- The count that a call puts on record in the place of `idle`, without bound as in
    `Monitor.enter`. -/
def Act.recorded (idle : Nat) : Act → Nat
  | enter => idle + 1
  | leave => idle - 1
  | set n => n
  | dump | nothing => idle

/-- The count on record after several calls. -/
def recorded (idle : Nat) (ns : List Notice) : Nat :=
  ns.foldl (fun idle n => n.act.recorded idle) idle

/-- The count on record at an instant, after the calls made until then. -/
def recordedAt (idle : Nat) (ns : List Notice) (instant : Int) : Nat :=
  recorded idle (ns.filter (·.time ≤ instant))

/-- When the count was changed the last time, at `since` if it was not. -/
def lastChange (since : Int) (idle : Nat) : List Notice → Int
  | [] => since
  | n :: ns =>
    lastChange (if n.act.recorded idle = idle then since else n.time) (n.act.recorded idle) ns

/-- For how long the count on record was one of those of `P`, from `since` to
    its last change. -/
def timeHeld (P : Nat → Prop) [DecidablePred P] (since : Int) (idle : Nat) (ns : List Notice) :
    Nat :=
  Nat.count (fun i => P (recordedAt idle ns (since + i))) (elapsed since (lastChange since idle ns))

/-- The calls come one after another, the first not before `since`. -/
def Orderly (since : Int) (ns : List Notice) : Prop :=
  (since :: ns.map Notice.time).Pairwise (· ≤ ·)

/-- Several calls one after another: the monitor they leave behind, and the
    reports they make. -/
def Monitor.play (m : Monitor) : List Notice → Monitor × List Histogram
  | [] => (m, [])
  | n :: ns =>
    let (m, report, _) := m.perform n.time n.act
    let (m, reports) := m.play ns
    (m, report.toList ++ reports)

section
variable {since instant : Int} {idle : Nat} {n : Notice} {ns : List Notice} {P : Nat → Prop}
  [DecidablePred P]

theorem Orderly.le (h : Orderly since ns) : ∀ n ∈ ns, since ≤ n.time := fun _ hn =>
  (List.pairwise_cons.1 h).1 _ (List.mem_map_of_mem hn)

theorem Orderly.tail (h : Orderly since (n :: ns)) : Orderly n.time ns :=
  (List.pairwise_cons.1 h).2

theorem Orderly.skip (h : Orderly since (n :: ns)) : Orderly since ns :=
  h.sublist ((List.sublist_cons_self _ _).cons_cons _)

/-! ### The count on record -/

/-- Before the first call the old count is on record. -/
theorem recordedAt_of_lt (h : ∀ n ∈ ns, instant < n.time) : recordedAt idle ns instant = idle := by
  have hnone : ns.filter (·.time ≤ instant) = [] := by
    refine List.filter_eq_nil_iff.2 fun n hn => ?_
    simpa using h n hn
  rw [recordedAt, hnone]
  rfl

/-- After the first call the others go on from what it has put on record. -/
theorem recordedAt_of_le (h : n.time ≤ instant) :
    recordedAt idle (n :: ns) instant = recordedAt (n.act.recorded idle) ns instant := by
  simp [recordedAt, recorded, h]

/-- A call that changes nothing might not have been made. -/
theorem recordedAt_of_same (h : Orderly since (n :: ns)) (hn : n.act.recorded idle = idle) :
    recordedAt idle (n :: ns) instant = recordedAt idle ns instant := by
  by_cases hle : n.time ≤ instant
  · rw [recordedAt_of_le hle, hn]
  · have hlt := Int.not_le.1 hle
    have hrest : ∀ n' ∈ ns, instant < n'.time := fun n' hn' => hlt.trans_le (h.tail.le n' hn')
    rw [recordedAt_of_lt (List.forall_mem_cons.2 ⟨hlt, hrest⟩), recordedAt_of_lt hrest]

theorem le_lastChange (h : Orderly since ns) (idle : Nat) :
    since ≤ lastChange since idle ns := by
  induction ns generalizing since idle with
  | nil => exact Int.le_refl _
  | cons n ns ih =>
    rw [lastChange]
    split
    · exact ih h.skip _
    · exact (h.le n List.mem_cons_self).trans (ih h.tail _)

/-! ### The time held -/

@[simp] theorem timeHeld_nil : timeHeld P since idle [] = 0 := by
  simp [timeHeld, lastChange, elapsed]

/-- A call that changes nothing takes no time. -/
theorem timeHeld_of_same (h : Orderly since (n :: ns)) (hn : n.act.recorded idle = idle) :
    timeHeld P since idle (n :: ns) = timeHeld P since idle ns := by
  simp only [timeHeld, lastChange, hn, if_true, recordedAt_of_same h hn]

/-- Until the count is changed the old one is held, then the others. -/
theorem timeHeld_of_ne (h : Orderly since (n :: ns)) (hn : n.act.recorded idle ≠ idle) :
    timeHeld P since idle (n :: ns) =
      (if P idle then elapsed since n.time else 0) +
        timeHeld P n.time (n.act.recorded idle) ns := by
  have hfirst := h.le n List.mem_cons_self
  have hlast := le_lastChange h.tail (n.act.recorded idle)
  have hsplit : elapsed since (lastChange n.time (n.act.recorded idle) ns) =
      elapsed since n.time + elapsed n.time (lastChange n.time (n.act.recorded idle) ns) := by
    simp only [elapsed]
    omega
  have hold : ∀ i < elapsed since n.time, recordedAt idle (n :: ns) (since + i) = idle := by
    intro i hi
    have hlt : since + i < n.time := by simp only [elapsed] at hi; omega
    exact recordedAt_of_lt (List.forall_mem_cons.2
      ⟨hlt, fun n' hn' => hlt.trans_le (h.tail.le n' hn')⟩)
  have hnew : ∀ i : Nat, recordedAt idle (n :: ns) (since + ↑(elapsed since n.time + i)) =
      recordedAt (n.act.recorded idle) ns (n.time + i) := by
    intro i
    have hshift : since + ↑(elapsed since n.time + i) = n.time + i := by
      simp only [elapsed]
      omega
    rw [hshift, recordedAt_of_le (by omega)]
  simp only [timeHeld, lastChange, if_neg hn, hsplit, Nat.count_add, hnew]
  congr 1
  split
  · rename_i hP
    exact Nat.count_of_forall fun i hi => by rwa [hold i hi]
  · rename_i hP
    exact Nat.count_of_forall_not fun i hi => by rwa [hold i hi]

/-- From `since` to the last change some count or other was on record. -/
theorem timeHeld_true :
    timeHeld (fun _ => True) since idle ns = elapsed since (lastChange since idle ns) :=
  Nat.count_true _

end

/-! ## Readings -/

/-- A reading of a histogram that adds up the times at some of the counts. -/
structure Reads (f : Histogram → Nat) (P : Nat → Prop) [DecidablePred P] : Prop where
  empty : f .empty = 0
  add : ∀ h idle time, f (h.add idle time) = f h + if P idle then time else 0

theorem bucketOf_eq_iff {idle : Nat} {b : Fin bucketCount} : bucketOf idle = b ↔ min idle 63 = b :=
  Fin.ext_iff

theorem buckets_add (h : Histogram) (b : Fin bucketCount) (idle time : Nat) :
    (h.add idle time).buckets[b] = h.buckets[b] + if bucketOf idle = b then time else 0 := by
  by_cases hb : bucketOf idle = b
  · simp [Histogram.add, hb]
  · have hne : (bucketOf idle).val ≠ b.val := fun h => hb (Fin.ext h)
    simp [Histogram.add, hb, hne]

/-- The counts of sixty-three and more share the last bucket. -/
theorem reads_bucket (b : Fin bucketCount) : Reads (·.buckets[b]) (min · 63 = b.val) where
  empty := by simp [Histogram.empty]
  add h idle time := by simp only [buckets_add, bucketOf_eq_iff]

theorem reads_total : Reads (·.total) fun _ => True where
  empty := rfl
  add _ _ _ := by simp [Histogram.add]

namespace Monitor

variable {m : Monitor} {idle : Nat} {now : Int} {a : Act} {n : Notice} {ns : List Notice}
  {f : Histogram → Nat} {P : Nat → Prop} [DecidablePred P]

/-! ### One call -/

theorem set_current : (m.set idle now).1.current = idle := by
  simp only [set, book]
  split <;> split <;> simp_all

theorem set_changedAt :
    (m.set idle now).1.changedAt = if idle = m.current then m.changedAt else now := by
  simp only [set, book]
  split <;> split <;> simp_all

/-- A report takes along what was booked, and nothing else is lost. -/
theorem set_reads (hf : Reads f P) :
    ((m.set idle now).2.toList.map f).sum + f (m.set idle now).1.histogram =
      f m.histogram +
        if idle = m.current then 0 else if P m.current then elapsed m.changedAt now else 0 := by
  have hbook : f (m.book idle now).histogram = f m.histogram +
      if idle = m.current then 0 else if P m.current then elapsed m.changedAt now else 0 := by
    simp only [book]
    split
    · rfl
    · exact hf.add _ _ _
  rw [← hbook, set]
  split <;> simp [hf.empty]

theorem perform_current (m : Monitor) (now : Int) (a : Act) :
    (m.perform now a).1.current = a.recorded m.current := by
  cases a with
  | enter | leave | set => exact set_current
  | dump | nothing => rfl

theorem perform_changedAt (m : Monitor) (now : Int) (a : Act) : (m.perform now a).1.changedAt =
    if a.recorded m.current = m.current then m.changedAt else now := by
  cases a with
  | enter | leave | set => exact set_changedAt
  | dump | nothing => simp [perform, Act.recorded]

theorem perform_reads (hf : Reads f P) (m : Monitor) (now : Int) (a : Act) :
    ((m.perform now a).2.1.toList.map f).sum + f (m.perform now a).1.histogram =
      f m.histogram + if a.recorded m.current = m.current then 0
        else if P m.current then elapsed m.changedAt now else 0 := by
  cases a with
  | enter | leave | set => exact set_reads hf
  | dump | nothing => simp [perform, Act.recorded]

/-! ### All calls -/

theorem play_cons : m.play (n :: ns) = (((m.perform n.time n.act).1.play ns).1,
    (m.perform n.time n.act).2.1.toList ++ ((m.perform n.time n.act).1.play ns).2) := rfl

/-- The monitor says what is on record. -/
theorem play_current : (m.play ns).1.current = recorded m.current ns := by
  induction ns generalizing m with
  | nil => rfl
  | cons n ns ih =>
    rw [play_cons, ih, perform_current]
    rfl

/-- **No time is lost by a report, and none is counted twice.** -/
theorem play_reads (hf : Reads f P) (h : Orderly m.changedAt ns) :
    ((m.play ns).2.map f).sum + f (m.play ns).1.histogram =
      f m.histogram + timeHeld P m.changedAt m.current ns := by
  induction ns generalizing m with
  | nil => simp [play]
  | cons n ns ih =>
    have hone := perform_reads hf m n.time n.act
    have hcurrent := perform_current m n.time n.act
    have hchanged := perform_changedAt m n.time n.act
    simp only [play_cons]
    rw [List.map_append, List.sum_append]
    by_cases hn : n.act.recorded m.current = m.current
    · rw [if_pos hn] at hone hchanged
      have hrest := ih (m := (m.perform n.time n.act).1) (by rw [hchanged]; exact h.skip)
      rw [hcurrent, hchanged, hn] at hrest
      rw [timeHeld_of_same h hn]
      omega
    · rw [if_neg hn] at hone hchanged
      have hrest := ih (m := (m.perform n.time n.act).1) (by rw [hchanged]; exact h.tail)
      rw [hcurrent, hchanged] at hrest
      rw [timeHeld_of_ne h hn]
      omega

end Monitor

/-! ## The total -/

namespace Histogram

/-- The total is what is in the buckets. -/
def IsBalanced (h : Histogram) : Prop := h.total = ∑ b : Fin bucketCount, h.buckets[b]

theorem isBalanced_empty : IsBalanced .empty := by
  simp [IsBalanced, empty]

theorem IsBalanced.add {h : Histogram} (hh : h.IsBalanced) (idle time : Nat) :
    (h.add idle time).IsBalanced := by
  rw [IsBalanced, Finset.sum_congr rfl fun b _ => buckets_add h b idle time, Finset.sum_add_distrib,
    Finset.sum_ite_eq, if_pos (Finset.mem_univ _), ← hh]
  rfl

/-- The empty buckets, which are not listed, add nothing. -/
theorem sum_rows (h : Histogram) : (h.rows.map Prod.snd).sum = ∑ b : Fin bucketCount, h.buckets[b] := by
  have hfilter (l : List (Nat × Nat)) :
      ((l.filter (·.1 != 0)).map Prod.fst).sum = (l.map Prod.fst).sum := by
    induction l with
    | nil => rfl
    | cons x l ih => by_cases hx : x.1 = 0 <;> simp [hx, ih]
  have hlist : (List.finRange bucketCount).map (fun b => h.buckets[b]) = h.buckets.toList := by
    apply List.ext_getElem <;> simp
  have hrows : h.rows.map Prod.snd = (h.buckets.toList.zipIdx.filter (·.1 != 0)).map Prod.fst := by
    rw [rows, List.map_map]
    rfl
  rw [hrows, hfilter, List.zipIdx_map_fst, ← hlist, Fin.sum_univ_def]

end Histogram

namespace Monitor

variable {m : Monitor} {now : Int} {a : Act} {ns : List Notice}

/-- Under any clock, what is booked goes to one bucket and to the total. -/
theorem set_isBalanced {idle : Nat} (h : m.histogram.IsBalanced) :
    ∀ h ∈ (m.set idle now).1.histogram :: (m.set idle now).2.toList, h.IsBalanced := by
  have hbook : (m.book idle now).histogram.IsBalanced := by
    simp only [book]
    split
    · exact h
    · exact h.add _ _
  simp only [set]
  split <;> simp [hbook, Histogram.isBalanced_empty]

theorem perform_isBalanced (h : m.histogram.IsBalanced) (now : Int) (a : Act) :
    ∀ h ∈ (m.perform now a).1.histogram :: (m.perform now a).2.1.toList, h.IsBalanced := by
  cases a with
  | enter | leave | set => exact set_isBalanced h
  | dump | nothing => simpa [perform] using h

theorem play_isBalanced (h : m.histogram.IsBalanced) :
    ∀ h ∈ (m.play ns).1.histogram :: (m.play ns).2, h.IsBalanced := by
  induction ns generalizing m with
  | nil => simpa [play] using h
  | cons n ns ih =>
    obtain ⟨hnext, hreport⟩ :=
      List.forall_mem_cons.1 (perform_isBalanced h n.time n.act)
    obtain ⟨hlast, hreports⟩ := List.forall_mem_cons.1 (ih hnext)
    exact List.forall_mem_cons.2 ⟨hlast, List.forall_mem_append.2 ⟨hreport, hreports⟩⟩

/-! ## The profile -/

/-- **The histogram is the profile of time.**  If the calls come one after
    another, a bucket of all reports and of the histogram that is being filled
    adds up to the time for which the count on record was in this bucket, from
    the creation of the monitor to the last change of the count; and all totals
    add up to this whole time.  The count on record is what the monitor says.
    Under any clock, the total of a histogram, reported or not, is the sum of
    its buckets and of the rows it lists. -/
theorem profile (interval : Nat) (created : Int) (ns : List Notice) :
    (Orderly created ns →
      (∀ b : Fin bucketCount,
        (((start interval created).play ns).2.map (·.buckets[b])).sum +
            ((start interval created).play ns).1.histogram.buckets[b] =
          timeHeld (min · 63 = b.val) created 0 ns) ∧
      created ≤ lastChange created 0 ns ∧
      ((((start interval created).play ns).2.map (·.total)).sum +
          ((start interval created).play ns).1.histogram.total : Int) =
        lastChange created 0 ns - created) ∧
    ((start interval created).play ns).1.current = recorded 0 ns ∧
    ∀ h ∈ ((start interval created).play ns).1.histogram :: ((start interval created).play ns).2,
      h.total = ∑ b : Fin bucketCount, h.buckets[b] ∧ h.total = (h.rows.map Prod.snd).sum := by
  refine ⟨fun h => ⟨fun b => ?_, le_lastChange h 0, ?_⟩, play_current, fun h hh => ?_⟩
  · have hread := play_reads (m := start interval created) (reads_bucket b) h
    rwa [show (start interval created).histogram.buckets[b] = 0 from (reads_bucket b).empty,
      Nat.zero_add] at hread
  · have hread := play_reads (m := start interval created) reads_total h
    have hlast := le_lastChange h 0
    rw [timeHeld_true, show (start interval created).histogram.total = 0 from rfl,
      Nat.zero_add] at hread
    rw [← Nat.cast_add, hread]
    exact Int.toNat_of_nonneg (Int.sub_nonneg_of_le hlast)
  · have hbalanced := play_isBalanced (m := start interval created)
      Histogram.isBalanced_empty h hh
    exact ⟨hbalanced, hbalanced.trans h.sum_rows.symm⟩

/-- Calls that leave at zero, repeat a count, and go on beyond the last bucket
    while reports are made. -/
def mixedCalls : List Notice :=
  [⟨0, .leave⟩, ⟨2, .set 100⟩, ⟨4, .enter⟩, ⟨9, .set 101⟩, ⟨12, .leave⟩, ⟨14, .set 0⟩, ⟨20, .set 0⟩]

theorem profile_mixedCalls : Orderly 0 mixedCalls ∧
    ((start 5 0).play mixedCalls).2.map (·.total) = [4, 10, 0] ∧
    (((start 5 0).play mixedCalls).2.map (·.buckets[bucketOf 100])).sum +
        ((start 5 0).play mixedCalls).1.histogram.buckets[bucketOf 100] =
      timeHeld (min · 63 = 63) 0 0 mixedCalls ∧
    timeHeld (min · 63 = 63) 0 0 mixedCalls = 12 ∧
    lastChange 0 0 mixedCalls = 14 := by
  have horderly : Orderly 0 mixedCalls := by
    unfold Orderly
    decide
  exact ⟨horderly, by decide, ((profile 5 0 mixedCalls).1 horderly).1 _, by decide, by decide⟩

end Monitor

end WorkerPool.Idle
