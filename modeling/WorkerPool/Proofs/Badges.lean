/-
  What is written on the badges of the workers.

  * `Activity.rebadge` is what a thread is about to write on a badge, its own
    or that of someone it tells to leave;
  * `Move.badge?`: nothing else is ever written on a badge, and its number stays;
  * `Move.enrols`: a worker that is new has been started by a resize, with an
    empty badge, and is the last of the roster.
-/
import WorkerPool.Proofs.Roster

namespace WorkerPool

variable {B V : Type}

/-- What thread `t` with this activity makes of the badge of `u`. -/
def Activity.rebadge (a : Activity V) (t u : ThreadId) (b : Badge) : Badge :=
  match a with
  | work .mark => if t = u then { b with idle := true } else b
  | work (.unmark _) => if t = u then { b with idle := false } else b
  | resize _ (.tell (v :: _) _) | stop _ (.tell (v :: _)) =>
    if v = u then { b with told := true } else b
  | _ => b

section
variable {s s' : State B V} {t u : ThreadId} {th : Thread V} {c : Chance} {a : Activity V}
  {turn : Turn B V} {rest : List (Activity V)} {b : Badge}

@[simp] theorem rebadge_id : (a.rebadge t u b).id = b.id := by
  unfold Activity.rebadge
  split <;> first | rfl | (split <;> rfl)

/-- A step writes on the badges what the activity says. -/
theorem Deed.badge? (hd : Deed s t th c a turn) (hb : s.badge? u = some b) :
    turn.state.badge? u = some (a.rebadge t u b) := by
  have write {v : ThreadId} {f : Badge → Badge} :
      (s.modifyBadge v f).badge? u = some (if v = u then f b else b) := by
    rw [badge?_modifyBadge, hb]
    split <;> rfl
  cases hd with
  | mark | unmark | unmarkNone | resizeTell | stopTell => exact write
  | spawn =>
    obtain ⟨w, hw, hbadge⟩ := Option.bind_eq_some_iff.1 (badge?_eq s u ▸ hb)
    have hlt := (List.getElem?_eq_some_iff.1 hw).1
    simp only [badge?_eq, State.spawn, List.getElem?_append_left hlt, hw]
    exact hbadge
  | clear hp | clearEnd hp | purge hp | purgeEnd hp | sweep hp | sweepEnd hp =>
    rw [badge?_eq, hp.threads, ← badge?_eq, hb]
    rfl
  | _ => exact hb

/-- **A badge is changed by its worker, or by someone who tells it to leave**,
    and by nobody else. -/
theorem Move.badge? {x : Action B V} (hm : Move s x s') (hb : s.badge? u = some b) :
    s'.badge? u = some b ∨ ∃ t c a, x = .run t c ∧ s.top? t = some a ∧
      s'.badge? u = some (a.rebadge t u b) := by
  cases hm with
  | arrive =>
    obtain ⟨w, hw, hbadge⟩ := Option.bind_eq_some_iff.1 (badge?_eq s u ▸ hb)
    have hlt := (List.getElem?_eq_some_iff.1 hw).1
    simp only [badge?_eq, List.getElem?_append_left hlt, hw]
    exact .inl hbadge
  | call ht hf hl ho =>
    left
    rwa [badge?_modifyThread (by intros; rfl), badge?_eq, ho.threads, ← badge?_eq]
  | run hw ht hs hd =>
    refine .inr ⟨_, _, _, rfl, top?_eq_some_iff.2 ⟨_, _, ht, hs⟩, ?_⟩
    rw [badge?_settleTurn, hd.badge? hb]
  | finish | hook | expire => exact .inl (by rwa [badge?_settleTurn])
  | hookPanic => exact .inl (by rwa [badge?_modifyThread (by intros; rfl), badge?_settleTurn])
  | rouse | tick => exact .inl hb

/-- A worker keeps its number. -/
theorem Move.badge_id {x : Action B V} (hm : Move s x s') {i : Nat}
    (h : (s.badge? u).map Badge.id = some i) : (s'.badge? u).map Badge.id = some i := by
  obtain ⟨b, hb, rfl⟩ := Option.map_eq_some_iff.1 h
  rcases hm.badge? hb with h' | ⟨t, c, a, -, -, h'⟩ <;> rw [h'] <;> simp

/-- A step starts no worker, but for a resize. -/
theorem Deed.enrols (hd : Deed s t th c a turn) (hn : s.badge? u = none)
    (hb : turn.state.badge? u = some b) : ∃ n i start, a = .resize n (.spawn i start) ∧
      turn.state = s.spawn i ∧ u = s.threads.length ∧ b = ⟨i, false, false⟩ := by
  have none_of {f : Badge → Badge} {v : ThreadId} (h : (s.modifyBadge v f).badge? u = some b) :
      False := by
    rw [badge?_modifyBadge, hn] at h
    split at h <;> cases h
  have absurd_of {p : Prop} (h : s.badge? u = some b) : p := by
    rw [hn] at h
    cases h
  cases hd with
  | mark | unmark | unmarkNone | resizeTell | stopTell => exact (none_of hb).elim
  | @spawn n i start =>
    obtain ⟨w, hw, hbadge⟩ := Option.bind_eq_some_iff.1 (badge?_eq _ u ▸ hb)
    rcases concat_cases hw with hold | ⟨hlast, rfl⟩
    · exact absurd_of (by rw [badge?_eq, hold, Option.bind_some, hbadge])
    · cases hbadge
      exact ⟨n, i, start, rfl, rfl, hlast, rfl⟩
  | clear hp | clearEnd hp | purge hp | purgeEnd hp | sweep hp | sweepEnd hp =>
    rw [badge?_eq, hp.threads, ← badge?_eq] at hb
    exact absurd_of hb
  | _ => exact absurd_of hb

/-- **A new worker was started by a resize**, with nothing on its badge but its
    number, and is the last of the roster. -/
theorem Move.enrols {x : Action B V} (hm : Move s x s') (hn : s.badge? u = none)
    (hb : s'.badge? u = some b) : ∃ t c n i start, x = .run t c ∧
      s.top? t = some (.resize n (.spawn i start)) ∧ u = s.threads.length ∧
      b = ⟨i, false, false⟩ ∧ s'.roster = s.roster ++ [u] := by
  have absurd_of {p : Prop} (h : s.badge? u = some b) : p := by
    rw [hn] at h
    cases h
  cases hm with
  | arrive =>
    obtain ⟨w, hw, hbadge⟩ := Option.bind_eq_some_iff.1 (badge?_eq _ u ▸ hb)
    rcases getElem?_concat_cases hw with hold | ⟨-, rfl⟩
    · exact absurd_of (by rw [badge?_eq, hold, Option.bind_some, hbadge])
    · cases hbadge
  | call ht hf hl ho =>
    rw [badge?_modifyThread (by intros; rfl), badge?_eq, ho.threads, ← badge?_eq] at hb
    exact absurd_of hb
  | @run t c th a rest turn hw ht hs hd =>
    rw [badge?_settleTurn] at hb
    obtain ⟨n, i, start, rfl, hspawn, hu, rfl⟩ := hd.enrols hn hb
    refine ⟨t, c, n, i, start, rfl, top?_eq_some_iff.2 ⟨th, rest, ht, hs⟩, hu, rfl, ?_⟩
    show turn.state.roster = _
    rw [hspawn, hu]
    rfl
  | finish | hook | expire => rw [badge?_settleTurn] at hb; exact absurd_of hb
  | hookPanic =>
    rw [badge?_modifyThread (by intros; rfl), badge?_settleTurn] at hb
    exact absurd_of hb
  | rouse | tick => exact absurd_of hb

end

end WorkerPool
