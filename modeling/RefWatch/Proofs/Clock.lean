import Mathlib.Data.List.Perm.Basic
import Mathlib.Data.List.Perm.Lattice
import RefWatch.Scheduler

namespace RefWatch.Scheduler

open List

variable {ε σ ω : Type} {c : Conduct ε σ ω} {s : Scheduler ε σ ω}

def ticks (c : Conduct ε σ ω) : Nat → Scheduler ε σ ω → Scheduler ε σ ω × List (Happening ε ω)
  | 0, s => (s, [])
  | n + 1, s => ((ticks c n (s.tick c).1).1, (s.tick c).2 ++ (ticks c n (s.tick c).1).2)

theorem ticks_add (m n : Nat) (s : Scheduler ε σ ω) :
    ticks c (m + n) s =
      ((ticks c n (ticks c m s).1).1, (ticks c m s).2 ++ (ticks c n (ticks c m s).1).2) := by
  induction m generalizing s
  case zero => simp [ticks]
  case succ m hi => simp [Nat.succ_add, ticks, hi]

-- The ticks at which something may happen.
def dates (s : Scheduler ε σ ω) : List Nat := s.timers.filterMap (·.due) ++ s.running.map (·.wake)

theorem isDue_eq_false (h : ∀ d ∈ s.dates, n < d) : ∀ t ∈ s.timers, t.isDue n = false := by
  intro t ht
  cases hd : t.due
  case none => simp [Timer.isDue, hd]
  case some d =>
    have := h d (mem_append_left _ (mem_filterMap.mpr ⟨t, ht, hd⟩))
    simpa [Timer.isDue, hd] using this

theorem fire_of_later (h : ∀ d ∈ s.dates, s.now < d) : s.fire c = (s, []) := by
  have none := isDue_eq_false h
  have left : s.timers.filter (!·.isDue s.now) = s.timers :=
    filter_eq_self.mpr fun t ht => by simp [none t ht]
  have gone : s.timers.filter (·.isDue s.now) = [] :=
    filter_eq_nil_iff.mpr fun t ht => by simp [none t ht]
  simp [fire, left, gone]

theorem wake_of_later (h : ∀ d ∈ s.dates, s.now < d) : s.wake c = (s, []) := by
  have asleep (r : Running ε σ ω) (hr : r ∈ s.running) : resume c s.now r = ([r], []) :=
    if_neg (Nat.not_le.mpr (h _ (mem_append_right _ (mem_map_of_mem hr))))
  have same : s.running.map (resume c s.now) = s.running.map fun r => ([r], []) :=
    map_congr_left asleep
  simp [wake, same, flatMap_map]

theorem tick_of_later (h : ∀ d ∈ s.dates, s.now + 1 < d) :
    s.tick c = ({ s with now := s.now + 1 }, []) := by
  have first : s.fire c = (s, []) := fire_of_later fun d hd => Nat.lt_of_succ_lt (h d hd)
  have second : wake c { s with now := s.now + 1 } = ({ s with now := s.now + 1 }, []) :=
    wake_of_later h
  have third : fire c { s with now := s.now + 1 } = ({ s with now := s.now + 1 }, []) :=
    fire_of_later h
  simp [tick, first, second, third]

theorem ticks_of_later (h : ∀ d ∈ s.dates, s.now + n < d) :
    ticks c n s = ({ s with now := s.now + n }, []) := by
  induction n generalizing s
  case zero => rfl
  case succ n hi =>
    have one : s.tick c = ({ s with now := s.now + 1 }, []) :=
      tick_of_later fun d hd => Nat.lt_of_le_of_lt (by omega) (h d hd)
    have rest : ticks c n { s with now := s.now + 1 } = ({ s with now := s.now + 1 + n }, []) :=
      hi fun d hd => Nat.lt_of_le_of_lt (Nat.le_of_eq (by simp; omega)) (h d hd)
    simp [ticks, one, rest, Nat.add_assoc, Nat.add_comm 1 n]

theorem foldl_min_le_of_mem {now d : Nat} {ds : List Nat} (h : d ∈ ds) (k : Nat) :
    ds.foldl (fun k t => min k (t - now - 1)) k ≤ d - now - 1 := by
  induction ds generalizing k
  case nil => cases h
  case cons b ds hi =>
    cases h
    case head => exact Nat.le_trans (foldl_min_le now ds _) (Nat.min_le_right ..)
    case tail h => exact hi h _

-- Nothing can happen while a scheduler is idle.
theorem later_of_idle {k n : Nat} (hk : 0 < k) (h : k ≤ s.idle n) : ∀ d ∈ s.dates, s.now + k < d := by
  intro d hd
  have : s.idle n ≤ d - s.now - 1 := foldl_min_le_of_mem hd n
  omega

theorem ticks_of_idle {k n : Nat} (h : k ≤ s.idle n) :
    ticks c k s = ({ s with now := s.now + k }, []) := by
  cases k
  case zero => rfl
  case succ k => exact ticks_of_later (later_of_idle (Nat.succ_pos k) h)

theorem advance_eq_ticks (n : Nat) (s : Scheduler ε σ ω) : s.advance c n = ticks c n s := by
  induction n using Nat.strongRecOn generalizing s
  case ind n hi =>
    rw [advance]
    by_cases hn : n ≤ s.idle n
    case pos => rw [if_pos hn, ticks_of_idle hn]
    case neg =>
      have split : n = s.idle n + (1 + (n - s.idle n - 1)) := by omega
      have rest := hi (n - s.idle n - 1) (by omega) ({ s with now := s.now + s.idle n }.tick c).1
      rw [if_neg hn, split, ticks_add, ticks_of_idle (Nat.le_refl _), ticks_add, ← split]
      simp [rest, ticks]

-- What the delivery of a timer is stamped with.
def Timer.stamp (t : Timer ε) : Nat × ε := (t.due.getD 0, t.event)

-- Whether the clock reaches a timer as it moves on by some ticks.
def Timer.reached (now n : Nat) (t : Timer ε) : Bool := decide (0 < n) && t.isDue (now + n)

theorem Timer.isDue_mono {m n : Nat} {t : Timer ε} (h : m ≤ n) (hm : t.isDue m) : t.isDue n := by
  cases hd : t.due
  case none => simp [isDue, hd] at hm
  case some d =>
    simp only [isDue, hd, Option.any_some, decide_eq_true_eq] at hm ⊢
    exact Nat.le_trans hm h

theorem Timer.reached_one {now : Nat} {t : Timer ε} : t.reached now 1 = t.isDue (now + 1) := rfl

theorem Timer.reached_add {now : Nat} {t : Timer ε} (m n : Nat) :
    t.reached now (m + n) = (t.reached now m || t.reached (now + m) n) := by
  by_cases hm : 0 < m
  case neg => simp [Nat.eq_zero_of_not_pos hm, reached]
  case pos =>
    by_cases hn : 0 < n
    case neg => simp [Nat.eq_zero_of_not_pos hn, reached]
    case pos =>
      have hs : 0 < m + n := Nat.add_pos_left hm n
      have mono : t.isDue (now + m) → t.isDue (now + (m + n)) := isDue_mono (by omega)
      simp only [reached, decide_eq_true hm, decide_eq_true hn, decide_eq_true hs, Bool.true_and,
        Nat.add_assoc]
      cases h : t.isDue (now + m)
      case true => exact mono h
      case false => exact (Bool.false_or _).symm

-- No timer is due before the present.
def Ahead (s : Scheduler ε σ ω) : Prop := ∀ t ∈ s.timers, ∀ d, t.due = some d → s.now ≤ d

def starts (hs : List (Happening ε ω)) : List (Nat × ε) :=
  hs.filterMap fun
    | .started tick e => some (tick, e)
    | _ => none

theorem starts_append (gs hs : List (Happening ε ω)) : starts (gs ++ hs) = starts gs ++ starts hs :=
  filterMap_append

theorem starts_flatMap {α : Type} (f : α → List (Happening ε ω)) (xs : List α) :
    starts (xs.flatMap f) = xs.flatMap (starts ∘ f) := by
  simp [starts, filterMap_flatMap, Function.comp_def]

theorem starts_proceed (now : Nat) (e : ε) (started : Nat) (w : Work σ ω) :
    starts (proceed c now e started w).2 = [] := by
  unfold proceed
  split <;> simp [starts, filterMap_map]

theorem starts_start (now : Nat) (t : Timer ε) : starts (start c now t).2 = [(now, t.event)] := by
  have := starts_proceed (c := c) now t.event now (c.work now t.event)
  simpa [start, starts] using this

theorem starts_resume (now : Nat) (r : Running ε σ ω) : starts (resume c now r).2 = [] := by
  unfold resume
  split
  case isTrue => exact starts_proceed ..
  case isFalse => rfl

theorem starts_fire (s : Scheduler ε σ ω) :
    starts (s.fire c).2 = (s.timers.filter (·.isDue s.now)).map fun t => (s.now, t.event) := by
  simp [fire, starts_flatMap, flatMap_map, starts_start, Function.comp_def, ← map_eq_flatMap]

theorem starts_wake (s : Scheduler ε σ ω) : starts (s.wake c).2 = [] := by
  simp [wake, starts_flatMap, flatMap_map, starts_resume, Function.comp_def]

-- A tick starts what is late, moves the clock, wakes what has slept enough and starts what is due.
theorem tick_eq (s : Scheduler ε σ ω) :
    s.tick c =
      let late := s.fire c
      let woken := wake c { late.1 with now := s.now + 1 }
      let due := woken.1.fire c
      (due.1, late.2 ++ woken.2 ++ due.2) :=
  rfl

theorem timers_tick (s : Scheduler ε σ ω) :
    (s.tick c).1.timers = s.timers.filter (!·.reached s.now 1) := by
  have : (s.tick c).1.timers = (s.timers.filter (!·.isDue s.now)).filter (!·.isDue (s.now + 1)) := rfl
  rw [this, filter_filter]
  refine filter_congr fun t _ => ?_
  have := Timer.isDue_mono (t := t) (Nat.le_succ s.now)
  cases h : t.isDue s.now <;> simp_all [Timer.reached_one]

theorem now_tick (s : Scheduler ε σ ω) : (s.tick c).1.now = s.now + 1 := rfl

theorem closed_tick (s : Scheduler ε σ ω) : (s.tick c).1.closed = s.closed := rfl

-- Two filters one after the other take what either would take.
theorem filter_append_filter_perm {α : Type} (p q : α → Bool) (xs : List α) :
    xs.filter p ++ (xs.filter (!p ·)).filter q ~ xs.filter fun x => p x || q x := by
  have first : (xs.filter fun x => p x || q x).filter p = xs.filter p := by
    rw [filter_filter]
    exact filter_congr fun x _ => by cases p x <;> simp
  have second : (xs.filter fun x => p x || q x).filter (!p ·) = (xs.filter (!p ·)).filter q := by
    rw [filter_filter, filter_filter]
    exact filter_congr fun x _ => by cases p x <;> simp
  rw [← first, ← second]
  exact filter_append_perm p _

theorem Timer.stamp_eq {now : Nat} {t : Timer ε} (due : t.isDue now)
    (ahead : ∀ d, t.due = some d → now ≤ d) : t.stamp = (now, t.event) := by
  cases hd : t.due
  case none => simp [isDue, hd] at due
  case some d =>
    have : d ≤ now := by simpa [isDue, hd] using due
    have : now ≤ d := ahead d hd
    simp [stamp, hd]
    omega

theorem starts_tick (h : s.Ahead) :
    starts (s.tick c).2 ~ (s.timers.filter (·.reached s.now 1)).map Timer.stamp := by
  have late : ((s.timers.filter (·.isDue s.now)).map fun t => (s.now, t.event)) =
      (s.timers.filter (·.isDue s.now)).map Timer.stamp := by
    refine map_congr_left fun t ht => ?_
    have ⟨ht, hd⟩ := mem_filter.mp ht
    exact (Timer.stamp_eq hd (h t ht)).symm
  have due : (((s.timers.filter (!·.isDue s.now)).filter (·.isDue (s.now + 1))).map
        fun t => (s.now + 1, t.event)) =
      ((s.timers.filter (!·.isDue s.now)).filter (·.isDue (s.now + 1))).map Timer.stamp := by
    refine map_congr_left fun t ht => ?_
    have ⟨ht, hd⟩ := mem_filter.mp ht
    have ⟨_, hl⟩ := mem_filter.mp ht
    refine (Timer.stamp_eq hd fun d e => ?_).symm
    have : s.now < d := by simpa [Timer.isDue, e] using hl
    exact this
  have both : (s.timers.filter fun t => t.isDue s.now || t.isDue (s.now + 1)) =
      s.timers.filter (·.reached s.now 1) := by
    refine filter_congr fun t _ => ?_
    have : t.isDue s.now → t.isDue (s.now + 1) := Timer.isDue_mono (Nat.le_succ _)
    cases hd : t.isDue s.now <;> simp_all [Timer.reached_one]
  simp only [tick_eq, starts_append, starts_fire, starts_wake, append_nil]
  calc
    _ = (s.timers.filter (·.isDue s.now) ++
          (s.timers.filter (!·.isDue s.now)).filter (·.isDue (s.now + 1))).map Timer.stamp := by
      rw [map_append, ← late, ← due]
      rfl
    _ ~ _ := both ▸ (filter_append_filter_perm _ _ _).map _

-- Whatever is still armed after a tick is due later.
theorem ahead_tick (s : Scheduler ε σ ω) : (s.tick c).1.Ahead := by
  intro t ht d hd
  rw [timers_tick] at ht
  have left := (mem_filter.mp ht).2
  have later : s.now + 1 < d := by simpa [Timer.reached_one, Timer.isDue, hd] using left
  exact Nat.le_of_lt later

theorem now_ticks (n : Nat) (s : Scheduler ε σ ω) : (ticks c n s).1.now = s.now + n := by
  induction n generalizing s
  case zero => rfl
  case succ n hi => simp [ticks, hi, now_tick]; omega

theorem closed_ticks (n : Nat) (s : Scheduler ε σ ω) : (ticks c n s).1.closed = s.closed := by
  induction n generalizing s
  case zero => rfl
  case succ n hi => simp [ticks, hi, closed_tick]

theorem timers_ticks (n : Nat) (s : Scheduler ε σ ω) :
    (ticks c n s).1.timers = s.timers.filter (!·.reached s.now n) := by
  induction n generalizing s
  case zero => simp [ticks, Timer.reached]
  case succ n hi =>
    simp only [ticks, hi, timers_tick, now_tick, filter_filter, Nat.add_comm n 1,
      Timer.reached_add, Bool.not_or]
    exact filter_congr fun t _ => Bool.and_comm ..

theorem ahead_ticks (h : s.Ahead) (n : Nat) : (ticks c n s).1.Ahead := by
  induction n generalizing s
  case zero => exact h
  case succ n hi => exact hi (ahead_tick s)

theorem starts_ticks (h : s.Ahead) (n : Nat) :
    starts (ticks c n s).2 ~ (s.timers.filter (·.reached s.now n)).map Timer.stamp := by
  induction n generalizing s
  case zero => simp [ticks, Timer.reached, starts]
  case succ n hi =>
    have rest : starts (ticks c n (s.tick c).1).2 ~
        ((s.timers.filter (!·.reached s.now 1)).filter (·.reached (s.now + 1) n)).map Timer.stamp := by
      have := hi (ahead_tick (c := c) s)
      rwa [timers_tick, now_tick] at this
    simp only [ticks, starts_append, Nat.add_comm n 1, Timer.reached_add]
    calc
      _ ~ _ := (starts_tick h).append rest
      _ = (s.timers.filter (·.reached s.now 1) ++ (s.timers.filter (!·.reached s.now 1)).filter
            (·.reached (s.now + 1) n)).map Timer.stamp := map_append.symm
      _ ~ _ := (filter_append_filter_perm _ _ _).map _

end RefWatch.Scheduler
