import RefWatch.Proofs.Endings
import RefWatch.Scheduler.Log

namespace RefWatch.Scheduler

open List

variable {ε σ ω : Type} {c : Conduct ε σ ω} {s : Scheduler ε σ ω} {ms ns : List (Move ε σ ω)}

section

variable {α : Type} (f : α → Nat) (xs : List α) (k : Nat)

theorem le_foldl_max : k ≤ xs.foldl (fun n x => max n (f x)) k := by
  induction xs generalizing k
  case nil => exact Nat.le_refl k
  case cons x xs hi => exact Nat.le_trans (Nat.le_max_left ..) (hi _)

variable {f xs}

theorem le_foldl_max_of_mem {x : α} (h : x ∈ xs) : f x ≤ xs.foldl (fun n x => max n (f x)) k := by
  induction xs generalizing k
  case nil => cases h
  case cons y xs hi =>
    cases h
    case head => exact Nat.le_trans (Nat.le_max_right ..) (le_foldl_max f xs _)
    case tail h => exact hi _ h

variable (f xs)

theorem foldl_max_cases :
    xs.foldl (fun n x => max n (f x)) k = k ∨ ∃ x ∈ xs, xs.foldl (fun n x => max n (f x)) k = f x := by
  induction xs generalizing k
  case nil => exact .inl rfl
  case cons y xs hi =>
    rcases hi (max k (f y)) with h | ⟨x, hx, h⟩
    case inl =>
      rw [foldl_cons, h]
      rcases Nat.le_total k (f y) with le | le
      · exact .inr ⟨y, mem_cons_self, Nat.max_eq_right le⟩
      · exact .inl (Nat.max_eq_left le)
    case inr => exact .inr ⟨x, mem_cons_of_mem _ hx, h⟩

end

theorem endings_close (h : s.Asleep) :
    endings (s.close c).2 ++ (s.close c).1.running.map (·.ending c.state) ~
      s.running.map (·.ending c.state) := by
  have asleep : s.shut.Asleep := h
  have none : starts (ticks c (s.shut.remaining c.state) s.shut).2 = [] :=
    close_eq (c := c) s ▸ starts_close s
  have ends := endings_ticks (c := c) asleep (s.shut.remaining c.state)
  rwa [none, map_nil, append_nil, ← close_eq] at ends

theorem now_close (s : Scheduler ε σ ω) : (s.close c).1.now = s.now + s.remaining c.state := by
  rw [close_eq, now_ticks]
  rfl

theorem running_close (h : s.Asleep) : (s.close c).1.running = [] := by
  refine eq_nil_iff_forall_not_mem.mpr fun r hr => ?_
  have asleep : (s.close c).1.Asleep := asleep_move h (.close c)
  -- What still ran would have been under way before, and would end later than the closing waits.
  have later : (s.close c).1.now < r.wake := asleep r hr
  have member : r.ending c.state ∈ s.running.map (·.ending c.state) :=
    (endings_close h).subset (mem_append_right _ (mem_map_of_mem hr))
  obtain ⟨r', hr', same⟩ := mem_map.mp member
  have tick : r'.wake + r'.rest.duration c.state = r.wake + r.rest.duration c.state :=
    congrArg Ending.tick same
  have waited : r'.wake - s.now + r'.rest.duration c.state ≤ s.remaining c.state :=
    le_foldl_max_of_mem (f := fun r : Running ε σ ω => r.wake - s.now + r.rest.duration c.state) 0 hr'
  rw [now_close] at later
  omega

-- A closing ends with the last delivery that it waits for.
theorem exists_ending_close (h : s.Asleep) :
    (s.close c).1.now = s.now ∨ ∃ x ∈ endings (s.close c).2, x.tick = (s.close c).1.now := by
  have all := endings_close (c := c) h
  rw [running_close h, map_nil, append_nil] at all
  rw [now_close]
  rcases foldl_max_cases (fun r : Running ε σ ω => r.wake - s.now + r.rest.duration c.state) s.running 0
    with none | ⟨r, hr, last⟩
  case inl => exact .inl (congrArg (s.now + ·) none)
  case inr =>
    refine .inr ⟨r.ending c.state, all.symm.subset (mem_map_of_mem hr), ?_⟩
    have asleep := h r hr
    have last : s.remaining c.state = r.wake - s.now + r.rest.duration c.state := last
    have tick : (r.ending c.state).tick = r.wake + r.rest.duration c.state := rfl
    omega

-- Closed, with nothing armed.
structure Shut (s : Scheduler ε σ ω) : Prop where
  closed : s.closed
  timers : s.timers = []

theorem shut_shut (s : Scheduler ε σ ω) : Shut s.shut := ⟨rfl, rfl⟩

theorem shut_close (s : Scheduler ε σ ω) : Shut (s.close c).1 := ⟨closed_close s, timers_close s⟩

theorem move_schedule_of_closed (h : s.closed) (e : ε) (d : Delay) : s.move (.schedule e d) = (s, []) := by
  cases hd : d.isNegative
  case true => simp [move, schedule_of_negative hd, Except.toOption]
  case false => simp [move, schedule_of_closed h e hd, Except.toOption]

theorem Shut.move (h : Shut s) (m : Move ε σ ω) : Shut (s.move m).1 := by
  cases m
  case schedule e d => rwa [move_schedule_of_closed h.closed]
  case advance c n =>
    rw [Scheduler.move, advance_eq_ticks]
    exact ⟨(closed_ticks n s).trans h.closed, by rw [timers_ticks, h.timers, filter_nil]⟩
  case close c => exact shut_close s

theorem Shut.starts_move (h : Shut s) (m : Move ε σ ω) : starts (s.move m).2 = [] := by
  cases m
  case schedule e d =>
    rw [move_schedule_of_closed h.closed]
    rfl
  case advance c n =>
    have ahead : s.Ahead := fun t ht => by rw [h.timers] at ht; cases ht
    have none := starts_ticks (c := c) ahead n
    rw [h.timers, filter_nil, map_nil, perm_nil] at none
    rwa [Scheduler.move, advance_eq_ticks]
  case close c => exact starts_close s

theorem Shut.run (h : Shut s) (ms : List (Move ε σ ω)) : Shut (s.run ms).1 := by
  induction ms generalizing s
  case nil => exact h
  case cons m ms hi => exact hi (h.move m)

theorem Shut.starts_run (h : Shut s) (ms : List (Move ε σ ω)) : starts (s.run ms).2 = [] := by
  induction ms generalizing s
  case nil => rfl
  case cons m ms hi => rw [Scheduler.run, starts_append, h.starts_move, hi (h.move m), nil_append]

-- Moves that may be made while a closing waits: calls, and the clock goes on.
def Waiting (c : Conduct ε σ ω) (ms : List (Move ε σ ω)) : Prop :=
  ∀ m ∈ ms, (∃ e d, m = .schedule e d) ∨ ∃ n, m = .advance c n

-- Calls that come in while a closing waits make no difference to it.
theorem Shut.run_waiting (h : Shut s) (hw : Waiting c ms) : s.run ms = ticks c (elapsed ms) s := by
  induction ms generalizing s
  case nil => rfl
  case cons m ms hi =>
    have ⟨first, rest⟩ := forall_mem_cons.mp hw
    have later := hi (h.move m) rest
    rcases first with ⟨e, d, rfl⟩ | ⟨n, rfl⟩
    case inl =>
      rw [move_schedule_of_closed h.closed] at later
      rw [Scheduler.run, move_schedule_of_closed h.closed, later, nil_append]
      rfl
    case inr =>
      rw [Scheduler.move, advance_eq_ticks] at later
      rw [Scheduler.run, Scheduler.move, advance_eq_ticks, later, elapsed, ticks_add]

-- Shut, with nothing under way.
structure Over (s : Scheduler ε σ ω) : Prop extends Shut s where
  running : s.running = []

theorem over_close (h : s.Asleep) : Over (s.close c).1 := ⟨shut_close s, running_close h⟩

theorem Over.ticks (h : Over s) (n : Nat) : ticks c n s = ({ s with now := s.now + n }, []) := by
  refine ticks_of_later fun d hd => ?_
  rw [dates, h.timers, h.running] at hd
  cases hd

theorem Over.close (h : Over s) : s.close c = (s, []) := by
  obtain ⟨⟨closed, timers⟩, running⟩ := h
  have same : s.shut = s := by
    obtain ⟨now, _, _, _⟩ := s
    cases closed
    cases timers
    rfl
  have none : s.remaining c.state = 0 := by rw [remaining, running, foldl_nil]
  rw [close_eq, same, none]
  rfl

theorem Over.later (h : Over s) (n : Nat) : Over { s with now := s.now + n } :=
  ⟨⟨h.closed, h.timers⟩, h.running⟩

-- Nothing but the clock moves any more.
theorem Over.run (h : Over s) (ms : List (Move ε σ ω)) :
    ∃ n, s.run ms = ({ s with now := s.now + n }, []) := by
  induction ms generalizing s
  case nil => exact ⟨0, rfl⟩
  case cons m ms hi =>
    have first : ∃ k, s.move m = ({ s with now := s.now + k }, []) := by
      cases m
      case schedule e d => exact ⟨0, move_schedule_of_closed h.closed e d⟩
      case advance c n => exact ⟨n, (advance_eq_ticks n s).trans (h.ticks n)⟩
      case close c => exact ⟨0, h.close⟩
    obtain ⟨k, first⟩ := first
    obtain ⟨n, rest⟩ := hi (h.later k)
    refine ⟨k + n, ?_⟩
    rw [Scheduler.run, first, rest, Nat.add_assoc]
    rfl

-- Each delivery that fails is told in one record, and no other is.
theorem flatMap_happeningLog (hs : List (Happening HeadEvent ω)) :
    hs.flatMap happeningLog =
      ((endings hs).filter (·.failed)).map fun x => failureRecord x.event := by
  induction hs
  case nil => rfl
  case cons h hs hi =>
    rw [flatMap_cons, hi]
    cases h
    case ended begun tick e failed => cases failed <;> rfl
    all_goals rfl

variable {s : Scheduler HeadEvent σ ω} {c : Conduct HeadEvent σ ω}

-- Calls are refused if they would be anyway, and otherwise dropped with a warning.
structure Dropping (s : Scheduler HeadEvent σ ω) : Prop where
  negative : ∀ e d, d.isNegative → s.schedule e d = .error (.negativeDelay d)
  dropped  : ∀ e d, d.isNegative = false → s.schedule e d = .ok s ∧
    s.armingLog e d =
      [{ level := .warning, logger := .scheduler
         message := "Scheduler closed, dropping " ++ eventText e }]

theorem dropping_of_closed (h : s.closed) : Dropping s where
  negative e _ hd := schedule_of_negative hd s e
  dropped e d hd := by
    have returns := schedule_of_closed h e hd
    refine ⟨returns, ?_⟩
    simp only [armingLog, returns, h, if_true]
    rfl

theorem visible_closingLog (level : Log.Level) :
    Log.visible level s.closingLog =
      if s.pending ≠ 0 ∧ level.rank ≤ Log.Level.info.rank then
        [{ level := .info, logger := .scheduler
           message := "Cancelled " ++ toString s.pending ++ " pending head event deliveries" }]
      else [] := by
  unfold closingLog
  by_cases none : s.pending = 0
  case pos => simp [none, Log.visible]
  case neg => by_cases shown : level.rank ≤ Log.Level.info.rank <;> simp [none, shown, Log.visible, note]

-- What is to be known of the closing of a scheduler to which something has happened.
structure Final (s : Scheduler HeadEvent σ ω) (happened : List (Happening HeadEvent ω))
    (c : Conduct HeadEvent σ ω) : Prop where
  cancelled : (s.close c).1.pending = 0
  noted     : ∀ level, Log.visible level s.closingLog =
    if s.pending ≠ 0 ∧ level.rank ≤ Log.Level.info.rank then
      [{ level := .info, logger := .scheduler
         message := "Cancelled " ++ toString s.pending ++ " pending head event deliveries" }]
    else []
  -- Whatever has been started has ended by then, once each, and the last at that very tick.
  waited    : (s.close c).1.running = [] ∧
    (endings (happened ++ (s.close c).2)).map Ending.mark ~ starts happened
  prompt    : (s.close c).1.now = s.now ∨ ∃ x ∈ endings (s.close c).2, x.tick = (s.close c).1.now
  -- Failures are told, and come to nothing else.
  contained : (s.close c).2.flatMap happeningLog =
    ((endings (s.close c).2).filter (·.failed)).map fun x => failureRecord x.event
  -- From the moment of the closing on, while it waits as later.
  quiet     : ∀ ms, starts (s.shut.run ms).2 = [] ∧ Dropping (s.shut.run ms).1
  meanwhile : ∀ ms, Waiting c ms → elapsed ms = s.remaining c.state → s.shut.run ms = s.close c
  later     : ∀ ms, ((s.close c).1.run ms).2 = [] ∧ Dropping ((s.close c).1.run ms).1
  again     : ∀ ms c', ((s.close c).1.run ms).1.close c' = (((s.close c).1.run ms).1, []) ∧
    ((s.close c).1.run ms).1.closingLog = []

-- However a scheduler has come to be what it is, closing it is final and complete.
theorem close_final (ms : List (Move HeadEvent σ ω)) (c : Conduct HeadEvent σ ω) :
    Final (run {} ms).1 (run {} ms).2 c := by
  have asleep : (run {} ms).1.Asleep := asleep_run asleep_empty ms
  have quiescent (ns : List (Move HeadEvent σ ω)) : Over (((run {} ms).1.close c).1.run ns).1 := by
    have closed : Over ((run {} ms).1.close c).1 := over_close asleep
    obtain ⟨n, same⟩ := closed.run ns
    rw [same]
    exact closed.later n
  exact {
    cancelled := congrArg List.length (timers_close _)
    noted := visible_closingLog
    waited := by
      refine ⟨running_close asleep, ?_⟩
      have marks := marks_run asleep_empty (ms ++ [.close c])
      simp only [run_append, run, move, append_nil, starts_append, starts_close] at marks
      rwa [running_close asleep, map_nil, append_nil] at marks
    prompt := exists_ending_close asleep
    contained := flatMap_happeningLog _
    quiet := fun ns => ⟨(shut_shut _).starts_run ns, dropping_of_closed ((shut_shut _).run ns).closed⟩
    meanwhile := fun ns waiting time => by
      rw [(shut_shut _).run_waiting waiting, time, close_eq]
      rfl
    later := fun ns => by
      obtain ⟨n, same⟩ := (over_close (c := c) asleep).run ns
      exact ⟨by rw [same], dropping_of_closed (quiescent ns).closed⟩
    again := fun ns c' => by
      refine ⟨(quiescent ns).close, ?_⟩
      rw [closingLog, pending, (quiescent ns).timers]
      rfl
  }

end RefWatch.Scheduler
