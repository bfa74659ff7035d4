import RefWatch.Proofs.Clock

namespace RefWatch.Scheduler

open List

inductive Move (ε σ ω : Type)
  | schedule (event : ε) (delay : Delay)
  | advance (c : Conduct ε σ ω) (n : Nat)
  | close (c : Conduct ε σ ω)

variable {ε σ ω : Type} {c : Conduct ε σ ω} {s : Scheduler ε σ ω} {ms ns : List (Move ε σ ω)}

def Move.isClose : Move ε σ ω → Bool
  | close _ => true
  | _ => false

-- A call that is refused leaves the scheduler as it is.
def move (s : Scheduler ε σ ω) : Move ε σ ω → Scheduler ε σ ω × List (Happening ε ω)
  | .schedule e d => ((s.schedule e d).toOption.getD s, [])
  | .advance c n => s.advance c n
  | .close c => s.close c

def run (s : Scheduler ε σ ω) : List (Move ε σ ω) → Scheduler ε σ ω × List (Happening ε ω)
  | [] => (s, [])
  | m :: ms => ((run (s.move m).1 ms).1, (s.move m).2 ++ (run (s.move m).1 ms).2)

theorem run_append (s : Scheduler ε σ ω) (ms ns : List (Move ε σ ω)) :
    s.run (ms ++ ns) = (((s.run ms).1.run ns).1, (s.run ms).2 ++ ((s.run ms).1.run ns).2) := by
  induction ms generalizing s
  case nil => simp [run]
  case cons m ms hi => simp [run, hi]

-- How far the clock is moved before the scheduler is closed.
def elapsed : List (Move ε σ ω) → Nat
  | [] | .close _ :: _ => 0
  | .schedule .. :: ms => elapsed ms
  | .advance _ n :: ms => n + elapsed ms

theorem elapsed_append_close (ms ns : List (Move ε σ ω)) :
    elapsed (ms ++ .close c :: ns) = elapsed ms := by
  induction ms
  case nil => rfl
  case cons m ms hi => cases m <;> simp [elapsed, hi]

theorem elapsed_append_le (ms ns : List (Move ε σ ω)) : elapsed ms ≤ elapsed (ms ++ ns) := by
  induction ms
  case nil => simp [elapsed]
  case cons m ms hi => cases m <;> simp [elapsed, hi]

def armed (now : Nat) (e : ε) (d : Delay) : Timer ε := ⟨(ticksOf d.seconds).map (now + ·), e⟩

theorem le_of_due_armed {now k : Nat} {e : ε} {d : Delay} (h : (armed now e d).due = some k) :
    now ≤ k := by
  obtain ⟨n, _, rfl⟩ : ∃ n, ticksOf d.seconds = some n ∧ now + n = k := by simpa [armed] using h
  exact Nat.le_add_right ..

theorem schedule_of_open (h : s.closed = false) {e : ε} {d : Delay} (hd : d.isNegative = false)
    (hf : d.seconds.float?.isSome) :
    s.schedule e d = .ok { s with timers := s.timers ++ [armed s.now e d] } := by
  obtain ⟨x, hx⟩ := Option.isSome_iff_exists.mp hf
  simp [schedule, checkDelay, h, hd, hx, armed, bind, Except.bind, pure, Except.pure]

theorem schedule_of_tooLarge (h : s.closed = false) {e : ε} {d : Delay} (hd : d.isNegative = false)
    (hf : d.seconds.float?.isNone) : s.schedule e d = .error .delayTooLarge := by
  simp [schedule, checkDelay, h, hd, hf, bind, Except.bind, throw, throwThe, MonadExceptOf.throw]

-- Whether a call is refused does not depend on what is armed, or when.
theorem isOk_schedule (h : s.closed = false) (e : ε) (d : Delay) :
    (s.schedule e d).isOk = (!d.isNegative && d.seconds.float?.isSome) := by
  cases hd : d.isNegative
  case true => simp [schedule_of_negative hd, Except.isOk, Except.toBool]
  case false =>
    cases hf : d.seconds.float?
    case none => simp [schedule_of_tooLarge h hd (by simp [hf]), Except.isOk, Except.toBool]
    case some => simp [schedule_of_open h hd (by simp [hf]), Except.isOk, Except.toBool]

-- A call returns with its event armed, or it changes nothing.
theorem schedule_cases (s : Scheduler ε σ ω) (e : ε) (d : Delay) :
    (s.closed = false ∧ s.schedule e d = .ok { s with timers := s.timers ++ [armed s.now e d] }) ∨
      (s.closed ∧ s.schedule e d = .ok s) ∨ ∃ r, s.schedule e d = .error r := by
  cases hd : d.isNegative
  case true => exact .inr (.inr ⟨_, schedule_of_negative hd s e⟩)
  case false =>
    cases hc : s.closed
    case true => exact .inr (.inl ⟨rfl, schedule_of_closed hc e hd⟩)
    case false =>
      cases hf : d.seconds.float?
      case none => exact .inr (.inr ⟨_, schedule_of_tooLarge hc hd (by simp [hf])⟩)
      case some => exact .inl ⟨rfl, hc ▸ schedule_of_open hc hd (by simp [hf])⟩

theorem move_schedule (s : Scheduler ε σ ω) (e : ε) (d : Delay) :
    s.move (.schedule e d) = ({ s with timers := s.timers ++ [armed s.now e d] }, []) ∨
      s.move (.schedule e d) = (s, []) := by
  rcases schedule_cases s e d with ⟨_, h⟩ | ⟨_, h⟩ | ⟨r, h⟩
  · exact .inl (by simp [move, h, Except.toOption])
  · exact .inr (by simp [move, h, Except.toOption])
  · exact .inr (by simp [move, h, Except.toOption])

theorem timers_close (s : Scheduler ε σ ω) : (s.close c).1.timers = [] := by
  simp [close, advance_eq_ticks, timers_ticks]

theorem closed_close (s : Scheduler ε σ ω) : (s.close c).1.closed = true := by
  simp [close, advance_eq_ticks, closed_ticks]

theorem starts_close (s : Scheduler ε σ ω) : starts (s.close c).2 = [] := by
  have : Ahead { s with timers := [], closed := true } := fun t ht => nomatch ht
  have := starts_ticks (c := c) this (remaining c.state { s with timers := [], closed := true })
  simpa [close, advance_eq_ticks] using this

theorem ahead_empty : Ahead ({} : Scheduler ε σ ω) := fun _ ht => nomatch ht

theorem ahead_schedule (h : s.Ahead) (e : ε) (d : Delay) : (s.move (.schedule e d)).1.Ahead := by
  rcases move_schedule s e d with hm | hm
  case inr => rwa [hm]
  case inl =>
    rw [hm]
    intro t ht k hk
    rcases mem_append.mp ht with ht | ht
    case inl => exact h t ht k hk
    case inr =>
      cases mem_singleton.mp ht
      exact le_of_due_armed hk

theorem ahead_close (s : Scheduler ε σ ω) : (s.close c).1.Ahead := by
  intro t ht
  rw [timers_close] at ht
  cases ht

theorem ahead_move (h : s.Ahead) (m : Move ε σ ω) : (s.move m).1.Ahead := by
  cases m
  case schedule e d => exact ahead_schedule h e d
  case advance c n => simpa [move, advance_eq_ticks] using ahead_ticks h n
  case close c => exact ahead_close s

theorem ahead_run (h : s.Ahead) (ms : List (Move ε σ ω)) : (s.run ms).1.Ahead := by
  induction ms generalizing s
  case nil => exact h
  case cons m ms hi => exact hi (ahead_move h m)

theorem now_schedule (s : Scheduler ε σ ω) (e : ε) (d : Delay) :
    (s.move (.schedule e d)).1.now = s.now := by
  rcases move_schedule s e d with h | h <;> rw [h]

theorem closed_schedule (s : Scheduler ε σ ω) (e : ε) (d : Delay) :
    (s.move (.schedule e d)).1.closed = s.closed := by
  rcases move_schedule s e d with h | h <;> rw [h]

theorem now_run (h : ms.any Move.isClose = false) : (s.run ms).1.now = s.now + elapsed ms := by
  induction ms generalizing s
  case nil => rfl
  case cons m ms hi =>
    cases m
    case schedule e d => simpa [run, elapsed, now_schedule] using hi (s := (s.move (.schedule e d)).1) h
    case advance c n =>
      have := hi (s := (s.move (.advance c n)).1) h
      simpa [run, elapsed, move, advance_eq_ticks, now_ticks, Nat.add_assoc] using this
    case close c => cases h

theorem closed_run (s : Scheduler ε σ ω) (ms : List (Move ε σ ω)) :
    (s.run ms).1.closed = (s.closed || ms.any Move.isClose) := by
  induction ms generalizing s
  case nil => simp [run]
  case cons m ms hi =>
    cases m
    case schedule e d => simp [run, hi, closed_schedule, Move.isClose]
    case advance c n => simp [run, hi, move, advance_eq_ticks, closed_ticks, Move.isClose]
    case close c => simp [run, hi, move, closed_close, Move.isClose]

variable {p : ε → Bool}

-- No call of a series is about an event of some kind.
def Spares (p : ε → Bool) (ms : List (Move ε σ ω)) : Prop :=
  ∀ e d, Move.schedule e d ∈ ms → p e = false

theorem Spares.tail {m : Move ε σ ω} (h : Spares p (m :: ms)) : Spares p ms :=
  fun e d he => h e d (mem_cons_of_mem _ he)

theorem filter_timers_schedule {e : ε} (h : p e = false) (s : Scheduler ε σ ω) (d : Delay) :
    (s.move (.schedule e d)).1.timers.filter (p ·.event) = s.timers.filter (p ·.event) := by
  rcases move_schedule s e d with hm | hm
  case inl => simp [hm, armed, h]
  case inr => rw [hm]

theorem filter_timers_ticks (n : Nat) (s : Scheduler ε σ ω) :
    (ticks c n s).1.timers.filter (p ·.event) =
      (s.timers.filter (p ·.event)).filter (!·.reached s.now n) := by
  rw [timers_ticks]
  exact filter_comm ..

theorem filter_timers_run (h : Spares p ms) (s : Scheduler ε σ ω) :
    (s.run ms).1.timers.filter (p ·.event) =
      if ms.any Move.isClose then []
      else (s.timers.filter (p ·.event)).filter (!·.reached s.now (elapsed ms)) := by
  induction ms generalizing s
  case nil => simp [run, elapsed, Timer.reached]
  case cons m ms hi =>
    have rest := hi h.tail (s.move m).1
    cases m
    case schedule e d =>
      have hp : p e = false := h e d (mem_cons_self ..)
      rwa [filter_timers_schedule hp, now_schedule] at rest
    case advance c n =>
      simp only [move, advance_eq_ticks, filter_timers_ticks, now_ticks] at rest
      simp only [run, move, advance_eq_ticks, rest, any_cons, Move.isClose, Bool.false_or, elapsed,
        Timer.reached_add, Bool.not_or]
      congr 1
      rw [filter_filter]
      exact filter_congr fun t _ => Bool.and_comm ..
    case close c =>
      simp only [move, timers_close] at rest
      simpa [run, move, Move.isClose] using rest

theorem filter_starts_run (hs : s.Ahead) (h : Spares p ms) :
    (starts (s.run ms).2).filter (p ·.2) ~
      ((s.timers.filter (p ·.event)).filter (·.reached s.now (elapsed ms))).map Timer.stamp := by
  have stamped (ts : List (Timer ε)) :
      (ts.map Timer.stamp).filter (p ·.2) = (ts.filter (p ·.event)).map Timer.stamp := by
    simp [filter_map, Function.comp_def, Timer.stamp]
  induction ms generalizing s
  case nil => simp [run, starts, elapsed, Timer.reached]
  case cons m ms hi =>
    have rest := hi (ahead_move hs m) h.tail
    simp only [run, starts_append, filter_append]
    cases m
    case schedule e d =>
      have hp : p e = false := h e d (mem_cons_self ..)
      rw [filter_timers_schedule hp, now_schedule] at rest
      exact rest
    case advance c n =>
      have first := (starts_ticks (c := c) hs n).filter (p ·.2)
      simp only [move, advance_eq_ticks, filter_timers_ticks, now_ticks] at rest ⊢
      rw [stamped, filter_comm] at first
      simp only [elapsed, Timer.reached_add]
      calc
        _ ~ _ := first.append rest
        _ = _ := map_append.symm
        _ ~ _ := (filter_append_filter_perm _ _ _).map _
    case close c =>
      simp only [move, timers_close, starts_close] at rest ⊢
      simpa [elapsed, Timer.reached] using rest

end RefWatch.Scheduler
