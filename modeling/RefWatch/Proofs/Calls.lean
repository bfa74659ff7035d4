import RefWatch.Proofs.Moves

namespace RefWatch.Scheduler

open List

variable {α ε σ ω : Type} {c : Conduct ε σ ω} {f : α → ε}

def Timer.map (f : α → ε) (t : Timer α) : Timer ε := ⟨t.due, f t.event⟩

def Running.map (f : α → ε) (r : Running α σ ω) : Running ε σ ω :=
  ⟨f r.event, r.started, r.wake, r.rest⟩

def Happening.map (f : α → ε) : Happening α ω → Happening ε ω
  | started tick e => .started tick (f e)
  | told e w => .told (f e) w
  | ended begun tick e failed => .ended begun tick (f e) failed

-- Deliveries that do what those of the renamed events do.
def Conduct.over (f : α → ε) (c : Conduct ε σ ω) : Conduct α σ ω where
  work tick a := c.work tick (f a)
  state := c.state

def map (f : α → ε) (s : Scheduler α σ ω) : Scheduler ε σ ω where
  now := s.now
  timers := s.timers.map (·.map f)
  running := s.running.map (·.map f)
  closed := s.closed

theorem proceed_map (now : Nat) (a : α) (started : Nat) (w : Work σ ω) :
    proceed c now (f a) started w =
      ((proceed (c.over f) now a started w).1.map (·.map f),
        (proceed (c.over f) now a started w).2.map (·.map f)) := by
  unfold proceed
  simp only [Conduct.over]
  split <;> simp [Happening.map, Running.map, Function.comp_def]

theorem start_map (now : Nat) (t : Timer α) :
    start c now (t.map f) =
      ((start (c.over f) now t).1.map (·.map f), (start (c.over f) now t).2.map (·.map f)) := by
  have := proceed_map (c := c) (f := f) now t.event now (c.work now (f t.event))
  simp only [start, Timer.map, this]
  rfl

theorem resume_map (now : Nat) (r : Running α σ ω) :
    resume c now (r.map f) =
      ((resume (c.over f) now r).1.map (·.map f), (resume (c.over f) now r).2.map (·.map f)) := by
  unfold resume
  by_cases h : r.wake ≤ now
  case pos => simpa [Running.map, h] using proceed_map now r.event r.started r.rest
  case neg => simp [Running.map, h]

theorem fire_map (s : Scheduler α σ ω) :
    (s.map f).fire c = ((s.fire (c.over f)).1.map f, (s.fire (c.over f)).2.map (·.map f)) := by
  have due (t : Timer α) (n : Nat) : (t.map f).isDue n = t.isDue n := rfl
  simp [fire, map, filter_map, Function.comp_def, due, start_map, flatMap_map, map_flatMap]

theorem wake_map (s : Scheduler α σ ω) :
    (s.map f).wake c = ((s.wake (c.over f)).1.map f, (s.wake (c.over f)).2.map (·.map f)) := by
  simp [wake, map, Function.comp_def, resume_map, flatMap_map, map_flatMap]

theorem tick_map (s : Scheduler α σ ω) :
    (s.map f).tick c = ((s.tick (c.over f)).1.map f, (s.tick (c.over f)).2.map (·.map f)) := by
  have later (s : Scheduler α σ ω) (n : Nat) : { s.map f with now := n } = map f { s with now := n } :=
    rfl
  have now (s : Scheduler α σ ω) : (s.map f).now = s.now := rfl
  simp [tick_eq, fire_map, wake_map, later, now]

theorem ticks_map (n : Nat) (s : Scheduler α σ ω) :
    ticks c n (s.map f) =
      ((ticks (c.over f) n s).1.map f, (ticks (c.over f) n s).2.map (·.map f)) := by
  induction n generalizing s
  case zero => rfl
  case succ n hi => simp [ticks, tick_map, hi]

theorem schedule_map (s : Scheduler α σ ω) (a : α) (d : Delay) :
    (s.map f).schedule (f a) d = (s.schedule a d).map (·.map f) := by
  cases hd : d.isNegative
  case true => simp [schedule_of_negative hd, Except.map]
  case false =>
    cases hc : s.closed
    case true =>
      have closed : (s.map f).closed := hc
      simp [schedule_of_closed hc a hd, schedule_of_closed closed (f a) hd, Except.map]
    case false =>
      have opened : (s.map f).closed = false := hc
      cases hf : d.seconds.float?
      case none =>
        have none : d.seconds.float?.isNone := by simp [hf]
        simp [schedule_of_tooLarge hc hd none, schedule_of_tooLarge opened hd none, Except.map]
      case some =>
        have some : d.seconds.float?.isSome := by simp [hf]
        rw [schedule_of_open hc hd some, schedule_of_open opened hd some]
        simp [Except.map, map, armed, Timer.map]

theorem close_map (s : Scheduler α σ ω) :
    (s.map f).close c = ((s.close (c.over f)).1.map f, (s.close (c.over f)).2.map (·.map f)) := by
  have left (s : Scheduler α σ ω) : (s.map f).remaining c.state = s.remaining c.state := by
    simp [remaining, map, foldl_map, Running.map]
  have cancelled : { s.map f with timers := [], closed := true } =
      map f { s with timers := [], closed := true } := rfl
  simp [close, advance_eq_ticks, cancelled, left, ticks_map, Conduct.over]

def Move.numbered (i : Nat) : Move ε σ ω → Move (Nat × ε) σ ω
  | schedule e d => .schedule (i, e) d
  | advance c n => .advance (c.over Prod.snd) n
  | close c => .close (c.over Prod.snd)

def numbered (i : Nat) : List (Move ε σ ω) → List (Move (Nat × ε) σ ω)
  | [] => []
  | m :: ms => m.numbered i :: numbered (i + 1) ms

theorem numbered_append (i : Nat) (ms ns : List (Move ε σ ω)) :
    numbered i (ms ++ ns) = numbered i ms ++ numbered (i + ms.length) ns := by
  induction ms generalizing i
  case nil => rfl
  case cons m ms hi => simp [numbered, hi]; congr 1; omega

theorem elapsed_numbered (i : Nat) (ms : List (Move ε σ ω)) :
    elapsed (numbered i ms) = elapsed ms := by
  induction ms generalizing i
  case nil => rfl
  case cons m ms hi => cases m <;> simp [numbered, Move.numbered, elapsed, hi]

theorem any_isClose_numbered (i : Nat) (ms : List (Move ε σ ω)) :
    (numbered i ms).any Move.isClose = ms.any Move.isClose := by
  induction ms generalizing i
  case nil => rfl
  case cons m ms hi => cases m <;> simp [numbered, Move.numbered, Move.isClose, hi]

theorem mem_numbered {i : Nat} {ms : List (Move ε σ ω)} {e : Nat × ε} {d : Delay}
    (h : .schedule e d ∈ numbered i ms) : ∃ j, ms[j]? = some (.schedule e.2 d) ∧ i + j = e.1 := by
  induction ms generalizing i
  case nil => cases h
  case cons m ms hi =>
    rcases mem_cons.mp h with h | h
    case inl =>
      cases m <;> cases h
      exact ⟨0, rfl, rfl⟩
    case inr =>
      obtain ⟨j, call, hj⟩ := hi h
      exact ⟨j + 1, call, by omega⟩

-- What happens in a run, call by call.
def trace (ms : List (Move ε σ ω)) : Scheduler (Nat × ε) σ ω × List (Happening (Nat × ε) ω) :=
  run {} (numbered 0 ms)

theorem move_map (s : Scheduler (Nat × ε) σ ω) (i : Nat) (m : Move ε σ ω) :
    (s.map Prod.snd).move m =
      ((s.move (m.numbered i)).1.map Prod.snd, (s.move (m.numbered i)).2.map (·.map Prod.snd)) := by
  cases m
  case schedule e d =>
    have := schedule_map (f := Prod.snd) s (i, e) d
    simp only [move, Move.numbered, this]
    cases s.schedule (i, e) d <;> rfl
  case advance c n => simp [move, Move.numbered, advance_eq_ticks, ticks_map]
  case close c => exact close_map s

theorem run_map (s : Scheduler (Nat × ε) σ ω) (i : Nat) (ms : List (Move ε σ ω)) :
    (s.map Prod.snd).run ms =
      ((s.run (numbered i ms)).1.map Prod.snd,
        (s.run (numbered i ms)).2.map (·.map Prod.snd)) := by
  induction ms generalizing s i
  case nil => rfl
  case cons m ms hi => simp [run, numbered, move_map s i m, hi _ (i + 1)]

theorem run_eq_trace (ms : List (Move ε σ ω)) :
    run {} ms = ((trace ms).1.map Prod.snd, (trace ms).2.map (·.map Prod.snd)) :=
  run_map {} 0 ms

end RefWatch.Scheduler
