import RefWatch.Proofs.Calls
import RefWatch.Proofs.Closing

namespace RefWatch.Scheduler

open List

variable {ε σ ω τ υ : Type}

inductive Step (ε : Type)
  | schedule (event : ε) (delay : Delay)
  | advance (n : Nat)
  | close

def Move.step : Move ε σ ω → Step ε
  | schedule e d => .schedule e d
  | advance _ n => .advance n
  | close _ => .close

-- A step as a move under some conduct. Events go by the numbers of their calls, so that equal events
-- can be told apart.
def Step.move (c : Conduct (Nat × ε) σ ω) (i : Nat) : Step ε → Move (Nat × ε) σ ω
  | schedule e d => .schedule (i, e) d
  | advance n => .advance c n
  | close => .close c

def moves (c : Conduct (Nat × ε) σ ω) (steps : List (Step ε)) : List (Move (Nat × ε) σ ω) :=
  steps.mapIdx (Step.move c)

theorem under_moves (c : Conduct (Nat × ε) σ ω) (steps : List (Step ε)) :
    ∀ m ∈ moves c steps, m.Under c := by
  intro m hm
  obtain ⟨i, hi, rfl⟩ := mem_mapIdx.mp hm
  cases steps[i] <;> trivial

theorem map_step_moves (c : Conduct (Nat × ε) σ ω) (c' : Conduct (Nat × ε) τ υ)
    (steps : List (Step ε)) : (moves c steps).map Move.step = (moves c' steps).map Move.step := by
  have same (i : Nat) (step : Step ε) : (step.move c i).step = (step.move c' i).step := by
    cases step <;> rfl
  refine ext_getElem (by simp [moves]) fun i _ _ => ?_
  simp [moves, same]

section

variable {s : Scheduler ε σ ω} {t : Scheduler ε τ υ} {c : Conduct ε σ ω} {c' : Conduct ε τ υ}
  {m : Move ε σ ω} {m' : Move ε τ υ} {ms : List (Move ε σ ω)} {ns : List (Move ε τ υ)}

-- The same is armed in both. A closing may take longer in one than in the other; their clocks need not
-- agree any more then, as nothing is armed.
inductive Abreast (s : Scheduler ε σ ω) (t : Scheduler ε τ υ) : Prop
  | opened (hs : s.closed = false) (ht : t.closed = false) (now : s.now = t.now)
    (timers : s.timers = t.timers)
  | shut (hs : Shut s) (ht : Shut t)

theorem Abreast.pending (h : Abreast s t) : s.pending = t.pending := by
  cases h
  case opened timers => exact congrArg length timers
  case shut hs ht => rw [Scheduler.pending, Scheduler.pending, hs.timers, ht.timers]

theorem move_schedule_of_open (h : s.closed = false) (e : ε) (d : Delay) :
    s.move (.schedule e d) =
      ({ s with timers := s.timers ++
          if !d.isNegative && d.seconds.float?.isSome then [armed s.now e d] else [] }, []) := by
  cases hd : d.isNegative
  case true => simp [move, schedule_of_negative hd, Except.toOption]
  case false =>
    cases hf : d.seconds.float?
    case none => simp [move, schedule_of_tooLarge h hd (by simp [hf]), Except.toOption]
    case some => simp [move, schedule_of_open h hd (by simp [hf]), Except.toOption]

theorem starts_tick_eq (s : Scheduler ε σ ω) :
    starts (s.tick c).2 =
      ((s.timers.filter (·.isDue s.now)).map fun t => (s.now, t.event)) ++
        ((s.timers.filter (!·.isDue s.now)).filter (·.isDue (s.now + 1))).map
          fun t => (s.now + 1, t.event) := by
  simp only [tick_eq, starts_append, starts_fire, starts_wake, append_nil]
  rfl

-- What starts as the clock moves depends on what is armed, and on nothing that deliveries do.
theorem starts_ticks_congr (now : s.now = t.now) (timers : s.timers = t.timers) (n : Nat) :
    starts (ticks c n s).2 = starts (ticks c' n t).2 := by
  induction n generalizing s t
  case zero => rfl
  case succ n hi =>
    have first : starts (s.tick c).2 = starts (t.tick c').2 := by
      rw [starts_tick_eq, starts_tick_eq, now, timers]
    have rest : starts (ticks c n (s.tick c).1).2 = starts (ticks c' n (t.tick c').1).2 := by
      refine hi ?now ?timers
      case now => rw [now_tick, now_tick, now]
      case timers => rw [timers_tick, timers_tick, now, timers]
    rw [ticks, ticks, starts_append, starts_append, first, rest]

theorem Abreast.move (h : Abreast s t) (same : m.step = m'.step) :
    Abreast (s.move m).1 (t.move m').1 ∧ starts (s.move m).2 = starts (t.move m').2 := by
  cases h
  case shut hs ht =>
    exact ⟨.shut (hs.move m) (ht.move m'), (hs.starts_move m).trans (ht.starts_move m').symm⟩
  case opened hs ht now timers =>
    cases m <;> cases m' <;> cases same
    case schedule.schedule.refl e d =>
      rw [move_schedule_of_open hs, move_schedule_of_open ht]
      refine ⟨.opened hs ht now ?_, rfl⟩
      simp only [now, timers]
    case advance.advance.refl c n c' =>
      simp only [Scheduler.move, advance_eq_ticks]
      refine ⟨.opened ?_ ?_ ?_ ?_, starts_ticks_congr now timers n⟩
      · rw [closed_ticks, hs]
      · rw [closed_ticks, ht]
      · rw [now_ticks, now_ticks, now]
      · rw [timers_ticks, timers_ticks, now, timers]
    case close.close.refl c c' =>
      exact ⟨.shut (shut_close s) (shut_close t), (starts_close s).trans (starts_close t).symm⟩

theorem Abreast.run (h : Abreast s t) (same : ms.map Move.step = ns.map Move.step) :
    Abreast (s.run ms).1 (t.run ns).1 ∧ starts (s.run ms).2 = starts (t.run ns).2 := by
  induction ms generalizing s t ns
  case nil =>
    cases map_eq_nil_iff.mp same.symm
    exact ⟨h, rfl⟩
  case cons m ms hi =>
    obtain ⟨m', ns, rfl, first, rest⟩ := map_eq_cons_iff.mp same.symm
    have ⟨next, starting⟩ := h.move first.symm
    have ⟨last, later⟩ := hi next rest.symm
    refine ⟨last, ?_⟩
    rw [Scheduler.run, Scheduler.run, starts_append, starts_append, starting, later]

theorem abreast_empty : Abreast ({} : Scheduler ε σ ω) ({} : Scheduler ε τ υ) :=
  .opened rfl rfl rfl rfl

end

variable (f : ε → HeadEvent) {s : Scheduler ε σ ω} {ms : List (Move ε σ ω)}

-- What a move writes to the log as such, apart from what comes of it.
def Move.ownLog (s : Scheduler HeadEvent σ ω) (f : ε → HeadEvent) : Move ε σ ω → List Log.Record
  | schedule e d => s.armingLog (f e) d
  | advance .. => []
  | close _ => s.closingLog

def log (s : Scheduler ε σ ω) : List (Move ε σ ω) → List Log.Record
  | [] => []
  | m :: ms =>
    m.ownLog (s.map f) f ++ (s.move m).2.flatMap (fun h => happeningLog (h.map f)) ++
      log (s.move m).1 ms

theorem filter_error_ownLog (s : Scheduler HeadEvent σ ω) (m : Move ε σ ω) :
    (m.ownLog s f).filter (·.level = .error) = [] := by
  cases m
  case schedule e d =>
    simp only [Move.ownLog, armingLog]
    split
    case h_1 => rfl
    case h_2 => split <;> simp [note]
  case advance c n => rfl
  case close c =>
    simp only [Move.ownLog, closingLog]
    split <;> simp [note]

theorem endings_map (hs : List (Happening ε ω)) :
    endings (hs.map (·.map f)) = (endings hs).map fun x => ⟨x.started, x.tick, f x.event, x.failed⟩ := by
  have named (h : Happening ε ω) :
      (h.map f).ending? = h.ending?.map fun x => ⟨x.started, x.tick, f x.event, x.failed⟩ := by
    cases h <;> rfl
  simp [endings, filterMap_map, map_filterMap, named]

theorem flatMap_happeningLog_map (hs : List (Happening ε ω)) :
    hs.flatMap (fun h => happeningLog (h.map f)) =
      ((endings hs).filter (·.failed)).map fun x => failureRecord (f x.event) := by
  have named := flatMap_happeningLog (hs.map (·.map f))
  rw [endings_map, filter_map, map_map, flatMap_map] at named
  exact named

-- The errors in the log of a run are the failures of its deliveries.
theorem filter_error_log (s : Scheduler ε σ ω) (ms : List (Move ε σ ω)) :
    (log f s ms).filter (·.level = .error) =
      ((endings (s.run ms).2).filter (·.failed)).map fun x => failureRecord (f x.event) := by
  have errors (xs : List (Ending ε)) :
      (xs.map fun x => failureRecord (f x.event)).filter (·.level = .error) =
        xs.map fun x => failureRecord (f x.event) := by
    simp [filter_eq_self, failureRecord, note]
  induction ms generalizing s
  case nil => rfl
  case cons m ms hi =>
    rw [log, run, filter_append, filter_append, filter_error_ownLog, nil_append,
      flatMap_happeningLog_map, errors, hi, endings_append, filter_append, map_append]

theorem filter_error_visible {level : Log.Level} (h : level.rank ≤ Log.Level.error.rank)
    (rs : List Log.Record) :
    (Log.visible level rs).filter (·.level = .error) = rs.filter (·.level = .error) := by
  rw [Log.visible, filter_filter]
  refine filter_congr fun r _ => ?_
  by_cases hr : r.level = .error <;> simp [hr, h]

-- A delivery sleeps for some ticks, and then it returns or fails.
structure Manner where
  ticks : Nat
  fails : Bool

def Manner.work (m : Manner) : Work Unit Empty :=
  .sleep m.ticks (if m.fails then .failed else .ended)

-- What deliveries do, by the numbers of the calls that have armed them.
def behaving (b : Nat → Manner) : Conduct (Nat × ε) Unit Empty where
  work _ x := (b x.1).work
  state := ()

def perform (b : Nat → Manner) (steps : List (Step ε)) :
    Scheduler (Nat × ε) Unit Empty × List (Happening (Nat × ε) Empty) :=
  run {} (moves (behaving b) steps)

theorem ending_behaving (b : Nat → Manner) :
    (behaving b : Conduct (Nat × ε) Unit Empty).ending =
      fun x => ⟨x.1, x.1 + (b x.2.1).ticks, x.2, (b x.2.1).fails⟩ := by
  funext x
  cases h : (b x.2.1).fails <;>
    simp [Conduct.ending, behaving, Manner.work, Work.duration, Work.fails, h]

-- What becomes of the deliveries of a run, and what of them the log tells.
structure Told (b : Nat → Manner) (steps : List (Step HeadEvent)) : Prop where
  -- Those have ended that have slept long enough, each in its own manner.
  ended  : endings (perform b steps).2 ~
    ((starts (perform b steps).2).map fun x =>
      ⟨x.1, x.1 + (b x.2.1).ticks, x.2, (b x.2.1).fails⟩).filter
      (·.tick ≤ (perform b steps).1.now)
  errors : ∀ level : Log.Level, level.rank ≤ Log.Level.error.rank →
    (Log.visible level (log Prod.snd {} (moves (behaving b) steps))).filter (·.level = .error) =
      ((endings (perform b steps).2).filter fun x => (b x.event.1).fails).map
        fun x => failureRecord x.event.2

theorem told_perform (b : Nat → Manner) (steps : List (Step HeadEvent)) : Told b steps := by
  have ended := endings_run_eq (under_moves (behaving b) steps)
  rw [ending_behaving] at ended
  refine ⟨ended, fun level admitted => ?_⟩
  -- What has ended was started, and so has ended in its own manner.
  have failed : (endings (perform b steps).2).filter (·.failed) =
      (endings (perform b steps).2).filter fun x => (b x.event.1).fails := by
    refine filter_congr fun x hx => ?_
    obtain ⟨start, -, rfl⟩ := mem_map.mp (mem_filter.mp (ended.subset hx)).1
    rfl
  rw [filter_error_visible admitted, filter_error_log, ← failed]
  rfl

-- Whatever deliveries do, the others start as they do anyway, call by call.
theorem perform_undisturbed (steps : List (Step HeadEvent)) (a b : Nat → Manner) :
    starts (perform a steps).2 = starts (perform b steps).2 ∧
      (∀ n, (perform a (steps.take n)).1.pending = (perform b (steps.take n)).1.pending) ∧
      Told a steps ∧ Told b steps := by
  have abreast (steps : List (Step HeadEvent)) :=
    abreast_empty.run (map_step_moves (behaving a) (behaving b) steps)
  refine ⟨(abreast steps).2, fun n => ?_, told_perform a steps, told_perform b steps⟩
  exact (abreast (steps.take n)).1.pending

end RefWatch.Scheduler
