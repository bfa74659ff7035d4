import RefWatch.Delay
import RefWatch.Work

namespace RefWatch

namespace Scheduler

def ticksPerSecond : Nat := 64

-- Whole ticks of a delay in seconds; a part of a tick takes a tick. No ticks make up for an
-- infinite delay, or for a decimal that counts as infinite.
def ticksOf : Number → Option Nat
  | .whole n => some (n.toNat * ticksPerSecond)
  | .decimal true _ _ | .notANumber => some 0
  | .decimal false d e =>
    let n := d * Nat.pow 10 e.toNat
    let m := Nat.pow 10 (-e).toNat
    if n < Number.wholeLimit * m then some ((n * ticksPerSecond + m - 1) / m) else none
  | .infinite _ => none

structure Timer (ε : Type) where
  -- The tick that it falls due at, if it ever does.
  due : Option Nat
  event : ε

-- A delivery that has been started and sleeps.
structure Running (ε σ ω : Type) where
  event : ε
  started : Nat
  wake : Nat
  rest : Work σ ω

inductive Happening (ε ω : Type)
  | started (tick : Nat) (event : ε)
  | told (event : ε) (w : ω)
  | ended (started tick : Nat) (event : ε) (failed : Bool)

-- What deliveries do, by the tick they start at, and the state they find.
structure Conduct (ε σ ω : Type) where
  work : Nat → ε → Work σ ω
  state : σ

inductive Refusal
  | negativeDelay (delay : Delay)
  | delayTooLarge
  -- No number, but another kind of value.
  | noDelay (kind : String)
  deriving DecidableEq

def Refusal.message : Refusal → String
  | negativeDelay d => "delay_seconds must be >= 0, got " ++ d.text
  | delayTooLarge => Number.tooLargeText
  | noDelay kind => "'<' not supported between instances of '" ++ kind ++ "' and 'int'"

end Scheduler

open Scheduler in
structure Scheduler (ε σ ω : Type) where
  now : Nat := 0
  timers : List (Timer ε) := []
  running : List (Running ε σ ω) := []
  closed : Bool := false

namespace Scheduler

variable {ε σ ω : Type}

def pending (s : Scheduler ε σ ω) : Nat := s.timers.length

def checkDelay (delay : Delay) : Except Refusal Unit :=
  if delay.isNegative then .error (.negativeDelay delay) else .ok ()

-- Arms an event. A closed scheduler drops it.
def schedule (s : Scheduler ε σ ω) (event : ε) (delay : Delay) :
    Except Refusal (Scheduler ε σ ω) := do
  checkDelay delay
  if s.closed then return s
  if delay.seconds.float?.isNone then throw .delayTooLarge
  return { s with timers := s.timers ++ [⟨(ticksOf delay.seconds).map (s.now + ·), event⟩] }

-- Runs a delivery from where it rests.
def proceed (c : Conduct ε σ ω) (now : Nat) (event : ε) (started : Nat) (w : Work σ ω) :
    List (Running ε σ ω) × List (Happening ε ω) :=
  let told := (w.run c.state).1.map (Happening.told event)
  match (w.run c.state).2 with
  | .finished failed => ([], told ++ [.ended started now event failed])
  | .asleep n rest => ([⟨event, started, now + n, rest⟩], told)

def start (c : Conduct ε σ ω) (now : Nat) (t : Timer ε) :
    List (Running ε σ ω) × List (Happening ε ω) :=
  let r := proceed c now t.event now (c.work now t.event)
  (r.1, .started now t.event :: r.2)

def resume (c : Conduct ε σ ω) (now : Nat) (r : Running ε σ ω) :
    List (Running ε σ ω) × List (Happening ε ω) :=
  if r.wake ≤ now then proceed c now r.event r.started r.rest else ([r], [])

def Timer.isDue (now : Nat) (t : Timer ε) : Bool := t.due.any (· ≤ now)

-- Starts what is due.
def fire (c : Conduct ε σ ω) (s : Scheduler ε σ ω) :
    Scheduler ε σ ω × List (Happening ε ω) :=
  let begun := (s.timers.filter (·.isDue s.now)).map (start c s.now)
  ({ s with
      timers := s.timers.filter (!·.isDue s.now)
      running := s.running ++ begun.flatMap (·.1) },
    begun.flatMap (·.2))

-- Goes on with what has slept long enough.
def wake (c : Conduct ε σ ω) (s : Scheduler ε σ ω) :
    Scheduler ε σ ω × List (Happening ε ω) :=
  let resumed := s.running.map (resume c s.now)
  ({ s with running := resumed.flatMap (·.1) }, resumed.flatMap (·.2))

-- One tick. What was armed without delay at the tick before starts first, as of that tick.
def tick (c : Conduct ε σ ω) (s : Scheduler ε σ ω) : Scheduler ε σ ω × List (Happening ε ω) :=
  let (s, late) := s.fire c
  let (s, woken) := { s with now := s.now + 1 }.wake c
  let (s, due) := s.fire c
  (s, late ++ woken ++ due)

-- How many of the next `n` ticks pass before anything is due.
def idle (s : Scheduler ε σ ω) (n : Nat) : Nat :=
  (s.timers.filterMap (·.due) ++ s.running.map (·.wake)).foldl (fun k t => min k (t - s.now - 1)) n

theorem foldl_min_le (now : Nat) (ts : List Nat) (k : Nat) :
    ts.foldl (fun k t => min k (t - now - 1)) k ≤ k := by
  induction ts generalizing k with
  | nil => exact Nat.le_refl _
  | cons t ts ih => exact Nat.le_trans (ih _) (Nat.min_le_left ..)

theorem idle_le (s : Scheduler ε σ ω) (n : Nat) : s.idle n ≤ n := foldl_min_le ..

-- Moves the clock `n` ticks on. Ticks at which nothing can happen are passed over together.
def advance (c : Conduct ε σ ω) (n : Nat) (s : Scheduler ε σ ω) :
    Scheduler ε σ ω × List (Happening ε ω) :=
  let k := s.idle n
  if n ≤ k then ({ s with now := s.now + n }, [])
  else
    let (s, now) := { s with now := s.now + k }.tick c
    let (s, later) := s.advance c (n - k - 1)
    (s, now ++ later)
  termination_by n
  decreasing_by
    have := s.idle_le n
    omega

-- Ticks until all that is running has ended.
def remaining (state : σ) (s : Scheduler ε σ ω) : Nat :=
  s.running.foldl (fun n r => max n (r.wake - s.now + r.rest.duration state)) 0

-- Cancels what is armed and waits for what is running.
def close (c : Conduct ε σ ω) (s : Scheduler ε σ ω) : Scheduler ε σ ω × List (Happening ε ω) :=
  let s := { s with timers := [], closed := true }
  s.advance c (s.remaining c.state)

theorem schedule_of_closed {s : Scheduler ε σ ω} (h : s.closed) (event : ε) {delay : Delay}
    (hd : delay.isNegative = false) : s.schedule event delay = .ok s := by
  simp [schedule, checkDelay, h, hd, bind, Except.bind, pure, Except.pure]

theorem schedule_of_negative {delay : Delay} (hd : delay.isNegative) (s : Scheduler ε σ ω)
    (event : ε) : s.schedule event delay = .error (.negativeDelay delay) := by
  simp [schedule, checkDelay, hd, bind, Except.bind]

end Scheduler

end RefWatch
