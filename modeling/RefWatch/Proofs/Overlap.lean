import RefWatch.Proofs.Ledger

namespace RefWatch.Scheduler

open List

variable {ε σ ω : Type} {c : Conduct ε σ ω} {s : Scheduler ε σ ω}

def tolds (hs : List (Happening ε ω)) : List (ε × ω) :=
  hs.filterMap fun
    | .told e w => some (e, w)
    | _ => none

-- What a delivery that rests has still to tell.
def Running.rests (state : σ) (r : Running ε σ ω) : List (ε × ω) :=
  (r.rest.output state).map (r.event, ·)

def promised (state : σ) (rs : List (Running ε σ ω)) : List (ε × ω) := rs.flatMap (·.rests state)

-- What a delivery tells in all that starts at a tick.
def Conduct.tells (c : Conduct ε σ ω) (start : Nat × ε) : List (ε × ω) :=
  ((c.work start.1 start.2).output c.state).map (start.2, ·)

theorem tolds_append (gs hs : List (Happening ε ω)) : tolds (gs ++ hs) = tolds gs ++ tolds hs :=
  filterMap_append

-- Whether work goes to its end or to a sleep, nothing of it gets lost.
theorem tolds_proceed (now : Nat) (e : ε) (started : Nat) (w : Work σ ω) :
    tolds (proceed c now e started w).2 ++ promised c.state (proceed c now e started w).1 =
      (w.output c.state).map (e, ·) := by
  rw [← w.output_run]
  unfold proceed
  cases h : (w.run c.state).2
  case finished => simp [tolds, promised, Work.Rest.output, filterMap_map]
  case asleep => simp [tolds, promised, Running.rests, Work.Rest.output, filterMap_map]

theorem tolds_start (now : Nat) (t : Timer ε) :
    tolds (start c now t).2 ++ promised c.state (start c now t).1 = c.tells (now, t.event) :=
  tolds_proceed ..

theorem tolds_resume (now : Nat) (r : Running ε σ ω) :
    tolds (resume c now r).2 ++ promised c.state (resume c now r).1 = r.rests c.state := by
  unfold resume
  split
  case isTrue => exact tolds_proceed ..
  case isFalse => simp [tolds, promised]

-- Telling keeps no time: what is told late is told all the same.
def tellingLedger (c : Conduct ε σ ω) : Ledger c (ε × ω) where
  settled
    | .told e w => some (e, w)
    | _ => none
  owed r := r.rests c.state
  ordered := c.tells
  punctual := False
  start now t := .of_eq (tolds_start now t)
  resume now r _ := .of_eq (tolds_resume now r)

-- Of all that the timers are for, a movement of the clock tells what belongs to those it reaches.
theorem tolds_advance (h : s.Ahead) (n : Nat) :
    tolds (s.advance c n).2 ++ promised c.state (s.advance c n).1.running ~
      promised c.state s.running ++
        (s.timers.filter (·.reached s.now n)).flatMap fun t => c.tells t.stamp := by
  rw [advance_eq_ticks]
  refine ((tellingLedger c).ticks False.elim n).trans (Perm.append_left _ ?_)
  rw [← flatMap_map Timer.stamp]
  exact (starts_ticks h n).flatMap_right _

end RefWatch.Scheduler
