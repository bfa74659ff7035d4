namespace RefWatch.Pattern

-- Where the matcher last came to, and the marks: for each group where it opened, then where it closed.
structure Memory where
  here : Nat := 0
  marks : List (Option Nat) := []
  deriving DecidableEq

namespace Memory

def goTo (m : Memory) (pos : Nat) : Memory := { m with here := pos }

-- Sets one mark. Marks before it that were not set yet are there from now on, without a place.
def mark (m : Memory) (i pos : Nat) : Memory where
  here := m.here
  marks :=
    if i < m.marks.length then m.marks.set i (some pos)
    else m.marks ++ List.replicate (i - m.marks.length) none ++ [some pos]

def «open» (m : Memory) (group pos : Nat) : Memory := m.mark (2 * (group - 1)) pos

def close (m : Memory) (group pos : Nat) : Memory := m.mark (2 * (group - 1) + 1) pos

-- Where a group opened and closed, if it did both; it may have closed before it opened again.
def ends? (m : Memory) (group : Nat) : Option (Nat × Nat) :=
  match m.marks[2 * (group - 1)]?.join, m.marks[2 * (group - 1) + 1]?.join with
  | some a, some b => some (a, b)
  | _, _ => none

def span? (m : Memory) (group : Nat) : Option (Nat × Nat) := (m.ends? group).filter fun e => e.1 ≤ e.2

-- What stays of the marks after a failed attempt that began with `m`. Marks that were not there before
-- are gone. The others are only put back where that is asked for.
def after (m : Memory) (putBack : Bool) (failed : Memory) : Memory where
  here := failed.here
  marks := if putBack then m.marks else failed.marks.take m.marks.length

end Memory

inductive Outcome
  | found (m : Memory)
  | failed (m : Memory)
  deriving DecidableEq

namespace Outcome

def andThen : Outcome → (Memory → Outcome) → Outcome
  | found m, next => next m
  | failed m, _ => failed m

def orElse : Outcome → (Memory → Outcome) → Outcome
  | found m, _ => found m
  | failed m, next => next m

def mapFailed (f : Memory → Memory) : Outcome → Outcome
  | found m => found m
  | failed m => failed (f m)

end Outcome

-- The rest of a match, from a place in the text on.
abbrev Attempt := Nat → Memory → Outcome

-- A part of a pattern: given the rest, it is the attempt to match the part and then the rest.
abbrev Way := Attempt → Attempt

-- Nothing is left to match.
def done : Attempt := fun pos m => .found (m.goTo pos)

-- A match of the part alone. A failure leads back to where it began.
def alone (way : Way) : Attempt := fun pos m => way done pos (m.goTo pos)

end RefWatch.Pattern
