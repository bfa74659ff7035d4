import RefWatch.Number
import RefWatch.Payload
import RefWatch.Ref

namespace RefWatch.Metrics

-- Values kept apart by labels.
abbrev Series (α : Type) := List (List String × α)

namespace Series

def get? (s : Series α) (labels : List String) : Option α :=
  (s.find? (·.1 == labels)).map (·.2)

-- Changes the value at some labels; `new` is what it is if they have not come up yet.
def update (s : Series α) (labels : List String) (new : α) (f : α → α) : Series α :=
  match s with
  | [] => [(labels, f new)]
  | e :: es => if e.1 == labels then (e.1, f e.2) :: es else e :: update es labels new f

theorem get?_update_self (s : Series α) (labels : List String) (new : α) (f : α → α) :
    (s.update labels new f).get? labels = some (f ((s.get? labels).getD new)) := by
  induction s with
  | nil => simp [update, get?]
  | cons e es ih =>
    by_cases h : e.1 == labels
    · simp [update, get?, h]
    · simp only [get?, update, h, Bool.false_eq_true, if_false, List.find?_cons] at ih ⊢
      exact ih

end Series

-- How much a counter counts: units, or, where it was raised otherwise, a floating point number.
inductive Amount
  | units (n : Nat)
  | real (x : Float)

namespace Amount

def toFloat : Amount → Float
  | units n => n.toFloat
  | real x => x

def increment : Amount → Amount
  | units n => units (n + 1)
  | real x => real (x + 1.0)

def raise (a : Amount) (x : Float) : Amount := real (a.toFloat + x)

def toNat : Amount → Nat
  | units n => n
  | real _ => 0

end Amount

abbrev Counter := Series Amount

inductive Refusal
  | negative
  | tooLarge
  deriving DecidableEq

def Refusal.message : Refusal → String
  | negative => "Counters can only be incremented by non-negative amounts."
  | tooLarge => Number.tooLargeText

namespace Counter

def increment (c : Counter) (labels : List String) : Counter :=
  c.update labels (.units 0) Amount.increment

-- Labels may come up without an amount.
def touch (c : Counter) (labels : List String) : Counter := c.update labels (.units 0) id

-- Labels come up even if the counter then refuses the amount.
def raise (c : Counter) (labels : List String) (n : Number) : Counter × Option Refusal :=
  if n.isNegative then (c.touch labels, some .negative)
  else
    match n.float? with
    | none => (c.touch labels, some .tooLarge)
    | some x => (c.update labels (.units 0) (·.raise x), none)

-- The units over all labels.
def total (c : Counter) : Nat := c.foldr (fun e n => e.2.toNat + n) 0

theorem total_increment (c : Counter) (labels : List String)
    (h : ∀ e ∈ c, ∃ n, e.2 = .units n) : (c.increment labels).total = c.total + 1 := by
  induction c with
  | nil => rfl
  | cons e es ih =>
    obtain ⟨n, hn⟩ := h e List.mem_cons_self
    have ih := ih fun d hd => h d (List.mem_cons_of_mem _ hd)
    by_cases hl : e.1 == labels
    · simp only [increment, Series.update, hl, if_true, total, List.foldr_cons, hn,
        Amount.increment, Amount.toNat]
      omega
    · simp only [increment, Series.update, hl, total, List.foldr_cons,
        Bool.false_eq_true, if_false] at ih ⊢
      omega

end Counter

-- Upper bounds of the buckets, in seconds; a last bucket has none.
def bounds : List Float := [0.1, 0.5, 1.0, 2.5, 5.0, 10.0, 30.0, 60.0, 300.0]

-- Observations by the bucket they fall into, and their sum.
structure Histogram where
  buckets : List Nat := List.replicate (bounds.length + 1) 0
  sum : Float := 0.0

namespace Histogram

def count (h : Histogram) : Nat := h.buckets.foldl (· + ·) 0

def bucketOf (x : Float) : Nat := bounds.findIdx (x ≤ ·)

def observe (h : Histogram) (x : Float) : Histogram where
  buckets := h.buckets.modify (bucketOf x) (· + 1)
  sum := h.sum + x

-- Observations in each bucket and those below.
def cumulative (h : Histogram) : List Nat :=
  (List.range h.buckets.length).map fun i => (h.buckets.take (i + 1)).foldl (· + ·) 0

end Histogram

inductive DropReason
  | decode
  | repositoryUrl
  | error
  deriving DecidableEq

def DropReason.name : DropReason → String
  | decode => "decode"
  | repositoryUrl => "repository_url"
  | error => "error"

inductive Target
  | navigator
  | source
  deriving DecidableEq

def Target.name : Target → String
  | navigator => "navigator"
  | source => "source"

end Metrics

open Metrics in
structure Metrics where
  received : Counter := []
  dropped : Counter := []
  scheduled : Counter := []
  deliveries : Counter := []
  heads : Counter := []
  failures : Counter := []
  lag : Series Histogram := []

namespace Metrics

def receive (m : Metrics) (k : EventKind) : Metrics :=
  { m with received := Counter.increment m.received [k.name] }

def drop (m : Metrics) (k : EventKind) (r : DropReason) : Metrics :=
  { m with dropped := Counter.increment m.dropped [k.name, r.name] }

def schedule (m : Metrics) (k : EventKind) (t : ChangeType) : Metrics :=
  { m with scheduled := Counter.increment m.scheduled [t.name, k.name] }

def deliver (m : Metrics) (k : EventKind) (t : Target) : Metrics :=
  { m with deliveries := Counter.increment m.deliveries [k.name, t.name] }

def report (m : Metrics) (k : RefKind) : Metrics :=
  { m with heads := Counter.increment m.heads [k.name] }

def fail (m : Metrics) (listener : String) : Metrics :=
  { m with failures := Counter.increment m.failures [listener] }

-- Observes how many seconds an event waited; time does not run backwards.
def observeLag (lag : Series Histogram) (kind : String) (seconds : Number) :
    Series Histogram × Option Refusal :=
  match seconds.atLeastZero.float? with
  | none => (lag.update [kind] {} id, some .tooLarge)
  | some x => (lag.update [kind] {} (·.observe x), none)

def wait (m : Metrics) (k : EventKind) (micros : Nat) : Metrics :=
  { m with lag := (observeLag m.lag k.name (.decimal false micros (-6))).1 }

end Metrics

end RefWatch
