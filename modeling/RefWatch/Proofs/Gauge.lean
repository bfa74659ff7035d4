import RefWatch.Proofs.Tally

namespace RefWatch

namespace Metrics

open List

theorem Counter.filter_increment (c : Counter) (p : List String → Bool) (ls : List String) :
    (c.increment ls).filter (p ·.1) =
      if p ls then Counter.increment (c.filter (p ·.1)) ls else c.filter (p ·.1) := by
  induction c
  case nil => cases h : p ls <;> simp [increment, Series.update, h]
  case cons e es hi =>
    by_cases he : e.1 = ls
    case pos => cases h : p ls <;> simp [increment, Series.update, he, h]
    case neg =>
      have later : Counter.increment (e :: es) ls = e :: Counter.increment es ls := by
        simp [increment, Series.update, he]
      have kept (es : Counter) : Counter.increment (e :: es) ls = e :: Counter.increment es ls := by
        simp [increment, Series.update, he]
      rw [later, filter_cons, filter_cons, hi]
      cases p e.1 <;> cases p ls <;> simp [kept]

structure Gauge where
  family : Family
  labels : List String → Bool

def Gauge.shows (g : Gauge) (t : Tally) : Bool := t.family = g.family && g.labels t.labels

def reading (m : Metrics) (g : Gauge) : Nat :=
  Counter.total ((m.counter g.family).filter (g.labels ·.1))

def InUnits (m : Metrics) : Prop := ∀ f, (m.counter f).InUnits

variable {m : Metrics}

theorem InUnits.tally (h : m.InUnits) (t : Tally) : (m.tally t).InUnits := by
  intro f
  rw [counter_tally]
  split
  case isTrue => exact (h f).increment t.labels
  case isFalse => exact h f

theorem InUnits.reading_tally (h : m.InUnits) (t : Tally) (g : Gauge) :
    (m.tally t).reading g = m.reading g + if g.shows t then 1 else 0 := by
  have units : Counter.InUnits ((m.counter g.family).filter (g.labels ·.1)) :=
    fun e he => h g.family e (mem_of_mem_filter he)
  rw [reading, reading, counter_tally]
  by_cases family : t.family = g.family
  case neg => simp [Gauge.shows, family]
  case pos =>
    rw [if_pos family, Counter.filter_increment]
    cases labels : g.labels t.labels
    case false => simp [Gauge.shows, labels]
    case true => simp [Gauge.shows, family, labels, Counter.total_increment _ _ units]

theorem InUnits.foldl_tally (h : m.InUnits) (ts : List Tally) : (ts.foldl Metrics.tally m).InUnits := by
  induction ts generalizing m
  case nil => exact h
  case cons t ts hi => exact hi (h.tally t)

theorem InUnits.reading_foldl_tally (h : m.InUnits) (ts : List Tally) (g : Gauge) :
    (ts.foldl Metrics.tally m).reading g = m.reading g + ts.countP g.shows := by
  induction ts generalizing m
  case nil => rfl
  case cons t ts hi => rw [foldl_cons, hi (h.tally t), h.reading_tally, countP_cons]; omega

-- Each observation falls into a bucket.
def Histogram.Complete (h : Histogram) : Prop := h.buckets.length = bounds.length + 1

theorem foldl_modify_succ {ns : List Nat} {i : Nat} (h : i < ns.length) (k : Nat) :
    (ns.modify i (· + 1)).foldl (· + ·) k = ns.foldl (· + ·) k + 1 := by
  induction ns generalizing i k
  case nil => cases h
  case cons n ns hi =>
    cases i
    case zero =>
      have one : k + (n + 1) = 1 + (k + n) := by omega
      rw [modify_zero_cons, foldl_cons, foldl_cons, one, foldl_assoc, Nat.add_comm]
    case succ i =>
      rw [modify_succ_cons, foldl_cons, foldl_cons]
      exact hi (Nat.lt_of_succ_lt_succ h) _

theorem Histogram.Complete.observe {h : Histogram} (complete : h.Complete) (x : Float) :
    (h.observe x).Complete := by
  rw [Complete, Histogram.observe, length_modify, complete]

theorem Histogram.Complete.count_observe {h : Histogram} (complete : h.Complete) (x : Float) :
    (h.observe x).count = h.count + 1 := by
  have bucket : bucketOf x < h.buckets.length := by
    rw [complete]
    exact Nat.lt_succ_of_le findIdx_le_length
  exact foldl_modify_succ bucket 0

-- How many observations have been made in all.
def observed (lag : Series Histogram) : Nat := lag.foldr (fun e n => e.2.count + n) 0

theorem complete_update {lag : Series Histogram} (h : ∀ e ∈ lag, e.2.Complete) (ls : List String)
    (x : Float) : ∀ e ∈ lag.update ls {} (·.observe x), e.2.Complete := by
  have new : Histogram.Complete {} := rfl
  induction lag
  case nil => exact forall_mem_singleton.mpr (new.observe x)
  case cons d ds hi =>
    have ⟨first, rest⟩ := forall_mem_cons.mp h
    rw [Series.update]
    split
    case isTrue => exact forall_mem_cons.mpr ⟨first.observe x, rest⟩
    case isFalse => exact forall_mem_cons.mpr ⟨first, hi rest⟩

theorem observed_update {lag : Series Histogram} (h : ∀ e ∈ lag, e.2.Complete) (ls : List String)
    (x : Float) : observed (lag.update ls {} (·.observe x)) = observed lag + 1 := by
  have new : Histogram.Complete {} := rfl
  induction lag
  case nil => exact new.count_observe x
  case cons d ds hi =>
    have ⟨first, rest⟩ := forall_mem_cons.mp h
    have hi := hi rest
    rw [Series.update]
    simp only [observed, foldr_cons] at hi ⊢
    split
    case isTrue => simp only [foldr_cons, first.count_observe x]; omega
    case isFalse => simp only [foldr_cons, hi]; omega

-- A wait is no number that has to be refused.
theorem lag_wait (m : Metrics) (k : EventKind) (micros : Nat) :
    ∃ x, (m.wait k micros).lag = m.lag.update [k.name] {} (·.observe x) :=
  ⟨(Number.decimal false micros (-6)).toFloat, rfl⟩

theorem lag_foldl_tally (ts : List Tally) (m : Metrics) : (ts.foldl tally m).lag = m.lag := by
  induction ts generalizing m
  case nil => rfl
  case cons t ts hi =>
    rw [foldl_cons, hi]
    obtain ⟨f, ls⟩ := t
    cases f <;> rfl

-- Metrics that have been measured, and not set.
structure Sound (m : Metrics) : Prop where
  units    : m.InUnits
  complete : ∀ e ∈ m.lag, e.2.Complete

theorem sound_empty : Sound {} where
  units f := by cases f <;> exact forall_mem_nil _
  complete := forall_mem_nil _

end Metrics

namespace Delivery

open List Metrics

variable {l : Listener} {e : HeadEvent} {m : Metrics}

def Step.begins : Step → Bool
  | began _ => true
  | _ => false

-- What is observed in a step.
def observe (e : HeadEvent) (m : Metrics) : Step → Metrics
  | .began waited => m.wait e.kind waited
  | _ => m

theorem count_eq (l : Listener) (e : HeadEvent) (m : Metrics) (step : Step) :
    count l e m step = (tallies l e step).foldl tally (observe e m step) := by
  have responded (t : Target) (r : Response) (m : Metrics) :
      countResponse l e.kind t r m = m.tally (responseTally l e.kind t r) := by
    cases h : r.failed <;> simp only [countResponse, responseTally, h] <;> rfl
  cases step
  case navigator n r => exact responded ..
  case source s heads r =>
    rw [count, responded, tallies, foldl_append, foldl_map]
    rfl
  all_goals rfl

theorem sound_observe (h : m.Sound) (step : Step) : (observe e m step).Sound := by
  cases step
  case began waited =>
    obtain ⟨x, lag⟩ := lag_wait m e.kind waited
    refine ⟨fun f => ?_, ?_⟩
    · have := h.units f
      cases f <;> exact this
    · rw [observe, lag]
      exact complete_update h.complete _ x
  all_goals exact h

theorem reading_observe (step : Step) (g : Gauge) : (observe e m step).reading g = m.reading g := by
  obtain ⟨f, p⟩ := g
  cases step
  case began => cases f <;> rfl
  all_goals rfl

theorem sound_count (h : m.Sound) (step : Step) : (count l e m step).Sound := by
  have observed := sound_observe (e := e) h step
  rw [count_eq]
  refine ⟨observed.units.foldl_tally _, ?_⟩
  rw [lag_foldl_tally]
  exact observed.complete

theorem reading_count (h : m.Sound) (step : Step) (g : Gauge) :
    (count l e m step).reading g = m.reading g + (tallies l e step).countP g.shows := by
  have observed := sound_observe (e := e) h step
  rw [count_eq, observed.units.reading_foldl_tally, reading_observe]

theorem observed_count (h : m.Sound) (step : Step) :
    observed (count l e m step).lag = observed m.lag + [step].countP Step.begins := by
  rw [count_eq, lag_foldl_tally]
  cases step
  case began waited =>
    obtain ⟨x, lag⟩ := lag_wait m e.kind waited
    rw [observe, lag]
    exact observed_update h.complete _ x
  all_goals rfl

theorem sound_countAll (h : m.Sound) (steps : List Step) : (countAll l e m steps).Sound := by
  induction steps generalizing m
  case nil => exact h
  case cons step steps hi => exact hi (sound_count h step)

theorem reading_countAll (h : m.Sound) (steps : List Step) (g : Gauge) :
    (countAll l e m steps).reading g =
      m.reading g + (steps.flatMap (tallies l e)).countP g.shows := by
  induction steps generalizing m
  case nil => rfl
  case cons step steps hi =>
    have rest := hi (sound_count (l := l) (e := e) h step)
    rw [countAll, foldl_cons, ← countAll, rest, reading_count h, flatMap_cons, countP_append]
    omega

theorem observed_countAll (h : m.Sound) (steps : List Step) :
    observed (countAll l e m steps).lag = observed m.lag + steps.countP Step.begins := by
  induction steps generalizing m
  case nil => rfl
  case cons step steps hi =>
    have rest := hi (sound_count (l := l) (e := e) h step)
    have split : ([step] ++ steps).countP Step.begins =
        [step].countP Step.begins + steps.countP Step.begins := countP_append
    rw [singleton_append] at split
    rw [countAll, foldl_cons, ← countAll, rest, observed_count h, split]
    omega

end Delivery

end RefWatch
