import Mathlib.Algebra.BigOperators.Group.Finset.Piecewise
import Mathlib.Data.Fintype.Basic
import RefWatch.Dispatcher
import RefWatch.Proofs.Making
import RefWatch.Proofs.Tally

namespace RefWatch

namespace Metrics

-- How often a tally has been counted.
def Counts.units (c : Counts) (t : Tally) : Nat :=
  match c t.family t.labels with
  | some a => a.toNat
  | none => 0

def Counts.Whole (c : Counts) : Prop := ∀ f ls a, c f ls = some a → ∃ n, a = .units n

variable {c : Counts}

theorem Counts.Whole.add (h : c.Whole) (t : Tally) : (c.add t).Whole := by
  intro f ls a ha
  unfold Counts.add at ha
  split at ha
  case isFalse => exact h f ls a ha
  case isTrue =>
    cases hc : c f ls
    case none => exact ⟨1, by simpa [hc, Amount.increment] using ha.symm⟩
    case some b =>
      obtain ⟨n, rfl⟩ := h f ls b hc
      exact ⟨n + 1, by simpa [hc, Amount.increment] using ha.symm⟩

theorem Counts.Whole.units_add (h : c.Whole) (t u : Tally) :
    (c.add t).units u = c.units u + if t = u then 1 else 0 := by
  by_cases eq : t = u
  case neg => simp [units, Counts.add, eq]
  case pos =>
    cases hc : c u.family u.labels
    case none => simp [units, Counts.add, eq, hc, Amount.increment, Amount.toNat]
    case some b =>
      obtain ⟨n, rfl⟩ := h _ _ b hc
      simp [units, Counts.add, eq, hc, Amount.increment, Amount.toNat]

theorem Counts.Whole.foldl_add (h : c.Whole) (ts : List Tally) : (ts.foldl Counts.add c).Whole := by
  induction ts generalizing c
  case nil => exact h
  case cons t ts hi => exact hi (h.add t)

theorem Counts.Whole.units_foldl_add (h : c.Whole) (ts : List Tally) (u : Tally) :
    (ts.foldl Counts.add c).units u = c.units u + ts.count u := by
  induction ts generalizing c
  case nil => rfl
  case cons t ts hi =>
    rw [List.foldl_cons, hi (h.add t), h.units_add, List.count_cons]
    simp only [beq_iff_eq]
    omega

instance : Fintype DropReason where
  elems := {.decode, .repositoryUrl, .error}
  complete r := by cases r <;> simp

instance : Fintype ChangeType where
  elems := {.created, .updated, .removed}
  complete t := by cases t <;> simp

theorem kind_name_inj {k l : EventKind} : k.name = l.name ↔ k = l := by
  cases k <;> cases l <;> simp [EventKind.name]

theorem reason_name_inj {r q : DropReason} : r.name = q.name ↔ r = q := by
  cases r <;> cases q <;> simp [DropReason.name]

theorem type_name_inj {t u : ChangeType} : t.name = u.name ↔ t = u := by
  cases t <;> cases u <;> simp [ChangeType.name]

structure Balanced (m : Metrics) : Prop where
  whole   : m.counts.Whole
  balance : ∀ k : EventKind, m.counts.units ⟨.received, [k.name]⟩ =
    ∑ r : DropReason, m.counts.units ⟨.dropped, [k.name, r.name]⟩ +
      ∑ t : ChangeType, m.counts.units ⟨.scheduled, [t.name, k.name]⟩

theorem balanced_empty : Balanced {} where
  whole f ls a ha := by cases f <;> cases ha
  balance k := by simp [counts, counter, Series.get?, Counts.units]

variable {m : Metrics} {σ : Type}

theorem Balanced.count (h : Balanced m) (n : Notification) (o : Dispatch.Outcome σ) :
    Balanced (Dispatch.count n o m) where
  whole := by
    rw [Dispatch.counts_count]
    exact h.whole.foldl_add _
  balance k := by
    simp only [Dispatch.counts_count, h.whole.units_foldl_add, Finset.sum_add_distrib, h.balance k]
    have split : (Dispatch.tallies n o).count ⟨.received, [k.name]⟩ =
        ∑ r : DropReason, (Dispatch.tallies n o).count ⟨.dropped, [k.name, r.name]⟩ +
          ∑ t : ChangeType, (Dispatch.tallies n o).count ⟨.scheduled, [t.name, k.name]⟩ := by
      by_cases same : n.kind = k <;> cases o <;>
        simp [Dispatch.tallies, Dispatch.Outcome.event?, Dispatch.Outcome.drop?, List.count_cons,
          kind_name_inj, reason_name_inj, type_name_inj, same]
    omega

end Metrics

-- What becomes of a scheduler that an event is handed to with a delay, and the text of its failure if
-- it does not take the event.
abbrev Port (σ : Type) := σ → HeadEvent → Delay → σ × Option String

-- A dispatcher and the scheduler that it hands events to.
structure Desk (σ : Type) where
  dispatcher : Dispatcher
  port : σ

namespace Desk

variable {σ : Type}

def answer (p : Port σ) (b : Desk σ) (e : HeadEvent) : σ × Option String :=
  p b.port e b.dispatcher.delay

def arm (p : Port σ) (b : Desk σ) (e : HeadEvent) : Except String Dispatcher.Deliveries :=
  match (b.answer p e).2 with
  | none => .ok b.dispatcher.deliveries
  | some error => .error error

-- The events that a dispatch hands on.
def handed : Dispatch.Outcome Dispatcher.Deliveries → List HeadEvent
  | .refused e _ | .scheduled e _ => [e]
  | .undecodable _ | .badUrl _ => []

def dispatch (p : Port σ) (b : Desk σ) (n : Notification) :
    Desk σ × Dispatch.Outcome Dispatcher.Deliveries :=
  let (d, o, _) := b.dispatcher.dispatchWith (b.arm p) (fun _ => []) n
  ({ dispatcher := d
     port := (handed o).foldl (fun s e => (p s e b.dispatcher.delay).1) b.port }, o)

def run (p : Port σ) (b : Desk σ) (ns : List Notification) : Desk σ :=
  ns.foldl (fun b n => (b.dispatch p n).1) b

-- Nothing has been counted yet.
def opened (d : Dispatcher) (s : σ) : Desk σ := ⟨{ d with metrics := {} }, s⟩

def recounted (b : Desk σ) (m : Metrics) : Dispatcher := { b.dispatcher with metrics := m }

open Dispatch Metrics

-- What is to be known of a dispatch.
structure Accounted (p : Port σ) (b : Desk σ) (n : Notification) (b' : Desk σ)
    (o : Outcome Dispatcher.Deliveries) : Prop where
  returned  : ∀ e, o.event? = some e ↔
    Made b.dispatcher.aliases n e ∧ (b.answer p e).2 = none
  dropped   : ∀ r, o.drop? = some r ↔
    Cause b.dispatcher.aliases (fun e => (b.answer p e).2 ≠ none) n r
  either    : o.event? = none ↔ o.drop?.isSome
  scheduled : ∀ e, o.event? = some e →
    b'.dispatcher = b.recounted ((b.dispatcher.metrics.receive n.kind).schedule n.kind e.changeType)
  lost      : ∀ r, o.drop? = some r →
    b'.dispatcher = b.recounted ((b.dispatcher.metrics.receive n.kind).drop n.kind r)
  -- The scheduler is handed the event once, and nothing else.
  handed    : ∀ e, Made b.dispatcher.aliases n e → b'.port = (b.answer p e).1
  spared    : (∀ e, ¬Made b.dispatcher.aliases n e) → b'.port = b.port
  asked     : ∀ q : Port σ, (∀ e, Made b.dispatcher.aliases n e → b.answer q e = b.answer p e) →
    b.dispatch q n = (b', o)

variable {p : Port σ} {b : Desk σ} {n : Notification} {e : HeadEvent}

theorem outcome_dispatch :
    (b.dispatch p n).2 = outcome b.dispatcher.aliases (b.arm p) n := rfl

theorem outcome_dispatch_of_made (h : Made b.dispatcher.aliases n e) :
    (b.dispatch p n).2 =
      match (b.answer p e).2 with
      | none => .scheduled e b.dispatcher.deliveries
      | some error => .refused e error := by
  rw [outcome_dispatch, outcome_of_made _ h, arm]
  cases (b.answer p e).2 <;> rfl

theorem armed?_dispatch :
    (b.dispatch p n).2.armed?.getD b.dispatcher.deliveries = b.dispatcher.deliveries := by
  by_cases m : ∃ e, Made b.dispatcher.aliases n e
  case pos =>
    obtain ⟨e, m⟩ := m
    rw [outcome_dispatch_of_made m]
    cases (b.answer p e).2 <;> rfl
  case neg =>
    obtain ⟨_, eq⟩ | ⟨_, eq⟩ := outcome_of_not_made (b.arm p) (not_exists.mp m) <;>
      rw [outcome_dispatch, eq] <;> rfl

-- A dispatch changes nothing of the dispatcher but the counts.
theorem dispatcher_dispatch :
    (b.dispatch p n).1.dispatcher =
      b.recounted (Dispatch.count n (b.dispatch p n).2 b.dispatcher.metrics) := by
  have : (b.dispatch p n).1.dispatcher =
      { b.recounted (Dispatch.count n (b.dispatch p n).2 b.dispatcher.metrics) with
        deliveries := (b.dispatch p n).2.armed?.getD b.dispatcher.deliveries } := rfl
  rw [this, armed?_dispatch]
  rfl

theorem port_dispatch :
    (b.dispatch p n).1.port =
      (Desk.handed (b.dispatch p n).2).foldl (fun s e => (p s e b.dispatcher.delay).1) b.port := rfl

theorem port_dispatch_of_made (m : Made b.dispatcher.aliases n e) :
    (b.dispatch p n).1.port = (b.answer p e).1 := by
  rw [port_dispatch, outcome_dispatch_of_made m]
  cases (b.answer p e).2 <;> rfl

theorem port_dispatch_of_not_made (m : ∀ e, ¬Made b.dispatcher.aliases n e) :
    (b.dispatch p n).1.port = b.port := by
  rw [port_dispatch]
  obtain ⟨_, eq⟩ | ⟨_, eq⟩ := outcome_of_not_made (b.arm p) m <;> rw [outcome_dispatch, eq] <;> rfl

theorem dispatch_congr {q : Port σ}
    (h : ∀ e, Made b.dispatcher.aliases n e → b.answer q e = b.answer p e) :
    b.dispatch q n = b.dispatch p n := by
  have outcomes : (b.dispatch q n).2 = (b.dispatch p n).2 :=
    outcome_congr fun e m => by rw [arm, arm, h e m]
  have ports : (b.dispatch q n).1.port = (b.dispatch p n).1.port := by
    by_cases m : ∃ e, Made b.dispatcher.aliases n e
    case pos =>
      obtain ⟨e, m⟩ := m
      rw [port_dispatch_of_made m, port_dispatch_of_made m, h e m]
    case neg =>
      have m := not_exists.mp m
      rw [port_dispatch_of_not_made m, port_dispatch_of_not_made m]
  have dispatchers : (b.dispatch q n).1.dispatcher = (b.dispatch p n).1.dispatcher := by
    rw [dispatcher_dispatch, dispatcher_dispatch, outcomes]
  exact Prod.ext (congrArg₂ Desk.mk dispatchers ports) outcomes

theorem arm_eq_ok_iff : (∃ armed, b.arm p e = .ok armed) ↔ (b.answer p e).2 = none := by
  rw [arm]
  cases (b.answer p e).2 <;> simp

theorem arm_eq_error_iff : (∃ error, b.arm p e = .error error) ↔ (b.answer p e).2 ≠ none := by
  rw [arm]
  cases (b.answer p e).2 <;> simp

theorem accounted_dispatch (p : Port σ) (b : Desk σ) (n : Notification) :
    Accounted p b n (b.dispatch p n).1 (b.dispatch p n).2 where
  returned e := by rw [outcome_dispatch, event?_outcome_eq_some_iff, arm_eq_ok_iff]
  dropped r := by
    rw [outcome_dispatch, drop?_outcome_eq_some_iff]
    simp only [arm_eq_error_iff]
  either := (Outcome.drop?_isSome_iff _).symm
  scheduled e h := by rw [dispatcher_dispatch, Dispatch.count, h]
  lost r h := by
    have none := (Outcome.drop?_isSome_iff _).mp (Option.isSome_of_eq_some h)
    rw [dispatcher_dispatch, Dispatch.count, none, h]
  handed e m := port_dispatch_of_made m
  spared m := port_dispatch_of_not_made m
  asked q h := dispatch_congr h

theorem balanced_run (h : Balanced b.dispatcher.metrics) (ns : List Notification) :
    Balanced (b.run p ns).dispatcher.metrics := by
  induction ns generalizing b
  case nil => exact h
  case cons n ns hi =>
    refine hi (b := (b.dispatch p n).1) ?_
    rw [dispatcher_dispatch]
    exact h.count n _

theorem dispatcher_run (ns : List Notification) :
    (b.run p ns).dispatcher = b.recounted (b.run p ns).dispatcher.metrics := by
  induction ns generalizing b
  case nil => rfl
  case cons n ns hi =>
    have := hi (b := (b.dispatch p n).1)
    rwa [recounted, dispatcher_dispatch] at this

theorem run_accounted (p : Port σ) (d : Dispatcher) (s : σ) (ns : List Notification) :
    let b := (opened d s).run p ns
    Balanced b.dispatcher.metrics ∧ b.dispatcher = { d with metrics := b.dispatcher.metrics } ∧
      ∀ n, Accounted p b n (b.dispatch p n).1 (b.dispatch p n).2 :=
  ⟨balanced_run balanced_empty ns, dispatcher_run ns, accounted_dispatch p _⟩

def timers : Port Dispatcher.Deliveries := fun s e delay =>
  match s.schedule e delay with
  | .ok s' => (s', none)
  | .error r => (s, some r.message)

-- A dispatcher with its own scheduler is a desk like another.
theorem dispatch_timers (d : Dispatcher) (n : Notification) :
    let b := dispatch timers ⟨d, d.deliveries⟩ n
    b.2.event? = (d.dispatch n).2.1.event? ∧ b.2.drop? = (d.dispatch n).2.1.drop? ∧
      b.1.port = (d.dispatch n).1.deliveries ∧
      b.1.dispatcher.metrics = (d.dispatch n).1.metrics := by
  intro b
  have after : (d.dispatch n).1.deliveries =
      (outcome d.aliases d.arm n).armed?.getD d.deliveries := rfl
  have counted : (d.dispatch n).1.metrics = Dispatch.count n (outcome d.aliases d.arm n) d.metrics :=
    rfl
  have ends : b.2.event? = (outcome d.aliases d.arm n).event? ∧
      b.2.drop? = (outcome d.aliases d.arm n).drop? ∧
      b.1.port = (outcome d.aliases d.arm n).armed?.getD d.deliveries := by
    by_cases m : ∃ e, Made d.aliases n e
    case pos =>
      obtain ⟨e, m⟩ := m
      have own : b.2 = _ := outcome_dispatch_of_made m
      have port : b.1.port = _ := port_dispatch_of_made m
      rw [own, port, outcome_of_made d.arm m, Dispatcher.arm, answer, timers]
      cases d.deliveries.schedule e d.delay <;> exact ⟨rfl, rfl, rfl⟩
    case neg =>
      have m := not_exists.mp m
      have own : b.2 = outcome d.aliases (arm timers ⟨d, d.deliveries⟩) n := rfl
      have same : outcome d.aliases (arm timers ⟨d, d.deliveries⟩) n = outcome d.aliases d.arm n :=
        outcome_congr fun e h => absurd h (m e)
      have port : b.1.port = d.deliveries := port_dispatch_of_not_made m
      rw [own, same, port]
      obtain ⟨_, eq⟩ | ⟨_, eq⟩ := outcome_of_not_made d.arm m <;> rw [eq] <;>
        exact ⟨rfl, rfl, rfl⟩
  obtain ⟨event, drop, port⟩ := ends
  refine ⟨event, drop, after ▸ port, ?_⟩
  have metrics : b.1.dispatcher.metrics = Dispatch.count n b.2 d.metrics :=
    congrArg Dispatcher.metrics dispatcher_dispatch
  rw [metrics, counted, Dispatch.count, Dispatch.count, event, drop]

end Desk

end RefWatch
