import RefWatch.Proofs.Making
import RefWatch.Proofs.Sequential

namespace RefWatch

open Scheduler (Ahead Timer armed starts)

namespace Dispatcher

variable {d : Dispatcher} {n : Notification}

-- The event that a dispatch returns.
def returned (d : Dispatcher) (n : Notification) : Option HeadEvent := (d.dispatch n).2.1.event?

theorem scheduled_dispatch (d : Dispatcher) (n : Notification) :
    (d.dispatch n).1.metrics.scheduled =
      match d.returned n with
      | some e => d.metrics.scheduled.increment [e.changeType.name, n.kind.name]
      | none => d.metrics.scheduled := by
  have : (d.dispatch n).1.metrics = Dispatch.count n (d.dispatch n).2.1 d.metrics := rfl
  rw [this, returned, Dispatch.count]
  cases (d.dispatch n).2.1 <;> rfl

theorem scheduled_countResponse (l : Listener) (k : EventKind) (t : Metrics.Target) (r : Response)
    (m : Metrics) : (Delivery.countResponse l k t r m).scheduled = m.scheduled := by
  unfold Delivery.countResponse
  split <;> rfl

theorem scheduled_reports (heads : List Report) (m : Metrics) :
    (heads.foldl (fun m r => m.report r.head.kind) m).scheduled = m.scheduled := by
  induction heads generalizing m
  case nil => rfl
  case cons r rs hi => exact hi _

theorem scheduled_countHappening (d : Dispatcher) (m : Metrics) (h : Happening) :
    (d.countHappening m h).scheduled = m.scheduled := by
  cases h
  case told e step =>
    cases step
    case navigator n r => exact scheduled_countResponse ..
    case source s heads r => exact (scheduled_countResponse ..).trans (scheduled_reports ..)
    all_goals rfl
  all_goals rfl

theorem scheduled_absorb (d : Dispatcher) (s : Deliveries) (hs : List Happening) :
    (d.absorb s hs).1.metrics.scheduled = d.metrics.scheduled := by
  have (m : Metrics) : (hs.foldl d.countHappening m).scheduled = m.scheduled := by
    induction hs generalizing m
    case nil => rfl
    case cons h hs hi => rw [List.foldl_cons, hi, scheduled_countHappening]
  exact this d.metrics

-- A closed scheduler takes an event, but does not arm it.
theorem deliveries_dispatch_of_closed (closed : d.deliveries.closed) (n : Notification) :
    (d.dispatch n).1.deliveries = d.deliveries := by
  have : (d.dispatch n).1.deliveries = (d.dispatch n).2.1.armed?.getD d.deliveries := rfl
  rw [this]
  cases ho : (d.dispatch n).2.1
  case scheduled e a =>
    have ha : d.arm e = .ok a := arm_of_outcome ho
    rcases Scheduler.schedule_cases d.deliveries e d.delay with ⟨opened, _⟩ | ⟨_, hs⟩ | ⟨r, hs⟩
    · simp [opened] at closed
    · rw [arm, hs] at ha
      cases ha
      rfl
    · simp [arm, hs, Except.mapError] at ha
  all_goals rfl

-- An event is returned for a timer, or a drop is counted.
structure Honest (d : Dispatcher) (n : Notification) : Prop where
  armed : ∀ e, d.returned n = some e → (d.dispatch n).1.deliveries =
    { d.deliveries with timers := d.deliveries.timers ++ [armed d.deliveries.now e d.delay] }
  idle  : (d.dispatch n).1.pending = d.pending → d.returned n = none ∧
    ∃ r, (d.dispatch n).1.metrics = (d.metrics.receive n.kind).drop n.kind r

theorem metrics_dispatch_of_none (h : d.returned n = none) :
    ∃ r, (d.dispatch n).1.metrics = (d.metrics.receive n.kind).drop n.kind r := by
  obtain ⟨r, hr⟩ := Option.isSome_iff_exists.mp ((Dispatch.Outcome.drop?_isSome_iff _).mpr h)
  refine ⟨r, ?_⟩
  have : (d.dispatch n).1.metrics = Dispatch.count n (d.dispatch n).2.1 d.metrics := rfl
  rw [returned] at h
  rw [this, Dispatch.count, h, hr]

theorem honest_of_none (h : d.returned n = none) : Honest d n where
  armed e he := by cases h.symm.trans he
  idle _ := ⟨h, metrics_dispatch_of_none h⟩

theorem honest_of_open (opened : d.deliveries.closed = false) (n : Notification) : Honest d n := by
  cases h : d.returned n
  case none => exact honest_of_none h
  case some e =>
    have timers : (d.dispatch n).1.deliveries =
        { d.deliveries with
          timers := d.deliveries.timers ++ [armed d.deliveries.now e d.delay] } := by
      rw [deliveries_dispatch opened, newly, ← returned, h]
      rfl
    constructor
    case armed =>
      intro f hf
      cases h.symm.trans hf
      exact timers
    case idle =>
      intro same
      simp [pending, Scheduler.pending, timers] at same

inductive Action
  | move (m : Move)
  | close

end Dispatcher

-- A dispatcher with what has happened so far.
structure Life where
  dispatcher : Dispatcher
  happened : List Dispatcher.Happening := []
  -- The timers that a closing has cancelled.
  cancelled : List (Timer HeadEvent) := []
  -- The events that have been returned after a closing.
  late : List HeadEvent := []

namespace Life

open Dispatcher

def born (d : Dispatcher) : Life := { dispatcher := { d with deliveries := {}, metrics := {} } }

-- How many events are counted as scheduled.
def scheduled (l : Life) : Nat := Metrics.Counter.total l.dispatcher.metrics.scheduled

-- The deliveries that have been started.
def started (l : Life) : List (Nat × HeadEvent) := starts l.happened

def lateOf (d : Dispatcher) : Move → List HeadEvent
  | .dispatch n => if d.deliveries.closed then (d.returned n).toList else []
  | _ => []

-- What happens in an action.
def happens (l : Life) : Action → List Happening
  | .move m => (l.dispatcher.move m).2
  | .close => (l.dispatcher.deliveries.close l.dispatcher.conduct).2

def act (l : Life) (a : Action) : Life :=
  match a with
  | .move m => { l with
      dispatcher := (l.dispatcher.move m).1
      happened := l.happened ++ l.happens a
      late := l.late ++ lateOf l.dispatcher m }
  | .close => { l with
      dispatcher := l.dispatcher.close.1
      happened := l.happened ++ l.happens a
      cancelled := l.cancelled ++ l.dispatcher.deliveries.timers }

def run (l : Life) (as : List Action) : Life := as.foldl act l

-- Each event that is returned has been armed, and what is counted as scheduled is what has been armed.
structure Booked (d : Dispatcher) (as : List Action) : Prop where
  honest : ∀ pre n post, as = pre ++ .move (.dispatch n) :: post →
    Honest ((born d).run pre).dispatcher n
  total  : ∀ pre, pre <+: as → ((born d).run pre).scheduled =
    ((born d).run pre).dispatcher.pending + ((born d).run pre).started.length +
      ((born d).run pre).cancelled.length

section

variable (d : Dispatcher)

theorem total_dispatch (units : Metrics.Counter.InUnits d.metrics.scheduled) (n : Notification) :
    Metrics.Counter.total (d.dispatch n).1.metrics.scheduled =
      Metrics.Counter.total d.metrics.scheduled + (d.returned n).toList.length := by
  rw [scheduled_dispatch]
  cases d.returned n
  case none => rfl
  case some e => exact Metrics.Counter.total_increment _ _ units

theorem pending_dispatch (n : Notification) :
    (d.dispatch n).1.pending + (lateOf d (.dispatch n)).length =
      d.pending + (d.returned n).toList.length := by
  cases h : d.deliveries.closed
  case true => simp [pending, deliveries_dispatch_of_closed h, lateOf, h]
  case false =>
    rw [pending, deliveries_dispatch h]
    simp [pending, Scheduler.pending, lateOf, h, newly, returned]

theorem ahead_dispatch (ahead : d.deliveries.Ahead) (n : Notification) :
    (d.dispatch n).1.deliveries.Ahead := by
  cases h : d.deliveries.closed
  case true => rwa [deliveries_dispatch_of_closed h]
  case false => exact ahead_move h ahead (.dispatch n)

-- The timers that the clock leaves are those that it does not reach.
theorem pending_advance (ahead : d.deliveries.Ahead) (n : Nat) :
    (d.move (.advance n)).1.pending + (starts (d.move (.advance n)).2).length = d.pending := by
  have left : (d.move (.advance n)).1.pending =
      (d.deliveries.timers.filter (!·.reached d.deliveries.now n)).length := by
    rw [pending, Scheduler.pending, deliveries_advance, Scheduler.timers_ticks]
  have gone : (starts (d.move (.advance n)).2).length =
      (d.deliveries.timers.filter (·.reached d.deliveries.now n)).length := by
    have : (d.move (.advance n)).2 = (Scheduler.ticks d.conduct n d.deliveries).2 :=
      congrArg Prod.snd (Scheduler.advance_eq_ticks n d.deliveries)
    rw [this, (Scheduler.starts_ticks ahead n).length_eq, List.length_map]
  have := (List.filter_append_perm (·.reached d.deliveries.now n) d.deliveries.timers).length_eq
  rw [List.length_append] at this
  rw [left, gone, Nat.add_comm, this]
  rfl

theorem pending_close : d.close.1.pending = 0 := by
  have : d.close.1.pending = (d.deliveries.close d.conduct).1.timers.length := rfl
  rw [this, Scheduler.timers_close]
  rfl

end

structure Sound (l : Life) : Prop where
  ahead : l.dispatcher.deliveries.Ahead
  units : Metrics.Counter.InUnits l.dispatcher.metrics.scheduled
  total : l.scheduled =
    l.dispatcher.pending + l.started.length + l.cancelled.length + l.late.length

variable {l : Life} {d : Dispatcher} {as : List Action}

theorem sound_born (d : Dispatcher) : Sound (born d) where
  ahead := Scheduler.ahead_empty
  units _ h := nomatch h
  total := rfl

theorem sound_dispatch (h : l.Sound) (n : Notification) : (l.act (.move (.dispatch n))).Sound where
  ahead := ahead_dispatch _ h.ahead n
  units := by
    have : (l.act (.move (.dispatch n))).dispatcher.metrics.scheduled = _ :=
      scheduled_dispatch l.dispatcher n
    rw [this]
    cases l.dispatcher.returned n
    case none => exact h.units
    case some e => exact h.units.increment _
  total := by
    have counted := total_dispatch l.dispatcher h.units n
    have armed := pending_dispatch l.dispatcher n
    have total := h.total
    simp only [scheduled, started, act, happens, move, List.append_nil,
      List.length_append] at total ⊢
    omega

theorem sound_advance (h : l.Sound) (n : Nat) : (l.act (.move (.advance n))).Sound := by
  have counter : (l.act (.move (.advance n))).dispatcher.metrics.scheduled =
      l.dispatcher.metrics.scheduled := scheduled_absorb ..
  have clock : (l.act (.move (.advance n))).dispatcher.deliveries = _ :=
    deliveries_advance l.dispatcher n
  refine ⟨clock ▸ Scheduler.ahead_ticks h.ahead n, counter ▸ h.units, ?_⟩
  have moved := pending_advance l.dispatcher h.ahead n
  have total := h.total
  rw [scheduled, counter]
  simp only [scheduled, started, act, happens, lateOf, Scheduler.starts_append,
    List.length_append, List.length_nil] at total ⊢
  omega

theorem sound_close (h : l.Sound) : (l.act .close).Sound := by
  have counter : (l.act .close).dispatcher.metrics.scheduled = l.dispatcher.metrics.scheduled :=
    scheduled_absorb ..
  refine ⟨Scheduler.ahead_close _, counter ▸ h.units, ?_⟩
  have none : (l.act .close).dispatcher.pending = 0 := pending_close _
  have cancelled : l.dispatcher.deliveries.timers.length = l.dispatcher.pending := rfl
  have total := h.total
  rw [scheduled, counter, none]
  simp only [started, act, happens, Scheduler.starts_append, Scheduler.starts_close,
    List.append_nil, List.length_append, cancelled, scheduled] at total ⊢
  omega

theorem sound_act (h : l.Sound) (a : Action) : (l.act a).Sound := by
  cases a
  case close => exact sound_close h
  case move m =>
    cases m
    case dispatch n => exact sound_dispatch h n
    case advance n => exact sound_advance h n
    case register c =>
      refine ⟨h.ahead, h.units, ?_⟩
      simp only [started, act, happens, move, lateOf, List.append_nil]
      exact h.total

theorem sound_run (h : l.Sound) (as : List Action) : (l.run as).Sound := by
  induction as generalizing l
  case nil => exact h
  case cons a as hi => exact hi (sound_act h a)

theorem run_append (l : Life) (as bs : List Action) : l.run (as ++ bs) = (l.run as).run bs :=
  List.foldl_append

theorem late_act (l : Life) (a : Action) : l.late <+: (l.act a).late := by
  cases a
  case move m => exact List.prefix_append ..
  case close => exact List.prefix_rfl

theorem late_run (l : Life) (as : List Action) : l.late <+: (l.run as).late := by
  induction as generalizing l
  case nil => exact List.prefix_rfl
  case cons a as hi => exact (late_act l a).trans (hi (l.act a))

-- Nothing has been late at the end if nothing has been late before it.
theorem late_eq_nil_earlier {pre : List Action} (h : (l.run as).late = []) (p : pre <+: as) :
    (l.run pre).late = [] := by
  obtain ⟨post, rfl⟩ := p
  rw [run_append] at h
  exact List.prefix_nil.mp (h ▸ late_run (l.run pre) post)

theorem honest_of_late_eq_nil {pre post : List Action} {n : Notification}
    (h : (l.run (pre ++ .move (.dispatch n) :: post)).late = []) :
    Honest (l.run pre).dispatcher n := by
  cases hc : (l.run pre).dispatcher.deliveries.closed
  case false => exact honest_of_open hc n
  case true =>
    have p : pre ++ [.move (.dispatch n)] <+: pre ++ .move (.dispatch n) :: post :=
      (List.prefix_append_right_inj pre).mpr ⟨post, rfl⟩
    have late := late_eq_nil_earlier h p
    rw [run_append] at late
    have none : (l.run pre).late ++ lateOf (l.run pre).dispatcher (.dispatch n) = [] := late
    refine honest_of_none ?_
    simpa [lateOf, hc] using (List.append_eq_nil_iff.mp none).right

theorem closed_act (l : Life) (a : Action) :
    (l.act a).dispatcher.deliveries.closed ↔ l.dispatcher.deliveries.closed ∨ .close = a := by
  cases a
  case close => exact iff_of_true (Scheduler.closed_close _) (.inr rfl)
  case move m =>
    simp only [act, reduceCtorEq, or_false]
    cases m
    case dispatch n =>
      cases h : l.dispatcher.deliveries.closed
      case true => simp [move, deliveries_dispatch_of_closed h, h]
      case false => simp [move, deliveries_dispatch h, h]
    case register c => rfl
    case advance n => rw [deliveries_advance, Scheduler.closed_ticks]

theorem closed_run (l : Life) (as : List Action) :
    (l.run as).dispatcher.deliveries.closed ↔ l.dispatcher.deliveries.closed ∨ .close ∈ as := by
  induction as generalizing l
  case nil => simp [run]
  case cons a as hi =>
    have := hi (l.act a)
    rwa [closed_act, or_assoc, ← List.mem_cons] at this

-- Whatever is counted as scheduled is armed, started, cancelled or late. Until the closing a dispatch
-- returns an event for a timer or counts a drop; after it, it arms nothing.
theorem booked_iff (d : Dispatcher) (as : List Action) :
    let l := (born d).run as
    l.scheduled = l.dispatcher.pending + l.started.length + l.cancelled.length + l.late.length ∧
      (.close ∉ as → ∀ n, Honest l.dispatcher n) ∧
      (.close ∈ as → ∀ n, (l.dispatcher.dispatch n).1.deliveries = l.dispatcher.deliveries) ∧
      (Booked d as ↔ l.late = []) := by
  intro l
  have sound (as : List Action) : Sound ((born d).run as) := sound_run (sound_born d) as
  have closed : l.dispatcher.deliveries.closed ↔ .close ∈ as := by simp [l, closed_run, born]
  refine ⟨(sound as).total, fun none => ?_, fun some => ?_, ?_⟩
  case refine_1 => exact honest_of_open (Bool.eq_false_iff.mpr fun h => none (closed.mp h))
  case refine_2 => exact deliveries_dispatch_of_closed (closed.mpr some)
  case refine_3 =>
    constructor
    case mp =>
      intro booked
      have both := (sound as).total.symm.trans (booked.total as List.prefix_rfl)
      exact List.length_eq_zero_iff.mp (Nat.add_eq_left.mp both)
    case mpr =>
      intro late
      constructor
      case honest =>
        rintro pre n post rfl
        exact honest_of_late_eq_nil late
      case total =>
        intro pre p
        have := (sound pre).total
        rwa [late_eq_nil_earlier late p] at this

-- A push to a branch of a repository.
def push : Notification where
  kind := .push
  received := .ofInstant 0
  body := String.toUTF8 (
    "\x7b\"ref\": \"refs/heads/main\", " ++
    "\"after\": \"0123456789abcdef0123456789abcdef01234567\", " ++
    "\"repository\": \x7b\"name\": \"widgets\", \"owner\": \x7b\"login\": \"acme\"\x7d, " ++
    "\"html_url\": \"https://github.com/acme/widgets\"\x7d\x7d")

-- A push that comes in after the closing is counted as scheduled.
theorem not_booked_close_dispatch : ¬∀ (d : Dispatcher) (as : List Action), Booked d as := by
  intro all
  have booked := all { listener := .single .silent } [.close, .move (.dispatch push)]
  have total := booked.total [.close, .move (.dispatch push)] List.prefix_rfl
  revert total
  decide +kernel

end Life

end RefWatch
