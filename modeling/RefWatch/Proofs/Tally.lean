import Mathlib.Data.List.Perm.Basic
import RefWatch.Delivery
import RefWatch.Dispatch

namespace RefWatch.Metrics

inductive Family
  | received
  | dropped
  | scheduled
  | deliveries
  | heads
  | failures
  deriving DecidableEq

def counter (m : Metrics) : Family → Counter
  | .received => m.received
  | .dropped => m.dropped
  | .scheduled => m.scheduled
  | .deliveries => m.deliveries
  | .heads => m.heads
  | .failures => m.failures

structure Tally where
  family : Family
  labels : List String
  deriving DecidableEq

-- What each counter shows at each labels.
abbrev Counts := Family → List String → Option Amount

def counts (m : Metrics) : Counts := fun f ls => Series.get? (m.counter f) ls

def Counts.add (c : Counts) (t : Tally) : Counts := fun f ls =>
  if t = ⟨f, ls⟩ then some ((c f ls).getD (.units 0)).increment else c f ls

instance : RightCommutative Counts.add where
  right_comm c s t := by
    funext f ls
    by_cases hs : s = ⟨f, ls⟩ <;> by_cases ht : t = ⟨f, ls⟩ <;> simp [Counts.add, hs, ht]

theorem get?_update_of_ne {α : Type} {ls ks : List String} (h : ls ≠ ks) (s : Series α) (new : α)
    (f : α → α) : (s.update ls new f).get? ks = s.get? ks := by
  induction s
  case nil => simp [Series.update, Series.get?, h]
  case cons e es hi =>
    by_cases he : e.1 = ls
    case pos => simp [Series.update, Series.get?, he, h]
    case neg =>
      simp only [Series.update, beq_eq_false_iff_ne.mpr he, Series.get?] at hi ⊢
      by_cases hk : e.1 = ks
      case pos => simp [hk]
      case neg => simpa [hk] using hi

theorem get?_increment (c : Counter) (ls ks : List String) :
    Series.get? (c.increment ls) ks =
      if ls = ks then some ((Series.get? c ks).getD (.units 0)).increment else Series.get? c ks := by
  by_cases h : ls = ks
  case pos => simp [Counter.increment, ← h, Series.get?_update_self]
  case neg => simp [Counter.increment, h, get?_update_of_ne h]

def tally (m : Metrics) (t : Tally) : Metrics :=
  match t.family with
  | .received => { m with received := m.received.increment t.labels }
  | .dropped => { m with dropped := m.dropped.increment t.labels }
  | .scheduled => { m with scheduled := m.scheduled.increment t.labels }
  | .deliveries => { m with deliveries := m.deliveries.increment t.labels }
  | .heads => { m with heads := m.heads.increment t.labels }
  | .failures => { m with failures := m.failures.increment t.labels }

theorem counter_tally (m : Metrics) (t : Tally) (f : Family) :
    (m.tally t).counter f =
      if t.family = f then (m.counter f).increment t.labels else m.counter f := by
  obtain ⟨g, ls⟩ := t
  cases g <;> cases f <;> rfl

theorem counts_tally (m : Metrics) (t : Tally) : (m.tally t).counts = m.counts.add t := by
  obtain ⟨g, ks⟩ := t
  funext f ls
  by_cases h : g = f
  case pos => simp [counts, Counts.add, counter_tally, get?_increment, h]
  case neg => simp [counts, Counts.add, counter_tally, h]

theorem counts_receive (m : Metrics) (k : EventKind) :
    (m.receive k).counts = m.counts.add ⟨.received, [k.name]⟩ :=
  counts_tally m ⟨.received, [k.name]⟩

theorem counts_drop (m : Metrics) (k : EventKind) (r : DropReason) :
    (m.drop k r).counts = m.counts.add ⟨.dropped, [k.name, r.name]⟩ :=
  counts_tally m ⟨.dropped, [k.name, r.name]⟩

theorem counts_schedule (m : Metrics) (k : EventKind) (t : ChangeType) :
    (m.schedule k t).counts = m.counts.add ⟨.scheduled, [t.name, k.name]⟩ :=
  counts_tally m ⟨.scheduled, [t.name, k.name]⟩

theorem counts_deliver (m : Metrics) (k : EventKind) (t : Target) :
    (m.deliver k t).counts = m.counts.add ⟨.deliveries, [k.name, t.name]⟩ :=
  counts_tally m ⟨.deliveries, [k.name, t.name]⟩

theorem counts_report (m : Metrics) (k : RefKind) :
    (m.report k).counts = m.counts.add ⟨.heads, [k.name]⟩ :=
  counts_tally m ⟨.heads, [k.name]⟩

theorem counts_fail (m : Metrics) (listener : String) :
    (m.fail listener).counts = m.counts.add ⟨.failures, [listener]⟩ :=
  counts_tally m ⟨.failures, [listener]⟩

def Counter.InUnits (c : Counter) : Prop := ∀ e ∈ c, ∃ n, e.2 = .units n

theorem Counter.InUnits.increment {c : Counter} (h : c.InUnits) (labels : List String) :
    (c.increment labels).InUnits := by
  induction c
  case nil =>
    intro e he
    cases List.mem_singleton.mp he
    exact ⟨1, rfl⟩
  case cons e es hi =>
    have rest : Counter.InUnits es := fun d hd => h d (List.mem_cons_of_mem _ hd)
    obtain ⟨n, hn⟩ := h e List.mem_cons_self
    intro d hd
    rw [Counter.increment, Series.update] at hd
    split at hd
    case isTrue =>
      rcases List.mem_cons.mp hd with rfl | hd
      · exact ⟨n + 1, by rw [hn]; rfl⟩
      · exact rest d hd
    case isFalse =>
      rcases List.mem_cons.mp hd with rfl | hd
      · exact ⟨n, hn⟩
      · exact hi rest d hd

end RefWatch.Metrics

namespace RefWatch

open Metrics

def Dispatch.tallies {σ : Type} (n : Notification) (o : Dispatch.Outcome σ) : List Tally :=
  ⟨.received, [n.kind.name]⟩ ::
    match o.event?, o.drop? with
    | some e, _ => [⟨.scheduled, [e.changeType.name, n.kind.name]⟩]
    | none, some reason => [⟨.dropped, [n.kind.name, reason.name]⟩]
    | none, none => []

theorem Dispatch.counts_count {σ : Type} (n : Notification) (o : Dispatch.Outcome σ) (m : Metrics) :
    (Dispatch.count n o m).counts = (Dispatch.tallies n o).foldl Counts.add m.counts := by
  cases o <;>
    simp [Dispatch.count, Dispatch.tallies, Dispatch.Outcome.event?, Dispatch.Outcome.drop?,
      counts_receive, counts_drop, counts_schedule]

namespace Delivery

variable {l : Listener} {e : HeadEvent}

def responseTally (l : Listener) (k : EventKind) (t : Target) (r : Response) : Tally :=
  if r.failed then ⟨.failures, [l.name]⟩ else ⟨.deliveries, [k.name, t.name]⟩

def tallies (l : Listener) (e : HeadEvent) : Step → List Tally
  | .navigator _ r => [responseTally l e.kind .navigator r]
  | .source _ heads r =>
    heads.map (fun r => ⟨.heads, [r.head.kind.name]⟩) ++ [responseTally l e.kind .source r]
  | _ => []

theorem counts_countResponse (k : EventKind) (t : Target) (r : Response) (m : Metrics) :
    (countResponse l k t r m).counts = m.counts.add (responseTally l k t r) := by
  cases h : r.failed
  case true => simp [countResponse, responseTally, h, counts_fail]
  case false => simp [countResponse, responseTally, h, counts_deliver]

theorem counts_reports (heads : List Report) (m : Metrics) :
    (heads.foldl (fun m r => m.report r.head.kind) m).counts =
      (heads.map fun r => ⟨.heads, [r.head.kind.name]⟩).foldl Counts.add m.counts := by
  induction heads generalizing m
  case nil => rfl
  case cons r rs hi => simp [hi, counts_report]

theorem counts_count (m : Metrics) (step : Step) :
    (count l e m step).counts = (tallies l e step).foldl Counts.add m.counts := by
  cases step
  case navigator n r => exact counts_countResponse ..
  case source s heads r =>
    simp [count, tallies, counts_countResponse, counts_reports, List.foldl_append]
  all_goals rfl

theorem counts_countAll (m : Metrics) (steps : List Step) :
    (countAll l e m steps).counts = (steps.flatMap (tallies l e)).foldl Counts.add m.counts := by
  induction steps generalizing m
  case nil => rfl
  case cons step steps hi =>
    have := hi (count l e m step)
    simpa [countAll, counts_count, List.foldl_append] using this

end Delivery

end RefWatch
