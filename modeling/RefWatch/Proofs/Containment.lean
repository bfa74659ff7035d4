import RefWatch.Proofs.Origin
import RefWatch.Proofs.Sightings
import RefWatch.Proofs.Walk

namespace RefWatch

open List

namespace Response

variable {r s t : Response} {rs ss : List Response}

theorem andThen_assoc (r s t : Response) : (r.andThen s).andThen t = r.andThen (s.andThen t) := by
  simp [andThen, Nat.add_assoc, Option.or_assoc]

theorem andThen_empty (r : Response) : r.andThen {} = r := by
  simp [andThen]

theorem empty_andThen (r : Response) : andThen {} r = r := by
  simp [andThen]

def inTurn (rs : List Response) : Response := rs.foldr andThen {}

theorem inTurn_cons (r : Response) (rs : List Response) : inTurn (r :: rs) = r.andThen (inTurn rs) := rfl

theorem inTurn_append (rs ss : List Response) :
    inTurn (rs ++ ss) = (inTurn rs).andThen (inTurn ss) := by
  induction rs
  case nil => exact (empty_andThen _).symm
  case cons r rs hi => rw [cons_append, inTurn_cons, hi, inTurn_cons, andThen_assoc]

theorem notes_inTurn (rs : List Response) : (inTurn rs).notes = rs.flatMap (·.notes) := by
  induction rs
  case nil => rfl
  case cons r rs hi => rw [inTurn_cons, flatMap_cons, ← hi]; rfl

theorem log_inTurn (rs : List Response) : (inTurn rs).log = rs.flatMap (·.log) := by
  induction rs
  case nil => rfl
  case cons r rs hi => rw [inTurn_cons, flatMap_cons, ← hi]; rfl

end Response

namespace Listener

variable {e : HeadEvent} {o : Occasion}

theorem tree_induction {P : Listener → Prop} (leaf : ∀ ob, P (single ob))
    (node : ∀ cs, (∀ c ∈ cs, P c.2) → P (fanOut cs)) (l : Listener) : P l :=
  @Listener.rec P (fun cs => ∀ c ∈ cs, P c.2) (fun c => P c.2) leaf node (forall_mem_nil _)
    (fun _ _ first rest => forall_mem_cons.mpr ⟨first, rest⟩) (fun _ _ h => h) l

-- The listener at the end of a path, which says at which place to go on from fan-out to fan-out.
def leafAt : List Nat → Listener → Option Observer
  | [], single ob => some ob
  | i :: p, fanOut cs => cs[i]?.bind fun c => leafAt p c.2
  | _, _ => none

abbrev Leaf := List Nat × Observer

-- A leaf as it is seen from one fan-out further up.
def Leaf.under (i : Nat) (x : Leaf) : Leaf := (i :: x.1, x.2)

mutual

-- The leaves of a tree, with the paths to them.
def leaves : Listener → List Leaf
  | single ob => [([], ob)]
  | fanOut cs => leavesFrom 0 cs

def leavesFrom (i : Nat) : List (Nat × Listener) → List Leaf
  | [] => []
  | c :: cs => leavesOf i c ++ leavesFrom (i + 1) cs

def leavesOf (i : Nat) : Nat × Listener → List Leaf
  | (_, l) => l.leaves.map (Leaf.under i)

end

theorem mem_leavesFrom_iff {i : Nat} {cs : List (Nat × Listener)} {x : Leaf} :
    x ∈ leavesFrom i cs ↔ ∃ (k : Nat) (c : Nat × Listener) (y : Leaf),
      cs[k]? = some c ∧ y ∈ c.2.leaves ∧ y.under (i + k) = x := by
  induction cs generalizing i
  case nil => simp [leavesFrom]
  case cons c cs hi =>
    rw [leavesFrom, leavesOf, mem_append, mem_map, hi]
    constructor
    case mp =>
      rintro (⟨y, hy, rfl⟩ | ⟨k, d, y, hd, hy, rfl⟩)
      · exact ⟨0, c, y, rfl, hy, rfl⟩
      · exact ⟨k + 1, d, y, hd, hy, by rw [Nat.add_right_comm, Nat.add_assoc]⟩
    case mpr =>
      rintro ⟨k, d, y, hd, hy, rfl⟩
      cases k
      case zero =>
        cases hd
        exact .inl ⟨y, hy, rfl⟩
      case succ k => exact .inr ⟨k, d, y, hd, hy, by rw [Nat.add_right_comm, Nat.add_assoc]⟩

theorem mem_leaves_iff (l : Listener) (x : Leaf) : x ∈ l.leaves ↔ leafAt x.1 l = some x.2 := by
  induction l using tree_induction generalizing x
  case leaf ob =>
    obtain ⟨p, b⟩ := x
    cases p <;> simp [leaves, leafAt, eq_comm]
  case node cs hi =>
    rw [leaves, mem_leavesFrom_iff]
    obtain ⟨p, b⟩ := x
    constructor
    case mp =>
      rintro ⟨k, c, y, hc, hy, eq⟩
      cases eq
      rw [leafAt, Nat.zero_add, hc]
      exact (hi c (mem_of_getElem? hc) y).mp hy
    case mpr =>
      intro found
      cases p
      case nil => cases found
      case cons k p =>
        rw [leafAt, Option.bind_eq_some_iff] at found
        obtain ⟨c, hc, below⟩ := found
        exact ⟨k, c, (p, b), hc, (hi c (mem_of_getElem? hc) (p, b)).mpr below,
          by rw [Nat.zero_add]; rfl⟩

-- Paths are in the order in which the tree is walked: what stands further left comes first.
theorem pairwise_leavesFrom {cs : List (Nat × Listener)}
    (h : ∀ c ∈ cs, c.2.leaves.Pairwise (·.1 < ·.1)) (i : Nat) :
    (leavesFrom i cs).Pairwise (·.1 < ·.1) := by
  induction cs generalizing i
  case nil => exact .nil
  case cons c cs hi =>
    have ⟨first, rest⟩ := forall_mem_cons.mp h
    rw [leavesFrom, leavesOf, pairwise_append, pairwise_map]
    refine ⟨first.imp fun lt => cons_lt_cons_iff.mpr (.inr ⟨rfl, lt⟩), hi rest (i + 1), ?_⟩
    intro x hx y hy
    obtain ⟨u, -, rfl⟩ := mem_map.mp hx
    obtain ⟨k, d, v, -, -, rfl⟩ := mem_leavesFrom_iff.mp hy
    exact cons_lt_cons_iff.mpr (.inl (by omega))

theorem pairwise_leaves (l : Listener) : l.leaves.Pairwise (·.1 < ·.1) := by
  induction l using tree_induction
  case leaf ob => exact pairwise_singleton ..
  case node cs hi => exact pairwise_leavesFrom hi 0

-- What the fan-out above a leaf makes of its answer.
def answer (e : HeadEvent) (o : Occasion) (x : Leaf) : Response :=
  contain e o x.2.name (x.2.respond e o)

theorem contain_of_ok {r : Response} (h : r.error = none) (name : String) : contain e o name r = r := by
  rw [contain, h]

theorem notes_contain (r : Response) (name : String) : (contain e o name r).notes = r.notes := by
  rw [contain]
  split <;> rfl

theorem log_contain (r : Response) (name : String) :
    (contain e o name r).log = r.log ++ (r.error.map (childFailure e o name)).toList := by
  rw [contain]
  cases r.error
  case none => exact (append_nil _).symm
  case some => rfl

theorem respondAll_eq (cs : List (Nat × Listener)) (i : Nat)
    (h : ∀ c ∈ cs, respondChild e o c = .inTurn (c.2.leaves.map (answer e o))) :
    respondAll e o cs = .inTurn ((leavesFrom i cs).map (answer e o)) := by
  induction cs generalizing i
  case nil => rw [respondAll, leavesFrom]; rfl
  case cons c cs hi =>
    obtain ⟨first, rest⟩ := forall_mem_cons.mp h
    have same : answer e o ∘ Leaf.under i = answer e o := rfl
    rw [respondAll, leavesFrom, leavesOf, map_append, map_map, same, Response.inTurn_append, first,
      hi (i + 1) rest]

-- A fan-out below another adds nothing to what its own leaves do.
theorem respondChild_eq (handle : Nat) (l : Listener) :
    respondChild e o (handle, l) = .inTurn (l.leaves.map (answer e o)) := by
  induction l using tree_induction generalizing handle
  case leaf ob =>
    rw [respondChild, respond, leaves]
    exact (Response.andThen_empty _).symm
  case node cs hi =>
    have all : (fanOut cs).respond e o = .inTurn ((fanOut cs).leaves.map (answer e o)) := by
      rw [respond, leaves]
      exact respondAll_eq cs 0 fun c hc => hi c hc c.1
    have well : ((fanOut cs).respond e o).error = none := by
      rw [respond]
      exact respondAll_error e o cs
    rw [respondChild, contain_of_ok well, all]

theorem respond_fanOut (e : HeadEvent) (o : Occasion) (cs : List (Nat × Listener)) :
    (fanOut cs).respond e o = .inTurn ((fanOut cs).leaves.map (answer e o)) := by
  rw [respond, leaves]
  exact respondAll_eq cs 0 fun c _ => respondChild_eq c.1 c.2

-- However its leaves answer, a listener does not fail.
def Unfailing (l : Listener) : Prop := ∀ e o, (l.respond e o).error = none

theorem unfailing_fanOut (cs : List (Nat × Listener)) : (fanOut cs).Unfailing := by
  intro e o
  rw [respond]
  exact respondAll_error e o cs

def IsFanOut (l : Listener) : Prop := ∃ cs, l = fanOut cs

theorem IsFanOut.unfailing {l : Listener} (h : l.IsFanOut) : l.Unfailing := by
  obtain ⟨cs, rfl⟩ := h
  exact unfailing_fanOut cs

-- Whether a leaf fails.
def Leaf.fails (e : HeadEvent) (o : Occasion) (x : Leaf) : Bool := (x.2.respond e o).failed

-- What a leaf writes to the log itself.
def Leaf.ownLog (e : HeadEvent) (o : Occasion) (x : Leaf) : List Log.Record := (x.2.respond e o).log

def Leaf.failure? (e : HeadEvent) (o : Occasion) (x : Leaf) : Option Log.Record :=
  (x.2.respond e o).error.map (childFailure e o x.2.name)

theorem countP_error_log (xs : List Leaf) :
    (xs.flatMap fun x => x.ownLog e o ++ (x.failure? e o).toList).countP (·.level = .error) =
      (xs.flatMap (Leaf.ownLog e o)).countP (·.level = .error) + xs.countP (Leaf.fails e o) := by
  have one (x : Leaf) :
      (x.failure? e o).toList.countP (·.level = .error) = (x.fails e o).toNat := by
    rw [Leaf.failure?, Leaf.fails, Response.failed]
    cases (x.2.respond e o).error <;> rfl
  induction xs
  case nil => rfl
  case cons x xs hi =>
    have this : countP (Leaf.fails e o) (x :: xs) = (x.fails e o).toNat + countP (Leaf.fails e o) xs := by
      rw [countP_cons, Nat.add_comm]
      cases x.fails e o <;> rfl
    simp only [flatMap_cons, countP_append, hi, one, this]
    omega

-- All leaves of a tree are told the same, from left to right; each that fails leaves a record, and the
-- tree does not fail.
structure Contained (e : HeadEvent) (o : Occasion) (l : Listener) : Prop where
  leaves : ∀ x, x ∈ l.leaves ↔ leafAt x.1 l = some x.2
  order  : l.leaves.Pairwise (·.1 < ·.1)
  inTurn : l.respond e o = .inTurn (l.leaves.map (answer e o))
  notes  : (l.respond e o).notes = l.leaves.flatMap fun x => (x.2.respond e o).notes
  log    : (l.respond e o).log =
    l.leaves.flatMap fun x => x.ownLog e o ++ (x.failure? e o).toList
  errors : (l.respond e o).log.countP (·.level = .error) =
    (l.leaves.flatMap (Leaf.ownLog e o)).countP (·.level = .error) + l.leaves.countP (Leaf.fails e o)
  error  : (l.respond e o).error = none

theorem contained_fanOut (e : HeadEvent) (o : Occasion) (cs : List (Nat × Listener)) :
    (fanOut cs).Contained e o := by
  have inTurn := respond_fanOut e o cs
  have log : ((fanOut cs).respond e o).log =
      (fanOut cs).leaves.flatMap fun x => x.ownLog e o ++ (x.failure? e o).toList := by
    rw [inTurn, Response.log_inTurn, flatMap_map]
    exact flatMap_congr fun x _ => log_contain _ _
  exact {
    leaves := mem_leaves_iff _
    order := pairwise_leaves _
    inTurn
    notes := by
      rw [inTurn, Response.notes_inTurn, flatMap_map]
      exact flatMap_congr fun x _ => notes_contain _ _
    log
    errors := log ▸ countP_error_log _
    error := unfailing_fanOut cs e o
  }

end Listener

def Occasion.target : Occasion → Metrics.Target
  | navigator _ => .navigator
  | source _ _ => .source

namespace Delivery

variable {T : Listener → Prop} {l : Listener} {a : Nat → Listener} {e : HeadEvent} {step : Step}

-- Whatever is told in a step is answered by one of some listeners.
def Step.AnsweredBy (T : Listener → Prop) (e : HeadEvent) (step : Step) : Prop :=
  ∀ x, step.exchange? = some x → ∃ l, T l ∧ x.2 = l.respond e x.1

-- Whatever is told in a step does not fail.
def Step.GoesWell (step : Step) : Prop := ∀ x, step.exchange? = some x → x.2.error = none

theorem Step.AnsweredBy.goesWell (h : step.AnsweredBy T e) (unfailing : ∀ l, T l → l.Unfailing) :
    step.GoesWell := by
  intro x hx
  obtain ⟨l, hl, eq⟩ := h x hx
  exact eq ▸ unfailing l hl e x.1

theorem countResponse_of_well {r : Response} (h : r.error = none) (k : EventKind) (t : Metrics.Target)
    (m : Metrics) : countResponse l k t r m = m.deliver k t := by
  rw [countResponse, Response.failed, h]
  rfl

theorem answeredBy_navigatorSteps (h : T l) (ns : List Navigator) :
    ∀ o ∈ navigatorSteps e l ns, o.AnsweredBy T e := by
  intro o ho x hx
  obtain ⟨n, -, rfl⟩ := mem_map.mp ho
  cases hx
  exact ⟨l, h, rfl⟩

theorem answeredBy_sourceStep (h : T l) (s : Source) : (sourceStep e l s).AnsweredBy T e := by
  unfold sourceStep
  intro x hx
  split at hx <;> cases hx
  exact ⟨l, h, rfl⟩

theorem answeredBy_sourceSteps (h : T l) (ss : List Source) :
    ∀ o ∈ sourceSteps e l ss, o.AnsweredBy T e := by
  fun_induction sourceSteps e l ss
  case case1 => exact forall_mem_nil _
  case case2 =>
    refine forall_mem_singleton.mpr fun x hx => ?_
    cases hx
  case case3 hi => exact hi
  case case4 s ss watched hi => exact forall_mem_cons.mpr ⟨answeredBy_sourceStep h s, hi⟩

theorem answeredBy_navigatorStepsBy (h : ∀ i, T (a i)) (i : Nat) (ns : List Navigator) :
    ∀ o ∈ navigatorStepsBy e a i ns, o.AnsweredBy T e := by
  induction ns generalizing i
  case nil => exact forall_mem_nil _
  case cons n ns hi => exact forall_mem_append.mpr ⟨answeredBy_navigatorSteps (h i) [n], hi (i + 1)⟩

theorem answeredBy_sourceStepsBy (h : ∀ i, T (a i)) (i : Nat) (ss : List Source) :
    ∀ o ∈ sourceStepsBy e a i ss, o.AnsweredBy T e := by
  induction ss generalizing i
  case nil => exact forall_mem_nil _
  case cons s ss hi =>
    refine forall_mem_append.mpr ⟨answeredBy_sourceSteps (h i) [s], ?_⟩
    split
    case isTrue => exact forall_mem_nil _
    case isFalse => exact hi (i + 1)

theorem vouches_workBy (h : ∀ i, T (a i)) (now : Int) (e : HeadEvent) :
    (workBy a now e).Vouches (fun _ => Step.AnsweredBy T e) [] := by
  refine ⟨nofun, fun r => Work.vouches_tellAll (answeredBy_navigatorStepsBy h 0 _) fun r' => ?_⟩
  refine Work.vouches_tellAll (answeredBy_sourceStepsBy h 0 _) ?_
  unfold conclusion
  split
  case isTrue => trivial
  case isFalse => exact ⟨nofun, trivial⟩

theorem vouches_answeredBy (h : T l) (now : Int) (e : HeadEvent) :
    (work l now e).Vouches (fun _ => Step.AnsweredBy T e) [] :=
  workBy_const l now e ▸ vouches_workBy (fun _ => h) now e

theorem answeredBy_stepsBy (h : ∀ i, T (a i)) (now : Int) (e : HeadEvent) (r : Registry) :
    ∀ o ∈ stepsBy a now e r, o.AnsweredBy T e := by
  intro o ho
  obtain ⟨-, -, answered⟩ := Work.told_output (G := fun _ => True) trivial
    (vouches_workBy h now e) (forall_mem_nil _) o ho
  exact answered

theorem failures_reports (heads : List Report) (m : Metrics) :
    (heads.foldl (fun m r => m.report r.head.kind) m).failures = m.failures ∧
      (heads.foldl (fun m r => m.report r.head.kind) m).deliveries = m.deliveries := by
  induction heads generalizing m
  case nil => exact ⟨rfl, rfl⟩
  case cons r rs hi => exact hi (m.report r.head.kind)

end Delivery

namespace Dispatcher

open Delivery
open Scheduler (Kept tolds)

-- Counts a callback as a delivery.
def countCallback (c : Metrics.Counter) (x : HeadEvent × Occasion) : Metrics.Counter :=
  c.increment [x.1.kind.name, x.2.target.name]

-- Callbacks that are answered by some listeners, of which none fails, have been counted as deliveries,
-- and none as a failure.
structure Delivered (T : Listener → Prop) (told : List (HeadEvent × Step)) (m m' : Metrics) : Prop where
  answered   : ∀ x ∈ told, x.2.AnsweredBy T x.1
  well       : ∀ x ∈ told, x.2.GoesWell
  failures   : m'.failures = m.failures
  deliveries : m'.deliveries = (callbacks told).foldl countCallback m.deliveries

variable {T : Listener → Prop} {d : Dispatcher} {m m' m'' : Metrics}

theorem delivered_nil (failures : m'.failures = m.failures) (deliveries : m'.deliveries = m.deliveries) :
    Delivered T [] m m' :=
  ⟨forall_mem_nil _, forall_mem_nil _, failures, deliveries⟩

theorem Delivered.append {xs ys : List (HeadEvent × Step)} (h : Delivered T xs m m')
    (k : Delivered T ys m' m'') : Delivered T (xs ++ ys) m m'' where
  answered := forall_mem_append.mpr ⟨h.answered, k.answered⟩
  well := forall_mem_append.mpr ⟨h.well, k.well⟩
  failures := k.failures.trans h.failures
  deliveries := by
    rw [k.deliveries, h.deliveries, callbacks, callbacks, callbacks, filterMap_append, foldl_append]

section

variable (unfailing : ∀ l, T l → l.Unfailing)
include unfailing

theorem delivered_count {e : HeadEvent} {step : Step} (h : step.AnsweredBy T e) (l : Listener)
    (m : Metrics) : Delivered T [(e, step)] m (count l e m step) := by
  have well : step.GoesWell := h.goesWell unfailing
  obtain ⟨failures, deliveries⟩ : (count l e m step).failures = m.failures ∧
      (count l e m step).deliveries = (callbacks [(e, step)]).foldl countCallback m.deliveries := by
    cases step
    case navigator n r =>
      rw [Delivery.count, countResponse_of_well (well _ rfl)]
      exact ⟨rfl, rfl⟩
    case source s heads r =>
      obtain ⟨failures, deliveries⟩ := failures_reports heads m
      rw [Delivery.count, countResponse_of_well (well _ rfl)]
      exact ⟨failures, congrArg (countCallback · (e, .source s heads)) deliveries⟩
    all_goals exact ⟨rfl, rfl⟩
  exact ⟨forall_mem_singleton.mpr h, forall_mem_singleton.mpr well, failures, deliveries⟩

theorem delivered_countAll {e : HeadEvent} {steps : List Step} (h : ∀ o ∈ steps, o.AnsweredBy T e)
    (l : Listener) (m : Metrics) : Delivered T (steps.map (e, ·)) m (countAll l e m steps) := by
  induction steps generalizing m
  case nil => exact delivered_nil rfl rfl
  case cons o os hi =>
    have ⟨first, rest⟩ := forall_mem_cons.mp h
    exact (delivered_count unfailing first l m).append (hi rest _)

theorem delivered_happenings {hs : List Happening} (h : ∀ x ∈ tolds hs, x.2.AnsweredBy T x.1)
    (d : Dispatcher) (m : Metrics) : Delivered T (tolds hs) m (hs.foldl d.countHappening m) := by
  induction hs generalizing m
  case nil => exact delivered_nil rfl rfl
  case cons x xs hi =>
    cases x
    case told e step =>
      have ⟨first, rest⟩ := forall_mem_cons.mp h
      exact (delivered_count unfailing first d.listener m).append (hi rest _)
    all_goals exact hi h m

end

variable {a : Deed} {as : List Deed}

-- The dispatcher that deeds leave.
def after (d : Dispatcher) (as : List Deed) : Dispatcher := as.foldl (fun d a => (d.deed a).left) d

def happened (d : Dispatcher) (as : List Deed) : List Happening := (d.sights as).flatMap (·.happens)

-- A running delivery that tells nothing but what some listeners answer.
abbrev AnsweredBy (T : Listener → Prop) (r : Scheduler.Running HeadEvent Registry Delivery.Step) : Prop :=
  r.Backed (fun _ => True) (fun e _ => Step.AnsweredBy T e) fun _ _ => True

-- A dispatcher for which some listeners answer, and have answered since its deliveries started.
structure Served (T : Listener → Prop) (d : Dispatcher) : Prop where
  listener : T d.listener
  running  : ∀ r ∈ d.deliveries.running, AnsweredBy T r

theorem vouched_answeredBy (h : d.Served T) : d.conduct.Vouched fun e _ => Step.AnsweredBy T e :=
  fun tick e => vouches_answeredBy h.listener (d.instantOf tick) e

theorem answered_of_kept {rs : List (Scheduler.Running HeadEvent Registry Delivery.Step)}
    {hs : List Happening}
    (h : Kept (fun _ => True) (fun e _ => Step.AnsweredBy T e) (fun _ _ => True) d.registry rs hs) :
    (∀ r ∈ rs, AnsweredBy T r) ∧ ∀ x ∈ tolds hs, x.2.AnsweredBy T x.1 := by
  refine ⟨fun r hr => (h.running r hr).left, fun x hx => ?_⟩
  obtain ⟨-, -, -, answered⟩ := h.told x hx
  exact answered

theorem served_kept (h : d.Served T) :
    Kept (fun _ => True) (fun e _ => Step.AnsweredBy T e) (fun _ _ => True) d.registry
      d.deliveries.running [] :=
  ⟨fun r hr => ⟨h.running r hr, trivial⟩, forall_mem_nil _⟩

theorem answered_advance (h : d.Served T) (n : Nat) :
    (∀ r ∈ (d.deliveries.advance d.conduct n).1.running, AnsweredBy T r) ∧
      ∀ x ∈ tolds (d.deliveries.advance d.conduct n).2, x.2.AnsweredBy T x.1 := by
  rw [Scheduler.advance_eq_ticks]
  exact answered_of_kept <| Scheduler.kept_ticks (vouched_answeredBy h) (fun _ _ => trivial)
    (served_kept h) fun _ _ => trivial

theorem answered_close (h : d.Served T) :
    (∀ r ∈ (d.deliveries.close d.conduct).1.running, AnsweredBy T r) ∧
      ∀ x ∈ tolds (d.deliveries.close d.conduct).2, x.2.AnsweredBy T x.1 :=
  answered_of_kept <| Scheduler.kept_close (vouched_answeredBy h) (served_kept h)

theorem running_dispatch (d : Dispatcher) (n : Notification) :
    (d.dispatch n).1.deliveries.running = d.deliveries.running := by
  cases closed : d.deliveries.closed
  case true => rw [deliveries_dispatch_of_closed closed]
  case false => rw [deliveries_dispatch closed]

theorem delivered_dispatch (d : Dispatcher) (n : Notification) :
    Delivered T [] d.metrics (d.dispatch n).1.metrics := by
  have counted : (d.dispatch n).1.metrics = Dispatch.count n (d.dispatch n).2.1 d.metrics := rfl
  rw [counted, Dispatch.count]
  split
  case h_3 => exact delivered_nil rfl rfl
  all_goals exact delivered_nil rfl rfl

section

variable (unfailing : ∀ l, T l → l.Unfailing)
include unfailing

theorem delivered_deliverBy {t : Nat → Listener} (h : ∀ i, T (t i)) (d : Dispatcher) (e : HeadEvent) :
    Delivered T ((stepsBy t d.now e d.registry).map (e, ·)) d.metrics (d.deliverBy t e).1.metrics :=
  delivered_countAll unfailing (answeredBy_stepsBy h d.now e d.registry) d.listener d.metrics

theorem delivered_deliver (h : T d.listener) (e : HeadEvent) :
    Delivered T (tolds (d.deed (.deliver e)).happens) d.metrics (d.deliver e).1.metrics := by
  have told : tolds (d.deed (.deliver e)).happens = (steps d.listener d.now e d.registry).map (e, ·) := by
    rw [deed, tolds, filterMap_map]
    exact congrFun filterMap_eq_map _
  have steps : stepsBy (fun _ => d.listener) d.now e d.registry =
      steps d.listener d.now e d.registry :=
    congrArg (Work.output d.registry) (workBy_const d.listener d.now e)
  rw [told, ← steps, ← deliverBy_const]
  exact delivered_deliverBy unfailing (fun _ => h) d e

-- One deed: trees go on answering, and what they answer is counted.
theorem served_deed (h : d.Served T) (listens : ∀ l, a = .listen l → T l) :
    (d.deed a).left.Served T ∧
      Delivered T (tolds (d.deed a).happens) d.metrics (d.deed a).left.metrics := by
  cases a
  case dispatch n =>
    exact ⟨⟨h.listener, (running_dispatch d n).symm ▸ h.running⟩, delivered_dispatch d n⟩
  case register c => exact ⟨⟨h.listener, h.running⟩, delivered_nil rfl rfl⟩
  case listen l => exact ⟨⟨listens l rfl, h.running⟩, delivered_nil rfl rfl⟩
  case deliver e => exact ⟨⟨h.listener, h.running⟩, delivered_deliver unfailing h.listener e⟩
  case advance n =>
    have ⟨running, answered⟩ := answered_advance h n
    exact ⟨⟨h.listener, running⟩, delivered_happenings unfailing answered d d.metrics⟩
  case close =>
    have ⟨running, answered⟩ := answered_close h
    exact ⟨⟨h.listener, running⟩, delivered_happenings unfailing answered d d.metrics⟩

theorem delivered_after (h : d.Served T) (listens : ∀ l, .listen l ∈ as → T l) :
    Delivered T (tolds (d.happened as)) d.metrics (d.after as).metrics := by
  induction as generalizing d
  case nil => exact delivered_nil rfl rfl
  case cons a as hi =>
    have ⟨served, first⟩ := served_deed unfailing h fun l eq => listens l (eq ▸ mem_cons_self)
    have rest := hi served fun l hl => listens l (mem_cons_of_mem a hl)
    have told : tolds (d.happened (a :: as)) =
        tolds (d.deed a).happens ++ tolds ((d.deed a).left.happened as) :=
      Scheduler.tolds_append ..
    rw [told]
    exact first.append rest

end

-- A fan-out contains what fails below it, however deep and however often; and a dispatcher that has such
-- a listener, and never another, counts every callback as one delivery and none as a failure. So does a
-- delivery to a tree that answers otherwise at each place.
theorem fanOut_contained :
    (∀ cs e o, (Listener.fanOut cs).Contained e o) ∧
      (∀ (d : Dispatcher) (as : List Deed), d.listener.IsFanOut → d.deliveries.running = [] →
        (∀ l, .listen l ∈ as → l.IsFanOut) →
          Delivered (fun l => l = d.listener ∨ .listen l ∈ as) (tolds (d.happened as)) d.metrics
            (d.after as).metrics) ∧
      ∀ (d : Dispatcher) (t : Nat → Listener) (e : HeadEvent), (∀ i, (t i).IsFanOut) →
        Delivered (fun l => ∃ i, l = t i) ((stepsBy t d.now e d.registry).map (e, ·)) d.metrics
          (d.deliverBy t e).1.metrics := by
  refine ⟨fun cs e o => Listener.contained_fanOut e o cs, fun d as tree idle trees => ?_,
    fun d t e trees => ?_⟩
  case refine_1 =>
    have unfailing (l : Listener) (h : l = d.listener ∨ .listen l ∈ as) : l.Unfailing :=
      h.elim (fun eq => eq ▸ tree.unfailing) fun listened => (trees l listened).unfailing
    have served : d.Served fun l => l = d.listener ∨ .listen l ∈ as :=
      ⟨.inl rfl, idle ▸ forall_mem_nil _⟩
    exact delivered_after unfailing served fun l hl => .inr hl
  case refine_2 =>
    have unfailing (l : Listener) (h : ∃ i, l = t i) : l.Unfailing := by
      obtain ⟨i, rfl⟩ := h
      exact (trees i).unfailing
    exact delivered_deliverBy unfailing (fun i => ⟨i, rfl⟩) d e

-- Of four leaves on two levels one fails for navigators, another for sources; and the tree answers at the
-- first place only.
theorem fanOut_contained_nested :
    let note (e : HeadEvent) (_ : Occasion) : List Json := [.text e.description]
    let recorder : Listener := .single (.recorder note)
    let inner : Listener := .fanOut [(0, .single (.failing true false "down")), (1, recorder)]
    let cs := [(0, recorder), (1, inner), (2, .single (.failing false true "gone"))]
    let d : Dispatcher :=
      { listener := .fanOut cs
        delay := .ofNumber (.whole 0)
        registry := { navigators := [{ owner := "acme" }] } }
    let deeds : List Deed :=
      [.register (.addSource { owner := "acme", repository := "widgets" }), .dispatch Life.push,
        .advance 1]
    let t (i : Nat) : Listener := .fanOut (if i = 0 then cs else [])
    (Listener.fanOut cs).leaves.map (·.1) = [[0], [1, 0], [1, 1], [2]] ∧
      (callbacks (tolds (d.happened deeds))).map (·.2.target) = [.navigator, .source] ∧
      (d.sights deeds).map (·.effects.notes.length) = [0, 0, 4] ∧
      (∀ e o, (Listener.fanOut cs).Contained e o) ∧
      d.listener.IsFanOut ∧ d.deliveries.running = [] ∧ (∀ l, .listen l ∈ deeds → l.IsFanOut) ∧
      Delivered (fun l => l = d.listener ∨ .listen l ∈ deeds) (tolds (d.happened deeds)) d.metrics
        (d.after deeds).metrics ∧
      (∀ i, (t i).IsFanOut) ∧
      ∀ e : HeadEvent,
        Delivered (fun l => ∃ i, l = t i) ((stepsBy t d.now e d.registry).map (e, ·)) d.metrics
          (d.deliverBy t e).1.metrics := by
  intro note recorder inner cs d deeds t
  have tree : d.listener.IsFanOut := ⟨cs, rfl⟩
  have trees (l : Listener) (h : .listen l ∈ deeds) : l.IsFanOut := by
    simp [deeds] at h
  have places (i : Nat) : (t i).IsFanOut := ⟨_, rfl⟩
  obtain ⟨contained, delivered, deliveredBy⟩ := fanOut_contained
  exact ⟨by decide +kernel, by decide +kernel, by decide +kernel, contained cs, tree, rfl, trees,
    delivered d deeds tree rfl trees, places, fun e => deliveredBy d t e places⟩

end Dispatcher

end RefWatch
