import RefWatch.Dispatcher
import RefWatch.Proofs.Moves
import RefWatch.Proofs.Overlap
import RefWatch.Proofs.Turns

namespace RefWatch

inductive Registry.Change
  | addSource (s : Source)
  | removeSource (s : Source)
  | addNavigator (n : Navigator)

def Registry.change (r : Registry) : Registry.Change → Registry
  | .addSource s => r.addSource s
  | .removeSource s => (r.removeSource? s).getD r
  | .addNavigator n => r.addNavigator n

namespace Dispatcher

open List
open Scheduler (Timer Ahead armed tolds promised)
open Metrics (Counts Tally)

inductive Move
  | dispatch (n : Notification)
  | register (c : Registry.Change)
  | advance (n : Nat)

def move (d : Dispatcher) : Move → Dispatcher × List Happening
  | .dispatch n => ((d.dispatch n).1, [])
  | .register c => ({ d with registry := d.registry.change c }, [])
  | .advance n => ((d.advance n).1, (d.deliveries.advance d.conduct n).2)

def run (d : Dispatcher) : List Move → Dispatcher × List Happening
  | [] => (d, [])
  | m :: ms => ((run (d.move m).1 ms).1, (d.move m).2 ++ (run (d.move m).1 ms).2)

-- How callbacks are answered: by the tick at which their delivery starts, its event, and the place in the
-- registry of whom they are for.
abbrev Manner := Nat → HeadEvent → Nat → Listener

-- The listener of the dispatcher answers them all.
def plain (d : Dispatcher) : Manner := fun _ _ _ => d.listener

def conductBy (a : Manner) (d : Dispatcher) : Scheduler.Conduct HeadEvent Registry Delivery.Step where
  work tick e := Delivery.workBy (a tick e) (d.instantOf tick) e
  state := d.registry

def moveBy (a : Manner) (d : Dispatcher) : Move → Dispatcher × List Happening
  | .advance n =>
    let (deliveries, hs) := d.deliveries.advance (d.conductBy a) n
    ((d.absorb deliveries hs).1, hs)
  | m => d.move m

def runBy (a : Manner) (d : Dispatcher) : List Move → Dispatcher × List Happening
  | [] => (d, [])
  | m :: ms => ((runBy a (d.moveBy a m).1 ms).1, (d.moveBy a m).2 ++ (runBy a (d.moveBy a m).1 ms).2)

-- What listeners are told in some steps.
def callbacks (told : List (HeadEvent × Delivery.Step)) : List (HeadEvent × Occasion) :=
  told.filterMap fun x => x.2.occasion?.map (x.1, ·)

-- The registry only changes while nothing is being delivered.
def Settled (a : Manner) : Dispatcher → List Move → Prop
  | _, [] => True
  | d, m :: ms =>
    (∀ c, m = .register c → d.deliveries.running = []) ∧ Settled a (d.moveBy a m).1 ms

-- What is registered when the clock reaches a timer.
def registryAt (a : Manner) (t : Timer HeadEvent) : Dispatcher → List Move → Registry
  | d, [] => d.registry
  | d, .advance n :: ms =>
    if t.reached d.deliveries.now n then d.registry else registryAt a t (d.moveBy a (.advance n)).1 ms
  | d, m :: ms => registryAt a t (d.moveBy a m).1 ms

structure Firing where
  tick : Nat
  event : HeadEvent
  registry : Registry

def firing (a : Manner) (d : Dispatcher) (ms : List Move) (t : Timer HeadEvent) : Firing :=
  ⟨t.due.getD 0, t.event, registryAt a t d ms⟩

-- The timers of the events that a move schedules.
def newly (d : Dispatcher) : Move → List (Timer HeadEvent)
  | .dispatch n => (d.dispatch n).2.1.event?.toList.map fun e => armed d.deliveries.now e d.delay
  | _ => []

-- The events that a run schedules, with the ticks that they fall due at and what is registered then.
def agenda (a : Manner) : Dispatcher → List Move → List Firing
  | _, [] => []
  | d, m :: ms => (d.newly m).map (firing a (d.moveBy a m).1 ms) ++ agenda a (d.moveBy a m).1 ms

-- The dispatcher when all notifications of a run have come in and nothing has been delivered.
def taken (d : Dispatcher) : List Move → Dispatcher
  | [] => d
  | .dispatch n :: ms => taken (d.dispatch n).1 ms
  | _ :: ms => taken d ms

-- The dispatcher at the tick of a firing, with nothing else to do.
def atFiring (d : Dispatcher) (f : Firing) : Dispatcher :=
  { d with registry := f.registry, deliveries := { now := f.tick } }

-- An event delivered alone, at once: what becomes of the dispatcher, and the steps.
def fired (d : Dispatcher) (f : Firing) : Dispatcher := ((d.atFiring f).deliver f.event).1

def told (d : Dispatcher) (f : Firing) : List (HeadEvent × Delivery.Step) :=
  (Delivery.steps d.listener (d.instantOf f.tick) f.event f.registry).map (f.event, ·)

def alone (d : Dispatcher) : List Firing → Dispatcher × List (HeadEvent × Delivery.Step)
  | [] => (d, [])
  | f :: fs => ((alone (d.fired f) fs).1, d.told f ++ (alone (d.fired f) fs).2)

def firedBy (a : Manner) (d : Dispatcher) (f : Firing) : Dispatcher :=
  ((d.atFiring f).deliverBy (a f.tick f.event) f.event).1

def toldBy (a : Manner) (d : Dispatcher) (f : Firing) : List (HeadEvent × Delivery.Step) :=
  (Delivery.stepsBy (a f.tick f.event) (d.instantOf f.tick) f.event f.registry).map (f.event, ·)

def aloneBy (a : Manner) (d : Dispatcher) : List Firing → Dispatcher × List (HeadEvent × Delivery.Step)
  | [] => (d, [])
  | f :: fs => ((aloneBy a (d.firedBy a f) fs).1, d.toldBy a f ++ (aloneBy a (d.firedBy a f) fs).2)

variable {a : Manner} {d : Dispatcher} {m : Move} {ms : List Move}

theorem plain_congr {d' : Dispatcher} (same : d'.listener = d.listener) : d'.plain = d.plain := by
  unfold plain
  rw [same]

theorem conductBy_plain (d : Dispatcher) : d.conductBy d.plain = d.conduct := by
  have work : (fun tick e => Delivery.workBy (d.plain tick e) (d.instantOf tick) e) = d.conduct.work :=
    funext fun tick => funext fun e => Delivery.workBy_const d.listener (d.instantOf tick) e
  exact congrArg (Scheduler.Conduct.mk · d.registry) work

theorem moveBy_plain (d : Dispatcher) (m : Move) : d.moveBy d.plain m = d.move m := by
  cases m
  case advance n =>
    rw [moveBy, conductBy_plain]
    rfl
  all_goals rfl

theorem listener_moveBy (a : Manner) (d : Dispatcher) (m : Move) : (d.moveBy a m).1.listener = d.listener := by
  cases m <;> rfl

theorem start_moveBy (a : Manner) (d : Dispatcher) (m : Move) : (d.moveBy a m).1.start = d.start := by
  cases m <;> rfl

theorem delay_moveBy (a : Manner) (d : Dispatcher) (m : Move) : (d.moveBy a m).1.delay = d.delay := by
  cases m <;> rfl

theorem aliases_moveBy (a : Manner) (d : Dispatcher) (m : Move) : (d.moveBy a m).1.aliases = d.aliases := by
  cases m <;> rfl

theorem aliases_move (d : Dispatcher) (m : Move) : (d.move m).1.aliases = d.aliases :=
  moveBy_plain d m ▸ aliases_moveBy d.plain d m

theorem toldBy_moveBy (a : Manner) (d : Dispatcher) (m : Move) :
    (d.moveBy a m).1.toldBy a = d.toldBy a := by
  funext f
  simp [toldBy, instantOf, start_moveBy]

-- A dispatcher whose own listener answers all callbacks moves as it does, and so it delivers alone.
theorem runBy_plain (d : Dispatcher) (ms : List Move) : d.runBy d.plain ms = d.run ms := by
  induction ms generalizing d
  case nil => rfl
  case cons m ms hi =>
    have same : (d.move m).1.plain = d.plain := by
      rw [← moveBy_plain]
      exact plain_congr (listener_moveBy d.plain d m)
    rw [runBy, run, moveBy_plain, ← same, hi]

theorem aloneBy_plain (d : Dispatcher) (fs : List Firing) : d.aloneBy d.plain fs = d.alone fs := by
  induction fs generalizing d
  case nil => rfl
  case cons f fs hi =>
    have fired : d.firedBy d.plain f = d.fired f :=
      congrArg Prod.fst ((d.atFiring f).deliverBy_const f.event)
    have told : d.toldBy d.plain f = d.told f := by
      have steps : Delivery.stepsBy (d.plain f.tick f.event) (d.instantOf f.tick) f.event f.registry =
          Delivery.steps d.listener (d.instantOf f.tick) f.event f.registry :=
        congrArg (·.output f.registry) (Delivery.workBy_const ..)
      rw [toldBy, told, steps]
    have rest : (d.fired f).aloneBy d.plain fs = (d.fired f).alone fs := hi (d.fired f)
    rw [aloneBy, alone, fired, told, rest]

theorem arm_of_outcome {σ : Type} {aliases : Aliases} {arm : HeadEvent → Except String σ}
    {n : Notification} {e : HeadEvent} {a : σ}
    (h : Dispatch.outcome aliases arm n = .scheduled e a) : arm e = .ok a := by
  unfold Dispatch.outcome at h
  split at h
  case h_1 => cases h
  case h_2 =>
    split at h
    case h_1 => cases h
    case h_2 =>
      split at h
      case h_1 => cases h
      case h_2 ha =>
        cases h
        exact ha

-- A dispatch arms the event that it schedules, and touches nothing else of the deliveries.
theorem deliveries_dispatch (opened : d.deliveries.closed = false) (n : Notification) :
    (d.dispatch n).1.deliveries =
      { d.deliveries with timers := d.deliveries.timers ++ d.newly (.dispatch n) } := by
  have outcome : (d.dispatch n).2.1 = Dispatch.outcome d.aliases d.arm n := rfl
  have after : (d.dispatch n).1.deliveries =
      (Dispatch.outcome d.aliases d.arm n).armed?.getD d.deliveries := rfl
  rw [after, newly, outcome]
  cases h : Dispatch.outcome d.aliases d.arm n
  case scheduled e a =>
    have ha : d.arm e = .ok a := arm_of_outcome h
    rcases Scheduler.schedule_cases d.deliveries e d.delay with ⟨_, hs⟩ | ⟨closed, _⟩ | ⟨r, hs⟩
    · rw [arm, hs] at ha
      cases ha
      rfl
    · simp [opened] at closed
    · simp [arm, hs, Except.mapError] at ha
  all_goals simp [Dispatch.Outcome.armed?, Dispatch.Outcome.event?]

theorem deliveries_advance (d : Dispatcher) (n : Nat) :
    (d.move (.advance n)).1.deliveries = (Scheduler.ticks d.conduct n d.deliveries).1 :=
  congrArg Prod.fst (Scheduler.advance_eq_ticks n d.deliveries)

theorem deliveries_advanceBy (a : Manner) (d : Dispatcher) (n : Nat) :
    (d.moveBy a (.advance n)).1.deliveries = (Scheduler.ticks (d.conductBy a) n d.deliveries).1 :=
  congrArg Prod.fst (Scheduler.advance_eq_ticks n d.deliveries)

theorem closed_moveBy (a : Manner) (d : Dispatcher) (opened : d.deliveries.closed = false) (m : Move) :
    (d.moveBy a m).1.deliveries.closed = false := by
  cases m
  case dispatch n => simpa [moveBy, move, deliveries_dispatch opened n] using opened
  case register c => exact opened
  case advance n => rw [deliveries_advanceBy, Scheduler.closed_ticks, opened]

theorem closed_move (d : Dispatcher) (opened : d.deliveries.closed = false) (m : Move) :
    (d.move m).1.deliveries.closed = false :=
  moveBy_plain d m ▸ closed_moveBy d.plain d opened m

theorem ahead_newly (d : Dispatcher) (m : Move) :
    ∀ t ∈ d.newly m, ∀ k, t.due = some k → d.deliveries.now ≤ k := by
  intro t ht k hk
  cases m
  case dispatch n =>
    obtain ⟨e, _, rfl⟩ := mem_map.mp ht
    exact Scheduler.le_of_due_armed hk
  all_goals cases ht

theorem ahead_moveBy (opened : d.deliveries.closed = false) (ahead : d.deliveries.Ahead) (m : Move) :
    (d.moveBy a m).1.deliveries.Ahead := by
  cases m
  case dispatch n =>
    have : (d.moveBy a (.dispatch n)).1.deliveries = _ := deliveries_dispatch opened n
    rw [this]
    intro t ht
    rcases mem_append.mp ht with ht | ht
    case inl => exact ahead t ht
    case inr => exact ahead_newly d _ t ht
  case register c => exact ahead
  case advance n =>
    rw [deliveries_advanceBy]
    exact Scheduler.ahead_ticks ahead n

theorem ahead_move (opened : d.deliveries.closed = false) (ahead : d.deliveries.Ahead) (m : Move) :
    (d.move m).1.deliveries.Ahead :=
  moveBy_plain d m ▸ ahead_moveBy opened ahead m

theorem tells_stamp (a : Manner) (d : Dispatcher) (t : Timer HeadEvent) :
    (d.conductBy a).tells t.stamp = d.toldBy a ⟨t.due.getD 0, t.event, d.registry⟩ :=
  rfl

-- What timers are for, split at a movement of the clock.
theorem told_timers_advance (a : Manner) (d : Dispatcher) (n : Nat) (ms : List Move) :
    (d.deliveries.timers.map (firing a d (.advance n :: ms))).flatMap (d.toldBy a) ~
      ((d.deliveries.timers.filter (·.reached d.deliveries.now n)).flatMap fun t =>
        (d.conductBy a).tells t.stamp) ++
      ((d.moveBy a (.advance n)).1.deliveries.timers.map
        (firing a (d.moveBy a (.advance n)).1 ms)).flatMap (d.toldBy a) := by
  let p (t : Timer HeadEvent) := t.reached d.deliveries.now n
  have now : ((d.deliveries.timers.filter p).map (firing a d (.advance n :: ms))).flatMap (d.toldBy a) =
      (d.deliveries.timers.filter p).flatMap fun t => (d.conductBy a).tells t.stamp := by
    rw [flatMap_map]
    refine flatMap_congr fun t ht => ?_
    have reached : t.reached d.deliveries.now n := (mem_filter.mp ht).2
    rw [tells_stamp, firing, registryAt, if_pos reached]
  have timers : (d.moveBy a (.advance n)).1.deliveries.timers = d.deliveries.timers.filter (!p ·) := by
    rw [deliveries_advanceBy, Scheduler.timers_ticks]
  have later : (d.deliveries.timers.filter (!p ·)).map (firing a d (.advance n :: ms)) =
      (d.deliveries.timers.filter (!p ·)).map (firing a (d.moveBy a (.advance n)).1 ms) := by
    refine map_congr_left fun t ht => ?_
    have missed : ¬t.reached d.deliveries.now n := by simpa [p] using (mem_filter.mp ht).2
    rw [firing, registryAt, if_neg missed, firing]
  rw [timers, ← now, ← later, ← flatMap_append, ← map_append]
  exact ((filter_append_perm p _).symm.map _).flatMap_right _

-- Once all has been fired and has ended, listeners have been told what they were still to be told,
-- and of each timer, there from the beginning or armed in the meantime, what it is for.
theorem tolds_run (opened : d.deliveries.closed = false) (ahead : d.deliveries.Ahead)
    (settled : Settled a d ms) (fired : (d.runBy a ms).1.deliveries.timers = [])
    (ended : (d.runBy a ms).1.deliveries.running = []) :
    tolds (d.runBy a ms).2 ~ promised d.registry d.deliveries.running ++
      (d.deliveries.timers.map (firing a d ms) ++ d.agenda a ms).flatMap (d.toldBy a) := by
  -- Nothing is armed or running at the end. Towards the beginning, what is promised by what runs and
  -- what is armed grow by what the moves take away.
  induction ms generalizing d
  case nil =>
    simp only [runBy] at fired ended
    simp [runBy, fired, ended, agenda, tolds, promised]
  case cons m ms hi =>
    have rest := hi (closed_moveBy a d opened m) (ahead_moveBy opened ahead m) settled.2 fired ended
    rw [toldBy_moveBy] at rest
    simp only [runBy, Scheduler.tolds_append, agenda, flatMap_append] at rest ⊢
    cases m
    case dispatch n =>
      have timers : (d.moveBy a (.dispatch n)).1.deliveries.timers =
          d.deliveries.timers ++ d.newly (.dispatch n) := by
        simp [moveBy, move, deliveries_dispatch opened n]
      have running : (d.moveBy a (.dispatch n)).1.deliveries.running = d.deliveries.running := by
        simp [moveBy, move, deliveries_dispatch opened n]
      rw [timers, running, map_append, flatMap_append, append_assoc] at rest
      exact rest
    case register c =>
      have quiet : d.deliveries.running = [] := settled.1 c rfl
      have still : (d.moveBy a (.register c)).1.deliveries.running = [] := quiet
      rw [still] at rest
      rw [quiet]
      exact rest
    case advance n =>
      have moved := Scheduler.tolds_advance (c := d.conductBy a) ahead n
      have split := told_timers_advance a d n ms
      have none : d.newly (.advance n) = [] := rfl
      calc
        _ ~ _ ++ (promised d.registry _ ++ (_ ++ _)) := rest.append_left _
        _ = _ ++ promised d.registry _ ++ (_ ++ _) := (append_assoc ..).symm
        _ ~ promised d.registry d.deliveries.running ++ _ ++ (_ ++ _) := moved.append_right _
        _ = promised d.registry d.deliveries.running ++ (_ ++ _ ++ _) := by
          simp only [append_assoc, none, map_nil, flatMap_nil, nil_append]
        _ ~ _ := (split.symm.append_right _).append_left _

-- What a move tallies at once.
def tallied (d : Dispatcher) : Move → List Tally
  | .dispatch n => Dispatch.tallies n (d.dispatch n).2.1
  | _ => []

-- What steps tally.
def talliesOf (d : Dispatcher) (told : List (HeadEvent × Delivery.Step)) : List Tally :=
  told.flatMap fun x => Delivery.tallies d.listener x.1 x.2

theorem tallies_outcome_congr {σ : Type} {aliases : Aliases} {f g : HeadEvent → Except String σ}
    (h : ∀ e, (f e).isOk = (g e).isOk) (n : Notification) :
    Dispatch.tallies n (Dispatch.outcome aliases f n) =
      Dispatch.tallies n (Dispatch.outcome aliases g n) := by
  unfold Dispatch.outcome
  split
  case h_1 => rfl
  case h_2 p _ =>
    split
    case h_1 => rfl
    case h_2 host _ =>
      have := h (Dispatch.eventOf n aliases p host)
      cases hf : f (Dispatch.eventOf n aliases p host) <;>
        cases hg : g (Dispatch.eventOf n aliases p host) <;>
        simp only [hf, hg] at this ⊢
      case error.error => rfl
      case ok.ok => rfl
      all_goals cases this

-- Where the clock stands and what is armed does not matter to what a notification tallies.
theorem tallied_congr {d d' : Dispatcher} (aliases : d'.aliases = d.aliases)
    (delay : d'.delay = d.delay) (opened : d.deliveries.closed = false)
    (opened' : d'.deliveries.closed = false) : d'.tallied = d.tallied := by
  have arms (e : HeadEvent) : (d'.arm e).isOk = (d.arm e).isOk := by
    have one := Scheduler.isOk_schedule opened e d.delay
    have other := Scheduler.isOk_schedule opened' e d.delay
    rw [arm, arm, delay]
    cases h : d.deliveries.schedule e d.delay <;> cases h' : d'.deliveries.schedule e d.delay <;>
      simp_all [Except.mapError, Except.isOk, Except.toBool]
  funext m
  cases m
  case dispatch n =>
    have : (d'.dispatch n).2.1 = Dispatch.outcome d.aliases d'.arm n := aliases ▸ rfl
    rw [tallied, this]
    exact tallies_outcome_congr arms n
  all_goals rfl

theorem counts_absorb (d : Dispatcher) (hs : List Happening) (m : Metrics) :
    (hs.foldl d.countHappening m).counts =
      (d.talliesOf (tolds hs)).foldl Counts.add m.counts := by
  induction hs generalizing m
  case nil => rfl
  case cons h hs hi =>
    cases h
    case told e step =>
      have := hi (d.countHappening m (.told e step))
      simpa [countHappening, talliesOf, tolds, Delivery.counts_count, foldl_append] using this
    all_goals exact hi m

theorem counts_moveBy (a : Manner) (d : Dispatcher) (m : Move) :
    (d.moveBy a m).1.metrics.counts =
      (d.tallied m ++ d.talliesOf (tolds (d.moveBy a m).2)).foldl Counts.add d.metrics.counts := by
  cases m
  case dispatch n =>
    calc
      _ = (d.tallied (.dispatch n)).foldl Counts.add d.metrics.counts := Dispatch.counts_count ..
      _ = _ := by simp [moveBy, move, tolds, talliesOf]
  case register c => rfl
  case advance n => exact counts_absorb ..

theorem talliesOf_moveBy (a : Manner) (d : Dispatcher) (m : Move) :
    (d.moveBy a m).1.talliesOf = d.talliesOf := by
  funext told
  rw [talliesOf, listener_moveBy, talliesOf]

theorem talliesOf_append (d : Dispatcher) (xs ys : List (HeadEvent × Delivery.Step)) :
    d.talliesOf (xs ++ ys) = d.talliesOf xs ++ d.talliesOf ys :=
  flatMap_append

theorem counts_runBy (a : Manner) (opened : d.deliveries.closed = false) (ms : List Move) :
    (d.runBy a ms).1.metrics.counts =
      (ms.flatMap d.tallied ++ d.talliesOf (tolds (d.runBy a ms).2)).foldl Counts.add
        d.metrics.counts := by
  induction ms generalizing d
  case nil => rfl
  case cons m ms hi =>
    have same : (d.moveBy a m).1.tallied = d.tallied :=
      tallied_congr (aliases_moveBy a d m) (delay_moveBy a d m) opened (closed_moveBy a d opened m)
    simp only [runBy, hi (closed_moveBy a d opened m), same, counts_moveBy, ← foldl_append, flatMap_cons,
      Scheduler.tolds_append, talliesOf_moveBy, talliesOf_append, append_assoc]
    exact ((perm_append_comm_assoc ..).append_left _).foldl_eq _

theorem counts_taken (opened : d.deliveries.closed = false) (ms : List Move) :
    (d.taken ms).metrics.counts = (ms.flatMap d.tallied).foldl Counts.add d.metrics.counts := by
  induction ms generalizing d
  case nil => rfl
  case cons m ms hi =>
    cases m
    case dispatch n =>
      have opened' : (d.dispatch n).1.deliveries.closed = false := closed_move d opened (.dispatch n)
      have same : (d.dispatch n).1.tallied = d.tallied := tallied_congr rfl rfl opened opened'
      have first : (d.dispatch n).1.metrics.counts =
          (d.tallied (.dispatch n)).foldl Counts.add d.metrics.counts := Dispatch.counts_count ..
      rw [taken, hi opened', same, first, flatMap_cons, foldl_append]
    all_goals exact hi opened

theorem counts_aloneBy (a : Manner) (d : Dispatcher) (fs : List Firing) :
    (d.aloneBy a fs).1.metrics.counts =
      (d.talliesOf (fs.flatMap (d.toldBy a))).foldl Counts.add d.metrics.counts := by
  induction fs generalizing d
  case nil => rfl
  case cons f fs hi =>
    have first : (d.firedBy a f).metrics.counts =
        (d.talliesOf (d.toldBy a f)).foldl Counts.add d.metrics.counts := by
      rw [talliesOf, toldBy, flatMap_map]
      exact Delivery.counts_countAll ..
    have told : (d.firedBy a f).toldBy a = d.toldBy a := rfl
    have tallies : (d.firedBy a f).talliesOf = d.talliesOf := rfl
    rw [aloneBy, hi, told, tallies, first, flatMap_cons, talliesOf_append, foldl_append]

theorem snd_aloneBy (a : Manner) (d : Dispatcher) (fs : List Firing) :
    (d.aloneBy a fs).2 = fs.flatMap (d.toldBy a) := by
  induction fs generalizing d
  case nil => rfl
  case cons f fs hi =>
    have told : (d.firedBy a f).toldBy a = d.toldBy a := rfl
    rw [aloneBy, hi, told, flatMap_cons]

theorem listener_taken (d : Dispatcher) (ms : List Move) : (d.taken ms).listener = d.listener := by
  induction ms generalizing d
  case nil => rfl
  case cons m ms hi => cases m <;> exact hi _

theorem start_taken (d : Dispatcher) (ms : List Move) : (d.taken ms).start = d.start := by
  induction ms generalizing d
  case nil => rfl
  case cons m ms hi => cases m <;> exact hi _

-- However deliveries overlap, and in whatever manner callbacks are answered, what comes of them is what comes
-- of each on its own.
theorem run_eq_alone (a : Manner) (new : d.deliveries = {}) (settled : Settled a d ms)
    (fired : (d.runBy a ms).1.deliveries.timers = [])
    (ended : (d.runBy a ms).1.deliveries.running = []) :
    callbacks (tolds (d.runBy a ms).2) ~ callbacks ((d.taken ms).aloneBy a (d.agenda a ms)).2 ∧
      (∀ f labels, Metrics.Series.get? ((d.runBy a ms).1.metrics.counter f) labels =
        Metrics.Series.get? (((d.taken ms).aloneBy a (d.agenda a ms)).1.metrics.counter f) labels) ∧
      (a = d.plain → d.runBy a ms = d.run ms ∧
        ∀ fs, (d.taken ms).aloneBy a fs = (d.taken ms).alone fs) := by
  have opened : d.deliveries.closed = false := by rw [new]
  have ahead : d.deliveries.Ahead := new ▸ Scheduler.ahead_empty
  have same : (d.taken ms).toldBy a = d.toldBy a := by
    funext f
    rw [toldBy, toldBy, instantOf, instantOf, start_taken]
  have tallies : (d.taken ms).talliesOf = d.talliesOf := by
    funext told
    rw [talliesOf, talliesOf, listener_taken]
  have told : tolds (d.runBy a ms).2 ~ (d.agenda a ms).flatMap (d.toldBy a) := by
    simpa [new, promised] using tolds_run opened ahead settled fired ended
  have counted : (d.runBy a ms).1.metrics.counts =
      ((d.taken ms).aloneBy a (d.agenda a ms)).1.metrics.counts := by
    rw [counts_runBy a opened, counts_aloneBy, counts_taken opened, same, tallies, ← foldl_append]
    exact ((told.flatMap_right _).append_left _).foldl_eq _
  refine ⟨?callbacks, fun f labels => congrFun (congrFun counted f) labels, ?plain⟩
  case callbacks =>
    rw [snd_aloneBy, same]
    exact told.filterMap _
  case plain =>
    rintro rfl
    have listens : (d.taken ms).plain = d.plain := plain_congr (listener_taken d ms)
    exact ⟨runBy_plain d ms, fun fs => listens ▸ aloneBy_plain (d.taken ms) fs⟩

-- Two deliveries to a source that came after the first event overlap: the first is answered after two ticks,
-- and the second fails at once.
theorem run_eq_alone_slow :
    let push : Notification :=
      { kind := .push
        received := .ofInstant 0
        body := String.toUTF8 (
          "\x7b\"ref\": \"refs/heads/main\", " ++
          "\"after\": \"0123456789abcdef0123456789abcdef01234567\", " ++
          "\"repository\": \x7b\"name\": \"widgets\", \"owner\": \x7b\"login\": \"acme\"\x7d, " ++
          "\"html_url\": \"https://github.com/acme/widgets\"\x7d\x7d") }
    let slow : Listener := .single { name := "Slow", respond := fun _ _ => { pause := 2 } }
    let d : Dispatcher := { listener := slow, delay := .ofNumber (.whole 0) }
    let a : Manner := fun tick _ _ =>
      if tick = 0 then slow else .single { name := "Slow", respond := fun _ _ => { error := some "boom" } }
    let ms : List Move :=
      [.dispatch push, .register (.addSource { owner := "acme", repository := "widgets" }),
        .advance 1, .dispatch push, .advance 4]
    Settled a d ms ∧ (d.runBy a ms).1.deliveries.timers = [] ∧ (d.runBy a ms).1.deliveries.running = [] ∧
      (callbacks (tolds (d.runBy a ms).2)).length = 2 ∧
      (d.runBy a ms).1.metrics.failures.length = 1 ∧
      callbacks (tolds (d.runBy a ms).2) ~ callbacks ((d.taken ms).aloneBy a (d.agenda a ms)).2 ∧
      ∀ f labels, Metrics.Series.get? ((d.runBy a ms).1.metrics.counter f) labels =
        Metrics.Series.get? (((d.taken ms).aloneBy a (d.agenda a ms)).1.metrics.counter f) labels := by
  intro push slow d a ms
  have quiet : (d.move (.dispatch push)).1.deliveries.running = [] :=
    isEmpty_iff.mp (by decide +kernel)
  have settled : Settled a d ms := ⟨nofun, fun _ _ => quiet, nofun, nofun, nofun, trivial⟩
  have fired : (d.runBy a ms).1.deliveries.timers = [] := isEmpty_iff.mp (by decide +kernel)
  have ended : (d.runBy a ms).1.deliveries.running = [] := isEmpty_iff.mp (by decide +kernel)
  obtain ⟨callbacks, counters, -⟩ := run_eq_alone a rfl settled fired ended
  exact ⟨settled, fired, ended, by decide +kernel, by decide +kernel, callbacks, counters⟩

end Dispatcher

end RefWatch
