import RefWatch.Delivery
import RefWatch.Dispatch
import RefWatch.Scheduler.Log

namespace RefWatch

structure Effects where
  log : List Log.Record := []
  notes : List Json := []

namespace Effects

def append (a b : Effects) : Effects := ⟨a.log ++ b.log, a.notes ++ b.notes⟩

instance : Append Effects := ⟨append⟩

end Effects

namespace Dispatcher

def defaultDelay : Delay := .ofNumber (.whole 5)

def microsPerTick : Int := 15625

abbrev Deliveries := Scheduler HeadEvent Registry Delivery.Step

abbrev Happening := Scheduler.Happening HeadEvent Delivery.Step

end Dispatcher

structure Dispatcher where
  registry : Registry := {}
  listener : Listener
  delay : Delay := Dispatcher.defaultDelay
  aliases : Aliases := Aliases.standard
  metrics : Metrics := {}
  deliveries : Dispatcher.Deliveries := {}
  -- The instant at which the clock started.
  start : Int := 0

namespace Dispatcher

-- A dispatcher with a delay that can be armed.
def ofDelay (d : Dispatcher) (delay : Delay) : Except Scheduler.Refusal Dispatcher := do
  Scheduler.checkDelay delay
  return { d with delay := delay }

def instantOf (d : Dispatcher) (tick : Nat) : Int := d.start + tick * microsPerTick

def now (d : Dispatcher) : Int := d.instantOf d.deliveries.now

def pending (d : Dispatcher) : Nat := d.deliveries.pending

def arm (d : Dispatcher) (e : HeadEvent) : Except String Deliveries :=
  (d.deliveries.schedule e d.delay).mapError (·.message)

-- Dispatches a notification with other means to arm its event.
def dispatchWith (arm : HeadEvent → Except String Deliveries)
    (arming : HeadEvent → List Log.Record) (d : Dispatcher) (n : Notification) :
    Dispatcher × Dispatch.Outcome Deliveries × Effects :=
  let o := Dispatch.outcome d.aliases arm n
  ({ d with
      metrics := Dispatch.count n o d.metrics
      deliveries := o.armed?.getD d.deliveries },
    o, { log := Dispatch.log n d.delay arming o })

def dispatch (d : Dispatcher) (n : Notification) :
    Dispatcher × Dispatch.Outcome Deliveries × Effects :=
  d.dispatchWith d.arm (d.deliveries.armingLog · d.delay) n

-- Delivers an event at once.
def deliver (d : Dispatcher) (e : HeadEvent) :
    Dispatcher × Except Url.Fault Nat × Effects :=
  let steps := Delivery.steps d.listener d.now e d.registry
  ({ d with metrics := Delivery.countAll d.listener e d.metrics steps },
    Delivery.result steps,
    { log := Delivery.log d.listener e steps, notes := steps.flatMap (·.notes) })

def conduct (d : Dispatcher) : Scheduler.Conduct HeadEvent Registry Delivery.Step where
  work tick e := Delivery.work d.listener (d.instantOf tick) e
  state := d.registry

def countHappening (d : Dispatcher) (m : Metrics) : Happening → Metrics
  | .told e step => Delivery.count d.listener e m step
  | .started .. | .ended .. => m

def effectsOf (d : Dispatcher) : Happening → Effects
  | .told e step => { log := Delivery.stepLog d.listener e step, notes := step.notes }
  | h => { log := Scheduler.happeningLog h }

-- Takes up what has happened to the deliveries.
def absorb (d : Dispatcher) (deliveries : Deliveries) (hs : List Happening) :
    Dispatcher × Effects :=
  ({ d with deliveries, metrics := hs.foldl d.countHappening d.metrics },
    hs.foldl (fun es h => es ++ d.effectsOf h) {})

-- Moves the clock on.
def advance (n : Nat) (d : Dispatcher) : Dispatcher × Effects :=
  let (deliveries, hs) := d.deliveries.advance d.conduct n
  d.absorb deliveries hs

def close (d : Dispatcher) : Dispatcher × Effects :=
  let (deliveries, hs) := d.deliveries.close d.conduct
  let (d', es) := d.absorb deliveries hs
  (d', { log := d.deliveries.closingLog } ++ es)

end Dispatcher

end RefWatch
