import RefWatch.Listener
import RefWatch.Metrics
import RefWatch.Registry
import RefWatch.Work

namespace RefWatch.Delivery

inductive Step
  -- With the microseconds that the event has waited.
  | began (waited : Nat)
  | navigator (n : Navigator) (r : Response)
  | source (s : Source) (heads : List Report) (r : Response)
  | unresolved (s : Source) (f : Resolution.Failure)
  | headless (s : Source)
  | stopped (f : Url.Fault)
  | finished (delivered : Nat)

namespace Step

-- Ticks that a step takes.
def pause : Step → Nat
  | navigator _ r | source _ _ r => r.pause
  | _ => 0

def notes : Step → List Json
  | navigator _ r | source _ _ r => r.notes
  | _ => []

-- Whether a step has told somebody something.
def delivers : Step → Bool
  | navigator _ r | source _ _ r => !r.failed
  | _ => false

def isStop : Step → Bool
  | stopped _ => true
  | _ => false

end Step

-- How many navigators and sources have been told.
def delivered (steps : List Step) : Nat := steps.countP Step.delivers

def navigatorSteps (e : HeadEvent) (l : Listener) (ns : List Navigator) : List Step :=
  (ns.filter (·.watches e.repository)).map fun n => .navigator n (l.respond e (.navigator n))

def sourceStep (e : HeadEvent) (l : Listener) (s : Source) : Step :=
  match e.heads s with
  | .error f => .unresolved s f
  | .ok [] => .headless s
  | .ok heads => .source s heads (l.respond e (.source s heads))

def sourceSteps (e : HeadEvent) (l : Listener) : List Source → List Step
  | [] => []
  | s :: ss =>
    match e.isFor (.source s) with
    | .error f => [.stopped f]
    | .ok false => sourceSteps e l ss
    | .ok true => sourceStep e l s :: sourceSteps e l ss

-- Microseconds between two instants, as far as the second is later.
def waited (received now : Int) : Nat := (now - received).toNat

-- How a delivery ends after its steps.
def conclusion (steps : List Step) : Work Registry Step :=
  if steps.any Step.isStop then .failed else .tell (.finished (delivered steps)) .ended

-- The delivery of an event that starts at an instant. The navigators are those registered when it starts,
-- the sources those registered when the navigators have been told.
def work (l : Listener) (now : Int) (e : HeadEvent) : Work Registry Step :=
  .tell (.began (waited e.received.instant now)) <| .look fun r =>
    let ns := navigatorSteps e l r.navigators
    .tellAll Step.pause ns <| .look fun r =>
      let ss := sourceSteps e l r.sources
      .tellAll Step.pause ss (conclusion (ns ++ ss))

-- The steps of a delivery during which nobody comes or goes.
def steps (l : Listener) (now : Int) (e : HeadEvent) (r : Registry) : List Step :=
  (work l now e).output r

theorem steps_eq (l : Listener) (now : Int) (e : HeadEvent) (r : Registry) :
    steps l now e r =
      .began (waited e.received.instant now) ::
        (navigatorSteps e l r.navigators ++ (sourceSteps e l r.sources ++
          (conclusion (navigatorSteps e l r.navigators ++ sourceSteps e l r.sources)).output r)) := by
  simp only [steps, work, Work.output, Work.output_tellAll]

-- How many have been told, or why the delivery stopped.
def result : List Step → Except Url.Fault Nat
  | [] => .ok 0
  | .finished n :: _ => .ok n
  | .stopped f :: _ => .error f
  | _ :: steps => result steps

def note (level : Log.Level) (message : String) : Log.Record where
  level := level
  logger := .dispatcher
  message := message

def listenerFailure (l : Listener) (e : HeadEvent) (error : String) : Log.Record where
  level := .error
  logger := .dispatcher
  message := "Listener " ++ l.name ++ " failed for " ++ e.description ++ ": " ++ error
  extra := Listener.failureFields l.name error e

def responseLog (l : Listener) (e : HeadEvent) (r : Response) : List Log.Record :=
  r.log ++ (r.error.map (listenerFailure l e)).toList

def stepLog (l : Listener) (e : HeadEvent) : Step → List Log.Record
  | .began _ | .stopped _ | .finished (_ + 1) => []
  | .navigator _ r => responseLog l e r
  | .source s _ r => e.resolutionLog s ++ responseLog l e r
  | .unresolved s f =>
    e.resolutionLog s ++
      [note .error
        ("Failed to resolve heads of " ++ e.description ++ " for " ++ s.fullName ++ ": " ++ f.message)]
  | .headless s =>
    e.resolutionLog s ++ [note .debug ("No heads of " ++ e.description ++ " for " ++ s.fullName)]
  | .finished 0 => [note .debug (e.description ++ " matched no configuration")]

def log (l : Listener) (e : HeadEvent) (steps : List Step) : List Log.Record :=
  steps.flatMap (stepLog l e)

def countResponse (l : Listener) (k : EventKind) (t : Metrics.Target) (r : Response) (m : Metrics) :
    Metrics :=
  if r.failed then m.fail l.name else m.deliver k t

def count (l : Listener) (e : HeadEvent) (m : Metrics) : Step → Metrics
  | .began waited => m.wait e.kind waited
  | .navigator _ r => countResponse l e.kind .navigator r m
  | .source _ heads r =>
    countResponse l e.kind .source r (heads.foldl (fun m r => m.report r.head.kind) m)
  | .unresolved .. | .headless _ | .stopped _ | .finished _ => m

def countAll (l : Listener) (e : HeadEvent) (m : Metrics) (steps : List Step) : Metrics :=
  steps.foldl (count l e) m

end RefWatch.Delivery
