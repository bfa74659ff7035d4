import RefWatch.HeadEvent
import RefWatch.Scheduler

namespace RefWatch.Scheduler

variable {σ ω : Type}

def note (level : Log.Level) (message : String) : Log.Record where
  level := level
  logger := .scheduler
  message := message

def eventText (e : HeadEvent) : String := e.kind.name ++ " event for " ++ e.repository.fullName

-- Of arming an event: that it is armed, or that it is dropped.
def armingLog (s : Scheduler HeadEvent σ ω) (e : HeadEvent) (delay : Delay) : List Log.Record :=
  match s.schedule e delay with
  | .error _ => []
  | .ok _ =>
    if s.closed then [note .warning ("Scheduler closed, dropping " ++ eventText e)]
    else [note .debug ("Scheduled " ++ eventText e ++ " in " ++ delay.text ++ "s")]

-- Of closing: how many events are cancelled.
def closingLog (s : Scheduler HeadEvent σ ω) : List Log.Record :=
  if s.pending = 0 then []
  else [note .info ("Cancelled " ++ toString s.pending ++ " pending head event deliveries")]

def failureRecord (e : HeadEvent) : Log.Record :=
  { note .error ("Delivery of " ++ eventText e ++ " failed") with extra := e.fields }

-- Of what happens, apart from what the deliveries write themselves.
def happeningLog : Happening HeadEvent ω → List Log.Record
  | .ended _ _ e true => [failureRecord e]
  | _ => []

end RefWatch.Scheduler
