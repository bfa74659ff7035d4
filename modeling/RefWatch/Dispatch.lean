import RefWatch.Delay
import RefWatch.HeadEvent
import RefWatch.Metrics
import RefWatch.Notification

namespace RefWatch.Dispatch

-- What has become of a notification; `σ` is what arming leaves behind.
inductive Outcome (σ : Type)
  | undecodable (faults : Nat)
  | badUrl (url : Option String)
  | refused (e : HeadEvent) (error : String)
  | scheduled (e : HeadEvent) (armed : σ)

variable {σ : Type}

-- The host of the repository that a payload is about.
def hostOf (s : Payload.Subject) : Option String := s.webUrl.bind Repository.hostOf?

def repositoryOf (host : String) (s : Payload.Subject) : Repository where
  host := host
  owner := s.ownerName.getD ""
  name := s.name.getD ""

def eventOf (n : Notification) (aliases : Aliases) (p : Payload) (host : String) : HeadEvent where
  payload := p
  repository := repositoryOf host p.subject
  origin := n.origin
  received := n.received.assumeUtc
  aliases := aliases

-- Makes an event of a notification and arms it, by whatever means.
def outcome (aliases : Aliases) (arm : HeadEvent → Except String σ) (n : Notification) : Outcome σ :=
  match n.payload with
  | .error faults => .undecodable faults
  | .ok p =>
    match hostOf p.subject with
    | none => .badUrl p.subject.webUrl
    | some host =>
      match arm (eventOf n aliases p host) with
      | .error text => .refused (eventOf n aliases p host) text
      | .ok armed => .scheduled (eventOf n aliases p host) armed

namespace Outcome

def event? : Outcome σ → Option HeadEvent
  | scheduled e _ => some e
  | _ => none

def armed? : Outcome σ → Option σ
  | scheduled _ a => some a
  | _ => none

def drop? : Outcome σ → Option Metrics.DropReason
  | undecodable _ => some .decode
  | badUrl _ => some .repositoryUrl
  | refused .. => some .error
  | scheduled .. => none

-- An outcome is a drop or an event, never both.
theorem drop?_isSome_iff (o : Outcome σ) : o.drop?.isSome ↔ o.event? = none := by
  cases o <;> simp [drop?, event?]

end Outcome

-- What a dispatch counts.
def count (n : Notification) (o : Outcome σ) (m : Metrics) : Metrics :=
  let m := m.receive n.kind
  match o.event?, o.drop? with
  | some e, _ => m.schedule n.kind e.changeType
  | none, some reason => m.drop n.kind reason
  | none, none => m

def note (level : Log.Level) (message : String) : Log.Record where
  level := level
  logger := .dispatcher
  message := message

-- What reading the repository off a payload writes to the log.
def readingLog (n : Notification) (url : Option String) : List Log.Record :=
  note .debug ("Received " ++ n.kind.name ++ " for " ++ url.getD "None" ++ " from " ++ n.origin) ::
    (url.map Repository.hostLog).getD []

def badUrlRecord (n : Notification) (url : Option String) : Log.Record :=
  note .warning
    ("Malformed repository URL " ++ Text.quoted? url ++ " in " ++ n.kind.name ++ " event from " ++
      n.origin)

def refusedRecord (n : Notification) (error : String) : Log.Record :=
  note .error
    ("Unexpected error dispatching " ++ n.kind.name ++ " event from " ++ n.origin ++ ": " ++ error)

def scheduledRecord (e : HeadEvent) (delay : Delay) : Log.Record :=
  { note .info ("Scheduled " ++ e.description ++ " for delivery in " ++ delay.text ++ "s") with
    extra := e.fields }

-- What a dispatch writes to the log, with what arming an event writes in its place.
def log (n : Notification) (delay : Delay) (arming : HeadEvent → List Log.Record) :
    Outcome σ → List Log.Record
  | .undecodable faults => [n.undecodable faults]
  | .badUrl url => readingLog n url ++ [badUrlRecord n url]
  | .refused e error =>
    readingLog n e.payload.subject.webUrl ++ arming e ++ [refusedRecord n error]
  | .scheduled e _ =>
    readingLog n e.payload.subject.webUrl ++ arming e ++ [scheduledRecord e delay]

end RefWatch.Dispatch
