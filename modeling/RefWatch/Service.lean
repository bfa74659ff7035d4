import RefWatch.Dispatcher
import RefWatch.Http
import RefWatch.Json.Shown
import RefWatch.Metrics.Exposition
import RefWatch.Settings

namespace RefWatch

structure Service where
  dispatcher : Option Dispatcher := none
  -- The counts of a dispatcher that has been stopped.
  counted : Option Metrics := none

namespace Service

def info (message : String) : Log.Record where
  level := .info
  logger := .service
  message := message

def greeting : Log.Record := info "Head-event service starting up..."

def sourceText (s : SourceSettings) : String :=
  "  Source: " ++ s.owner ++ "/" ++ s.repository ++ " (api: " ++ s.api.getD "None" ++
    ", branches: " ++ (Json.bool s.wantBranches).shown ++ ", tags: " ++
    (Json.bool s.wantTags).shown ++ ")"

def navigatorText (n : NavigatorSettings) : String :=
  "  Navigator: " ++ n.owner ++ " (api: " ++ n.api.getD "None" ++ ")"

def aliasesText (aliases : Aliases) : String :=
  (Json.object (aliases.map fun a => (a.1, .text a.2))).shown

-- The settings as they are told at the start.
def settingsLog (s : Settings) : List Log.Record :=
  [info "Head-event service configuration:",
    info ("  Event Delay Seconds: " ++ toString s.delay),
    info ("  API Host Aliases: " ++ aliasesText s.aliases)] ++
  s.sources.map (info ∘ sourceText) ++ s.navigators.map (info ∘ navigatorText) ++
  [info ("  Log Level: " ++ s.logLevel.name), info ("  Log Format: " ++ s.logFormat.name),
    info ("  Host: " ++ s.host), info ("  Port: " ++ toString s.port),
    info "Head-event service started successfully"]

-- A dispatcher by settings, on a clock that starts at an instant.
def dispatcherOf (s : Settings) (start : Int) : Dispatcher where
  registry := ⟨s.sources.map (·.toSource), s.navigators.map (·.toNavigator)⟩
  listener := .single (.logging none)
  delay := .ofNumber (.whole s.delay)
  aliases := s.aliases
  start := start

def start (s : Settings) (instant : Int) : Service × Effects :=
  ({ dispatcher := some (dispatcherOf s instant) }, { log := settingsLog s })

def stop (v : Service) : Service × Effects :=
  let closing := info "Head-event service shutting down..."
  let closed := info "Head-event service shutdown complete"
  match v.dispatcher with
  | none => (v, { log := [closing, closed] })
  | some d =>
    let (d, es) := d.close
    ({ counted := some d.metrics }, { log := [closing] ++ es.log ++ [closed], notes := es.notes })

def metrics (v : Service) : Option Metrics := (v.dispatcher.map (·.metrics)).or v.counted

def pending (v : Service) : Option Nat := v.dispatcher.map (·.pending)

def advance (n : Nat) (v : Service) : Service × Effects :=
  match v.dispatcher with
  | none => (v, {})
  | some d =>
    let (d, es) := d.advance n
    ({ v with dispatcher := some d }, es)

inductive Acknowledgement
  | accepted (e : HeadEvent)
  | invalid
  | unsupported (header : Option String)
  | unavailable

namespace Acknowledgement

def members : Acknowledgement → Json.Members
  | accepted e =>
    [("status", .text "accepted"), ("kind", .text e.kind.name),
      ("repository", .text e.repository.fullName), ("change_type", .text e.changeType.name)]
  | invalid => [("status", .text "ignored"), ("message", .text "Invalid payload")]
  | unsupported header =>
    [("status", .text "ignored"),
      ("message", .text ("Unsupported event type: " ++ header.getD "None"))]
  | unavailable => [("status", .text "error"), ("message", .text "Dispatcher not initialized")]

end Acknowledgement

def kindHeader : String := "X-GitHub-Event"

def deliveryHeader : String := "X-GitHub-Delivery"

-- Where a request comes from: its client, and the delivery it tells of.
def origin (r : Http.Request) : String :=
  let client := r.client.getD "unknown"
  match r.header? deliveryHeader with
  | none | some "" => client
  | some d => client ++ " (delivery " ++ d ++ ")"

def notificationOf (r : Http.Request) (kind : EventKind) (now : Int) : Notification where
  kind := kind
  origin := origin r
  received := .ofInstant now
  body := r.body

def unavailableRecord : Log.Record :=
  { info "Dispatcher not initialized" with level := .error }

def unsupportedRecord (header : Option String) : Log.Record :=
  { info ("Ignoring unsupported event type " ++ Text.quoted? header) with level := .debug }

-- Takes a posted notification in.
def webhook (v : Service) (r : Http.Request) : Service × Acknowledgement × Effects :=
  match v.dispatcher with
  | none => (v, .unavailable, { log := [unavailableRecord] })
  | some d =>
    let header := r.header? kindHeader
    match header.bind EventKind.ofHeader? with
    | none => (v, .unsupported header, { log := [unsupportedRecord header] })
    | some kind =>
      let (d, o, es) := d.dispatch (notificationOf r kind d.now)
      ({ v with dispatcher := some d }, (o.event?.map .accepted).getD .invalid, es)

-- Answers a request.
def handle (v : Service) (r : Http.Request) : Service × Http.Reply × Effects :=
  match r.page with
  | .error reply => (v, reply, {})
  | .ok .health => (v, ⟨200, .document (.object [("status", .text "healthy")])⟩, {})
  | .ok .metrics => (v, ⟨200, .text (Metrics.collect v.metrics)⟩, {})
  | .ok .manual => (v, ⟨200, .none⟩, {})
  | .ok .webhook =>
    let (v, a, es) := v.webhook r
    (v, ⟨200, .document (.object a.members)⟩, es)

end Service

end RefWatch
