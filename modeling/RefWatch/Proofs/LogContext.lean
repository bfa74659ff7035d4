import RefWatch.Proofs.LogRecords
import RefWatch.Proofs.Members

namespace RefWatch.Log

open List Template

variable {e : HeadEvent} {extra : Json.Members}

namespace Context

-- The names of an event's fields.
def names : List String := ["event_kind", "change_type", "repository", "host", "origin", "timestamp"]

-- All names that there may be in a context.
theorem names_cases (h : Context e extra) :
    extra.map (·.1) ∈ [names, "listener_type" :: "error" :: names, names ++ ["heads"]] := by
  cases h
  case alone => exact mem_cons_self
  case failure => exact mem_cons_of_mem _ mem_cons_self
  case heads => exact mem_cons_of_mem _ (mem_cons_of_mem _ mem_cons_self)

theorem nodup (h : Context e extra) :
    ("event" :: "logger" :: "level" :: extra.map (·.1) ++ ["exception"]).Nodup := by
  have all : ∀ ns ∈ [names, "listener_type" :: "error" :: names, names ++ ["heads"]],
      ("event" :: "logger" :: "level" :: ns ++ ["exception"]).Nodup := by decide +kernel
  exact all _ h.names_cases

theorem nodup_extra (h : Context e extra) : (extra.map (·.1)).Nodup :=
  (nodup_append.mp h.nodup).left.of_cons.of_cons.of_cons

theorem not_own (h : Context e extra) : ∀ m ∈ extra, m.1 ∉ "_logger" :: Draft.ownNames := by
  have all : ∀ ns ∈ [names, "listener_type" :: "error" :: names, names ++ ["heads"]],
      ∀ n ∈ ns, n ∉ "_logger" :: Draft.ownNames := by decide +kernel
  exact fun m hm => all _ h.names_cases m.1 (mem_map_of_mem hm)

theorem timestamp (h : Context e extra) : ("timestamp", .text e.received.text) ∈ extra := by
  have own : ("timestamp", Json.text e.received.text) ∈ e.fields := by simp [HeadEvent.fields]
  cases h
  case alone => exact own
  case failure => exact mem_append_right _ own
  case heads => exact mem_append_left _ own

theorem get?_own (h : Context e extra) (name : String) (own : name ∈ "_logger" :: Draft.ownNames) :
    extra.get? name = none := by
  refine Json.get?_eq_none fun known => ?_
  obtain ⟨m, hm, rfl⟩ := mem_map.mp known
  exact h.not_own m hm own

end Context

-- The time of writing in the place of any other.
def stamped (now : String) (m : String × Json) : String × Json :=
  if m.1 == "timestamp" then ("timestamp", .text now) else m

theorem levelText_eq (level : Level) (logger : String) (template : Json) (values : List Json)
    (traceback : Option String) (h : Context e extra) :
    (Draft.ofParts level logger template values extra traceback).levelText = .ok (Text.lower level.name) := by
  have own := h.get?_own "levelname" (by decide)
  simp only [Draft.levelText, Draft.ofParts, own, Option.getD_none]
  cases level <;> decide +kernel

theorem message_eq {level : Level} {logger template message : String} {values : List Json}
    {traceback : Option String} (h : Context e extra)
    (filled : fill template (Values.ofList values) = .ok message) :
    (Draft.ofParts level logger (.text template) values extra traceback).message = .ok message := by
  have msg := h.get?_own "msg" (by decide)
  have args := h.get?_own "args" (by decide)
  simp only [Draft.message, Draft.ofParts, msg, args, Option.getD_none]
  show (fill template (Values.ofList values)).mapError Flaw.template = _
  rw [filled]
  rfl

-- The parts that stand before the fields of a record.
def recordParts (level : Level) (logger message : String) : Json.Members :=
  [("event", .text message), ("logger", .text logger), ("level", .text (Text.lower level.name))]

-- The part that stands behind them, if the record was made over an error.
def errorPart (traceback : Option String) : Json.Members :=
  (traceback.map fun told => ("exception", Json.text told)).toList

def wholeLine (level : Level) (logger message now : String) (traceback : Option String)
    (extra : Json.Members) : Json.Members :=
  recordParts level logger message ++ extra.map (stamped now) ++ errorPart traceback

theorem map_fst_stamped (now : String) (ms : Json.Members) :
    (ms.map (stamped now)).map (·.1) = ms.map (·.1) := by
  rw [map_map]
  refine map_congr_left fun m _ => ?_
  show (stamped now m).1 = m.1
  rw [stamped]
  split_ifs with stamp
  · exact (beq_iff_eq.mp stamp).symm
  · rfl

theorem nodup_wholeLine (context : Context e extra) (level : Level) (logger message now : String)
    (traceback : Option String) :
    ((wholeLine level logger message now traceback extra).map (·.1)).Nodup := by
  have all := context.nodup
  rw [wholeLine, map_append, map_append, map_fst_stamped]
  cases traceback
  case none =>
    rw [errorPart, Option.map_none, Option.toList_none, map_nil, append_nil]
    exact (nodup_append.mp all).left
  case some => exact all

-- The fields are put behind the parts, and the time of writing in the place of theirs.
theorem put_fields (context : Context e extra) (level : Level) (logger message now : String) :
    Json.put (extra.foldl (fun ms m => Json.put ms m.1 m.2) (recordParts level logger message)) "timestamp"
      (.text now) = recordParts level logger message ++ extra.map (stamped now) := by
  have once : ((recordParts level logger message ++ extra).map (·.1)).Nodup := by
    rw [map_append]
    exact (nodup_append.mp context.nodup).left
  have known : (recordParts level logger message ++ extra).any (·.1 == "timestamp") :=
    any_eq_true.mpr ⟨_, mem_append_right _ context.timestamp, rfl⟩
  rw [Json.foldl_put_of_nodup once, Json.put, if_pos known, map_append]
  rfl

theorem put_error (context : Context e extra) (level : Level) (logger message now error : String) :
    Json.put (recordParts level logger message ++ extra.map (stamped now)) "exception" (.text error) =
      wholeLine level logger message now (some error) extra := by
  have all := nodup_wholeLine context level logger message now (some error)
  rw [wholeLine, map_append] at all
  have fresh : "exception" ∉ (recordParts level logger message ++ extra.map (stamped now)).map (·.1) :=
    fun old => (nodup_append.mp all).2.2 _ old "exception" mem_cons_self rfl
  exact Json.put_of_not_mem fresh _

theorem line_eq (context : Context e extra) {level : Level} {logger template message : String}
    {values : List Json} (filled : fill template (Values.ofList values) = .ok message) (now : String)
    (traceback : Option String) :
    (Draft.ofParts level logger (.text template) values extra traceback).line now =
      .ok (wholeLine level logger message now traceback extra) := by
  let d := Draft.ofParts level logger (.text template) values extra traceback
  have noDocument : d.isDocument = false := by
    have own := context.get?_own "_logger" (by decide)
    simp only [d, Draft.isDocument, Draft.ofParts, own]
    rfl
  have logger' : d.logger = .text logger := by
    have own := context.get?_own "name" (by decide)
    simp only [d, Draft.ofParts, own, Option.getD_none]
  have fields : d.fields.filter (fun m => !Draft.ownNames.contains m.1) = extra :=
    filter_eq_self.mpr fun m hm => by
      simpa using fun own => context.not_own m hm (mem_cons_of_mem _ own)
  show d.line now = _
  rw [Draft.line, noDocument, levelText_eq level logger (.text template) values traceback context,
    message_eq context filled, logger', fields]
  cases traceback
  case none =>
    rw [wholeLine, errorPart, Option.map_none, Option.toList_none, append_nil, ← put_fields context]
    rfl
  case some error =>
    rw [← put_error context, ← put_fields context]
    rfl

-- The line has the message, the level and the logger of the record, the error that it was made over, and all
-- of its fields but perhaps one.
structure Carries (level : Level) (logger message now : String) (traceback : Option String)
    (extra line : Json.Members) : Prop where
  event     : line.get? "event" = some (.text message)
  logger    : line.get? "logger" = some (.text logger)
  level     : line.get? "level" = some (.text (Text.lower level.name))
  kept      : ∀ m ∈ extra, m.1 ≠ "timestamp" → line.get? m.1 = some m.2
  timestamp : line.get? "timestamp" = some (.text now)
  exception : ∀ told ∈ traceback, line.get? "exception" = some (.text told)

theorem carries (context : Context e extra) (level : Level) (logger message now : String)
    (traceback : Option String) :
    Carries level logger message now traceback extra
      (wholeLine level logger message now traceback extra) := by
  have found {name : String} {v : Json} (h : (name, v) ∈ wholeLine level logger message now traceback extra) :=
    Json.get?_of_mem (nodup_wholeLine context level logger message now traceback) h
  have front {m : String × Json} (h : m ∈ recordParts level logger message ++ extra.map (stamped now)) :
      m ∈ wholeLine level logger message now traceback extra := mem_append_left _ h
  exact {
    event := found (front (by simp [recordParts]))
    logger := found (front (by simp [recordParts]))
    level := found (front (by simp [recordParts]))
    kept := fun m hm other =>
      found (front (mem_append_right _ (mem_map.mpr ⟨m, hm, if_neg (by simpa using other)⟩)))
    timestamp := found (front (mem_append_right _ (mem_map.mpr ⟨_, context.timestamp, rfl⟩)))
    exception := fun told h => found (mem_append_right _ (by simp [errorPart, Option.mem_def.mp h])) }

theorem whole_iff (context : Context e extra) {level : Level} {logger message now : String}
    {traceback : Option String} {line : Json.Members}
    (carried : Carries level logger message now traceback extra line) :
    (∀ m ∈ extra, line.get? m.1 = some m.2) ↔ now = e.received.text := by
  constructor
  case mp =>
    intro all
    have own := carried.timestamp.symm.trans (all _ context.timestamp)
    exact Json.text.inj (Option.some.inj own)
  case mpr =>
    rintro rfl m hm
    by_cases stamp : m.1 = "timestamp"
    case pos =>
      have here := Json.get?_of_mem context.nodup_extra hm
      have own := Json.get?_of_mem context.nodup_extra context.timestamp
      rw [stamp, own] at here
      rw [stamp, carried.timestamp, here]
    case neg => exact carried.kept m hm stamp

-- A record about a payload that could not be decoded, or one about an event with a message that can be filled.
def Attributed (r : Record) : Prop :=
  (∃ n faults, r = Notification.undecodable n faults) ∨
    ∃ (e : HeadEvent) (template : String) (values : List Json),
      Context e r.extra ∧ fill template (Values.ofList values) = .ok r.message

theorem attributed_of_known {r : Record} (known : Known r) (fields : r.extra ≠ []) : Attributed r := by
  cases known
  case bare none => exact absurd none fields
  case undecodable n faults => exact .inl ⟨n, faults, rfl⟩
  case event e ps logged =>
    exact .inr ⟨e, Piece.template ps, ps.flatMap Piece.values, logged.context, logged.fill_eq⟩

-- A line keeps all fields of an event but the time, which it keeps only if it is written at that time. And
-- whatever comes in at a service, or is done with a dispatcher, records with fields are of this kind or about
-- undecodable payloads.
theorem line_keeps_context (context : Context e extra) (level : Level) (logger : String)
    {template message : String} {values : List Json}
    (filled : fill template (Values.ofList values) = .ok message) (now : String)
    (traceback : Option String) :
    (∃ line, (Draft.ofParts level logger (.text template) values extra traceback).line now = .ok line ∧
      Carries level logger message now traceback extra line ∧
      ((∀ m ∈ extra, line.get? m.1 = some m.2) ↔ now = e.received.text)) ∧
      (∀ (s : Settings) (instant : Int) (as : List Service.Deed),
        ∀ r ∈ Service.history s instant as, r.extra ≠ [] → Attributed r) ∧
      ∀ (d : Dispatcher) (as : List Dispatcher.Deed), d.Tidy → (∀ l, .listen l ∈ as → l.Tidy) →
        ∀ s ∈ d.sights as, ∀ r ∈ s.effects.log, r.extra ≠ [] → Attributed r := by
  have carried := carries context level logger message now traceback
  refine ⟨⟨_, line_eq context filled now traceback, carried, whole_iff context carried⟩,
    fun s instant as r hr => ?_, fun d as tidy listens s hs r hr => ?_⟩
  case refine_1 => exact attributed_of_known (Service.known_history s instant as r hr)
  case refine_2 => exact attributed_of_known (Dispatcher.known_sights tidy listens s hs r hr)

-- An event as the service makes it of a push.
def pushed : HeadEvent where
  payload :=
    { ref := "refs/heads/main"
      subject :=
        { name := some "widgets", htmlUrl := some "https://github.com/acme/widgets"
          owner := { login := some "acme" } }
      change := .push (some "0123456789abcdef0123456789abcdef01234567") none false false }
  repository := ⟨"github.com", "acme", "widgets"⟩
  origin := "unknown"
  received := { year := 2024, month := 5, day := 1, hour := 12, offset := some 0 }
  aliases := Aliases.standard

def delay : Json := .ofWhole 5

def scheduledValues : List Json := [.text pushed.description, delay]

theorem fill_scheduled : fill "Scheduled %s for delivery in %ss" (Values.ofList scheduledValues) =
    .ok "Scheduled Push event to branch main in repository acme/widgets for delivery in 5s" :=
  (Logged.scheduled (e := pushed) (rfl : Delay.ofJson? delay = _)).fill_eq

theorem line_keeps_context_scheduled :
    let now := "2024-05-01T12:00:00.000250Z"
    let d : Dispatcher :=
      { listener := .fanOut [(0, .single (.logging none)), (1, .single (.failing true true "boom"))] }
    let deeds : List Dispatcher.Deed :=
      [.register (.addNavigator { owner := "acme" }), .dispatch Life.push, .advance 400]
    (∃ line, (Draft.ofParts .info "dispatcher" (.text "Scheduled %s for delivery in %ss") scheduledValues
        pushed.fields).line now = .ok line ∧
      line.get? "event" =
        some (.text "Scheduled Push event to branch main in repository acme/widgets for delivery in 5s") ∧
      line.get? "origin" = some (.text "unknown")) ∧
      d.Tidy ∧ ((d.sights deeds).flatMap (·.effects.log)).countP (!·.extra.isEmpty) = 3 ∧
      ∀ s ∈ d.sights deeds, ∀ r ∈ s.effects.log, r.extra ≠ [] → Attributed r := by
  intro now d deeds
  obtain ⟨⟨line, written, carried, -⟩, -, records⟩ :=
    line_keeps_context (e := pushed) .alone .info "dispatcher" fill_scheduled now none
  have children : ∀ c ∈ [(0, Listener.single (.logging none)), (1, .single (.failing true true "boom"))],
      c.2.Tidy :=
    forall_mem_cons.mpr ⟨Listener.tidy_logging none,
      forall_mem_singleton.mpr (Listener.tidy_of_quiet fun _ _ => rfl)⟩
  have tidy : d.Tidy := ⟨⟨Listener.tidy_fanOut children, forall_mem_nil _⟩, delay, rfl⟩
  have listens (l : Listener) (h : .listen l ∈ deeds) : l.Tidy := by simp [deeds] at h
  have origin := carried.kept ("origin", .text "unknown") (by simp [HeadEvent.fields, pushed]) (by decide)
  exact ⟨⟨line, written, carried.event, origin⟩, tidy, by decide +kernel, records d deeds tidy listens⟩

-- Even if it is written at the very time of the event, a line tells that time in other words.
theorem time_of_event_not_kept :
    let now := "2024-05-01T12:00:00.000000Z"
    Context pushed pushed.fields ∧
      ("timestamp", .text "2024-05-01T12:00:00+00:00") ∈ pushed.fields ∧
      ∃ line, (Draft.ofParts .info "dispatcher" (.text "Scheduled %s for delivery in %ss") scheduledValues
          pushed.fields).line now = .ok line ∧
        line.get? "timestamp" = some (.text now) ∧
        line.get? "timestamp" ≠ some (.text "2024-05-01T12:00:00+00:00") := by
  intro now
  have time : pushed.received.text = "2024-05-01T12:00:00+00:00" := by decide +kernel
  have carried := carries (e := pushed) .alone .info "dispatcher"
    "Scheduled Push event to branch main in repository acme/widgets for delivery in 5s" now none
  have own : ("timestamp", .text "2024-05-01T12:00:00+00:00") ∈ pushed.fields := time ▸ Context.timestamp .alone
  refine ⟨.alone, own, _, line_eq .alone fill_scheduled now none, carried.timestamp, ?_⟩
  rw [carried.timestamp]
  simp [now]

end RefWatch.Log
