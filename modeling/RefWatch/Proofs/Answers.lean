import RefWatch.Proofs.Closing
import RefWatch.Proofs.Lifetime
import RefWatch.Service

namespace RefWatch

open Scheduler (armed starts)

-- Whether a reply says that something has been accepted.
def Http.Reply.accepts (r : Http.Reply) : Bool :=
  match r.content with
  | .document j =>
    match j.get? "status" with
    | some (.text s) => s == "accepted"
    | _ => false
  | _ => false

namespace Service

open Dispatcher (returned)
open Dispatch (Made made_iff)

inductive Input
  | request (r : Http.Request)
  | pass (ticks : Nat)

-- A service, how many of its replies have accepted something, and the deliveries that have been started.
structure Course where
  service : Service
  accepted : Nat := 0
  started : List (Nat × HeadEvent) := []

-- The deliveries that start as the clock moves on.
def starting (v : Service) (n : Nat) : List (Nat × HeadEvent) :=
  match v.dispatcher with
  | none => []
  | some d => starts (d.deliveries.advance d.conduct n).2

-- The deliveries that start while the service is stopped.
def startingLast (v : Service) : List (Nat × HeadEvent) :=
  match v.dispatcher with
  | none => []
  | some d => starts (d.deliveries.close d.conduct).2

namespace Course

def opened (s : Settings) (instant : Int) : Course where
  service := (start s instant).1

def take (c : Course) : Input → Course
  | .request r => { c with
      service := (c.service.handle r).1
      accepted := c.accepted + if (c.service.handle r).2.1.accepts then 1 else 0 }
  | .pass n => { c with
      service := (c.service.advance n).1
      started := c.started ++ c.service.starting n }

def run (c : Course) (is : List Input) : Course := is.foldl take c

def stop (c : Course) : Course :=
  { c with service := c.service.stop.1, started := c.started ++ c.service.startingLast }

end Course

def Posts (r : Http.Request) : Prop := r.method = "POST" ∧ r.path = "/webhooks/github"

def kindOf? (r : Http.Request) : Option EventKind := (r.header? kindHeader).bind EventKind.ofHeader?

-- A request names a kind of event, and tells of one in a repository that has an address.
structure Tells (r : Http.Request) (p : Payload) (host : String) : Prop where
  kind    : kindOf? r = some p.kind
  body    : Payload.decode p.kind r.body = .ok p
  address : Dispatch.hostOf p.subject = some host

def acceptance (p : Payload) : Http.Content :=
  .document (.object [("status", .text "accepted"), ("kind", .text p.kind.name),
    ("repository", .text (p.subject.ownerName.getD "" ++ "/" ++ p.subject.name.getD "")),
    ("change_type", .text p.changeType.name)])

def deliveries (v : Service) : Option Dispatcher.Deliveries := v.dispatcher.map (·.deliveries)

-- What is to be known of the reply of a service that is up, with a dispatcher `d`, to a notification that
-- is posted.
structure Answered (v : Service) (d : Dispatcher) (r : Http.Request) : Prop where
  status      : (v.handle r).2.1.status = 200
  accepted    : (v.handle r).2.1.accepts ↔ (∃ p host, Tells r p host) ∧
    ∃ t, (v.handle r).1.deliveries = some { d.deliveries with timers := d.deliveries.timers ++ [t] }
  report      : ∀ p host, Tells r p host → (v.handle r).2.1.accepts →
    (v.handle r).2.1.content = acceptance p
  -- Nothing but a delay that cannot be armed keeps out what can be told.
  armable     : (∃ p host, Tells r p host) →
    ((v.handle r).2.1.accepts ↔ d.delay.isNegative = false ∧ d.delay.seconds.float?.isSome)
  spared      : (v.handle r).2.1.accepts = false → (v.handle r).1.deliveries = some d.deliveries
  unsupported : kindOf? r = none → (v.handle r).1 = v

variable {v : Service} {d : Dispatcher} {r : Http.Request} {p : Payload} {host : String}

theorem page_of_posts (h : Posts r) : r.page = .ok .webhook := by
  have page : Http.Page.ofPath? "/webhooks/github" = some .webhook := by decide +kernel
  simp [Http.Request.page, h.1, h.2, page, Http.Page.methods]

theorem handle_of_page (h : r.page = .ok .webhook) :
    v.handle r =
      ((v.webhook r).1, ⟨200, .document (.object (v.webhook r).2.1.members)⟩, (v.webhook r).2.2) := by
  rw [handle, h]

theorem accepts_document (status : Nat) (s : String) {ms : Json.Members}
    (fresh : ∀ m ∈ ms, m.1 ≠ "status") :
    (⟨status, .document (.object (("status", .text s) :: ms))⟩ : Http.Reply).accepts =
      (s == "accepted") := by
  have none : ms.reverse.find? (·.1 == "status") = none := by
    simpa [List.find?_eq_none] using fresh
  simp [Http.Reply.accepts, Json.get?, Json.Members.get?, List.find?_append, none]

theorem refuses_document (status : Nat) {s : String} {ms : Json.Members}
    (fresh : ∀ m ∈ ms, m.1 ≠ "status") (other : s ≠ "accepted") :
    (⟨status, .document (.object (("status", .text s) :: ms))⟩ : Http.Reply).accepts = false := by
  rw [accepts_document status s fresh]
  exact beq_false_of_ne other

theorem accepts_members (a : Acknowledgement) :
    (⟨200, .document (.object a.members)⟩ : Http.Reply).accepts ↔ ∃ e, a = .accepted e := by
  cases a
  all_goals
    rw [Acknowledgement.members, accepts_document _ _ (by simp)]
    simp

section

variable (up : v.dispatcher = some d)

include up

theorem webhook_of_none (h : kindOf? r = none) :
    (v.webhook r).1 = v ∧ (v.webhook r).2.1 = .unsupported (r.header? kindHeader) := by
  have h : (r.header? kindHeader).bind EventKind.ofHeader? = none := h
  simp only [webhook, up, h, and_self]

theorem webhook_of_some {k : EventKind} (h : kindOf? r = some k) :
    (v.webhook r).1 = { v with dispatcher := some (d.dispatch (notificationOf r k d.now)).1 } ∧
      (v.webhook r).2.1 =
        ((returned d (notificationOf r k d.now)).map .accepted).getD .invalid := by
  have h : (r.header? kindHeader).bind EventKind.ofHeader? = some k := h
  simp only [webhook, up, h, returned, and_self]

end

-- An event is returned for what a request tells of, and for nothing else.
theorem returned_notificationOf {k : EventKind} (h : kindOf? r = some k) (e : HeadEvent) :
    returned d (notificationOf r k d.now) = some e ↔
      ∃ p host, Tells r p host ∧
        e = Dispatch.eventOf (notificationOf r k d.now) d.aliases p host ∧ ∃ a, d.arm e = .ok a := by
  have outcome : returned d (notificationOf r k d.now) =
      (Dispatch.outcome d.aliases d.arm (notificationOf r k d.now)).event? := rfl
  rw [outcome, Dispatch.event?_outcome_eq_some_iff, made_iff]
  constructor
  case mp =>
    rintro ⟨⟨p, host, body, address, made⟩, armed⟩
    have kind : p.kind = k := Payload.kind_of_decode body
    subst kind
    exact ⟨p, host, ⟨h, body, address⟩, made, armed⟩
  case mpr =>
    rintro ⟨p, host, ⟨kind, body, address⟩, made, armed⟩
    cases h.symm.trans kind
    exact ⟨⟨p, host, body, address, made⟩, armed⟩

theorem arm_eq_ok_iff (opened : d.deliveries.closed = false) (e : HeadEvent) :
    (∃ a, d.arm e = .ok a) ↔ d.delay.isNegative = false ∧ d.delay.seconds.float?.isSome := by
  have taken := Scheduler.isOk_schedule opened e d.delay
  rw [Dispatcher.arm]
  cases h : d.deliveries.schedule e d.delay <;>
    simpa [h, Except.mapError, Except.isOk, Except.toBool] using taken

-- The reply to a notification of a known kind accepts it if its dispatch returns an event, and then
-- reports that event.
theorem handle_of_kind (up : v.dispatcher = some d) (h : r.page = .ok .webhook) {k : EventKind}
    (hk : kindOf? r = some k) :
    let n := notificationOf r k d.now
    (v.handle r).1 = { v with dispatcher := some (d.dispatch n).1 } ∧
      ((v.handle r).2.1.accepts ↔ (returned d n).isSome) ∧
      ∀ e, returned d n = some e →
        (v.handle r).2.1.content = .document (.object (Acknowledgement.accepted e).members) := by
  intro n
  obtain ⟨after, acknowledged⟩ := webhook_of_some up hk
  rw [handle_of_page h, accepts_members, acknowledged]
  refine ⟨after, ?_, ?_⟩
  case refine_1 => cases returned d n <;> simp
  case refine_2 =>
    intro e he
    rw [he]
    rfl

theorem Tells.inj {q : Payload} {host' : String} (h : Tells r p host) (h' : Tells r q host') :
    p = q ∧ host = host' := by
  have kind : p.kind = q.kind := Option.some.inj (h.kind.symm.trans h'.kind)
  have body := h.body
  rw [kind] at body
  cases body.symm.trans h'.body
  exact ⟨rfl, Option.some.inj (h.address.symm.trans h'.address)⟩

theorem content_of_eventOf (n : Notification) (al : Aliases) (p : Payload) (host : String) :
    .document (.object (Acknowledgement.accepted (Dispatch.eventOf n al p host)).members) =
      acceptance p :=
  rfl

theorem deliveries_of_not_returned (opened : d.deliveries.closed = false) {n : Notification}
    (h : returned d n = none) : (d.dispatch n).1.deliveries = d.deliveries := by
  rw [returned] at h
  rw [Dispatcher.deliveries_dispatch opened, Dispatcher.newly, h]
  simp

-- A notification of no known kind is ignored.
theorem handle_of_no_kind (up : v.dispatcher = some d) (h : r.page = .ok .webhook)
    (hk : kindOf? r = none) : (v.handle r).1 = v ∧ (v.handle r).2.1.accepts = false := by
  obtain ⟨same, ignored⟩ := webhook_of_none up hk
  rw [handle_of_page h, ← Bool.not_eq_true, accepts_members, ignored]
  refine ⟨same, ?_⟩
  rintro ⟨e, he⟩
  cases he

theorem answered_of_no_kind (up : v.dispatcher = some d) (h : r.page = .ok .webhook)
    (hk : kindOf? r = none) : Answered v d r := by
  obtain ⟨same, refused⟩ := handle_of_no_kind up h hk
  have silent : ¬∃ p host, Tells r p host := fun ⟨p, host, tells⟩ => by cases hk.symm.trans tells.kind
  exact {
    status := by rw [handle_of_page h]
    accepted := by simp [refused, silent]
    report := by simp [refused]
    armable := fun tells => absurd tells silent
    spared := fun _ => by
      rw [same, deliveries, up]
      rfl
    unsupported := fun _ => same
  }

theorem answered_of_kind (up : v.dispatcher = some d) (opened : d.deliveries.closed = false)
    (h : r.page = .ok .webhook) {k : EventKind} (hk : kindOf? r = some k) : Answered v d r := by
  obtain ⟨after, accepts, reported⟩ := handle_of_kind up h hk
  have told := returned_notificationOf (d := d) hk
  have after : (v.handle r).1.deliveries =
      some (d.dispatch (notificationOf r k d.now)).1.deliveries := by
    rw [after]
    rfl
  have spared (refused : (v.handle r).2.1.accepts = false) :
      (v.handle r).1.deliveries = some d.deliveries := by
    rw [refused, Bool.false_eq_true, false_iff, Option.not_isSome_iff_eq_none] at accepts
    rw [after, deliveries_of_not_returned opened accepts]
  rw [Option.isSome_iff_exists] at accepts
  exact {
    status := by rw [handle_of_page h]
    accepted := by
      constructor
      case mp =>
        intro accepted
        obtain ⟨e, he⟩ := accepts.mp accepted
        obtain ⟨p, host, tells, -⟩ := (told e).mp he
        have timer := (Dispatcher.honest_of_open opened _).armed e he
        exact ⟨⟨p, host, tells⟩, _, after.trans (congrArg some timer)⟩
      case mpr =>
        rintro ⟨-, t, timer⟩
        by_contra refused
        have same := Option.some.inj ((spared (Bool.eq_false_iff.mpr refused)).symm.trans timer)
        have longer := congrArg (·.timers.length) same
        simp at longer
    report := by
      intro p host tells accepted
      obtain ⟨e, he⟩ := accepts.mp accepted
      rw [reported e he]
      obtain ⟨q, host', tells', rfl, -⟩ := (told e).mp he
      obtain ⟨rfl, rfl⟩ := tells.inj tells'
      exact content_of_eventOf ..
    armable := by
      rintro ⟨p, host, tells⟩
      rw [accepts, ← arm_eq_ok_iff opened
        (Dispatch.eventOf (notificationOf r k d.now) d.aliases p host)]
      constructor
      case mp =>
        rintro ⟨e, he⟩
        obtain ⟨q, host', tells', rfl, armed⟩ := (told e).mp he
        obtain ⟨rfl, rfl⟩ := tells.inj tells'
        exact armed
      case mpr => exact fun armed => ⟨_, (told _).mpr ⟨p, host, tells, rfl, armed⟩⟩
    spared
    unsupported := fun none => by cases hk.symm.trans none
  }

theorem answered (up : v.dispatcher = some d) (opened : d.deliveries.closed = false)
    (h : Posts r) : Answered v d r := by
  cases hk : kindOf? r
  case none => exact answered_of_no_kind up (page_of_posts h) hk
  case some k => exact answered_of_kind up opened (page_of_posts h) hk

-- No other page accepts anything.
theorem accepts_of_page_error {reply : Http.Reply} (h : r.page = .error reply) :
    reply.accepts = false := by
  rw [Http.Request.page] at h
  split at h
  case h_1 =>
    split at h
    case isTrue => cases h
    case isFalse =>
      cases h
      rfl
  case h_2 => split at h <;> (cases h; rfl)

theorem handle_of_other_page (h : r.page ≠ .ok .webhook) :
    (v.handle r).1 = v ∧ (v.handle r).2.1.accepts = false := by
  cases hp : r.page
  case error reply =>
    rw [handle, hp]
    exact ⟨rfl, accepts_of_page_error hp⟩
  case ok page =>
    cases page
    case webhook => exact absurd hp h
    case health =>
      rw [handle, hp]
      exact ⟨rfl, refuses_document 200 nofun (by simp)⟩
    all_goals
      rw [handle, hp]
      exact ⟨rfl, rfl⟩

-- A request dispatches one notification, and is accepted if that returns an event, or it changes nothing.
theorem handle_cases (up : v.dispatcher = some d) (r : Http.Request) :
    ((v.handle r).1 = v ∧ (v.handle r).2.1.accepts = false) ∨
      ∃ n, (v.handle r).1 = { v with dispatcher := some (d.dispatch n).1 } ∧
        ((v.handle r).2.1.accepts ↔ (returned d n).isSome) := by
  by_cases h : r.page = .ok .webhook
  case neg => exact .inl (handle_of_other_page h)
  case pos =>
    cases hk : kindOf? r
    case none => exact .inl (handle_of_no_kind up h hk)
    case some k =>
      obtain ⟨after, accepts, -⟩ := handle_of_kind up h hk
      exact .inr ⟨_, after, accepts⟩

-- What is known of the dispatcher of a service that is up.
structure Up (s : Settings) (c : Course) (d : Dispatcher) : Prop where
  service : c.service.dispatcher = some d
  opened  : d.deliveries.closed = false
  ahead   : d.deliveries.Ahead
  asleep  : d.deliveries.Asleep
  delay   : d.delay = .ofNumber (.whole s.delay)
  balance : c.accepted = d.pending + c.started.length

variable {s : Settings} {c : Course}

theorem up_opened (s : Settings) (instant : Int) :
    Up s (.opened s instant) (dispatcherOf s instant) where
  service := rfl
  opened := rfl
  ahead := Scheduler.ahead_empty
  asleep := Scheduler.asleep_empty
  delay := rfl
  balance := rfl

theorem service_take_request (c : Course) (r : Http.Request) :
    (c.take (.request r)).service = (c.service.handle r).1 := rfl

theorem up_handle (h : Up s c d) (r : Http.Request) : ∃ d', Up s (c.take (.request r)) d' := by
  rcases handle_cases h.service r with ⟨same, refused⟩ | ⟨n, after, accepts⟩
  case inl =>
    refine ⟨d, { h with service := ?_, balance := ?_ }⟩
    case refine_1 => rw [service_take_request, same, h.service]
    case refine_2 => simpa [Course.take, refused] using h.balance
  case inr =>
    refine ⟨(d.dispatch n).1, ?_, ?_, ?_, ?_, ?_, ?_⟩
    case refine_1 => rw [service_take_request, after]
    case refine_2 => exact Dispatcher.closed_move d h.opened (.dispatch n)
    case refine_3 => exact Life.ahead_dispatch d h.ahead n
    case refine_4 => rw [Dispatcher.deliveries_dispatch h.opened]; exact h.asleep
    case refine_5 => exact h.delay
    case refine_6 =>
      have armed := Life.pending_dispatch d n
      have late : Life.lateOf d (.dispatch n) = [] := by simp [Life.lateOf, h.opened]
      have balance := h.balance
      rw [late, List.length_nil, Nat.add_zero] at armed
      rw [Course.take, armed]
      cases he : returned d n
      case none =>
        have refused : (c.service.handle r).2.1.accepts = false := by simpa [he] using accepts
        simpa [refused] using balance
      case some e =>
        have accepted : (c.service.handle r).2.1.accepts := by simpa [he] using accepts
        simp only [accepted, if_true, Option.toList_some, List.length_singleton]
        omega

theorem up_pass (h : Up s c d) (n : Nat) : ∃ d', Up s (c.take (.pass n)) d' := by
  have after : (c.take (.pass n)).service.dispatcher = some (d.advance n).1 := by
    rw [Course.take, advance, h.service]
  have starting : c.service.starting n = starts (d.move (.advance n)).2 := by
    rw [Service.starting, h.service]
    rfl
  refine ⟨(d.advance n).1, after, ?_, ?_, ?_, ?_, ?_⟩
  case refine_1 => exact Dispatcher.closed_move d h.opened (.advance n)
  case refine_2 => exact Scheduler.ahead_move h.ahead (.advance d.conduct n)
  case refine_3 => exact Scheduler.asleep_move h.asleep (.advance d.conduct n)
  case refine_4 => exact h.delay
  case refine_5 =>
    have moved : (d.advance n).1.pending + _ = _ := Life.pending_advance d h.ahead n
    have balance := h.balance
    have added : (c.take (.pass n)).started = c.started ++ _ := congrArg (c.started ++ ·) starting
    have same : (c.take (.pass n)).accepted = c.accepted := rfl
    rw [added, same, List.length_append]
    omega

theorem up_take (h : Up s c d) (i : Input) : ∃ d', Up s (c.take i) d' := by
  cases i
  case request r => exact up_handle h r
  case pass n => exact up_pass h n

theorem up_run (h : Up s c d) (is : List Input) : ∃ d', Up s (c.run is) d' := by
  induction is generalizing c d
  case nil => exact ⟨d, h⟩
  case cons i is hi =>
    obtain ⟨d', up⟩ := up_take h i
    exact hi up

def denial : Http.Reply :=
  ⟨200, .document (.object
    [("status", .text "error"), ("message", .text "Dispatcher not initialized")])⟩

section

variable (down : v.dispatcher = none)

include down

theorem handle_of_down (h : r.page = .ok .webhook) :
    (v.handle r).1 = v ∧ (v.handle r).2.1 = denial := by
  have none : v.webhook r = (v, .unavailable, { log := [unavailableRecord] }) := by
    rw [webhook, down]
  rw [handle_of_page h, none]
  exact ⟨rfl, rfl⟩

theorem handle_cases_of_down (r : Http.Request) :
    (v.handle r).1 = v ∧ (v.handle r).2.1.accepts = false := by
  by_cases h : r.page = .ok .webhook
  case neg => exact handle_of_other_page h
  case pos =>
    obtain ⟨same, denied⟩ := handle_of_down down h
    rw [denied]
    exact ⟨same, refuses_document 200 (by simp) (by simp)⟩

theorem advance_of_down (n : Nat) : (v.advance n).1 = v ∧ v.starting n = [] := by
  rw [advance, starting, down]
  exact ⟨rfl, rfl⟩

end

theorem take_of_down (down : c.service.dispatcher = none) (i : Input) : c.take i = c := by
  cases i
  case request r =>
    obtain ⟨same, refused⟩ := handle_cases_of_down down r
    simp [Course.take, same, refused]
  case pass n =>
    obtain ⟨same, none⟩ := advance_of_down down n
    simp [Course.take, same, none]

theorem run_of_down (down : c.service.dispatcher = none) (is : List Input) : c.run is = c := by
  induction is
  case nil => rfl
  case cons i is hi =>
    have first : c.run (i :: is) = (c.take i).run is := rfl
    rw [first, take_of_down down, hi]

-- What is to be known of a service that is up.
structure Serving (s : Settings) (c : Course) (d : Dispatcher) : Prop where
  service : c.service.dispatcher = some d
  answers : ∀ r, Posts r → Answered c.service d r
  -- Seconds that are too many for the clock make every notification invalid.
  armable : ∀ r p host, Posts r → Tells r p host →
    ((c.service.handle r).2.1.accepts ↔ s.delay < Number.wholeLimit)
  balance : c.accepted = d.pending + c.started.length

-- What is to be known of a service that is then stopped, whatever comes in after that.
structure Stopped (c : Course) (d : Dispatcher) : Prop where
  counted : c.stop.service = { counted := some d.close.1.metrics }
  later   : ∀ is, c.stop.run is = { c with service := c.stop.service }
  denied  : ∀ r, Posts r →
    (c.stop.service.handle r).1 = c.stop.service ∧ (c.stop.service.handle r).2.1 = denial
  -- Whatever would be done with the deliveries that the stop has closed.
  quiet   : ∀ ms, (d.close.1.deliveries.run ms).2 = []

theorem armable_whole (n : Nat) :
    ((Delay.ofNumber (.whole n)).isNegative = false ∧
      (Delay.ofNumber (.whole n)).seconds.float?.isSome) ↔ n < Number.wholeLimit := by
  have natural : (Delay.ofNumber (.whole n)).isNegative = false :=
    decide_eq_false (Int.not_lt.mpr (Int.natCast_nonneg n))
  rw [natural, eq_self, true_and]
  simp [Delay.ofNumber, Number.float?]

theorem Up.serving (h : Up s c d) : Serving s c d where
  service := h.service
  answers _ hr := answered h.service h.opened hr
  armable r p host hr tells := by
    rw [(answered h.service h.opened hr).armable ⟨p, host, tells⟩, h.delay, armable_whole]
  balance := h.balance

theorem Up.stopped (h : Up s c d) : Stopped c d := by
  have counted : c.stop.service = { counted := some d.close.1.metrics } := by
    rw [Course.stop, stop, h.service]
  have down : c.stop.service.dispatcher = none := by rw [counted]
  have last : c.service.startingLast = [] := by
    rw [startingLast, h.service]
    exact Scheduler.starts_close d.deliveries
  have started : c.stop.started = c.started := by rw [Course.stop, last, List.append_nil]
  have ended : Scheduler.Over d.close.1.deliveries := Scheduler.over_close h.asleep
  exact {
    counted
    later := fun is => by
      rw [run_of_down down]
      exact congrArg (Course.mk c.stop.service c.accepted) started
    denied := fun r hr => handle_of_down down (page_of_posts hr)
    quiet := fun ms => by
      obtain ⟨n, same⟩ := ended.run ms
      rw [same]
  }

-- Whatever a service has been asked for, and however much time has passed.
theorem posts_answered (s : Settings) (instant : Int) (is : List Input) :
    ∃ d, Serving s ((Course.opened s instant).run is) d ∧
      Stopped ((Course.opened s instant).run is) d := by
  obtain ⟨d, up⟩ := up_run (up_opened s instant) is
  exact ⟨d, up.serving, up.stopped⟩

end Service

end RefWatch
