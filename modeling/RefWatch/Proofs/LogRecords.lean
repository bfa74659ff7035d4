import RefWatch.Proofs.Containment
import RefWatch.Proofs.LogMessage
import RefWatch.Service

namespace RefWatch

open List

namespace Log

-- A record without fields, about a payload that could not be decoded, or about an event.
inductive Known : Record → Prop
  | bare {r : Record} (extra : r.extra = []) : Known r
  | undecodable (n : Notification) (faults : Nat) : Known (n.undecodable faults)
  | event {e : HeadEvent} {r : Record} {ps : List Piece} (logged : Logged e r ps) : Known r

end Log

open Log (Known)

namespace Listener

variable {l : Listener} {e : HeadEvent}

-- A listener that writes known records only.
def Tidy (l : Listener) : Prop := ∀ e o, ∀ r ∈ (l.respond e o).log, Known r

theorem tidy_logging (logger : Option String) : (single (.logging logger)).Tidy := by
  intro e o r hr
  cases mem_singleton.mp hr
  cases o
  case navigator n => exact .event (.navigatorTold _ n)
  case source s heads => exact .event (.sourceTold _ s heads)

theorem tidy_of_quiet {o : Observer} (quiet : ∀ e occasion, (o.respond e occasion).log = []) :
    (single o).Tidy := by
  intro e occasion r hr
  rw [respond, quiet] at hr
  cases hr

theorem known_childFailure (e : HeadEvent) (o : Occasion) (child error : String) :
    Known (childFailure e o child error) := by
  cases o
  case navigator n => exact .event (.navigatorFailed n child error)
  case source s heads => exact .event (.sourceFailed s heads child error)

theorem known_contain {o : Occasion} {child : String} {r : Response} (h : ∀ x ∈ r.log, Known x) :
    ∀ x ∈ (contain e o child r).log, Known x := by
  unfold contain
  split
  case h_1 => exact h
  case h_2 =>
    exact forall_mem_append.mpr ⟨h, forall_mem_singleton.mpr (known_childFailure e o child _)⟩

theorem tidy_fanOut {cs : List (Nat × Listener)} (h : ∀ c ∈ cs, c.2.Tidy) : (fanOut cs).Tidy := by
  intro e o
  rw [respond]
  induction cs
  case nil =>
    rw [respondAll]
    exact forall_mem_nil _
  case cons c cs hi =>
    obtain ⟨first, rest⟩ := forall_mem_cons.mp h
    rw [respondAll]
    refine forall_mem_append.mpr ⟨?_, hi rest⟩
    rw [respondChild]
    exact known_contain (first e o)

end Listener

namespace Delivery

variable {l : Listener} {e : HeadEvent} {step : Step}

theorem known_note (level : Log.Level) (message : String) : Known (note level message) := .bare rfl

theorem known_resolutionLog (e : HeadEvent) (s : Source) : ∀ r ∈ e.resolutionLog s, Known r := by
  intro r hr
  obtain ⟨message, rfl⟩ := exists_note_of_mem_resolutionLog hr
  exact .bare rfl

theorem known_responseLog {r : Response} (h : ∀ x ∈ r.log, Known x) (l : Listener) (e : HeadEvent) :
    ∀ x ∈ responseLog l e r, Known x := by
  refine forall_mem_append.mpr ⟨h, fun x hx => ?_⟩
  obtain ⟨error, -, rfl⟩ := Option.map_eq_some_iff.mp (Option.mem_toList.mp hx)
  exact .event (.listenerFailed l error)

theorem known_stepLog (h : step.AnsweredBy Listener.Tidy e) (l : Listener) :
    ∀ r ∈ stepLog l e step, Known r := by
  have answered {o : Occasion} {r : Response} (told : step.exchange? = some (o, r)) :
      ∀ x ∈ r.log, Known x := by
    obtain ⟨t, tidy, own⟩ := h _ told
    have own : r = t.respond e o := own
    rw [own]
    exact tidy e o
  unfold stepLog
  split
  case h_1 | h_2 | h_3 => exact forall_mem_nil _
  case h_4 => exact known_responseLog (answered rfl) l e
  case h_5 s _ _ =>
    exact forall_mem_append.mpr ⟨known_resolutionLog e s, known_responseLog (answered rfl) l e⟩
  case h_6 s _ | h_7 s =>
    exact forall_mem_append.mpr ⟨known_resolutionLog e s, forall_mem_singleton.mpr (known_note ..)⟩
  case h_8 => exact forall_mem_singleton.mpr (known_note ..)

end Delivery

namespace Dispatcher

open Delivery
open Scheduler (tolds)

variable {d : Dispatcher} {a : Deed} {as : List Deed}

theorem known_happeningLog (x : Happening) : ∀ r ∈ Scheduler.happeningLog x, Known r := by
  unfold Scheduler.happeningLog
  split
  case h_1 => exact forall_mem_singleton.mpr (.event .undelivered)
  case h_2 => exact forall_mem_nil _

theorem known_effects {hs : List Happening} (h : ∀ x ∈ tolds hs, x.2.AnsweredBy Listener.Tidy x.1)
    (d : Dispatcher) {es : Effects} (before : ∀ r ∈ es.log, Known r) :
    ∀ r ∈ (hs.foldl (fun es h => es ++ d.effectsOf h) es).log, Known r := by
  induction hs generalizing es
  case nil => exact before
  case cons x hs hi =>
    rw [foldl_cons]
    cases x
    case told e step =>
      obtain ⟨first, rest⟩ := forall_mem_cons.mp h
      exact hi rest (forall_mem_append.mpr ⟨before, known_stepLog first d.listener⟩)
    case started tick e => exact hi h (forall_mem_append.mpr ⟨before, known_happeningLog (.started tick e)⟩)
    case ended started tick e failed =>
      exact hi h (forall_mem_append.mpr ⟨before, known_happeningLog (.ended started tick e failed)⟩)

theorem known_dispatch {given : Json} (delayed : Delay.ofJson? given = some d.delay) (n : Notification) :
    ∀ r ∈ (d.dispatch n).2.2.log, Known r := by
  have reading (url : Option String) : ∀ r ∈ Dispatch.readingLog n url, Known r := by
    refine forall_mem_cons.mpr ⟨.bare rfl, fun r hr => ?_⟩
    cases url
    case none => cases hr
    case some url =>
      change r ∈ Repository.hostLog url at hr
      unfold Repository.hostLog at hr
      split at hr
      case isTrue => cases hr
      case isFalse => exact mem_singleton.mp hr ▸ .bare rfl
  have arming (e : HeadEvent) : ∀ r ∈ d.deliveries.armingLog e d.delay, Known r := by
    unfold Scheduler.armingLog
    split
    case h_1 => exact forall_mem_nil _
    case h_2 => split <;> exact forall_mem_singleton.mpr (.bare rfl)
  show ∀ r ∈ Dispatch.log n d.delay _ (Dispatch.outcome d.aliases d.arm n), Known r
  cases Dispatch.outcome d.aliases d.arm n
  case undecodable faults => exact forall_mem_singleton.mpr (.undecodable n faults)
  case badUrl url => exact forall_mem_append.mpr ⟨reading url, forall_mem_singleton.mpr (.bare rfl)⟩
  case refused e error =>
    refine forall_mem_append.mpr ⟨forall_mem_append.mpr ⟨reading _, arming e⟩, ?_⟩
    exact forall_mem_singleton.mpr (.bare rfl)
  case scheduled e armed =>
    refine forall_mem_append.mpr ⟨forall_mem_append.mpr ⟨reading _, arming e⟩, ?_⟩
    exact forall_mem_singleton.mpr (.event (.scheduled delayed))

theorem known_deliver (h : d.listener.Tidy) (e : HeadEvent) : ∀ r ∈ (d.deliver e).2.2.log, Known r := by
  intro r hr
  obtain ⟨step, member, hr⟩ := mem_flatMap.mp hr
  have steps : stepsBy (fun _ => d.listener) d.now e d.registry = steps d.listener d.now e d.registry :=
    congrArg (Work.output d.registry) (workBy_const d.listener d.now e)
  have answered := answeredBy_stepsBy (a := fun _ => d.listener) (fun _ => h) d.now e d.registry step
    (steps.symm ▸ member)
  exact known_stepLog answered d.listener r hr

-- A dispatcher with listeners that write known records only, and with a delay that was given to it.
structure Tidy (d : Dispatcher) : Prop where
  served  : d.Served Listener.Tidy
  delayed : ∃ given, Delay.ofJson? given = some d.delay

-- One deed leaves nothing but known records, and a tidy dispatcher.
theorem tidy_deed (h : d.Tidy) (listens : ∀ l, a = .listen l → l.Tidy) :
    (d.deed a).left.Tidy ∧ ∀ r ∈ (d.deed a).effects.log, Known r := by
  obtain ⟨served, given, delayed⟩ := h
  cases a
  case dispatch n =>
    exact ⟨⟨⟨served.listener, (running_dispatch d n).symm ▸ served.running⟩, given, delayed⟩,
      known_dispatch delayed n⟩
  case register c => exact ⟨⟨⟨served.listener, served.running⟩, given, delayed⟩, forall_mem_nil _⟩
  case listen l => exact ⟨⟨⟨listens l rfl, served.running⟩, given, delayed⟩, forall_mem_nil _⟩
  case deliver e =>
    exact ⟨⟨⟨served.listener, served.running⟩, given, delayed⟩, known_deliver served.listener e⟩
  case advance n =>
    have ⟨running, answered⟩ := answered_advance served n
    exact ⟨⟨⟨served.listener, running⟩, given, delayed⟩, known_effects answered d (forall_mem_nil _)⟩
  case close =>
    have ⟨running, answered⟩ := answered_close served
    have closing : ∀ r ∈ d.deliveries.closingLog, Known r := by
      unfold Scheduler.closingLog
      split
      case isTrue => exact forall_mem_nil _
      case isFalse => exact forall_mem_singleton.mpr (.bare rfl)
    exact ⟨⟨⟨served.listener, running⟩, given, delayed⟩,
      forall_mem_append.mpr ⟨closing, known_effects answered d (forall_mem_nil _)⟩⟩

theorem known_sights (h : d.Tidy) (listens : ∀ l, .listen l ∈ as → l.Tidy) :
    ∀ s ∈ d.sights as, ∀ r ∈ s.effects.log, Known r := by
  induction as generalizing d
  case nil => exact forall_mem_nil _
  case cons a as hi =>
    have ⟨left, first⟩ := tidy_deed h fun l eq => listens l (eq ▸ mem_cons_self)
    exact forall_mem_cons.mpr ⟨first, hi left fun l hl => listens l (mem_cons_of_mem a hl)⟩

end Dispatcher

namespace Service

open Dispatcher (tidy_deed)

variable {v : Service} {as : List Deed}

inductive Deed
  | request (r : Http.Request)
  | pass (ticks : Nat)
  | stop

def deed (v : Service) : Deed → Service × Effects
  | .request r => ((v.handle r).1, (v.handle r).2.2)
  | .pass n => v.advance n
  | .stop => v.stop

def written (v : Service) : List Deed → List Log.Record
  | [] => []
  | a :: as => (v.deed a).2.log ++ (v.deed a).1.written as

-- All that is written from the start on.
def history (s : Settings) (instant : Int) (as : List Deed) : List Log.Record :=
  greeting :: (start s instant).2.log ++ (start s instant).1.written as

-- Its dispatcher, if there is one, is tidy.
def Tidy (v : Service) : Prop := ∀ d ∈ v.dispatcher, d.Tidy

theorem known_info (message : String) : Known (info message) := .bare rfl

theorem tidy_start (s : Settings) (instant : Int) :
    (start s instant).1.Tidy ∧ ∀ r ∈ (start s instant).2.log, Known r := by
  constructor
  case left =>
    rintro d ⟨⟩
    exact ⟨⟨Listener.tidy_logging none, forall_mem_nil _⟩, .ofWhole s.delay, rfl⟩
  case right =>
    intro r hr
    have told : ∃ message, r = info message := by
      simp only [start, settingsLog, mem_append, mem_cons, mem_map, not_mem_nil, or_false] at hr
      rcases hr with (((rfl | rfl | rfl) | ⟨_, -, rfl⟩) | ⟨_, -, rfl⟩) | rfl | rfl | rfl | rfl | rfl <;>
        exact ⟨_, rfl⟩
    obtain ⟨message, rfl⟩ := told
    exact known_info message

-- A service whose dispatcher goes on as it does after a deed.
theorem tidy_of_deed {d : Dispatcher} (h : d.Tidy) {a : Dispatcher.Deed} (own : ∀ l, a ≠ .listen l) :
    { v with dispatcher := some (d.deed a).left }.Tidy ∧ ∀ r ∈ (d.deed a).effects.log, Known r := by
  obtain ⟨left, known⟩ := tidy_deed h fun l eq => absurd eq (own l)
  refine ⟨?_, known⟩
  rintro _ ⟨⟩
  exact left

theorem tidy_webhook (h : v.Tidy) (r : Http.Request) :
    (v.webhook r).1.Tidy ∧ ∀ x ∈ (v.webhook r).2.2.log, Known x := by
  unfold webhook
  split
  case h_1 => exact ⟨h, forall_mem_singleton.mpr (.bare rfl)⟩
  case h_2 d up =>
    simp only
    split
    case h_1 => exact ⟨h, forall_mem_singleton.mpr (.bare rfl)⟩
    case h_2 kind _ => exact tidy_of_deed (a := .dispatch (notificationOf r kind d.now)) (h d up) nofun

theorem tidy_handle (h : v.Tidy) (r : Http.Request) :
    (v.handle r).1.Tidy ∧ ∀ x ∈ (v.handle r).2.2.log, Known x := by
  unfold handle
  split
  case h_5 => exact tidy_webhook h r
  all_goals exact ⟨h, forall_mem_nil _⟩

theorem tidy_pass (h : v.Tidy) (n : Nat) : (v.advance n).1.Tidy ∧ ∀ x ∈ (v.advance n).2.log, Known x := by
  unfold advance
  split
  case h_1 => exact ⟨h, forall_mem_nil _⟩
  case h_2 d up => exact tidy_of_deed (a := .advance n) (h d up) nofun

theorem tidy_stop (h : v.Tidy) : v.stop.1.Tidy ∧ ∀ x ∈ v.stop.2.log, Known x := by
  unfold stop
  split
  case h_1 =>
    exact ⟨h, forall_mem_cons.mpr ⟨known_info _, forall_mem_singleton.mpr (known_info _)⟩⟩
  case h_2 d up =>
    obtain ⟨-, closing⟩ := tidy_deed (a := .close) (h d up) nofun
    refine ⟨nofun, ?_⟩
    exact forall_mem_append.mpr ⟨forall_mem_append.mpr ⟨forall_mem_singleton.mpr (known_info _), closing⟩,
      forall_mem_singleton.mpr (known_info _)⟩

theorem known_written (h : v.Tidy) : ∀ r ∈ v.written as, Known r := by
  induction as generalizing v
  case nil => exact forall_mem_nil _
  case cons a as hi =>
    obtain ⟨left, first⟩ : (v.deed a).1.Tidy ∧ ∀ r ∈ (v.deed a).2.log, Known r := by
      cases a
      case request r => exact tidy_handle h r
      case pass n => exact tidy_pass h n
      case stop => exact tidy_stop h
    exact forall_mem_append.mpr ⟨first, hi left⟩

theorem known_history (s : Settings) (instant : Int) (as : List Deed) :
    ∀ r ∈ history s instant as, Known r := by
  obtain ⟨tidy, starting⟩ := tidy_start s instant
  exact forall_mem_append.mpr ⟨forall_mem_cons.mpr ⟨known_info _, starting⟩, known_written tidy⟩

end Service

end RefWatch
