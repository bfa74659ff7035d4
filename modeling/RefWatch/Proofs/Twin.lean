import RefWatch.Delivery
import RefWatch.Dispatch
import RefWatch.Proofs.Likeness

namespace RefWatch

open List

namespace Log

-- Texts that differ in an origin only.
inductive Texts (o o' : String) : String → String → Prop
  | same (s : String) : Texts o o' s s
  | origin : Texts o o' o o'
  | append {s t u v : String} (left : Texts o o' s t) (right : Texts o o' u v) :
    Texts o o' (s ++ u) (t ++ v)

inductive Fields (o o' : String) : String × Json → String × Json → Prop
  | same (x : String × Json) : Fields o o' x x
  | origin : Fields o o' ("origin", .text o) ("origin", .text o')

structure Record.Like (o o' : String) (r q : Record) : Prop where
  level   : r.level = q.level
  logger  : r.logger = q.logger
  message : Texts o o' r.message q.message
  extra   : Forall₂ (Fields o o') r.extra q.extra

abbrev Records (o o' : String) : List Record → List Record → Prop := Forall₂ (Record.Like o o')

variable {o o' : String}

theorem fields_same (xs : List (String × Json)) : Forall₂ (Fields o o') xs xs :=
  forall₂_same.mpr fun x _ => .same x

theorem records_same (rs : List Record) : Records o o' rs rs :=
  forall₂_same.mpr fun _ _ => ⟨rfl, rfl, .same _, fields_same _⟩

end Log

open Log

namespace HeadEvent

-- The origins of the two are related in some way.
inductive Twin (R : String → String → Prop) : HeadEvent → HeadEvent → Prop
  | mk (e : HeadEvent) (o : String) (related : R e.origin o) : Twin R e { e with origin := o }

-- What is not told of an event by its origin.
structure Agree (e f : HeadEvent) : Prop where
  rest           : f = { e with origin := f.origin }
  isFor          : ∀ s, e.isFor s = f.isFor s
  heads          : ∀ s, e.heads s = f.heads s
  description    : e.description = f.description
  descriptionFor : ∀ s, e.descriptionFor s = f.descriptionFor s
  changeType     : e.changeType = f.changeType
  received       : e.received = f.received

variable {R : String → String → Prop} {e f : HeadEvent}

theorem Twin.agree (h : e.Twin R f) : e.Agree f := by
  cases h
  exact ⟨rfl, fun _ => rfl, fun _ => rfl, rfl, fun _ => rfl, rfl, rfl⟩

theorem fields_like (e : HeadEvent) (o : String) :
    Forall₂ (Fields e.origin o) e.fields { e with origin := o }.fields :=
  .cons (.same _) <| .cons (.same _) <| .cons (.same _) <| .cons (.same _) <| .cons .origin <|
    .cons (.same _) .nil

end HeadEvent

structure Response.Like (o o' : String) (r q : Response) : Prop where
  notes : r.notes = q.notes
  log   : Records o o' r.log q.log
  pause : r.pause = q.pause
  error : r.error = q.error

-- Whatever the origin of an event, the listener answers alike.
def Listener.Discreet (l : Listener) : Prop :=
  ∀ e o oc, Response.Like e.origin o (l.respond e oc) (l.respond { e with origin := o } oc)

namespace Listener

variable {e : HeadEvent} {o : String} {oc : Occasion}

theorem discreet_silent : (single .silent).Discreet := fun _ _ _ => ⟨rfl, .nil, rfl, rfl⟩

theorem discreet_failing (onNavigator onSource : Bool) (text : String) :
    (single (.failing onNavigator onSource text)).Discreet :=
  fun _ _ _ => ⟨rfl, .nil, rfl, rfl⟩

theorem discreet_recorder {note : HeadEvent → Occasion → List Json}
    (unread : ∀ e o oc, note e oc = note { e with origin := o } oc) :
    (single (.recorder note)).Discreet :=
  fun e o oc => ⟨unread e o oc, .nil, rfl, rfl⟩

theorem discreet_logging (logger : Option String) : (single (.logging logger)).Discreet := by
  intro e o oc
  have fields := e.fields_like o
  refine ⟨rfl, .cons ?_ .nil, rfl, rfl⟩
  cases oc
  case navigator n => exact ⟨rfl, rfl, .same _, fields⟩
  case source s heads => exact ⟨rfl, rfl, .same _, rel_append fields (fields_same _)⟩

theorem failureFields_like (name error : String) (e : HeadEvent) (o : String) :
    Forall₂ (Fields e.origin o) (failureFields name error e)
      (failureFields name error { e with origin := o }) :=
  rel_append (fields_same _) (e.fields_like o)

theorem contain_like {r q : Response} (h : r.Like e.origin o q) (child : String) :
    Response.Like e.origin o (contain e oc child r) (contain { e with origin := o } oc child q) := by
  unfold contain
  rw [← h.error]
  split
  case h_1 => exact h
  case h_2 error _ =>
    have failure : (childFailure e oc child error).Like e.origin o
        (childFailure { e with origin := o } oc child error) :=
      ⟨rfl, rfl, .same _, failureFields_like child error e o⟩
    exact ⟨h.notes, rel_append h.log (.cons failure .nil), h.pause, rfl⟩

theorem andThen_like {o o' : String} {r q r' q' : Response} (first : r.Like o o' q)
    (second : r'.Like o o' q') : Response.Like o o' (r.andThen r') (q.andThen q') where
  notes := congrArg₂ (· ++ ·) first.notes second.notes
  log   := rel_append first.log second.log
  pause := congrArg₂ (· + ·) first.pause second.pause
  error := congrArg₂ Option.or first.error second.error

-- A fan-out is as discreet as its children.
theorem discreet_fanOut {cs : List (Nat × Listener)} (children : ∀ c ∈ cs, c.2.Discreet) :
    (fanOut cs).Discreet := by
  intro e o oc
  rw [respond, respond]
  induction cs
  case nil =>
    rw [respondAll, respondAll]
    exact ⟨rfl, .nil, rfl, rfl⟩
  case cons c cs hi =>
    obtain ⟨first, others⟩ := forall_mem_cons.mp children
    rw [respondAll, respondAll, respondChild, respondChild]
    exact andThen_like (contain_like (first e o oc) c.2.name) (hi others)

end Listener

namespace Delivery

inductive Step.Like (o o' : String) : Step → Step → Prop
  | began (waited : Nat) : Like o o' (.began waited) (.began waited)
  | navigator (n : Navigator) {r q : Response} (answer : r.Like o o' q) :
    Like o o' (.navigator n r) (.navigator n q)
  | source (s : Source) (heads : List Report) {r q : Response} (answer : r.Like o o' q) :
    Like o o' (.source s heads r) (.source s heads q)
  | unresolved (s : Source) (f : Resolution.Failure) : Like o o' (.unresolved s f) (.unresolved s f)
  | headless (s : Source) : Like o o' (.headless s) (.headless s)
  | stopped (f : Url.Fault) : Like o o' (.stopped f) (.stopped f)
  | finished (delivered : Nat) : Like o o' (.finished delivered) (.finished delivered)

section

variable {o o' : String} {a b : Step}

theorem Step.Like.pause (h : a.Like o o' b) : a.pause = b.pause := by
  cases h
  case navigator answer | source answer => exact answer.pause
  all_goals rfl

theorem Step.Like.notes (h : a.Like o o' b) : a.notes = b.notes := by
  cases h
  case navigator answer | source answer => exact answer.notes
  all_goals rfl

theorem Step.Like.delivers (h : a.Like o o' b) : a.delivers = b.delivers := by
  cases h
  case navigator answer | source answer =>
    rw [Step.delivers, Step.delivers, Response.failed, Response.failed, answer.error]
  all_goals rfl

theorem Step.Like.isStop (h : a.Like o o' b) : a.isStop = b.isStop := by
  cases h <;> rfl

end

variable {l : Listener} {e : HeadEvent} {o : String}

abbrev Steps (o o' : String) : List Step → List Step → Prop := Forall₂ (Step.Like o o')

theorem navigatorSteps_like (discreet : l.Discreet) (ns : List Navigator) :
    Steps e.origin o (navigatorSteps e l ns) (navigatorSteps { e with origin := o } l ns) := by
  have step (n : Navigator) : Step.Like e.origin o (.navigator n (l.respond e (.navigator n)))
      (.navigator n (l.respond { e with origin := o } (.navigator n))) :=
    .navigator n (discreet e o _)
  refine rel_map (R := Eq) (fun n m same => ?_) (forall₂_same.mpr fun _ _ => rfl)
  exact same ▸ step n

theorem sourceStep_like (discreet : l.Discreet) (s : Source) :
    Step.Like e.origin o (sourceStep e l s) (sourceStep { e with origin := o } l s) := by
  have heads : { e with origin := o }.heads s = e.heads s := rfl
  rw [sourceStep, sourceStep, heads]
  split
  case h_1 f _ => exact .unresolved s f
  case h_2 => exact .headless s
  case h_3 heads _ _ => exact .source s heads (discreet e o _)

theorem sourceSteps_like (discreet : l.Discreet) (ss : List Source) :
    Steps e.origin o (sourceSteps e l ss) (sourceSteps { e with origin := o } l ss) := by
  induction ss
  case nil => exact .nil
  case cons s ss hi =>
    have watches : { e with origin := o }.isFor (.source s) = e.isFor (.source s) := rfl
    rw [sourceSteps, sourceSteps, watches]
    split
    case h_1 f _ => exact .cons (.stopped f) .nil
    case h_2 => exact hi
    case h_3 => exact .cons (sourceStep_like discreet s) hi

theorem any_isStop_like {o o' : String} {as bs : List Step} (h : Steps o o' as bs) :
    as.any Step.isStop = bs.any Step.isStop := by
  induction h
  case nil => rfl
  case cons first _ hi => rw [any_cons, any_cons, first.isStop, hi]

theorem delivered_like {o o' : String} {as bs : List Step} (h : Steps o o' as bs) :
    delivered as = delivered bs := by
  rw [delivered, delivered]
  induction h
  case nil => rfl
  case cons first _ hi => rw [countP_cons, countP_cons, first.delivers, hi]

theorem conclusion_like {o o' : String} {as bs : List Step} (h : Steps o o' as bs) :
    (conclusion as).Like (Step.Like o o') (conclusion bs) := by
  rw [conclusion, conclusion, any_isStop_like h, delivered_like h]
  split
  case isTrue => exact .failed
  case isFalse => exact .tell (.finished _) .ended

theorem work_like (discreet : l.Discreet) (now : Int) (e : HeadEvent) (o : String) :
    (work l now e).Like (Step.Like e.origin o) (work l now { e with origin := o }) := by
  have pause (a b : Step) (h : a.Like e.origin o b) : a.pause = b.pause := h.pause
  refine .tell (.began _) (.look fun r => ?_)
  have navigators := navigatorSteps_like (e := e) (o := o) discreet r.navigators
  refine .tellAll navigators pause (.look fun r' => ?_)
  have sources := sourceSteps_like (e := e) (o := o) discreet r'.sources
  exact .tellAll sources pause (conclusion_like (rel_append navigators sources))

theorem result_like {o o' : String} {as bs : List Step} (h : Steps o o' as bs) :
    result as = result bs := by
  induction h
  case nil => rfl
  case cons first _ hi =>
    cases first
    case stopped | finished => rfl
    all_goals exact hi

theorem notes_like {o o' : String} {as bs : List Step} (h : Steps o o' as bs) :
    as.flatMap Step.notes = bs.flatMap Step.notes := by
  induction h
  case nil => rfl
  case cons first _ hi => rw [flatMap_cons, flatMap_cons, first.notes, hi]

theorem responseLog_like (l : Listener) {r q : Response} (h : r.Like e.origin o q) :
    Records e.origin o (responseLog l e r) (responseLog l { e with origin := o } q) := by
  refine rel_append h.log ?_
  rw [← h.error]
  cases r.error
  case none => exact .nil
  case some error =>
    exact .cons ⟨rfl, rfl, .same _, Listener.failureFields_like l.name error e o⟩ .nil

theorem stepLog_like (l : Listener) {a b : Step} (h : a.Like e.origin o b) :
    Records e.origin o (stepLog l e a) (stepLog l { e with origin := o } b) := by
  cases h
  case navigator answer => exact responseLog_like l answer
  case source answer => exact rel_append (records_same _) (responseLog_like l answer)
  case finished told => cases told <;> exact records_same _
  all_goals exact records_same _

theorem log_like (l : Listener) {as bs : List Step} (h : Steps e.origin o as bs) :
    Records e.origin o (log l e as) (log l { e with origin := o } bs) :=
  rel_flatMap h fun _ _ => stepLog_like l

theorem count_like (l : Listener) {a b : Step} (h : a.Like e.origin o b) (m : Metrics) :
    count l e m a = count l { e with origin := o } m b := by
  have counted (t : Metrics.Target) {r q : Response} (answer : r.Like e.origin o q) (m : Metrics) :
      countResponse l e.kind t r m = countResponse l e.kind t q m := by
    rw [countResponse, countResponse, Response.failed, Response.failed, answer.error]
  cases h
  case navigator answer | source answer => exact counted _ answer _
  all_goals rfl

theorem countAll_like (l : Listener) {as bs : List Step} (h : Steps e.origin o as bs) (m : Metrics) :
    countAll l e m as = countAll l { e with origin := o } m bs := by
  induction h generalizing m
  case nil => rfl
  case cons first _ hi =>
    rw [countAll, countAll, foldl_cons, foldl_cons, count_like l first]
    exact hi _

end Delivery

-- Notifications that differ in their origin only.
inductive Notification.Twin (R : String → String → Prop) : Notification → Notification → Prop
  | mk (n : Notification) (o : String) (related : R n.origin o) : Twin R n { n with origin := o }

namespace Dispatch

variable {σ : Type} {al : Aliases} {n : Notification} {o : String}

inductive Outcome.Like (o o' : String) (S : σ → σ → Prop) : Outcome σ → Outcome σ → Prop
  | undecodable (faults : Nat) : Like o o' S (.undecodable faults) (.undecodable faults)
  | badUrl (url : Option String) : Like o o' S (.badUrl url) (.badUrl url)
  | refused (e : HeadEvent) (origin : e.origin = o) (error : String) :
    Like o o' S (.refused e error) (.refused { e with origin := o' } error)
  | scheduled (e : HeadEvent) (origin : e.origin = o) {a b : σ} (armed : S a b) :
    Like o o' S (.scheduled e a) (.scheduled { e with origin := o' } b)

theorem outcome_like {arm arm' : HeadEvent → Except String σ} {S : σ → σ → Prop}
    (arms : ∀ e, e.origin = n.origin →
      (∃ text, arm e = .error text ∧ arm' { e with origin := o } = .error text) ∨
        ∃ a b, arm e = .ok a ∧ arm' { e with origin := o } = .ok b ∧ S a b) :
    Outcome.Like n.origin o S (outcome al arm n) (outcome al arm' { n with origin := o }) := by
  have payload : { n with origin := o }.payload = n.payload := rfl
  rw [outcome, outcome, payload]
  split
  case h_1 faults _ => exact .undecodable faults
  case h_2 p _ =>
    split
    case h_1 => exact .badUrl _
    case h_2 host _ =>
      have twin : eventOf { n with origin := o } al p host =
          { eventOf n al p host with origin := o } := rfl
      rw [twin]
      obtain ⟨text, refused, refused'⟩ | ⟨a, b, armed, armed', related⟩ := arms (eventOf n al p host) rfl
      case inl =>
        rw [refused, refused']
        exact .refused (eventOf n al p host) rfl text
      case inr =>
        rw [armed, armed']
        exact .scheduled (eventOf n al p host) rfl related

variable {S : σ → σ → Prop} {x y : Outcome σ}

theorem count_like (h : x.Like n.origin o S y) (m : Metrics) :
    count n x m = count { n with origin := o } y m := by
  cases h <;> rfl

theorem event?_like {R : String → String → Prop} (related : R n.origin o) (h : x.Like n.origin o S y) :
    Option.Rel (HeadEvent.Twin R) x.event? y.event? := by
  cases h
  case scheduled e origin _ _ _ => exact .some (.mk e o (origin ▸ related))
  all_goals exact .none

theorem armed?_like {a b : σ} (h : x.Like n.origin o S y) (kept : S a b) :
    S (x.armed?.getD a) (y.armed?.getD b) := by
  cases h
  case scheduled armed => exact armed
  all_goals exact kept

theorem readingLog_like (n : Notification) (o : String) (url : Option String) :
    Records n.origin o (readingLog n url) (readingLog { n with origin := o } url) :=
  .cons ⟨rfl, rfl, .append (.same _) .origin, .nil⟩ (records_same _)

theorem log_like (h : x.Like n.origin o S y) (delay : Delay)
    (arming arming' : HeadEvent → List Log.Record)
    (same : ∀ e, e.origin = n.origin → arming e = arming' { e with origin := o }) :
    Records n.origin o (log n delay arming x) (log { n with origin := o } delay arming' y) := by
  cases h
  case undecodable faults =>
    have text : Texts n.origin o (n.undecodable faults).message
        ({ n with origin := o }.undecodable faults).message :=
      .append (.append (.append (.same _) .origin) (.same _)) (.same _)
    have extra : Forall₂ (Fields n.origin o) (n.undecodable faults).extra
        ({ n with origin := o }.undecodable faults).extra :=
      .cons (.same _) (.cons .origin (.cons (.same _) .nil))
    exact .cons ⟨rfl, rfl, text, extra⟩ .nil
  case badUrl url =>
    have text : Texts n.origin o (badUrlRecord n url).message
        (badUrlRecord { n with origin := o } url).message := .append (.same _) .origin
    exact rel_append (readingLog_like n o url) (.cons ⟨rfl, rfl, text, .nil⟩ .nil)
  case refused e origin error =>
    have text : Texts n.origin o (refusedRecord n error).message
        (refusedRecord { n with origin := o } error).message :=
      .append (.append (.append (.same _) .origin) (.same _)) (.same _)
    have armed : Records n.origin o (arming e) (arming' { e with origin := o }) :=
      same e origin ▸ records_same _
    exact rel_append (rel_append (readingLog_like n o _) armed) (.cons ⟨rfl, rfl, text, .nil⟩ .nil)
  case scheduled e origin a b _ =>
    have armed : Records n.origin o (arming e) (arming' { e with origin := o }) :=
      same e origin ▸ records_same _
    have record : (scheduledRecord e delay).Like n.origin o
        (scheduledRecord { e with origin := o } delay) :=
      ⟨rfl, rfl, .same _, origin ▸ e.fields_like o⟩
    exact rel_append (rel_append (readingLog_like n o _) armed) (.cons record .nil)

end Dispatch

end RefWatch
