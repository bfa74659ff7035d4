import RefWatch.Proofs.Lifetime
import RefWatch.Proofs.Turns

namespace RefWatch

-- Microseconds from a point in time to an instant; without an offset there is no telling.
def Timestamp.until? (t : Timestamp) (instant : Int) : Option Int :=
  t.offset.map fun offset => instant - (t.wall - offset)

theorem Timestamp.until?_assumeUtc (t : Timestamp) (instant : Int) :
    t.assumeUtc.until? instant = some (instant - t.instant) := rfl

namespace Delivery

open List Metrics

-- The listener, and how it answers at each place of the registry.
variable {l : Listener} {a : Nat → Listener}

variable {e : HeadEvent} {s : Source} {ss : List Source}

-- What the listener is told in a step, and what it makes of it.
def Step.exchange? : Step → Option (Occasion × Response)
  | navigator n r => some (.navigator n, r)
  | source s heads r => some (.source s heads, r)
  | _ => none

-- Something to tell, and the place of whom it is for.
abbrev Offer := Occasion × Nat

def answer (a : Nat → Listener) (e : HeadEvent) (o : Offer) : Response := (a o.2).respond e o.1

-- What there is to tell of a source.
def offer? (e : HeadEvent) (s : Source) : Option Occasion :=
  match e.isFor (.source s), e.heads s with
  | .ok true, .ok (r :: rs) => some (.source s (r :: rs))
  | _, _ => none

def navigatorOffers (e : HeadEvent) (ns : List (Navigator × Nat)) : List Offer :=
  (ns.filter (·.1.watches e.repository)).map fun n => (.navigator n.1, n.2)

def sourceOffers (e : HeadEvent) (ss : List (Source × Nat)) : List Offer :=
  ss.filterMap fun s => (offer? e s.1).map (·, s.2)

-- What there is to tell on the way past all navigators and some sources.
def offers (e : HeadEvent) (ns : List Navigator) (ss : List Source) : List Offer :=
  navigatorOffers e ns.zipIdx ++ sourceOffers e ss.zipIdx

-- How many are told something without a failure.
def reach (a : Nat → Listener) (e : HeadEvent) (os : List Offer) : Nat :=
  os.countP fun o => !(answer a e o).failed

def unresolvedRecord (e : HeadEvent) (s : Source) (f : Resolution.Failure) : Log.Record :=
  note .error
    ("Failed to resolve heads of " ++ e.description ++ " for " ++ s.fullName ++ ": " ++ f.message)

def headlessRecord (e : HeadEvent) (s : Source) : Log.Record :=
  note .debug ("No heads of " ++ e.description ++ " for " ++ s.fullName)

def unmatchedRecord (e : HeadEvent) : Log.Record :=
  note .debug (e.description ++ " matched no configuration")

def answerLog (l : Listener) (a : Nat → Listener) (e : HeadEvent) (o : Offer) : List Log.Record :=
  responseLog l e (answer a e o)

-- What a source leaves in the log that a delivery comes past.
def sourceLog (l : Listener) (a : Nat → Listener) (e : HeadEvent) (s : Source × Nat) :
    List Log.Record :=
  match e.isFor (.source s.1), e.heads s.1 with
  | .ok true, .error f => e.resolutionLog s.1 ++ [unresolvedRecord e s.1 f]
  | .ok true, .ok [] => e.resolutionLog s.1 ++ [headlessRecord e s.1]
  | .ok true, .ok heads => e.resolutionLog s.1 ++ answerLog l a e (.source s.1 heads, s.2)
  | _, _ => []

-- What a delivery writes to the log at its end, by how many it has told something.
def ending (e : HeadEvent) : Nat → List Log.Record
  | 0 => [unmatchedRecord e]
  | _ + 1 => []

def exchanges (a : Nat → Listener) (e : HeadEvent) (os : List Offer) : List (Occasion × Response) :=
  os.map fun o => (o.1, answer a e o)

theorem exchanges_append (os ps : List Offer) :
    exchanges a e (os ++ ps) = exchanges a e os ++ exchanges a e ps :=
  map_append

theorem delivered_eq (os : List Step) :
    delivered os = (os.filterMap Step.exchange?).countP (!·.2.failed) := by
  have told (o : Step) : o.delivers = o.exchange?.any (!·.2.failed) := by cases o <;> rfl
  induction os
  case nil => rfl
  case cons o os hi =>
    rw [delivered] at hi ⊢
    rw [countP_cons, filterMap_cons, hi, told]
    cases o.exchange?
    case none => rfl
    case some x => rw [countP_cons]; rfl

theorem notes_eq (os : List Step) :
    os.flatMap Step.notes = (os.filterMap Step.exchange?).flatMap (·.2.notes) := by
  have told (o : Step) : o.notes = (o.exchange?.map (·.2.notes)).getD [] := by cases o <;> rfl
  induction os
  case nil => rfl
  case cons o os hi =>
    rw [flatMap_cons, filterMap_cons, hi, told]
    cases o.exchange?
    case none => rfl
    case some x => rw [flatMap_cons]; rfl

theorem lag_countAll {os : List Step} (later : ∀ o ∈ os, o.begins = false) (m : Metrics) :
    (countAll l e m os).lag = m.lag := by
  induction os generalizing m
  case nil => rfl
  case cons o os hi =>
    have ⟨first, others⟩ := forall_mem_cons.mp later
    have same : (count l e m o).lag = m.lag := by
      rw [count_eq, lag_foldl_tally]
      cases o
      case began => cases first
      all_goals rfl
    exact (hi others _).trans same

theorem log_append (os ps : List Step) : log l e (os ++ ps) = log l e os ++ log l e ps :=
  flatMap_append

-- What a delivery does on a stretch of its way: whom it tells something, and what that leaves in the log.
structure Passes (l : Listener) (a : Nat → Listener) (e : HeadEvent) (os : List Step)
    (offered : List Offer) (written : List Log.Record) : Prop where
  inner    : ∀ o ∈ os, o.Inner
  through  : os.any Step.isStop = false
  exchange : os.filterMap Step.exchange? = exchanges a e offered
  log      : log l e os = written

theorem passes_nil : Passes l a e [] [] [] := ⟨forall_mem_nil _, rfl, rfl, rfl⟩

theorem Passes.append {os ps : List Step} {offered more : List Offer} {written further : List Log.Record}
    (h : Passes l a e os offered written) (k : Passes l a e ps more further) :
    Passes l a e (os ++ ps) (offered ++ more) (written ++ further) where
  inner := forall_mem_append.mpr ⟨h.inner, k.inner⟩
  through := by rw [any_append, h.through, k.through]; rfl
  exchange := by rw [filterMap_append, h.exchange, k.exchange, exchanges_append]
  log := by rw [log_append, h.log, k.log]

theorem passes_navigator (n : Navigator × Nat) :
    Passes l a e (navigatorSteps e (a n.2) [n.1]) (navigatorOffers e [n])
      ((navigatorOffers e [n]).flatMap (answerLog l a e)) := by
  have inner := inner_navigatorSteps (e := e) (a n.2) [n.1]
  cases hw : n.1.watches e.repository
  case false =>
    have none : navigatorSteps e (a n.2) [n.1] = [] := by simp [navigatorSteps, hw]
    have silent : navigatorOffers e [n] = [] := by simp [navigatorOffers, hw]
    rw [none, silent]
    exact passes_nil
  case true =>
    have one : navigatorSteps e (a n.2) [n.1] =
        [.navigator n.1 ((a n.2).respond e (.navigator n.1))] := by simp [navigatorSteps, hw]
    have told : navigatorOffers e [n] = [(.navigator n.1, n.2)] := by simp [navigatorOffers, hw]
    rw [one] at inner ⊢
    rw [told]
    exact ⟨inner, rfl, rfl, rfl⟩

theorem passes_navigators (ns : List Navigator) (i : Nat) :
    Passes l a e (navigatorStepsBy e a i ns) (navigatorOffers e (ns.zipIdx i))
      ((navigatorOffers e (ns.zipIdx i)).flatMap (answerLog l a e)) := by
  induction ns generalizing i
  case nil => exact passes_nil
  case cons n ns hi =>
    have split : navigatorOffers e ((n :: ns).zipIdx i) =
        navigatorOffers e [(n, i)] ++ navigatorOffers e (ns.zipIdx (i + 1)) := by
      simp only [navigatorOffers, ← map_append, ← filter_append]
      rfl
    rw [split, flatMap_append]
    exact (passes_navigator (n, i)).append (hi (i + 1))

theorem stops_eq_false_iff : stops e s = false ↔ ∃ b, e.isFor (.source s) = .ok b := by
  unfold stops
  cases e.isFor (.source s) <;> simp

-- All that there can be of a source that does not stop the delivery.
theorem passes_source (passing : stops e s = false) (i : Nat) :
    Passes l a e (sourceSteps e (a i) [s]) (sourceOffers e [(s, i)]) (sourceLog l a e (s, i)) := by
  have inner := inner_sourceSteps (e := e) (a i) [s]
  obtain ⟨b, hb⟩ := stops_eq_false_iff.mp passing
  cases b
  case false =>
    have none : sourceSteps e (a i) [s] = [] := by simp [sourceSteps, hb]
    have silent : sourceOffers e [(s, i)] = [] := by simp [sourceOffers, offer?, hb]
    have quiet : sourceLog l a e (s, i) = [] := by simp [sourceLog, hb]
    rw [none, silent, quiet]
    exact passes_nil
  case true =>
    have one : sourceSteps e (a i) [s] = [sourceStep e (a i) s] := by simp [sourceSteps, hb]
    rw [one] at inner ⊢
    cases hh : e.heads s
    case error f =>
      have step : sourceStep e (a i) s = .unresolved s f := by simp [sourceStep, hh]
      have silent : sourceOffers e [(s, i)] = [] := by simp [sourceOffers, offer?, hb, hh]
      rw [step] at inner ⊢
      rw [silent]
      exact ⟨inner, rfl, rfl, by simp [sourceLog, hb, hh, log, stepLog, unresolvedRecord]⟩
    case ok heads =>
      cases heads
      case nil =>
        have step : sourceStep e (a i) s = .headless s := by simp [sourceStep, hh]
        have silent : sourceOffers e [(s, i)] = [] := by simp [sourceOffers, offer?, hb, hh]
        rw [step] at inner ⊢
        rw [silent]
        exact ⟨inner, rfl, rfl, by simp [sourceLog, hb, hh, log, stepLog, headlessRecord]⟩
      case cons r rs =>
        have step : sourceStep e (a i) s =
            .source s (r :: rs) ((a i).respond e (.source s (r :: rs))) := by simp [sourceStep, hh]
        have told : sourceOffers e [(s, i)] = [(.source s (r :: rs), i)] := by
          simp [sourceOffers, offer?, hb, hh]
        rw [step] at inner ⊢
        rw [told]
        exact ⟨inner, rfl, rfl, by simp [sourceLog, hb, hh, log, stepLog, answerLog, answer]⟩

theorem sourceStepsBy_append {xs ys : List Source} (passing : ∀ x ∈ xs, stops e x = false) (i : Nat) :
    sourceStepsBy e a i (xs ++ ys) = sourceStepsBy e a i xs ++ sourceStepsBy e a (i + xs.length) ys := by
  induction xs generalizing i
  case nil => rfl
  case cons x xs hi =>
    have ⟨first, others⟩ := forall_mem_cons.mp passing
    have place : i + 1 + xs.length = i + (x :: xs).length := by rw [length_cons]; omega
    rw [cons_append, sourceStepsBy, sourceStepsBy, first, if_neg Bool.false_ne_true,
      if_neg Bool.false_ne_true, hi others, place, append_assoc]

-- Along the way, as long as no source stops the delivery.
theorem passes_sources (passing : ∀ s ∈ ss, stops e s = false) (i : Nat) :
    Passes l a e (sourceStepsBy e a i ss) (sourceOffers e (ss.zipIdx i))
      ((ss.zipIdx i).flatMap (sourceLog l a e)) := by
  induction ss generalizing i
  case nil => exact passes_nil
  case cons s ss hi =>
    have ⟨first, others⟩ := forall_mem_cons.mp passing
    have split : sourceOffers e ((s :: ss).zipIdx i) =
        sourceOffers e [(s, i)] ++ sourceOffers e (ss.zipIdx (i + 1)) := by
      simp only [sourceOffers, ← filterMap_append]
      rfl
    rw [sourceStepsBy, first, if_neg Bool.false_ne_true, split, zipIdx_cons, flatMap_cons]
    exact (passes_source first i).append (hi others (i + 1))

variable {now : Int} {r : Registry}

theorem stepsBy_eq :
    stepsBy a now e r = .began (waited e.received.instant now) ::
      (navigatorStepsBy e a 0 r.navigators ++ (sourceStepsBy e a 0 r.sources ++
        (conclusion (navigatorStepsBy e a 0 r.navigators ++
          sourceStepsBy e a 0 r.sources)).output r)) := by
  simp only [stepsBy, workBy, Work.output, Work.output_tellAll]

theorem passes_offers (passing : ∀ s ∈ ss, stops e s = false) (ns : List Navigator) :
    Passes l a e (navigatorStepsBy e a 0 ns ++ sourceStepsBy e a 0 ss) (offers e ns ss)
      ((navigatorOffers e ns.zipIdx).flatMap (answerLog l a e) ++
        ss.zipIdx.flatMap (sourceLog l a e)) :=
  (passes_navigators ns 0).append (passes_sources passing 0)

theorem log_finished (n : Nat) : log l e [.finished n] = ending e n := by cases n <;> rfl

-- A delivery that gets past all sources.
theorem stepsBy_of_passing (passing : ∀ s ∈ r.sources, stops e s = false) :
    stepsBy a now e r = .began (waited e.received.instant now) ::
      (navigatorStepsBy e a 0 r.navigators ++ sourceStepsBy e a 0 r.sources ++
        [.finished (reach a e (offers e r.navigators r.sources))]) := by
  have passed := passes_offers (l := a 0) (a := a) passing r.navigators
  have all : delivered (navigatorStepsBy e a 0 r.navigators ++ sourceStepsBy e a 0 r.sources) =
      reach a e (offers e r.navigators r.sources) := by
    rw [delivered_eq, passed.exchange, exchanges, countP_map]
    rfl
  rw [stepsBy_eq, conclusion, passed.through, all, append_assoc]
  rfl

-- A delivery that a source stops.
theorem stepsBy_of_stop {xs ys : List Source} {f : Url.Fault} (here : r.sources = xs ++ s :: ys)
    (passing : ∀ x ∈ xs, stops e x = false) (fault : e.isFor (.source s) = .error f) :
    stepsBy a now e r = .began (waited e.received.instant now) ::
      (navigatorStepsBy e a 0 r.navigators ++ sourceStepsBy e a 0 xs ++ [.stopped f]) := by
  have last : sourceStepsBy e a (0 + xs.length) (s :: ys) = [.stopped f] := by
    simp [sourceStepsBy, sourceSteps, stops, fault]
  rw [stepsBy_eq, here, sourceStepsBy_append passing, last, conclusion]
  simp [Step.isStop, Work.output]

variable {d : Dispatcher}

-- What a delivery does that gets past some sources: whom it tells something, what is noted down, and
-- what it writes to the log, at its end too.
structure Walked (d : Dispatcher) (a : Nat → Listener) (e : HeadEvent) (ss : List Source)
    (closing : List Log.Record) : Prop where
  told  : (stepsBy a d.now e d.registry).filterMap Step.exchange? =
    exchanges a e (offers e d.registry.navigators ss)
  notes : (d.deliverBy a e).2.2.notes =
    (offers e d.registry.navigators ss).flatMap fun o => (answer a e o).notes
  log   : (d.deliverBy a e).2.2.log =
    (navigatorOffers e d.registry.navigators.zipIdx).flatMap (answerLog d.listener a e) ++
      ss.zipIdx.flatMap (sourceLog d.listener a e) ++ closing

theorem walked_of_passes {ss : List Source} {os ps : List Step} {n : Nat} {closing : List Log.Record}
    (whole : stepsBy a d.now e d.registry = .began n :: (os ++ ps))
    (passed : Passes d.listener a e os (offers e d.registry.navigators ss)
      ((navigatorOffers e d.registry.navigators.zipIdx).flatMap (answerLog d.listener a e) ++
        ss.zipIdx.flatMap (sourceLog d.listener a e)))
    (quiet : ps.filterMap Step.exchange? = []) (closes : log d.listener e ps = closing) :
    Walked d a e ss closing := by
  have told : (stepsBy a d.now e d.registry).filterMap Step.exchange? =
      exchanges a e (offers e d.registry.navigators ss) := by
    rw [whole, filterMap_cons_none rfl, filterMap_append, quiet, append_nil, passed.exchange]
  refine ⟨told, ?notes, ?log⟩
  case notes =>
    change (stepsBy a d.now e d.registry).flatMap Step.notes = _
    rw [notes_eq, told, exchanges, flatMap_map]
  case log =>
    change log d.listener e (stepsBy a d.now e d.registry) = _
    rw [whole]
    change log d.listener e (os ++ ps) = _
    rw [log_append, passed.log, closes]

theorem result_of_passes {os ps : List Step} {n : Nat} {offered : List Offer}
    {written : List Log.Record} (whole : stepsBy a d.now e d.registry = .began n :: (os ++ ps))
    (passed : Passes l a e os offered written) : (d.deliverBy a e).2.1 = result ps := by
  change result (stepsBy a d.now e d.registry) = _
  rw [whole]
  exact result_append passed.inner passed.through ps

-- A resolution writes nothing but notes.
theorem exists_note_of_mem_resolutionLog {r : Log.Record} (h : r ∈ e.resolutionLog s) :
    ∃ message, r = Resolution.note message := by
  have created (ref : String) (x : Except Resolution.Refusal Report) :
      ∀ r ∈ Resolution.createLog ref x, ∃ message, r = Resolution.note message := by
    unfold Resolution.createLog
    split <;> simp [Resolution.note]
  have screened (x : Resolution.Refusal) :
      ∀ r ∈ Resolution.screenLog x, ∃ message, r = Resolution.note message := by
    unfold Resolution.screenLog
    split <;> simp [Resolution.note]
  unfold HeadEvent.resolutionLog Resolution.log at h
  rcases mem_append.mp h with h | h
  case inl =>
    split at h
    case h_1 => exact created _ _ r h
    case h_2 => cases h
  case inr =>
    split at h
    case h_1 | h_2 => exact ⟨_, mem_singleton.mp h⟩
    case h_3 x _ _ _ => exact screened x r h
    case h_4 => cases h

theorem isDebug_of_mem_resolutionLog {r : Log.Record} (h : r ∈ e.resolutionLog s) :
    r.level = .debug := by
  obtain ⟨message, rfl⟩ := exists_note_of_mem_resolutionLog h
  rfl

theorem offer?_eq_some_iff {o : Occasion} :
    offer? e s = some o ↔ e.isFor (.source s) = .ok true ∧
      ∃ heads, e.heads s = .ok heads ∧ heads ≠ [] ∧ o = .source s heads := by
  unfold offer?
  match e.isFor (.source s), e.heads s with
  | .error f, _ => simp
  | .ok false, _ => simp
  | .ok true, .error f => simp
  | .ok true, .ok [] => simp
  | .ok true, .ok (r :: rs) => simp [eq_comm]

theorem filterFailed_of_heads {f : Resolution.Failure} (watched : e.isFor (.source s) = .ok true)
    (fails : e.heads s = .error f) : ∃ g, f = .filterFailed g := by
  obtain ⟨g, rfl, address⟩ | ⟨g, -, rfl, -⟩ :=
    Resolution.resolve_fails_iff.mp (Resolution.heads_eq_error_iff.mp fails)
  case inl =>
    have stopped : e.isFor (.source s) = .error g := Resolution.watches_eq_error_iff.mpr address
    cases watched.symm.trans stopped
  case inr => exact ⟨g, rfl⟩

theorem errors_sourceLog {f : Resolution.Failure} (watched : e.isFor (.source s) = .ok true)
    (fails : e.heads s = .error f) (i : Nat) :
    (sourceLog l a e (s, i)).filter (·.level = .error) = [unresolvedRecord e s f] := by
  have none : (e.resolutionLog s).filter (·.level = .error) = [] :=
    filter_eq_nil_iff.mpr fun r hr => by simp [isDebug_of_mem_resolutionLog hr]
  have log : sourceLog l a e (s, i) = e.resolutionLog s ++ [unresolvedRecord e s f] := by
    simp [sourceLog, watched, fails]
  rw [log, filter_append, none]
  rfl

-- A delivery finds out once how long its event has waited.
theorem lag_deliverBy (d : Dispatcher) (a : Nat → Listener) (e : HeadEvent) :
    (d.deliverBy a e).1.metrics.lag =
      (d.metrics.wait e.kind (waited e.received.instant d.now)).lag := by
  have ended (os : List Step) : ∀ o ∈ (conclusion os).output d.registry, o.Later := by
    unfold conclusion
    split
    case isTrue => exact forall_mem_nil _
    case isFalse => exact forall_mem_singleton.mpr (.inr ⟨_, rfl⟩)
  have later : ∀ o ∈ navigatorStepsBy e a 0 d.registry.navigators ++
      (sourceStepsBy e a 0 d.registry.sources ++
        (conclusion (navigatorStepsBy e a 0 d.registry.navigators ++
          sourceStepsBy e a 0 d.registry.sources)).output d.registry), o.Later :=
    forall_mem_append.mpr ⟨fun o ho => .inl (inner_navigatorStepsBy a 0 _ o ho),
      forall_mem_append.mpr ⟨fun o ho => .inl (inner_sourceStepsBy a 0 _ o ho), ended _⟩⟩
  change (countAll d.listener e d.metrics (stepsBy a d.now e d.registry)).lag = _
  rw [stepsBy_eq]
  exact lag_countAll (fun o ho => (later o ho).begins) _

-- The course of a delivery of the event of a notification.
structure Course (d : Dispatcher) (n : Notification) (e : HeadEvent) (a : Nat → Listener) : Prop where
  offered    : ∀ s o, offer? e s = some o ↔
    e.isFor (.source s) = .ok true ∧ ∃ heads, e.heads s = .ok heads ∧ heads ≠ [] ∧ o = .source s heads
  completed  : (∀ s ∈ d.registry.sources, ∃ b, e.isFor (.source s) = .ok b) →
    ∃ told, told = reach a e (offers e d.registry.navigators d.registry.sources) ∧
      Walked d a e d.registry.sources (ending e told) ∧ (d.deliverBy a e).2.1 = .ok told
  stopped    : ∀ xs s ys f, d.registry.sources = xs ++ s :: ys →
    (∀ x ∈ xs, ∃ b, e.isFor (.source x) = .ok b) → e.isFor (.source s) = .error f →
      Walked d a e xs [] ∧ (d.deliverBy a e).2.1 = .error f
  unresolved : ∀ s f i, e.isFor (.source s) = .ok true → e.heads s = .error f →
    (∃ g, f = .filterFailed g) ∧
      (sourceLog d.listener a e (s, i)).filter (·.level = .error) = [unresolvedRecord e s f]
  failed     : ∀ o text, (answer a e o).error = some text →
    answerLog d.listener a e o = (answer a e o).log ++ [listenerFailure d.listener e text]
  waited     : e.received.until? d.now = some (d.now - n.received.instant)
  lag        : observeLag d.metrics.lag e.kind.name
      (.decimal false (max 0 (d.now - n.received.instant)).toNat (-6)) =
    ((d.deliverBy a e).1.metrics.lag, none)
  held       : d.deliverBy (fun _ => d.listener) e = d.deliver e

-- The event of a notification is delivered place by place, whatever is registered and however the
-- listener answers, up to a source whose host cannot be compared.
theorem deliver_course {d₀ d : Dispatcher} {n : Notification} {e : HeadEvent} (a : Nat → Listener)
    (returned : d₀.returned n = some e) : Course d n e a := by
  obtain ⟨made, -⟩ := Dispatch.event?_outcome_eq_some_iff.mp returned
  constructor
  case offered => exact fun s o => offer?_eq_some_iff
  case completed =>
    intro comparable
    have passing : ∀ s ∈ d.registry.sources, stops e s = false :=
      fun s hs => stops_eq_false_iff.mpr (comparable s hs)
    have passed := passes_offers (l := d.listener) (a := a) passing d.registry.navigators
    have whole : stepsBy a d.now e d.registry = _ := stepsBy_of_passing passing
    exact ⟨_, rfl, walked_of_passes whole passed rfl (log_finished _), result_of_passes whole passed⟩
  case stopped =>
    intro xs s ys f here comparable fault
    have passing : ∀ x ∈ xs, stops e x = false :=
      fun x hx => stops_eq_false_iff.mpr (comparable x hx)
    have passed := passes_offers (l := d.listener) (a := a) passing d.registry.navigators
    have whole : stepsBy a d.now e d.registry = _ := stepsBy_of_stop here passing fault
    exact ⟨walked_of_passes whole passed rfl rfl, result_of_passes whole passed⟩
  case unresolved =>
    exact fun s f i watched fails =>
      ⟨filterFailed_of_heads watched fails, errors_sourceLog watched fails i⟩
  case failed =>
    intro o text fails
    rw [answerLog, responseLog, fails]
    rfl
  case waited => rw [made.received, Timestamp.until?_assumeUtc]
  case lag =>
    have span : waited e.received.instant d.now = (max 0 (d.now - n.received.instant)).toNat := by
      rw [made.received, Timestamp.instant_assumeUtc, waited]
      omega
    rw [lag_deliverBy, span]
    rfl
  case held => exact d.deliverBy_const e

-- A listener that fails for navigators, and a source whose prefilter fails, keep a push from nobody; an
-- open bracket keeps it from the last source.
theorem deliver_course_openBracket :
    let widgets : Source := { owner := "acme", repository := "widgets" }
    let listener : Listener := .single (.failing true false "down")
    let d : Dispatcher :=
      { listener
        registry :=
          { navigators := [{ owner := "Acme" }, { owner := "umbrella" }]
            sources := [{ widgets with prefilters := [.failing "broken"] }, widgets,
              { widgets with api := some "http://[" }, widgets] } }
    ∃ e, d.returned Life.push = some e ∧
      (stepsBy (fun _ => listener) d.now e d.registry).length = 5 ∧
      (told (stepsBy (fun _ => listener) d.now e d.registry)).length = 2 ∧
      Course d Life.push e fun _ => listener := by
  intro widgets listener d
  have told : (d.returned Life.push).any (fun e =>
      (stepsBy (fun _ => listener) d.now e d.registry).length = 5 &&
        (told (stepsBy (fun _ => listener) d.now e d.registry)).length = 2) := by
    decide +kernel
  obtain ⟨e, returned, steps⟩ := (Option.any_eq_true ..).mp told
  have ⟨five, two⟩ := (Bool.and_eq_true ..).mp steps
  exact ⟨e, returned, of_decide_eq_true five, of_decide_eq_true two,
    deliver_course (fun _ => listener) returned⟩

end Delivery

end RefWatch
