import RefWatch.Proofs.Lifetime
import RefWatch.Proofs.NameForms
import RefWatch.Proofs.Repository
import RefWatch.Proofs.Resolution
import RefWatch.Proofs.Sightings

namespace RefWatch

namespace Delivery

def Step.isSource : Step → Bool
  | source .. => true
  | _ => false

-- What has to be so for a source to be told something, by the registries that the delivery has found.
def Called (e : HeadEvent) (seen : List Registry) : Step → Prop
  | .source s heads _ => (∃ r, seen.head? = some r ∧ s ∈ r.sources) ∧
    e.isFor (.source s) = .ok true ∧ ∃ rep, heads = [rep] ∧ e.resolve s = .ok rep
  | _ => True

variable {e : HeadEvent} {l : Listener}

theorem called_sourceStep {r : Registry} {s : Source} (seen : List Registry) (member : s ∈ r.sources)
    (watched : e.isFor (.source s) = .ok true) : Called e (r :: seen) (sourceStep e l s) := by
  unfold sourceStep
  split
  case h_1 | h_2 => trivial
  case h_3 heads filled hh =>
    refine ⟨⟨r, rfl, member⟩, watched, ?_⟩
    cases heads
    case nil => cases filled rfl
    case cons rep reps =>
      obtain ⟨resolved, rfl⟩ := Resolution.heads_eq_ok_iff.mp hh
      exact ⟨rep, rfl, resolved⟩

theorem called_sourceSteps {r : Registry} {ss : List Source} (seen : List Registry)
    (members : ∀ s ∈ ss, s ∈ r.sources) : ∀ o ∈ sourceSteps e l ss, Called e (r :: seen) o := by
  fun_induction sourceSteps e l ss
  case case1 => simp
  case case2 => simp [Called]
  case case3 hi => exact hi fun s hs => members s (List.mem_cons_of_mem _ hs)
  case case4 s ss watched hi =>
    refine List.forall_mem_cons.mpr ⟨?_, hi fun t ht => members t (List.mem_cons_of_mem _ ht)⟩
    exact called_sourceStep seen (members s List.mem_cons_self) watched

theorem called_navigatorSteps (ns : List Navigator) (seen : List Registry) :
    ∀ o ∈ navigatorSteps e l ns, Called e seen o := by
  intro o ho
  obtain ⟨n, -, rfl⟩ := List.mem_map.mp ho
  trivial

-- Whatever is registered when a delivery looks, the sources that it tells something are among it.
theorem vouches_work (l : Listener) (now : Int) (e : HeadEvent) :
    (work l now e).Vouches (Called e) [] := by
  refine ⟨trivial, fun r => Work.vouches_tellAll (called_navigatorSteps _ _) fun r' => ?_⟩
  refine Work.vouches_tellAll (called_sourceSteps _ fun s hs => hs) ?_
  unfold conclusion
  split
  case isTrue => trivial
  case isFalse => exact ⟨trivial, trivial⟩

-- What a source may be told about a notification.
structure Genuine (al : Aliases) (n : Notification) (e : HeadEvent) (s : Source)
    (heads : List Report) : Prop where
  made    : Dispatch.Made al n e
  decoded : Payload.decode n.kind n.body = .ok e.payload
  host    : ∃ url owner name, e.payload.subject.webUrl = some url ∧
    Repository.Located url e.repository.host owner name ∧
      Host.ofApi s.api al = .ok (Text.lower e.repository.host)
  owner   : ∃ owner, e.payload.subject.ownerName = some owner ∧ Name.isAccount owner ∧
    (∀ c ∈ owner.toList, c.toNat < 0x80) ∧ Text.lower owner = Text.lower s.owner
  name    : ∃ name, e.payload.subject.name = some name ∧ Name.isRepository name ∧
    (∀ c ∈ name.toList, c.toNat < 0x80) ∧ Text.lower name = Text.lower s.repository
  head    : ∃ rep, heads = [rep] ∧ s.wants rep.head.kind ∧
    ∀ f ∈ s.prefilters, f.excludes s.view rep.head = .ok false

theorem watches_eq_ok_true_iff {s : Source} {r : Repository} {al : Aliases} :
    s.watches r al = .ok true ↔ Host.ofApi s.api al = .ok (Text.lower r.host) ∧
      Text.lower r.owner = Text.lower s.owner ∧ Text.lower r.name = Text.lower s.repository := by
  unfold Source.watches
  cases Host.ofApi s.api al
  case error f => simp [bind, Except.bind]
  case ok host => simp [bind, Except.bind, pure, Except.pure, and_assoc, eq_comm (a := host)]

theorem genuine_of_called {al : Aliases} {n : Notification} {s : Source} {heads : List Report}
    {resp : Response} {seen : List Registry} (made : Dispatch.Made al n e)
    (called : Called e seen (.source s heads resp)) : Genuine al n e s heads := by
  obtain ⟨-, watched, rep, rfl, resolved⟩ := called
  obtain ⟨candidate, -, passed⟩ := Resolution.resolve_eq_ok_iff.mp resolved
  have watches : s.watches e.repository al = .ok true := made.aliases ▸ watched
  obtain ⟨host, owner, name⟩ := watches_eq_ok_true_iff.mp watches
  obtain ⟨url, web, read⟩ := Option.bind_eq_some_iff.mp made.host
  obtain ⟨o, r, located⟩ := Repository.hostOf?_eq_some_iff.mp read
  obtain ⟨own, ho, account⟩ := candidate.owner
  obtain ⟨repo, hr, repository⟩ := candidate.repository
  exact {
    made
    decoded := made.payload
    host := ⟨url, o, r, web, located, host⟩
    owner := by
      refine ⟨own, ho, account, Name.ascii_of_isAccount account, ?_⟩
      rwa [made.owner, ho] at owner
    name := by
      refine ⟨repo, hr, repository, Name.ascii_of_isRepository repository, ?_⟩
      rwa [made.name, hr] at name
    head := ⟨rep, rfl, candidate.wanted, Prefilter.chainExcludes_eq_ok_false_iff.mp passed⟩
  }

end Delivery

namespace Life

open Dispatcher
open Scheduler (Backed Kept starts tolds)

-- In the course of an action an event is being delivered.
def UnderWay (l : Life) (a : Action) (e : HeadEvent) : Prop :=
  (∃ r ∈ l.dispatcher.deliveries.running, r.event = e) ∨ ∃ tick, (tick, e) ∈ starts (l.happens a)

-- What is registered in the course of an action in which an event is being delivered.
def Found (d : Dispatcher) (as : List Action) (e : HeadEvent) (g : Registry) : Prop :=
  ∃ pre a post, as = pre ++ a :: post ∧ ((born d).run pre).UnderWay a e ∧
    ((born d).run pre).dispatcher.registry = g

-- A notification has come in that an event is made of.
def Taken (d : Dispatcher) (as : List Action) (e : HeadEvent) : Prop :=
  ∃ n, .move (.dispatch n) ∈ as ∧ Dispatch.Made d.aliases n e

variable {d : Dispatcher} {as : List Action} {e : HeadEvent} {g : Registry}

theorem Found.concat (h : Found d as e g) (a : Action) : Found d (as ++ [a]) e g := by
  obtain ⟨pre, b, post, rfl, found⟩ := h
  exact ⟨pre, b, post ++ [a], by simp, found⟩

theorem Taken.concat (h : Taken d as e) (a : Action) : Taken d (as ++ [a]) e := by
  obtain ⟨n, hn, made⟩ := h
  exact ⟨n, List.mem_append_left _ hn, made⟩

theorem found_now {a : Action} (h : ((born d).run as).UnderWay a e) :
    Found d (as ++ [a]) e ((born d).run as).dispatcher.registry :=
  ⟨as, a, [], rfl, h, rfl⟩

theorem run_concat (l : Life) (as : List Action) (a : Action) :
    l.run (as ++ [a]) = (l.run as).act a :=
  run_append l as [a]

theorem aliases_run (d : Dispatcher) (as : List Action) :
    ((born d).run as).dispatcher.aliases = d.aliases := by
  induction as using List.reverseRecOn
  case nil => rfl
  case append_singleton as a hi =>
    rw [run_concat, ← hi]
    cases a
    case move m => exact aliases_move ..
    case close => rfl

theorem vouched_conduct (d : Dispatcher) : d.conduct.Vouched Delivery.Called :=
  fun tick e => Delivery.vouches_work d.listener (d.instantOf tick) e

-- Every event that waits or is being delivered has come in, and its delivery tells sources nothing but
-- what it has found vouches for.
structure Traced (d : Dispatcher) (as : List Action) : Prop where
  timers  : ∀ t ∈ ((born d).run as).dispatcher.deliveries.timers, Taken d as t.event
  running : ∀ r ∈ ((born d).run as).dispatcher.deliveries.running,
    r.Backed (Taken d as) Delivery.Called (Found d as)

theorem traced_nil (d : Dispatcher) : Traced d [] where
  timers := List.forall_mem_nil _
  running := List.forall_mem_nil _

-- What an action makes of the deliveries that run, and what they tell in it.
theorem kept_happens (h : Traced d as) (a : Action) :
    Kept (Taken d as) Delivery.Called (Found d (as ++ [a]))
      ((born d).run as).dispatcher.registry
      ((born d).run (as ++ [a])).dispatcher.deliveries.running (((born d).run as).happens a) := by
  have old : Kept (Taken d as) Delivery.Called (Found d (as ++ [a]))
      ((born d).run as).dispatcher.registry ((born d).run as).dispatcher.deliveries.running [] := by
    refine ⟨fun r hr => ⟨?_, found_now (.inl ⟨r, hr, rfl⟩)⟩, List.forall_mem_nil _⟩
    exact (h.running r hr).imp (fun _ taken => taken) fun _ _ found => found.concat a
  have starting : ∀ x ∈ starts (((born d).run as).happens a),
      Found d (as ++ [a]) x.2 ((born d).run as).dispatcher.registry :=
    fun x hx => found_now (.inr ⟨x.1, hx⟩)
  have vouched := vouched_conduct ((born d).run as).dispatcher
  rw [run_concat]
  cases a
  case close => exact Scheduler.kept_close vouched old
  case move m =>
    cases m
    case dispatch n =>
      have same : (((born d).run as).act (.move (.dispatch n))).dispatcher.deliveries.running =
          ((born d).run as).dispatcher.deliveries.running := by
        cases hc : ((born d).run as).dispatcher.deliveries.closed
        case true => simp [act, move, deliveries_dispatch_of_closed hc]
        case false => simp [act, move, deliveries_dispatch hc]
      rw [same]
      exact old
    case register c => exact old
    case advance n =>
      have eq : (((born d).run as).dispatcher.deliveries.advance _ n) = _ :=
        Scheduler.advance_eq_ticks (c := ((born d).run as).dispatcher.conduct) n _
      simp only [act, move, happens, advance, eq] at starting ⊢
      exact Scheduler.kept_ticks vouched h.timers old starting

theorem taken_of_mem_newly {n : Notification} {t : Scheduler.Timer HeadEvent}
    (ht : t ∈ ((born d).run as).dispatcher.newly (.dispatch n)) :
    Taken d (as ++ [.move (.dispatch n)]) t.event := by
  obtain ⟨e, he, rfl⟩ := List.mem_map.mp ht
  obtain ⟨made, -⟩ := Dispatch.event?_outcome_eq_some_iff.mp (Option.mem_toList.mp he)
  exact ⟨n, by simp, aliases_run d as ▸ made⟩

theorem traced_concat (h : Traced d as) (a : Action) : Traced d (as ++ [a]) where
  running r hr :=
    have ⟨backed, _⟩ := (kept_happens h a).running r hr
    backed.imp (fun _ taken => taken.concat a) fun _ _ found => found
  timers := by
    have old : ∀ t ∈ ((born d).run as).dispatcher.deliveries.timers, Taken d (as ++ [a]) t.event :=
      fun t ht => (h.timers t ht).concat a
    rw [run_concat]
    cases a
    case close =>
      have none : (((born d).run as).act .close).dispatcher.deliveries.timers = [] :=
        Scheduler.timers_close _
      rw [none]
      exact List.forall_mem_nil _
    case move m =>
      cases m
      case dispatch n =>
        cases hc : ((born d).run as).dispatcher.deliveries.closed
        case true =>
          simp only [act, move, deliveries_dispatch_of_closed hc]
          exact old
        case false =>
          simp only [act, move, deliveries_dispatch hc]
          exact List.forall_mem_append.mpr ⟨old, fun t ht => taken_of_mem_newly ht⟩
      case register c => exact old
      case advance n =>
        simp only [act, deliveries_advance, Scheduler.timers_ticks]
        exact fun t ht => old t (List.mem_of_mem_filter ht)

theorem traced_run (d : Dispatcher) (as : List Action) : Traced d as := by
  induction as using List.reverseRecOn
  case nil => exact traced_nil d
  case append_singleton as a hi => exact traced_concat hi a

-- Whatever a source is told, when its time has come or at once, it has been told of what it watches.
theorem told_genuine (d : Dispatcher) :
    (∀ as a e s heads resp, .told e (.source s heads resp) ∈ ((born d).run as).happens a →
      ∃ n, .move (.dispatch n) ∈ as ∧ Delivery.Genuine d.aliases n e s heads ∧
        ∃ g, Found d (as ++ [a]) e g ∧ s ∈ g.sources) ∧
    ∀ n e l now g s heads resp, d.returned n = some e →
      .source s heads resp ∈ Delivery.steps l now e g →
        Delivery.Genuine d.aliases n e s heads ∧ s ∈ g.sources := by
  constructor
  case left =>
    intro as a e s heads resp told
    have member := Scheduler.mem_tolds_iff.mpr told
    obtain ⟨⟨n, hn, made⟩, seen, found, called⟩ := (kept_happens (traced_run d as) a).told _ member
    obtain ⟨g, last, registered⟩ := called.left
    exact ⟨n, hn, Delivery.genuine_of_called made called, g, found g (List.mem_of_mem_head? last),
      registered⟩
  case right =>
    intro n e l now g s heads resp returned told
    obtain ⟨made, -⟩ := Dispatch.event?_outcome_eq_some_iff.mp returned
    obtain ⟨seen, found, called⟩ := Work.told_output (G := (· = g)) rfl
      (Delivery.vouches_work l now e) (List.forall_mem_nil _) _ told
    obtain ⟨r, last, registered⟩ := called.left
    exact ⟨Delivery.genuine_of_called made called, found r (List.mem_of_mem_head? last) ▸ registered⟩

-- A source is told of a push.
theorem told_genuine_push :
    let d : Dispatcher := { listener := .single .silent, delay := .ofNumber (.whole 0) }
    let as : List Action :=
      [.move (.register (.addSource { owner := "acme", repository := "widgets" })),
        .move (.dispatch push)]
    ∃ e s heads resp,
      .told e (.source s heads resp) ∈ ((born d).run as).happens (.move (.advance 1)) ∧
      ∃ n, .move (.dispatch n) ∈ as ∧ Delivery.Genuine d.aliases n e s heads ∧
        ∃ g, Found d (as ++ [.move (.advance 1)]) e g ∧ s ∈ g.sources := by
  intro d as
  have told : (tolds (((born d).run as).happens (.move (.advance 1)))).any (·.2.isSource) := by
    decide +kernel
  obtain ⟨⟨e, step⟩, member, isSource⟩ := List.any_eq_true.mp told
  cases step
  case source s heads resp =>
    have member := Scheduler.mem_tolds_iff.mp member
    exact ⟨e, s, heads, resp, member, (told_genuine d).left as _ e s heads resp member⟩
  all_goals cases isSource

end Life

end RefWatch
