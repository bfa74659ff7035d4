import Mathlib.Logic.Relation
import RefWatch.Dispatcher
import RefWatch.Proofs.Gauge
import RefWatch.Proofs.Isolation

namespace RefWatch

namespace Work

open List

variable {σ ω : Type} {P : ω → Prop} {E : List ω → Bool → Prop} {told : List ω} {w : Work σ ω}

-- Runs up to the next sleep, even one of no ticks.
def stretch (s : σ) : Work σ ω → List ω × Work σ ω
  | tell w rest => (w :: (rest.stretch s).1, (rest.stretch s).2)
  | look k => (k s).stretch s
  | w => ([], w)

def awake : Work σ ω → Work σ ω
  | sleep _ rest => rest
  | w => w

theorem output_stretch (s : σ) (w : Work σ ω) :
    (w.stretch s).1 ++ (w.stretch s).2.output s = w.output s := by
  fun_induction stretch s w <;> simp_all [output]

theorem output_awake (s : σ) (w : Work σ ω) : w.awake.output s = w.output s := by
  cases w <;> rfl

-- Whatever is found, what is told from here on is of some kind, and what has been told by the end fits
-- how it ends.
def Leads (P : ω → Prop) (E : List ω → Bool → Prop) : List ω → Work σ ω → Prop
  | told, ended => E told false
  | told, failed => E told true
  | told, tell o rest => P o ∧ rest.Leads P E (told ++ [o])
  | told, sleep _ rest => rest.Leads P E told
  | told, look k => ∀ s, (k s).Leads P E told

theorem Leads.awake (h : w.Leads P E told) : w.awake.Leads P E told := by
  cases w <;> exact h

theorem Leads.stretch (h : w.Leads P E told) (s : σ) :
    (∀ o ∈ (w.stretch s).1, P o) ∧ (w.stretch s).2.Leads P E (told ++ (w.stretch s).1) := by
  fun_induction Work.stretch s w generalizing told
  case case1 o rest hi =>
    have ⟨first, later⟩ := h
    have ⟨rests, leads⟩ := hi later
    rw [append_assoc] at leads
    exact ⟨forall_mem_cons.mpr ⟨first, rests⟩, leads⟩
  case case2 hi => exact hi (h s)
  case case3 => exact ⟨forall_mem_nil _, (append_nil told).symm ▸ h⟩

theorem leads_tellAll {pause : ω → Nat} {os : List ω} (all : ∀ o ∈ os, P o)
    (rest : w.Leads P E (told ++ os)) : (tellAll pause os w).Leads P E told := by
  induction os generalizing told
  case nil => exact append_nil told ▸ rest
  case cons o os hi =>
    have ⟨first, later⟩ := forall_mem_cons.mp all
    refine ⟨first, hi later ?_⟩
    rwa [append_assoc]

end Work

namespace Delivery

open List Metrics

variable {l : Listener} {e : HeadEvent}

-- The navigators from a place in the registry on. The listener may answer for each place as if it was
-- another.
def navigatorStepsBy (e : HeadEvent) (a : Nat → Listener) : Nat → List Navigator → List Step
  | _, [] => []
  | i, n :: ns => navigatorSteps e (a i) [n] ++ navigatorStepsBy e a (i + 1) ns

def sourceStepsBy (e : HeadEvent) (a : Nat → Listener) : Nat → List Source → List Step
  | _, [] => []
  | i, s :: ss =>
    sourceSteps e (a i) [s] ++ if stops e s then [] else sourceStepsBy e a (i + 1) ss

def workBy (a : Nat → Listener) (now : Int) (e : HeadEvent) : Work Registry Step :=
  .tell (.began (waited e.received.instant now)) <| .look fun r =>
    let ns := navigatorStepsBy e a 0 r.navigators
    .tellAll Step.pause ns <| .look fun r =>
      let ss := sourceStepsBy e a 0 r.sources
      .tellAll Step.pause ss (conclusion (ns ++ ss))

theorem navigatorStepsBy_const (i : Nat) (ns : List Navigator) :
    navigatorStepsBy e (fun _ => l) i ns = navigatorSteps e l ns := by
  induction ns generalizing i
  case nil => rfl
  case cons n ns hi =>
    have split : navigatorSteps e l (n :: ns) = navigatorSteps e l [n] ++ navigatorSteps e l ns := by
      simp only [navigatorSteps, ← map_append, ← filter_append]
      rfl
    rw [navigatorStepsBy, hi, split]

theorem sourceStepsBy_const (i : Nat) (ss : List Source) :
    sourceStepsBy e (fun _ => l) i ss = sourceSteps e l ss := by
  induction ss generalizing i
  case nil => rfl
  case cons s ss hi =>
    have split : sourceSteps e l ([s] ++ ss) =
        sourceSteps e l [s] ++ if [s].any (stops e) then [] else sourceSteps e l ss :=
      sourceSteps_append
    rw [any_cons, any_nil, Bool.or_false] at split
    rw [sourceStepsBy, hi, ← split]
    rfl

-- One that answers alike at each place is told as the listener itself.
theorem workBy_const (l : Listener) (now : Int) (e : HeadEvent) :
    workBy (fun _ => l) now e = work l now e := by
  simp only [workBy, work, navigatorStepsBy_const, sourceStepsBy_const]

-- The steps of a delivery to a listener that may answer otherwise at each place.
def stepsBy (a : Nat → Listener) (now : Int) (e : HeadEvent) (r : Registry) : List Step :=
  (workBy a now e).output r

end Delivery

-- Delivers an event at once to a listener that may answer otherwise at each place.
def Dispatcher.deliverBy (d : Dispatcher) (a : Nat → Listener) (e : HeadEvent) :
    Dispatcher × Except Url.Fault Nat × Effects :=
  let steps := Delivery.stepsBy a d.now e d.registry
  ({ d with metrics := Delivery.countAll d.listener e d.metrics steps }, Delivery.result steps,
    { log := Delivery.log d.listener e steps, notes := steps.flatMap (·.notes) })

theorem Dispatcher.deliverBy_const (d : Dispatcher) (e : HeadEvent) :
    d.deliverBy (fun _ => d.listener) e = d.deliver e := by
  rw [deliverBy, Delivery.stepsBy, Delivery.workBy_const]
  rfl

namespace Delivery

open List Metrics

variable {l : Listener} {e : HeadEvent}

-- The steps of a delivery between its beginning and its end. A source is told of one head.
def Step.Inner : Step → Prop
  | began _ | finished _ => False
  | source _ heads _ => heads.length = 1
  | _ => True

-- The steps of a delivery after its beginning.
def Step.Later (o : Step) : Prop := o.Inner ∨ ∃ n, o = .finished n

def Step.Single : Step → Prop
  | source _ heads _ => heads.length = 1
  | _ => True

theorem Step.Later.begins {o : Step} (h : o.Later) : o.begins = false := by
  rcases h with h | ⟨n, rfl⟩
  case inl => cases o <;> first | rfl | cases h
  case inr => rfl

theorem Step.Later.single {o : Step} (h : o.Later) : o.Single := by
  rcases h with h | ⟨n, rfl⟩
  case inl => cases o <;> trivial
  case inr => trivial

theorem inner_navigatorSteps (l : Listener) (ns : List Navigator) :
    ∀ o ∈ navigatorSteps e l ns, o.Inner := by
  intro o ho
  obtain ⟨n, -, rfl⟩ := mem_map.mp ho
  trivial

theorem inner_sourceStep (l : Listener) (s : Source) : (sourceStep e l s).Inner := by
  unfold sourceStep
  split
  case h_1 | h_2 => trivial
  case h_3 heads filled hh =>
    cases heads
    case nil => cases filled rfl
    case cons rep reps =>
      obtain ⟨-, rfl⟩ := Resolution.heads_eq_ok_iff.mp hh
      rfl

theorem inner_sourceSteps (l : Listener) (ss : List Source) : ∀ o ∈ sourceSteps e l ss, o.Inner := by
  fun_induction sourceSteps e l ss
  case case1 => exact forall_mem_nil _
  case case2 => exact forall_mem_singleton.mpr trivial
  case case3 hi => exact hi
  case case4 s ss watched hi => exact forall_mem_cons.mpr ⟨inner_sourceStep l s, hi⟩

theorem inner_navigatorStepsBy (a : Nat → Listener) (i : Nat) (ns : List Navigator) :
    ∀ o ∈ navigatorStepsBy e a i ns, o.Inner := by
  induction ns generalizing i
  case nil => exact forall_mem_nil _
  case cons n ns hi => exact forall_mem_append.mpr ⟨inner_navigatorSteps (a i) [n], hi (i + 1)⟩

theorem inner_sourceStepsBy (a : Nat → Listener) (i : Nat) (ss : List Source) :
    ∀ o ∈ sourceStepsBy e a i ss, o.Inner := by
  induction ss generalizing i
  case nil => exact forall_mem_nil _
  case cons s ss hi =>
    refine forall_mem_append.mpr ⟨inner_sourceSteps (a i) [s], ?_⟩
    split
    case isTrue => exact forall_mem_nil _
    case isFalse => exact hi (i + 1)

-- A delivery that ends well returns how many it has told something.
def Concluded (told : List Step) (failed : Bool) : Prop :=
  failed = false → result told = .ok (told.countP Step.delivers)

theorem result_append {os : List Step} (inner : ∀ o ∈ os, o.Inner)
    (through : os.any Step.isStop = false) (rest : List Step) : result (os ++ rest) = result rest := by
  induction os
  case nil => rfl
  case cons o os hi =>
    have ⟨first, others⟩ := forall_mem_cons.mp inner
    rw [any_cons, Bool.or_eq_false_iff] at through
    have later := hi others through.2
    cases o
    case began | finished => cases first
    case stopped => cases through.1
    all_goals exact later

theorem leads_conclusion (os : List Step) (inner : ∀ o ∈ os, o.Inner) (waited : Nat) :
    (conclusion os).Leads Step.Later Concluded (.began waited :: os) := by
  unfold conclusion
  split
  case isTrue => exact fun ended => by cases ended
  case isFalse through =>
    refine ⟨.inr ⟨_, rfl⟩, fun _ => ?_⟩
    have returned : result (os ++ [.finished (delivered os)]) = .ok (delivered os) :=
      result_append inner (Bool.eq_false_iff.mpr through) _
    have all : (Step.began waited :: os ++ [Step.finished (delivered os)]).countP Step.delivers =
        delivered os := by
      simp [delivered, Step.delivers]
    rw [all]
    exact returned

theorem leads_workBy (a : Nat → Listener) (now : Int) (e : HeadEvent) :
    ∃ waited w, workBy a now e = .tell (.began waited) w ∧
      w.Leads Step.Later Concluded [.began waited] := by
  refine ⟨_, _, rfl, fun r => Work.leads_tellAll ?navigators fun r' => Work.leads_tellAll ?sources ?_⟩
  case navigators => exact fun o ho => .inl (inner_navigatorStepsBy a 0 r.navigators o ho)
  case sources => exact fun o ho => .inl (inner_sourceStepsBy a 0 r'.sources o ho)
  refine leads_conclusion (_ ++ _) (forall_mem_append.mpr ⟨?_, ?_⟩) _
  · exact inner_navigatorStepsBy a 0 r.navigators
  · exact inner_sourceStepsBy a 0 r'.sources

-- A callback of the listener, and how it ends.
structure Callback where
  target : Target
  failed : Bool
  deriving DecidableEq

def Step.callback? : Step → Option Callback
  | navigator _ r => some ⟨.navigator, r.failed⟩
  | source _ _ r => some ⟨.source, r.failed⟩
  | _ => none

-- A call to deliver: what it has told, and what it has still to do.
structure Call where
  event : HeadEvent
  told : List Step
  rest : Work Registry Step

namespace Call

def fresh (a : Nat → Listener) (now : Int) (e : HeadEvent) : Call := ⟨e, [], workBy a now e⟩

-- What a call tells as it goes on, and where that leaves it.
def next (c : Call) (r : Registry) : List Step × Work Registry Step := c.rest.awake.stretch r

def resume (c : Call) (r : Registry) : Call := ⟨c.event, c.told ++ (c.next r).1, (c.next r).2⟩

-- The callback that a call waits for.
def awaited? (c : Call) : Option Callback :=
  match c.rest with
  | .sleep _ (.tell o _) => o.callback?
  | _ => none

-- The callbacks that a call has made.
def callbacks (c : Call) : List Callback := c.told.filterMap Step.callback? ++ c.awaited?.toList

def Returns (c : Call) (n : Nat) : Prop := c.rest = .ended ∧ result c.told = .ok n

-- What is to be known of a call.
structure Sound (c : Call) : Prop where
  single : ∀ o ∈ c.told, o.Single
  leads  : c.rest.Leads Step.Later Concluded c.told

variable {c : Call}

theorem Sound.next (h : c.Sound) (r : Registry) : ∀ o ∈ (c.next r).1, o.Later :=
  (h.leads.awake.stretch r).1

theorem Sound.resume (h : c.Sound) (r : Registry) : (c.resume r).Sound where
  single := forall_mem_append.mpr ⟨h.single, fun o ho => (h.next r o ho).single⟩
  leads := (h.leads.awake.stretch r).2

theorem sound_resume_fresh (a : Nat → Listener) (now : Int) (e : HeadEvent) (r : Registry) :
    ((fresh a now e).resume r).Sound ∧ ((fresh a now e).next r).1.countP Step.begins = 1 := by
  obtain ⟨waited, w, work, leads⟩ := leads_workBy a now e
  have ⟨later, rest⟩ := leads.stretch r
  have next : (fresh a now e).next r = (.began waited :: (w.stretch r).1, (w.stretch r).2) := by
    rw [Call.next, fresh, work]
    rfl
  refine ⟨⟨?_, ?_⟩, ?_⟩
  · rw [Call.resume, next]
    exact forall_mem_cons.mpr ⟨trivial, fun o ho => (later o ho).single⟩
  · rw [Call.resume, next]
    exact rest
  · have none : (w.stretch r).1.countP Step.begins = 0 :=
      countP_eq_zero.mpr fun o ho => by simp [(later o ho).begins]
    rw [next, countP_cons, none]
    rfl

end Call

-- The calls that have been made to a dispatcher, and what they have counted.
structure Calls where
  metrics : Metrics := {}
  made : List Call := []

inductive Turn (l : Listener) : Calls → Calls → Prop
  -- A call is made.
  | call (a : Nat → Listener) (now : Int) (e : HeadEvent) (r : Registry) (m : Metrics)
      (cs : List Call) :
    Turn l ⟨m, cs⟩
      ⟨countAll l e m ((Call.fresh a now e).next r).1, cs ++ [(Call.fresh a now e).resume r]⟩
  -- A call goes on, when the listener has answered it.
  | resume (c : Call) (r : Registry) (m : Metrics) (cs ds : List Call) :
    Turn l ⟨m, cs ++ c :: ds⟩ ⟨countAll l c.event m (c.next r).1, cs ++ c.resume r :: ds⟩

abbrev Turns (l : Listener) : Calls → Calls → Prop := Relation.ReflTransGen (Turn l)

namespace Calls

def callbacks (b : Calls) : List Callback := b.made.flatMap Call.callbacks

-- No call waits for the listener.
def Quiet (b : Calls) : Prop := ∀ c ∈ b.made, c.awaited? = none

instance (b : Calls) : Decidable b.Quiet :=
  inferInstanceAs (Decidable (∀ c ∈ b.made, c.awaited? = none))

end Calls

-- A call that nobody interferes with is a delivery at once.
theorem deliver_eq {d : Dispatcher} {c : Call}
    (alone : Relation.ReflTransGen (fun c c' : Call => c' = c.resume d.registry)
      (Call.fresh (fun _ => d.listener) d.now e) c)
    (finished : c.rest = .ended ∨ c.rest = .failed) :
    (d.deliver e).1.metrics = countAll d.listener e d.metrics c.told ∧
      (d.deliver e).2.1 = result c.told := by
  have all : c.told ++ c.rest.output d.registry = steps d.listener d.now e d.registry := by
    clear finished
    induction alone
    case refl => rw [Call.fresh, workBy_const, nil_append, steps]
    case tail c c' _ next hi =>
      have going : c.rest.awake.output d.registry = c.rest.output d.registry := c.rest.output_awake _
      rw [next, ← hi, Call.resume, Call.next, append_assoc, Work.output_stretch, going]
  have none : c.rest.output d.registry = [] := by
    rcases finished with ended | failed
    case inl => rw [ended, Work.output]
    case inr => rw [failed, Work.output]
  rw [none, append_nil] at all
  rw [all]
  exact ⟨rfl, rfl⟩

end Delivery

end RefWatch
