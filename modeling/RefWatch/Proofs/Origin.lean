import RefWatch.Proofs.Lifetime
import RefWatch.Proofs.Twin

namespace RefWatch

open List Log

-- Records that differ in related origins only, if they differ at all.
def Log.Record.Twin (R : String → String → Prop) (r q : Record) : Prop :=
  r = q ∨ ∃ o o', R o o' ∧ r.Like o o' q

variable {R : String → String → Prop}

-- What comes to the log and to the notes.
structure Effects.Like (R : String → String → Prop) (x y : Effects) : Prop where
  log   : Forall₂ (Record.Twin R) x.log y.log
  notes : x.notes = y.notes

theorem Effects.Like.append {x y x' y' : Effects} (h : x.Like R y) (h' : x'.Like R y') :
    (x ++ x').Like R (y ++ y') :=
  ⟨rel_append h.log h'.log, congrArg₂ (· ++ ·) h.notes h'.notes⟩

theorem twin_records {o o' : String} (related : R o o') {rs qs : List Record}
    (h : Records o o' rs qs) : Forall₂ (Record.Twin R) rs qs :=
  h.imp fun _ _ like => .inr ⟨o, o', related, like⟩

theorem twin_records_same (rs : List Record) : Forall₂ (Record.Twin R) rs rs :=
  forall₂_same.mpr fun _ _ => .inl rfl

namespace Dispatcher

abbrev Told (e f : HeadEvent) : Delivery.Step → Delivery.Step → Prop :=
  Delivery.Step.Like e.origin f.origin

-- Dispatchers whose armed and running events differ in their origins only.
structure Like (R : String → String → Prop) (d c : Dispatcher) : Prop where
  registry   : d.registry = c.registry
  listener   : d.listener = c.listener
  delay      : d.delay = c.delay
  aliases    : d.aliases = c.aliases
  metrics    : d.metrics = c.metrics
  start      : d.start = c.start
  deliveries : d.deliveries.Like (HeadEvent.Twin R) Told c.deliveries

abbrev Happenings (R : String → String → Prop) : List Happening → List Happening → Prop :=
  Forall₂ (Scheduler.Happening.Like (HeadEvent.Twin R) Told)

variable {d c : Dispatcher}

theorem Like.conduct (h : d.Like R c) : d.conduct = c.conduct := by
  have instants : d.instantOf = c.instantOf := by
    funext tick
    rw [instantOf, instantOf, h.start]
  rw [Dispatcher.conduct, Dispatcher.conduct, h.listener, h.registry, instants]

theorem Like.now (h : d.Like R c) : d.now = c.now := by
  rw [Dispatcher.now, Dispatcher.now, instantOf, instantOf, h.start, h.deliveries.now]

theorem even_conduct (discreet : d.listener.Discreet) : d.conduct.Even (HeadEvent.Twin R) Told := by
  intro tick e f twin
  cases twin
  case mk o _ => exact Delivery.work_like discreet (d.instantOf tick) e o

theorem countHappening_like (d : Dispatcher) (m : Metrics) {x y : Happening}
    (h : x.Like (HeadEvent.Twin R) Told y) : d.countHappening m x = d.countHappening m y := by
  cases h
  case told twin told =>
    cases twin
    exact Delivery.count_like d.listener told m
  all_goals rfl

theorem effectsOf_like (d : Dispatcher) {x y : Happening} (h : x.Like (HeadEvent.Twin R) Told y) :
    Effects.Like R (d.effectsOf x) (d.effectsOf y) := by
  cases h
  case started => exact ⟨.nil, rfl⟩
  case told twin told =>
    cases twin
    case mk related =>
      exact ⟨twin_records related (Delivery.stepLog_like d.listener told), told.notes⟩
  case ended twin failed =>
    cases twin
    case mk e o related =>
      cases failed
      case false => exact ⟨.nil, rfl⟩
      case true =>
        have record : (Scheduler.failureRecord e).Like e.origin o
            (Scheduler.failureRecord { e with origin := o }) :=
          ⟨rfl, rfl, .same _, e.fields_like o⟩
        exact ⟨twin_records related (.cons record .nil), rfl⟩

theorem absorb_like (h : d.Like R c) {s t : Deliveries} (deliveries : s.Like (HeadEvent.Twin R) Told t)
    {xs ys : List Happening} (happens : Happenings R xs ys) :
    (d.absorb s xs).1.Like R (c.absorb t ys).1 ∧
      Effects.Like R (d.absorb s xs).2 (c.absorb t ys).2 := by
  have counting : c.countHappening = d.countHappening := by
    funext m x
    cases x <;> simp only [countHappening, h.listener]
  have effects : c.effectsOf = d.effectsOf := by
    funext x
    cases x <;> simp only [effectsOf, h.listener]
  have metrics : xs.foldl d.countHappening d.metrics = ys.foldl c.countHappening c.metrics := by
    rw [counting, ← h.metrics]
    refine rel_foldl (P := Eq) (fun m m' same x y like => ?_) rfl happens
    rw [same]
    exact countHappening_like d m' like
  refine ⟨⟨h.registry, h.listener, h.delay, h.aliases, metrics, h.start, deliveries⟩, ?_⟩
  rw [absorb, absorb, effects]
  refine rel_foldl (P := Effects.Like R) (fun a b like x y happening => ?_) ⟨.nil, rfl⟩ happens
  exact like.append (effectsOf_like d happening)

inductive Deed
  | dispatch (n : Notification)
  | register (c : Registry.Change)
  -- Another listener takes the place of the one that there is.
  | listen (l : Listener)
  -- An event is delivered at once.
  | deliver (e : HeadEvent)
  | advance (n : Nat)
  | close

-- All that is seen of a deed, with the dispatcher that it leaves.
structure Sight where
  returned : Option HeadEvent := none
  result : Option (Except Url.Fault Nat) := none
  happens : List Happening := []
  effects : Effects := {}
  left : Dispatcher

def deed (d : Dispatcher) : Deed → Sight
  | .dispatch n =>
    { returned := (d.dispatch n).2.1.event?, effects := (d.dispatch n).2.2, left := (d.dispatch n).1 }
  | .register c => { left := { d with registry := d.registry.change c } }
  | .listen l => { left := { d with listener := l } }
  | .deliver e =>
    { result := some (d.deliver e).2.1
      happens := (Delivery.steps d.listener d.now e d.registry).map (.told e)
      effects := (d.deliver e).2.2
      left := (d.deliver e).1 }
  | .advance n =>
    { happens := (d.deliveries.advance d.conduct n).2
      effects := (d.advance n).2
      left := (d.advance n).1 }
  | .close =>
    { happens := (d.deliveries.close d.conduct).2, effects := d.close.2, left := d.close.1 }

def sights (d : Dispatcher) : List Deed → List Sight
  | [] => []
  | a :: as => d.deed a :: (d.deed a).left.sights as

-- Deeds that differ in origins only, with listeners that do not go by them.
inductive Deed.Twin (R : String → String → Prop) : Deed → Deed → Prop
  | dispatch {n m : Notification} (twin : n.Twin R m) : Twin R (.dispatch n) (.dispatch m)
  | register (c : Registry.Change) : Twin R (.register c) (.register c)
  | listen {l : Listener} (discreet : l.Discreet) : Twin R (.listen l) (.listen l)
  | deliver {e f : HeadEvent} (twin : e.Twin R f) : Twin R (.deliver e) (.deliver f)
  | advance (n : Nat) : Twin R (.advance n) (.advance n)
  | close : Twin R .close .close

-- What is seen of deeds that differ in origins only.
structure Sight.Like (R : String → String → Prop) (s t : Sight) : Prop where
  returned : Option.Rel (HeadEvent.Twin R) s.returned t.returned
  result   : s.result = t.result
  happens  : Happenings R s.happens t.happens
  effects  : Effects.Like R s.effects t.effects
  left     : s.left.Like R t.left

theorem like_register (h : d.Like R c) (g : Registry.Change) :
    Sight.Like R (d.deed (.register g)) (c.deed (.register g)) where
  returned := .none
  result := rfl
  happens := .nil
  effects := ⟨.nil, rfl⟩
  left := { h with registry := congrArg (·.change g) h.registry }

theorem like_listen (h : d.Like R c) (l : Listener) :
    Sight.Like R (d.deed (.listen l)) (c.deed (.listen l)) where
  returned := .none
  result := rfl
  happens := .nil
  effects := ⟨.nil, rfl⟩
  left := { h with listener := rfl }

theorem like_advance (h : d.Like R c) (discreet : d.listener.Discreet) (n : Nat) :
    Sight.Like R (d.deed (.advance n)) (c.deed (.advance n)) := by
  have along := h.deliveries.advance (even_conduct discreet) n
  have ⟨left, effects⟩ : ((d.advance n).1.Like R (c.advance n).1) ∧
      Effects.Like R (d.advance n).2 (c.advance n).2 := by
    rw [advance, advance, ← h.conduct]
    exact absorb_like h along.state along.happens
  rw [deed, deed, ← h.conduct]
  exact ⟨.none, rfl, along.happens, effects, left⟩

theorem like_close (h : d.Like R c) (discreet : d.listener.Discreet) :
    Sight.Like R (d.deed .close) (c.deed .close) := by
  have along := h.deliveries.close (even_conduct discreet)
  have cancelled : d.deliveries.closingLog = c.deliveries.closingLog := by
    rw [Scheduler.closingLog, Scheduler.closingLog, h.deliveries.pending]
  have ⟨left, effects⟩ : (d.close.1.Like R c.close.1) ∧ Effects.Like R d.close.2 c.close.2 := by
    rw [close, close, ← h.conduct, ← cancelled]
    have ⟨left, effects⟩ := absorb_like h along.state along.happens
    exact ⟨left, .append ⟨twin_records_same _, rfl⟩ effects⟩
  rw [deed, deed, ← h.conduct]
  exact ⟨.none, rfl, along.happens, effects, left⟩

theorem like_deliver (h : d.Like R c) (discreet : d.listener.Discreet) {e f : HeadEvent}
    (twin : e.Twin R f) : Sight.Like R (d.deed (.deliver e)) (c.deed (.deliver f)) := by
  cases twin
  case mk o related =>
    have steps : Delivery.Steps e.origin o (Delivery.steps d.listener d.now e d.registry)
        (Delivery.steps c.listener c.now { e with origin := o } c.registry) := by
      rw [← h.listener, ← h.now, ← h.registry]
      exact (Delivery.work_like discreet d.now e o).output d.registry
    have happens : Happenings R
        ((Delivery.steps d.listener d.now e d.registry).map (.told e))
        ((Delivery.steps c.listener c.now { e with origin := o } c.registry).map
          (.told { e with origin := o })) :=
      rel_map (R := Delivery.Step.Like e.origin o)
        (fun _ _ told => Scheduler.Happening.Like.told (HeadEvent.Twin.mk e o related) told) steps
    have metrics : (d.deliver e).1.metrics = (c.deliver { e with origin := o }).1.metrics := by
      change Delivery.countAll d.listener e d.metrics _ = Delivery.countAll c.listener _ c.metrics _
      rw [← h.listener, ← h.metrics]
      exact Delivery.countAll_like d.listener (by rwa [← h.listener] at steps) d.metrics
    have log : Forall₂ (Record.Twin R) (d.deliver e).2.2.log
        (c.deliver { e with origin := o }).2.2.log := by
      refine twin_records related ?_
      change Records e.origin o (Delivery.log d.listener e _) (Delivery.log c.listener _ _)
      rw [← h.listener] at steps ⊢
      exact Delivery.log_like d.listener steps
    exact {
      returned := .none
      result := congrArg some (Delivery.result_like steps)
      happens
      effects := ⟨log, Delivery.notes_like steps⟩
      left := { h with metrics }
    }

theorem armingLog_like {s t : Deliveries} (h : s.Like (HeadEvent.Twin R) Told t) {e f : HeadEvent}
    (twin : e.Twin R f) {x y : Delay} (delay : x = y) : s.armingLog e x = t.armingLog f y := by
  have text : Scheduler.eventText e = Scheduler.eventText f := by
    cases twin
    rfl
  rw [← delay, Scheduler.armingLog, Scheduler.armingLog, ← h.closed, text]
  obtain ⟨r, refused, refused'⟩ | ⟨_, _, armed, armed', -⟩ := h.schedule twin x
  case inl => rw [refused, refused']
  case inr => rw [armed, armed']

-- Twins are armed alike, or refused with the same text.
theorem arm_like (h : d.Like R c) {e f : HeadEvent} (twin : e.Twin R f) :
    (∃ text, d.arm e = .error text ∧ c.arm f = .error text) ∨
      ∃ s t, d.arm e = .ok s ∧ c.arm f = .ok t ∧ s.Like (HeadEvent.Twin R) Told t := by
  rw [arm, arm, ← h.delay]
  obtain ⟨r, refused, refused'⟩ | ⟨s, t, armed, armed', like⟩ := h.deliveries.schedule twin d.delay
  case inl =>
    rw [refused, refused']
    exact .inl ⟨r.message, rfl, rfl⟩
  case inr =>
    rw [armed, armed']
    exact .inr ⟨s, t, rfl, rfl, like⟩

theorem like_dispatch (h : d.Like R c) {n m : Notification} (twin : n.Twin R m) :
    Sight.Like R (d.deed (.dispatch n)) (c.deed (.dispatch m)) := by
  cases twin
  case mk o related =>
    have arms (e : HeadEvent) (origin : e.origin = n.origin) :=
      arm_like h (HeadEvent.Twin.mk (R := R) e o (origin ▸ related))
    have outcome : Dispatch.Outcome.Like n.origin o (Scheduler.Like (HeadEvent.Twin R) Told)
        (Dispatch.outcome d.aliases d.arm n)
        (Dispatch.outcome c.aliases c.arm { n with origin := o }) := by
      rw [← h.aliases]
      exact Dispatch.outcome_like arms
    have arming (e : HeadEvent) (origin : e.origin = n.origin) :
        d.deliveries.armingLog e d.delay = c.deliveries.armingLog { e with origin := o } c.delay :=
      armingLog_like h.deliveries (.mk e o (origin ▸ related)) h.delay
    have log : Forall₂ (Record.Twin R) (d.dispatch n).2.2.log
        (c.dispatch { n with origin := o }).2.2.log := by
      refine twin_records related ?_
      change Records n.origin o (Dispatch.log n d.delay (d.deliveries.armingLog · d.delay) _)
        (Dispatch.log { n with origin := o } c.delay (c.deliveries.armingLog · c.delay) _)
      have written := Dispatch.log_like outcome d.delay (d.deliveries.armingLog · d.delay)
        (c.deliveries.armingLog · c.delay) arming
      rwa [← h.delay] at written ⊢
    have metrics : (d.dispatch n).1.metrics = (c.dispatch { n with origin := o }).1.metrics := by
      change Dispatch.count n _ d.metrics = Dispatch.count _ _ c.metrics
      rw [← h.metrics]
      exact Dispatch.count_like outcome d.metrics
    exact {
      returned := Dispatch.event?_like related outcome
      result := rfl
      happens := .nil
      effects := ⟨log, rfl⟩
      left := { h with metrics, deliveries := Dispatch.armed?_like outcome h.deliveries }
    }

theorem like_deed (h : d.Like R c) (discreet : d.listener.Discreet) {a b : Deed} (twin : a.Twin R b) :
    Sight.Like R (d.deed a) (c.deed b) := by
  cases twin
  case dispatch twin => exact like_dispatch h twin
  case register g => exact like_register h g
  case listen l _ => exact like_listen h l
  case deliver twin => exact like_deliver h discreet twin
  case advance n => exact like_advance h discreet n
  case close => exact like_close h discreet

theorem discreet_deed (discreet : d.listener.Discreet) {a b : Deed} (twin : a.Twin R b) :
    (d.deed a).left.listener.Discreet := by
  cases twin
  case listen discreet' => exact discreet'
  all_goals exact discreet

theorem like_sights (h : d.Like R c) (discreet : d.listener.Discreet) {as bs : List Deed}
    (twins : Forall₂ (Deed.Twin R) as bs) :
    Forall₂ (Sight.Like R) (d.sights as) (c.sights bs) := by
  induction twins generalizing d c
  case nil => exact .nil
  case cons first _ hi =>
    have seen := like_deed h discreet first
    exact .cons seen (hi seen.left (discreet_deed discreet first))

-- Origins carry no authority: however they differ, and however those of one run are related to those of
-- another, events agree in all but their origins, and so does all that is seen of the two runs.
theorem sights_alike (R : String → String → Prop) (d : Dispatcher) (fresh : d.deliveries = {})
    (discreet : d.listener.Discreet) (as bs : List Deed) (twins : Forall₂ (Deed.Twin R) as bs) :
    (∀ e f : HeadEvent, e.Twin R f → e.Agree f) ∧ Forall₂ (Sight.Like R) (d.sights as) (d.sights bs) :=
  have like : d.Like R d := ⟨rfl, rfl, rfl, rfl, rfl, rfl, fresh ▸ Scheduler.like_empty⟩
  ⟨fun _ _ => HeadEvent.Twin.agree, like_sights like discreet twins⟩

-- A push and a body that is no document come from one place and from another, to listeners of all kinds.
theorem sights_alike_push :
    let note (e : HeadEvent) (_ : Occasion) : List Json := [.text e.description]
    let children : List Listener :=
      [.single .silent, .single (.logging none), .single (.failing true true "down"),
        .single (.recorder note)]
    let d : Dispatcher :=
      { listener := .fanOut (children.zipIdx.map Prod.swap)
        delay := .ofNumber (.whole 0)
        registry := { navigators := [{ owner := "acme" }] } }
    let deeds (origin : String) : List Deed :=
      [.dispatch { Life.push with origin }, .dispatch { Life.push with origin, body := "".toUTF8 },
        .register (.addSource { owner := "acme", repository := "widgets" }), .advance 1, .close]
    let R (o o' : String) : Prop := o = "hooks" ∧ o' = "elsewhere"
    (d.sights (deeds "hooks")).map (·.returned.isSome) = [true, false, false, false, false] ∧
      (d.sights (deeds "hooks")).map (·.effects.notes.length) = [0, 0, 0, 2, 0] ∧
      (∀ e f : HeadEvent, e.Twin R f → e.Agree f) ∧
      Forall₂ (Sight.Like R) (d.sights (deeds "hooks")) (d.sights (deeds "elsewhere")) := by
  intro note children d deeds R
  have discreet : d.listener.Discreet := by
    refine Listener.discreet_fanOut fun c hc => ?_
    obtain ⟨x, hx, rfl⟩ := mem_map.mp hc
    have child : x.1 ∈ children := fst_mem_of_mem_zipIdx hx
    simp only [children, mem_cons, not_mem_nil, or_false] at child
    rw [Prod.snd_swap]
    obtain silent | logging | failing | recorder := child
    · exact silent ▸ Listener.discreet_silent
    · exact logging ▸ Listener.discreet_logging none
    · exact failing ▸ Listener.discreet_failing true true "down"
    · exact recorder ▸ Listener.discreet_recorder fun _ _ _ => rfl
  have twins : Forall₂ (Deed.Twin R) (deeds "hooks") (deeds "elsewhere") :=
    .cons (.dispatch (.mk { Life.push with origin := "hooks" } "elsewhere" ⟨rfl, rfl⟩)) <|
      .cons (.dispatch (.mk { Life.push with origin := "hooks", body := "".toUTF8 } "elsewhere"
        ⟨rfl, rfl⟩)) <|
      .cons (.register _) <| .cons (.advance 1) <| .cons .close .nil
  exact ⟨by decide +kernel, by decide +kernel, sights_alike R d rfl discreet _ _ twins⟩

end Dispatcher

end RefWatch
