import Mathlib.Data.List.Forall2
import RefWatch.Proofs.Moves

namespace RefWatch

open List

namespace Work

variable {σ ω : Type} {Q : ω → ω → Prop} {v w : Work σ ω}

-- Work that takes the same course and tells like things on it.
inductive Like (Q : ω → ω → Prop) : Work σ ω → Work σ ω → Prop
  | ended : Like Q .ended .ended
  | failed : Like Q .failed .failed
  | tell {o p : ω} {v w : Work σ ω} (told : Q o p) (rest : Like Q v w) :
    Like Q (.tell o v) (.tell p w)
  | sleep (n : Nat) {v w : Work σ ω} (rest : Like Q v w) : Like Q (.sleep n v) (.sleep n w)
  | look {v w : σ → Work σ ω} (rest : ∀ s, Like Q (v s) (w s)) : Like Q (.look v) (.look w)

inductive Rest.Like (Q : ω → ω → Prop) : Rest σ ω → Rest σ ω → Prop
  | finished (failed : Bool) : Like Q (.finished failed) (.finished failed)
  | asleep (n : Nat) {v w : Work σ ω} (rest : v.Like Q w) : Like Q (.asleep n v) (.asleep n w)

theorem Like.run (h : v.Like Q w) (s : σ) :
    Forall₂ Q (v.run s).1 (w.run s).1 ∧ (v.run s).2.Like Q (w.run s).2 := by
  induction h
  case ended => exact ⟨.nil, .finished false⟩
  case failed => exact ⟨.nil, .finished true⟩
  case tell told _ hi => exact ⟨.cons told hi.1, hi.2⟩
  case sleep n v w rest hi =>
    cases n
    case zero =>
      rw [Work.run, Work.run]
      exact hi
    case succ n => exact ⟨.nil, .asleep (n + 1) rest⟩
  case look hi => exact hi s

theorem Like.duration (h : v.Like Q w) (s : σ) : v.duration s = w.duration s := by
  induction h
  case ended | failed => rfl
  case tell hi => exact hi
  case sleep n _ _ _ hi => rw [Work.duration, Work.duration, hi]
  case look hi => exact hi s

theorem Like.output (h : v.Like Q w) (s : σ) : Forall₂ Q (v.output s) (w.output s) := by
  induction h
  case ended | failed => exact .nil
  case tell told _ hi => exact .cons told hi
  case sleep hi => exact hi
  case look hi => exact hi s

theorem Like.tellAll {pause : ω → Nat} {os ps : List ω} (told : Forall₂ Q os ps)
    (pauses : ∀ o p, Q o p → pause o = pause p) (rest : v.Like Q w) :
    (Work.tellAll pause os v).Like Q (Work.tellAll pause ps w) := by
  induction told
  case nil => exact rest
  case cons o p _ _ first _ hi =>
    have later := Like.sleep (pause o) (.tell first hi)
    have pauses := pauses o p first
    rw [Work.tellAll, Work.tellAll, foldr_cons, foldr_cons, ← pauses]
    exact later

end Work

namespace Scheduler

variable {ε σ ω : Type}

-- How events may differ, and what may then be told of them.
variable {E : ε → ε → Prop} {Q : ε → ε → ω → ω → Prop}

structure Timer.Like (E : ε → ε → Prop) (t u : Timer ε) : Prop where
  due   : t.due = u.due
  event : E t.event u.event

structure Running.Like (E : ε → ε → Prop) (Q : ε → ε → ω → ω → Prop) (r q : Running ε σ ω) : Prop where
  event   : E r.event q.event
  started : r.started = q.started
  wake    : r.wake = q.wake
  rest    : r.rest.Like (Q r.event q.event) q.rest

inductive Happening.Like (E : ε → ε → Prop) (Q : ε → ε → ω → ω → Prop) :
    Happening ε ω → Happening ε ω → Prop
  | started (tick : Nat) {e f : ε} (event : E e f) : Like E Q (.started tick e) (.started tick f)
  | told {e f : ε} {o p : ω} (event : E e f) (told : Q e f o p) : Like E Q (.told e o) (.told f p)
  | ended (begun tick : Nat) {e f : ε} (event : E e f) (failed : Bool) :
    Like E Q (.ended begun tick e failed) (.ended begun tick f failed)

structure Like (E : ε → ε → Prop) (Q : ε → ε → ω → ω → Prop) (s t : Scheduler ε σ ω) : Prop where
  now     : s.now = t.now
  closed  : s.closed = t.closed
  timers  : Forall₂ (Timer.Like E) s.timers t.timers
  running : Forall₂ (Running.Like E Q) s.running t.running

-- Like events are delivered alike.
def Conduct.Even (c : Conduct ε σ ω) (E : ε → ε → Prop) (Q : ε → ε → ω → ω → Prop) : Prop :=
  ∀ tick e f, E e f → (c.work tick e).Like (Q e f) (c.work tick f)

theorem like_empty : Like E Q ({} : Scheduler ε σ ω) {} := ⟨rfl, rfl, .nil, .nil⟩

variable {c : Conduct ε σ ω} {s t : Scheduler ε σ ω}

-- Deliveries that go on, and what happens to them in the meantime.
structure InStep (E : ε → ε → Prop) (Q : ε → ε → ω → ω → Prop)
    (x y : List (Running ε σ ω) × List (Happening ε ω)) : Prop where
  running : Forall₂ (Running.Like E Q) x.1 y.1
  happens : Forall₂ (Happening.Like E Q) x.2 y.2

theorem inStep_proceed {e f : ε} {v w : Work σ ω} (event : E e f) (work : v.Like (Q e f) w)
    (now started : Nat) : InStep E Q (proceed c now e started v) (proceed c now f started w) := by
  have ⟨told, rest⟩ := work.run c.state
  have told : Forall₂ (Happening.Like E Q) ((v.run c.state).1.map (Happening.told e))
      ((w.run c.state).1.map (Happening.told f)) :=
    rel_map (fun _ _ => .told event) told
  unfold proceed
  generalize (v.run c.state).2 = x, (w.run c.state).2 = y at rest
  cases rest
  case finished failed =>
    exact ⟨.nil, rel_append told (.cons (.ended started now event failed) .nil)⟩
  case asleep n _ _ rest => exact ⟨.cons ⟨event, rfl, rfl, rest⟩ .nil, told⟩

theorem inStep_start (even : c.Even E Q) {t u : Timer ε} (h : t.Like E u) (now : Nat) :
    InStep E Q (start c now t) (start c now u) :=
  have ⟨running, happens⟩ := inStep_proceed h.event (even now _ _ h.event) now now
  ⟨running, .cons (.started now h.event) happens⟩

theorem inStep_resume {r q : Running ε σ ω} (h : r.Like E Q q) (now : Nat) :
    InStep E Q (resume c now r) (resume c now q) := by
  unfold resume
  rw [← h.wake]
  split
  case isTrue =>
    rw [← h.started]
    exact inStep_proceed h.event h.rest now r.started
  case isFalse => exact ⟨.cons h .nil, .nil⟩

theorem running_flatMap {xs ys : List (List (Running ε σ ω) × List (Happening ε ω))}
    (h : Forall₂ (InStep E Q) xs ys) :
    Forall₂ (Running.Like E Q) (xs.flatMap (·.1)) (ys.flatMap (·.1)) :=
  rel_flatMap h fun _ _ => InStep.running

theorem happens_flatMap {xs ys : List (List (Running ε σ ω) × List (Happening ε ω))}
    (h : Forall₂ (InStep E Q) xs ys) :
    Forall₂ (Happening.Like E Q) (xs.flatMap (·.2)) (ys.flatMap (·.2)) :=
  rel_flatMap h fun _ _ => InStep.happens

-- Schedulers, and what has happened to them.
structure Along (E : ε → ε → Prop) (Q : ε → ε → ω → ω → Prop)
    (x y : Scheduler ε σ ω × List (Happening ε ω)) : Prop where
  state   : x.1.Like E Q y.1
  happens : Forall₂ (Happening.Like E Q) x.2 y.2

theorem filter_timers {ts us : List (Timer ε)} {p q : Timer ε → Bool}
    (h : Forall₂ (Timer.Like E) ts us) (same : ∀ t u, t.Like E u → p t = q u) :
    Forall₂ (Timer.Like E) (ts.filter p) (us.filter q) :=
  rel_filter (fun t u timer => by change p t = true ↔ q u = true; rw [same t u timer]) h

theorem Like.fire (h : s.Like E Q t) (even : c.Even E Q) : Along E Q (s.fire c) (t.fire c) := by
  have due (u v : Timer ε) (timer : u.Like E v) : u.isDue s.now = v.isDue t.now := by
    rw [Timer.isDue, Timer.isDue, timer.due, h.now]
  have begun : Forall₂ (InStep E Q) ((s.timers.filter (·.isDue s.now)).map (start c s.now))
      ((t.timers.filter (·.isDue t.now)).map (start c t.now)) := by
    have fired := filter_timers h.timers due
    rw [← h.now] at fired ⊢
    exact rel_map (R := Timer.Like E) (fun _ _ timer => inStep_start even timer s.now) fired
  have left : Forall₂ (Timer.Like E) (s.timers.filter (!·.isDue s.now))
      (t.timers.filter (!·.isDue t.now)) :=
    filter_timers h.timers fun u v timer => by rw [due u v timer]
  exact ⟨⟨h.now, h.closed, left, rel_append h.running (running_flatMap begun)⟩,
    happens_flatMap begun⟩

theorem Like.wake (h : s.Like E Q t) : Along E Q (s.wake c) (t.wake c) := by
  have resumed : Forall₂ (InStep E Q) (s.running.map (resume c s.now))
      (t.running.map (resume c t.now)) := by
    rw [← h.now]
    exact rel_map (R := Running.Like E Q) (fun _ _ running => inStep_resume running s.now) h.running
  exact ⟨⟨h.now, h.closed, h.timers, running_flatMap resumed⟩, happens_flatMap resumed⟩

theorem Like.tick (h : s.Like E Q t) (even : c.Even E Q) : Along E Q (s.tick c) (t.tick c) := by
  have late := h.fire even
  have later : Like E Q { (s.fire c).1 with now := s.now + 1 } { (t.fire c).1 with now := t.now + 1 } :=
    ⟨congrArg (· + 1) h.now, late.state.closed, late.state.timers, late.state.running⟩
  have woken := later.wake (c := c)
  have due := woken.state.fire even
  rw [tick_eq, tick_eq]
  exact ⟨due.state, rel_append (rel_append late.happens woken.happens) due.happens⟩

theorem Like.ticks (h : s.Like E Q t) (even : c.Even E Q) (n : Nat) :
    Along E Q (ticks c n s) (ticks c n t) := by
  induction n generalizing s t
  case zero => exact ⟨h, .nil⟩
  case succ n hi =>
    have first := h.tick even
    have rest := hi first.state
    exact ⟨rest.state, rel_append first.happens rest.happens⟩

theorem Like.advance (h : s.Like E Q t) (even : c.Even E Q) (n : Nat) :
    Along E Q (s.advance c n) (t.advance c n) := by
  rw [advance_eq_ticks, advance_eq_ticks]
  exact h.ticks even n

theorem Like.remaining (h : s.Like E Q t) (state : σ) : s.remaining state = t.remaining state := by
  have longest (m n : Nat) (same : m = n) (r q : Running ε σ ω) (running : r.Like E Q q) :
      max m (r.wake - s.now + r.rest.duration state) =
        max n (q.wake - t.now + q.rest.duration state) := by
    rw [same, running.wake, h.now, running.rest.duration]
  exact rel_foldl (P := Eq) longest rfl h.running

theorem Like.close (h : s.Like E Q t) (even : c.Even E Q) : Along E Q (s.close c) (t.close c) := by
  have shut : Like E Q { s with timers := [], closed := true } { t with timers := [], closed := true } :=
    ⟨h.now, rfl, .nil, h.running⟩
  rw [Scheduler.close, Scheduler.close, shut.remaining]
  exact shut.advance even _

theorem Like.pending (h : s.Like E Q t) : s.pending = t.pending := h.timers.length_eq

-- Like events are armed alike, or refused for the same reason.
theorem Like.schedule (h : s.Like E Q t) {e f : ε} (event : E e f) (d : Delay) :
    (∃ r, s.schedule e d = .error r ∧ t.schedule f d = .error r) ∨
      ∃ s' t', s.schedule e d = .ok s' ∧ t.schedule f d = .ok t' ∧ s'.Like E Q t' := by
  cases hd : d.isNegative
  case true => exact .inl ⟨_, schedule_of_negative hd s e, schedule_of_negative hd t f⟩
  case false =>
    cases hc : s.closed
    case true =>
      have closed : t.closed := h.closed ▸ hc
      exact .inr ⟨s, t, schedule_of_closed hc e hd, schedule_of_closed closed f hd, h⟩
    case false =>
      have opened : t.closed = false := h.closed ▸ hc
      cases hf : d.seconds.float?
      case none =>
        have none : d.seconds.float?.isNone := by rw [hf]; rfl
        exact .inl ⟨_, schedule_of_tooLarge hc hd none, schedule_of_tooLarge opened hd none⟩
      case some =>
        have some : d.seconds.float?.isSome := by rw [hf]; rfl
        have timer : Timer.Like E (armed s.now e d) (armed t.now f d) :=
          ⟨by rw [armed, armed, h.now], event⟩
        exact .inr ⟨_, _, schedule_of_open hc hd some, schedule_of_open opened hd some,
          h.now, h.closed, rel_append h.timers (.cons timer .nil), h.running⟩

end Scheduler

end RefWatch
