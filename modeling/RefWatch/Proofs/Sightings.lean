import RefWatch.Proofs.Moves
import RefWatch.Proofs.Overlap

namespace RefWatch

namespace Work

variable {σ ω : Type} {Q : List σ → ω → Prop} {seen : List σ} {w : Work σ ω}

-- Whatever there is to be found, what is told is vouched for by the findings, the last of which stands
-- first.
def Vouches (Q : List σ → ω → Prop) : List σ → Work σ ω → Prop
  | _, ended | _, failed => True
  | seen, tell o rest => Q seen o ∧ rest.Vouches Q seen
  | seen, sleep _ rest => rest.Vouches Q seen
  | seen, look k => ∀ s, (k s).Vouches Q (s :: seen)

theorem vouches_tellAll {pause : ω → Nat} {os : List ω} (told : ∀ o ∈ os, Q seen o)
    (rest : w.Vouches Q seen) : (tellAll pause os w).Vouches Q seen := by
  induction os
  case nil => exact rest
  case cons o os hi =>
    exact ⟨told o List.mem_cons_self, hi fun p hp => told p (List.mem_cons_of_mem _ hp)⟩

section

variable {G : σ → Prop} {s : σ} (here : G s)
include here

theorem told_output (h : w.Vouches Q seen) (found : ∀ g ∈ seen, G g) :
    ∀ o ∈ w.output s, ∃ seen, (∀ g ∈ seen, G g) ∧ Q seen o := by
  fun_induction output s w generalizing seen
  case case1 | case2 => simp
  case case3 o rest hi =>
    intro p hp
    rcases List.mem_cons.mp hp with rfl | hp
    · exact ⟨seen, found, h.left⟩
    · exact hi h.right found p hp
  case case4 hi => exact hi h found
  case case5 k hi => exact hi (h s) (List.forall_mem_cons.mpr ⟨here, found⟩)

theorem told_run (h : w.Vouches Q seen) (found : ∀ g ∈ seen, G g) :
    ∀ o ∈ (w.run s).1, ∃ seen, (∀ g ∈ seen, G g) ∧ Q seen o := by
  intro o ho
  refine told_output here h found o ?_
  rw [← output_run]
  exact List.mem_append_left _ ho

theorem rest_run (h : w.Vouches Q seen) (found : ∀ g ∈ seen, G g) {n : Nat} {rest : Work σ ω}
    (hr : (w.run s).2 = .asleep n rest) : ∃ seen, (∀ g ∈ seen, G g) ∧ rest.Vouches Q seen := by
  fun_induction run s w generalizing seen
  case case1 | case2 => cases hr
  case case3 hi => exact hi h.right found hr
  case case4 hi => exact hi h found hr
  case case5 =>
    cases hr
    exact ⟨seen, found, h⟩
  case case6 k hi => exact hi (h s) (List.forall_mem_cons.mpr ⟨here, found⟩) hr

end

end Work

namespace Scheduler

variable {ε σ ω : Type} {c : Conduct ε σ ω} {s : Scheduler ε σ ω}

theorem mem_tolds_iff {hs : List (Happening ε ω)} {e : ε} {o : ω} :
    (e, o) ∈ tolds hs ↔ .told e o ∈ hs := by
  rw [tolds, List.mem_filterMap]
  constructor
  case mp =>
    rintro ⟨h, member, told⟩
    cases h <;> cases told
    exact member
  case mpr => exact fun member => ⟨_, member, rfl⟩

-- Whatever a delivery may find, its findings vouch for what it tells.
def Conduct.Vouched (c : Conduct ε σ ω) (Q : ε → List σ → ω → Prop) : Prop :=
  ∀ tick e, (c.work tick e).Vouches (Q e) []

-- An event of some kind, about which something is told that findings of some kind vouch for.
def Backed (A : ε → Prop) (Q : ε → List σ → ω → Prop) (G : ε → σ → Prop) (e : ε) (o : ω) : Prop :=
  A e ∧ ∃ seen, (∀ g ∈ seen, G e g) ∧ Q e seen o

def Running.Backed (A : ε → Prop) (Q : ε → List σ → ω → Prop) (G : ε → σ → Prop)
    (r : Running ε σ ω) : Prop :=
  A r.event ∧ ∃ seen, (∀ g ∈ seen, G r.event g) ∧ r.rest.Vouches (Q r.event) seen

theorem Running.Backed.imp {A B : ε → Prop} {Q : ε → List σ → ω → Prop} {F G : ε → σ → Prop}
    {r : Running ε σ ω} (h : r.Backed A Q F) (hA : ∀ e, A e → B e) (hF : ∀ e g, F e g → G e g) :
    r.Backed B Q G := by
  obtain ⟨accepted, seen, found, vouched⟩ := h
  exact ⟨hA _ accepted, seen, fun g hg => hF _ g (found g hg), vouched⟩

-- What holds of the deliveries that run and of what happens, while the state does not change.
structure Kept (A : ε → Prop) (Q : ε → List σ → ω → Prop) (G : ε → σ → Prop) (state : σ)
    (rs : List (Running ε σ ω)) (hs : List (Happening ε ω)) : Prop where
  running : ∀ r ∈ rs, r.Backed A Q G ∧ G r.event state
  told    : ∀ x ∈ tolds hs, Backed A Q G x.1 x.2

section

variable {A : ε → Prop} {Q : ε → List σ → ω → Prop} {G : ε → σ → Prop}

theorem Kept.append {state : σ} {rs ss : List (Running ε σ ω)} {gs hs : List (Happening ε ω)}
    (h : Kept A Q G state rs gs) (h' : Kept A Q G state ss hs) :
    Kept A Q G state (rs ++ ss) (gs ++ hs) where
  running := List.forall_mem_append.mpr ⟨h.running, h'.running⟩
  told := by
    rw [tolds_append]
    exact List.forall_mem_append.mpr ⟨h.told, h'.told⟩

theorem Kept.flatMap {α : Type} {state : σ} {xs : List α}
    {f : α → List (Running ε σ ω) × List (Happening ε ω)}
    (h : ∀ x ∈ xs, Kept A Q G state (f x).1 (f x).2) :
    Kept A Q G state ((xs.map f).flatMap (·.1)) ((xs.map f).flatMap (·.2)) := by
  induction xs
  case nil => exact ⟨List.forall_mem_nil _, List.forall_mem_nil _⟩
  case cons x xs hi =>
    have ⟨first, rest⟩ := List.forall_mem_cons.mp h
    exact first.append (hi rest)

theorem kept_proceed (now started : Nat) {e : ε} {w : Work σ ω} {seen : List σ} (accepted : A e)
    (h : w.Vouches (Q e) seen) (found : ∀ g ∈ seen, G e g) (here : G e c.state) :
    Kept A Q G c.state (proceed c now e started w).1 (proceed c now e started w).2 := by
  have told : ∀ x ∈ ((w.run c.state).1.map (e, ·)), Backed A Q G x.1 x.2 := by
    intro x hx
    obtain ⟨o, ho, rfl⟩ := List.mem_map.mp hx
    exact ⟨accepted, Work.told_run here h found o ho⟩
  unfold proceed
  split
  case h_1 => exact ⟨List.forall_mem_nil _, by simpa [tolds, List.filterMap_map] using told⟩
  case h_2 n rest hr =>
    refine ⟨fun r hm => ?_, by simpa [tolds, List.filterMap_map] using told⟩
    cases List.mem_singleton.mp hm
    exact ⟨⟨accepted, Work.rest_run here h found hr⟩, here⟩

theorem kept_start (vouched : c.Vouched Q) {now : Nat} {t : Timer ε} (accepted : A t.event)
    (here : G t.event c.state) : Kept A Q G c.state (start c now t).1 (start c now t).2 := by
  have := kept_proceed now now accepted (vouched now t.event)
    (List.forall_mem_nil _) here
  exact ⟨this.running, this.told⟩

theorem kept_resume {now : Nat} {r : Running ε σ ω} (backed : r.Backed A Q G)
    (here : G r.event c.state) : Kept A Q G c.state (resume c now r).1 (resume c now r).2 := by
  unfold resume
  by_cases awake : r.wake ≤ now
  case pos =>
    obtain ⟨accepted, seen, found, h⟩ := backed
    rw [if_pos awake]
    exact kept_proceed now r.started accepted h found here
  case neg =>
    rw [if_neg awake]
    exact ⟨List.forall_mem_singleton.mpr ⟨backed, here⟩, List.forall_mem_nil _⟩

theorem kept_fire (vouched : c.Vouched Q) (accepted : ∀ t ∈ s.timers, A t.event)
    (h : Kept A Q G c.state s.running []) (here : ∀ x ∈ starts (s.fire c).2, G x.2 c.state) :
    Kept A Q G c.state (s.fire c).1.running (s.fire c).2 := by
  refine h.append (Kept.flatMap fun t ht => ?_)
  refine kept_start vouched (accepted t (List.mem_of_mem_filter ht)) (here (s.now, t.event) ?_)
  rw [starts_fire]
  exact List.mem_map_of_mem ht

theorem kept_wake (h : Kept A Q G c.state s.running []) :
    Kept A Q G c.state (s.wake c).1.running (s.wake c).2 :=
  Kept.flatMap fun r hr => kept_resume (h.running r hr).left (h.running r hr).right

theorem kept_tick (vouched : c.Vouched Q) (accepted : ∀ t ∈ s.timers, A t.event)
    (h : Kept A Q G c.state s.running []) (here : ∀ x ∈ starts (s.tick c).2, G x.2 c.state) :
    Kept A Q G c.state (s.tick c).1.running (s.tick c).2 := by
  let late := s.fire c
  let woken := wake c { late.1 with now := s.now + 1 }
  let due := woken.1.fire c
  have eq : s.tick c = (due.1, late.2 ++ woken.2 ++ due.2) := tick_eq s
  simp only [eq, starts_append, List.mem_append] at here ⊢
  have first : Kept A Q G c.state late.1.running late.2 :=
    kept_fire vouched accepted h fun x hx => here x (.inl (.inl hx))
  have second : Kept A Q G c.state woken.1.running woken.2 := kept_wake ⟨first.running, List.forall_mem_nil _⟩
  have left : ∀ t ∈ woken.1.timers, A t.event := fun t ht => accepted t (List.mem_of_mem_filter ht)
  have third : Kept A Q G c.state due.1.running due.2 :=
    kept_fire vouched left ⟨second.running, List.forall_mem_nil _⟩ fun x hx => here x (.inr hx)
  refine ⟨third.running, ?_⟩
  simp only [tolds_append, List.forall_mem_append]
  exact ⟨⟨first.told, second.told⟩, third.told⟩

theorem kept_ticks (vouched : c.Vouched Q) (accepted : ∀ t ∈ s.timers, A t.event)
    (h : Kept A Q G c.state s.running []) {n : Nat}
    (here : ∀ x ∈ starts (ticks c n s).2, G x.2 c.state) :
    Kept A Q G c.state (ticks c n s).1.running (ticks c n s).2 := by
  induction n generalizing s
  case zero => exact ⟨h.running, List.forall_mem_nil _⟩
  case succ n hi =>
    simp only [ticks, starts_append, List.mem_append] at here ⊢
    have first := kept_tick vouched accepted h fun x hx => here x (.inl hx)
    have left : ∀ t ∈ (s.tick c).1.timers, A t.event := by
      rw [timers_tick]
      exact fun t ht => accepted t (List.mem_of_mem_filter ht)
    have rest := hi left ⟨first.running, List.forall_mem_nil _⟩ fun x hx => here x (.inr hx)
    refine ⟨rest.running, ?_⟩
    rw [tolds_append]
    exact List.forall_mem_append.mpr ⟨first.told, rest.told⟩

-- Closing cancels the timers and lets the deliveries that run go on.
theorem kept_close (vouched : c.Vouched Q) (h : Kept A Q G c.state s.running []) :
    Kept A Q G c.state (s.close c).1.running (s.close c).2 := by
  let cancelled : Scheduler ε σ ω := { s with timers := [], closed := true }
  have eq : s.close c = ticks c (cancelled.remaining c.state) cancelled := advance_eq_ticks ..
  have none := starts_close (c := c) s
  rw [eq] at none ⊢
  have left : ∀ t ∈ cancelled.timers, A t.event := List.forall_mem_nil _
  refine kept_ticks vouched left h ?_
  rw [none]
  exact List.forall_mem_nil _

end

end Scheduler

end RefWatch
