import RefWatch.Proofs.Clock

namespace RefWatch

namespace Work

variable {σ ω : Type}

-- What a rest takes and how it ends, measured by the work that led to it.
theorem run_rest (s : σ) (w : Work σ ω) :
    match (w.run s).2 with
    | .finished f => w.duration s = 0 ∧ w.fails s = f
    | .asleep n rest => 0 < n ∧ w.duration s = n + rest.duration s ∧ w.fails s = rest.fails s := by
  fun_induction run s w
  case case1 | case2 => exact ⟨rfl, rfl⟩
  case case3 hi => simpa only [duration, fails] using hi
  case case4 hi => simpa only [duration, fails, Nat.zero_add] using hi
  case case5 => exact ⟨Nat.succ_pos _, rfl, rfl⟩
  case case6 hi => simpa only [duration, fails] using hi

end Work

namespace Scheduler

open List

variable {ε σ ω : Type} {c : Conduct ε σ ω} {s : Scheduler ε σ ω}

-- No delivery has slept its time out.
def Asleep (s : Scheduler ε σ ω) : Prop := ∀ r ∈ s.running, s.now < r.wake

theorem lt_wake_of_mem_proceed {now started : Nat} {e : ε} {w : Work σ ω} :
    ∀ r ∈ (proceed c now e started w).1, now < r.wake := by
  have rest := w.run_rest c.state
  unfold proceed
  split
  case h_1 => exact forall_mem_nil _
  case h_2 n w' h =>
    rw [h] at rest
    exact forall_mem_singleton.mpr (Nat.lt_add_of_pos_right rest.left)

theorem asleep_fire (h : s.Asleep) : (s.fire c).1.Asleep := by
  intro r hr
  rcases mem_append.mp hr with hr | hr
  case inl => exact h r hr
  case inr =>
    obtain ⟨_, hb, hr⟩ := mem_flatMap.mp hr
    obtain ⟨t, -, rfl⟩ := mem_map.mp hb
    exact lt_wake_of_mem_proceed r hr

theorem asleep_wake (s : Scheduler ε σ ω) : (s.wake c).1.Asleep := by
  intro r hr
  obtain ⟨_, hb, hr⟩ := mem_flatMap.mp hr
  obtain ⟨r', -, rfl⟩ := mem_map.mp hb
  unfold resume at hr
  split at hr
  case isTrue => exact lt_wake_of_mem_proceed r hr
  case isFalse later =>
    cases mem_singleton.mp hr
    exact Nat.lt_of_not_le later

theorem asleep_tick (s : Scheduler ε σ ω) : (s.tick c).1.Asleep :=
  asleep_fire (asleep_wake _)

theorem asleep_ticks (h : s.Asleep) (n : Nat) : (ticks c n s).1.Asleep := by
  induction n generalizing s
  case zero => exact h
  case succ n hi => exact hi (asleep_tick s)

-- What one stretch of time leaves owing the next takes over.
theorem carry {α : Type} {settled settled' owed owed' owing ordered ordered' : List α}
    (first : settled ++ owed ~ owing ++ ordered) (next : settled' ++ owed' ~ owed ++ ordered') :
    (settled ++ settled') ++ owed' ~ owing ++ (ordered ++ ordered') :=
  calc
    _ = settled ++ (settled' ++ owed') := append_assoc ..
    _ ~ settled ++ (owed ++ ordered') := next.append_left _
    _ = (settled ++ owed) ++ ordered' := (append_assoc ..).symm
    _ ~ (owing ++ ordered) ++ ordered' := first.append_right _
    _ = _ := append_assoc ..

structure Ledger (c : Conduct ε σ ω) (β : Type) where
  settled  : Happening ε ω → Option β
  owed     : Running ε σ ω → List β
  ordered  : Nat × ε → List β
  -- Whether it takes for granted that deliveries are woken in time.
  punctual : Prop
  start    : ∀ now t, (start c now t).2.filterMap settled ++ (start c now t).1.flatMap owed ~
    ordered (now, t.event)
  resume   : ∀ now r, (punctual → now ≤ r.wake) →
    (resume c now r).2.filterMap settled ++ (resume c now r).1.flatMap owed ~ owed r

namespace Ledger

variable {β : Type} (L : Ledger c β)

theorem fire (s : Scheduler ε σ ω) :
    (s.fire c).2.filterMap L.settled ++ (s.fire c).1.running.flatMap L.owed ~
      s.running.flatMap L.owed ++ (starts (s.fire c).2).flatMap L.ordered := by
  let due := s.timers.filter (·.isDue s.now)
  have settled : (s.fire c).2.filterMap L.settled =
      due.flatMap fun t => (Scheduler.start c s.now t).2.filterMap L.settled := by
    simp [Scheduler.fire, filterMap_flatMap, flatMap_map, due]
  have left : (s.fire c).1.running.flatMap L.owed = s.running.flatMap L.owed ++
      due.flatMap fun t => (Scheduler.start c s.now t).1.flatMap L.owed := by
    simp [Scheduler.fire, flatMap_assoc, flatMap_map, due]
  have ordered : (starts (s.fire c).2).flatMap L.ordered =
      due.flatMap fun t => L.ordered (s.now, t.event) := by
    simp [starts_fire, flatMap_map, due]
  rw [settled, left, ordered]
  calc
    _ ~ s.running.flatMap L.owed ++
          (due.flatMap (fun t => (Scheduler.start c s.now t).2.filterMap L.settled) ++
            due.flatMap fun t => (Scheduler.start c s.now t).1.flatMap L.owed) :=
      perm_append_comm_assoc ..
    _ ~ s.running.flatMap L.owed ++ due.flatMap fun t =>
          (Scheduler.start c s.now t).2.filterMap L.settled ++
            (Scheduler.start c s.now t).1.flatMap L.owed :=
      (flatMap_append_perm ..).append_left _
    _ ~ _ := (Perm.flatMap_left _ fun t _ => L.start s.now t).append_left _

theorem wake (h : L.punctual → ∀ r ∈ s.running, s.now ≤ r.wake) :
    (s.wake c).2.filterMap L.settled ++ (s.wake c).1.running.flatMap L.owed ~
      s.running.flatMap L.owed := by
  have settled : (s.wake c).2.filterMap L.settled =
      s.running.flatMap fun r => (Scheduler.resume c s.now r).2.filterMap L.settled := by
    simp [Scheduler.wake, filterMap_flatMap, flatMap_map]
  have left : (s.wake c).1.running.flatMap L.owed =
      s.running.flatMap fun r => (Scheduler.resume c s.now r).1.flatMap L.owed := by
    simp [Scheduler.wake, flatMap_assoc, flatMap_map]
  rw [settled, left]
  calc
    _ ~ s.running.flatMap fun r => (Scheduler.resume c s.now r).2.filterMap L.settled ++
          (Scheduler.resume c s.now r).1.flatMap L.owed := flatMap_append_perm ..
    _ ~ _ := Perm.flatMap_left _ fun r hr => L.resume s.now r fun p => h p r hr

theorem tick (h : L.punctual → s.Asleep) :
    (s.tick c).2.filterMap L.settled ++ (s.tick c).1.running.flatMap L.owed ~
      s.running.flatMap L.owed ++ (starts (s.tick c).2).flatMap L.ordered := by
  let late := s.fire c
  let woken := Scheduler.wake c { late.1 with now := s.now + 1 }
  let due := woken.1.fire c
  have first := L.fire s
  have second : woken.2.filterMap L.settled ++ woken.1.running.flatMap L.owed ~
      late.1.running.flatMap L.owed ++ [] := by
    rw [append_nil]
    exact L.wake fun p r hr => Nat.succ_le_of_lt (asleep_fire (h p) r hr)
  have third := L.fire woken.1
  have started : starts (s.tick c).2 = starts late.2 ++ [] ++ starts due.2 := by
    simp [tick_eq, starts_append, starts_wake, late, due, woken]
  have settled : (s.tick c).2.filterMap L.settled =
      late.2.filterMap L.settled ++ woken.2.filterMap L.settled ++ due.2.filterMap L.settled := by
    simp [tick_eq, filterMap_append, late, due, woken]
  rw [started, settled, flatMap_append, flatMap_append]
  exact carry (carry first second) third

theorem ticks (h : L.punctual → s.Asleep) (n : Nat) :
    (ticks c n s).2.filterMap L.settled ++ (ticks c n s).1.running.flatMap L.owed ~
      s.running.flatMap L.owed ++ (starts (ticks c n s).2).flatMap L.ordered := by
  induction n generalizing s
  case zero => simp [Scheduler.ticks, starts]
  case succ n hi =>
    simp only [Scheduler.ticks, filterMap_append, starts_append, flatMap_append]
    exact carry (L.tick h) (hi fun _ => asleep_tick s)

end Ledger

end Scheduler

end RefWatch
