import RefWatch.Proofs.Ledger
import RefWatch.Proofs.Moves

namespace RefWatch.Scheduler

open List

variable {ε σ ω : Type} {c : Conduct ε σ ω} {s : Scheduler ε σ ω} {ms : List (Move ε σ ω)}

-- The end of a delivery.
structure Ending (ε : Type) where
  started : Nat
  tick : Nat
  event : ε
  failed : Bool

def Happening.ending? : Happening ε ω → Option (Ending ε)
  | ended begun tick e failed => some ⟨begun, tick, e, failed⟩
  | _ => none

def endings (hs : List (Happening ε ω)) : List (Ending ε) := hs.filterMap Happening.ending?

theorem endings_append (gs hs : List (Happening ε ω)) :
    endings (gs ++ hs) = endings gs ++ endings hs :=
  filterMap_append

-- What tells deliveries apart as far as they can be told apart: when they started, and their event.
def Ending.mark (x : Ending ε) : Nat × ε := (x.started, x.event)

def Running.mark (r : Running ε σ ω) : Nat × ε := (r.started, r.event)

theorem endings_proceed (now : Nat) (e : ε) (started : Nat) (w : Work σ ω) :
    endings (proceed c now e started w).2 =
      match (w.run c.state).2 with
      | .finished failed => [⟨started, now, e, failed⟩]
      | .asleep .. => [] := by
  have told (os : List ω) : (os.map (Happening.told e)).filterMap Happening.ending? = [] := by
    induction os
    case nil => rfl
    case cons o os hi => exact hi
  unfold proceed
  split <;> simp_all [endings, Happening.ending?]

-- When and how a delivery that sleeps is going to end.
def Running.ending (state : σ) (r : Running ε σ ω) : Ending ε :=
  ⟨r.started, r.wake + r.rest.duration state, r.event, r.rest.fails state⟩

-- When and how a delivery that starts at a tick is going to end.
def Conduct.ending (c : Conduct ε σ ω) (start : Nat × ε) : Ending ε :=
  let w := c.work start.1 start.2
  ⟨start.1, start.1 + w.duration c.state, start.2, w.fails c.state⟩

theorem ending_proceed (now : Nat) (e : ε) (started : Nat) (w : Work σ ω) :
    endings (proceed c now e started w).2 ++
        (proceed c now e started w).1.flatMap (fun r => [r.ending c.state]) =
      [⟨started, now + w.duration c.state, e, w.fails c.state⟩] := by
  have rest := w.run_rest c.state
  rw [endings_proceed]
  unfold proceed
  cases h : (w.run c.state).2
  case finished f =>
    obtain ⟨none, fails⟩ : w.duration c.state = 0 ∧ w.fails c.state = f := by simpa [h] using rest
    simp [none, fails]
  case asleep n w' =>
    obtain ⟨-, all, fails⟩ : 0 < n ∧ w.duration c.state = n + w'.duration c.state ∧
      w.fails c.state = w'.fails c.state := by simpa [h] using rest
    simp [Running.ending, all, fails, Nat.add_assoc]

def endingLedger (c : Conduct ε σ ω) : Ledger c (Ending ε) where
  settled := Happening.ending?
  owed r := [r.ending c.state]
  ordered x := [c.ending x]
  punctual := True
  start now t := .of_eq (ending_proceed now t.event now (c.work now t.event))
  resume now r h := by
    unfold resume
    split
    case isTrue awake =>
      have woken : now = r.wake := Nat.le_antisymm (h trivial) awake
      exact .of_eq (woken ▸ ending_proceed now r.event r.started r.rest)
    case isFalse => rfl

-- Each delivery ends as it is bound to by its own work, whatever the others do.
theorem endings_ticks (h : s.Asleep) (n : Nat) :
    endings (ticks c n s).2 ++ (ticks c n s).1.running.map (·.ending c.state) ~
      s.running.map (·.ending c.state) ++ (starts (ticks c n s).2).map c.ending := by
  have added := (endingLedger c).ticks (fun _ => h) n
  simp only [endingLedger, ← map_eq_flatMap] at added
  exact added

theorem marks_ticks (h : s.Asleep) (n : Nat) :
    (endings (ticks c n s).2).map Ending.mark ++ (ticks c n s).1.running.map Running.mark ~
      s.running.map Running.mark ++ starts (ticks c n s).2 := by
  have marks := (endings_ticks (c := c) h n).map Ending.mark
  have same : Ending.mark ∘ c.ending = id := rfl
  simp only [map_append, map_map, same, map_id] at marks
  exact marks

theorem tick_of_mem_endings_proceed {now started : Nat} {e : ε} {w : Work σ ω} {x : Ending ε}
    (h : x ∈ endings (proceed c now e started w).2) : x.tick = now := by
  rw [endings_proceed] at h
  split at h
  case h_1 =>
    cases mem_singleton.mp h
    rfl
  case h_2 => cases h

theorem tick_of_mem_endings_fire {x : Ending ε} (h : x ∈ endings (s.fire c).2) : x.tick = s.now := by
  simp only [fire, endings, filterMap_flatMap, flatMap_map, mem_flatMap] at h
  obtain ⟨t, -, h⟩ := h
  exact tick_of_mem_endings_proceed (w := c.work s.now t.event) h

theorem tick_of_mem_endings_wake {x : Ending ε} (h : x ∈ endings (s.wake c).2) : x.tick = s.now := by
  simp only [wake, endings, filterMap_flatMap, flatMap_map, mem_flatMap] at h
  obtain ⟨r, -, h⟩ := h
  unfold resume at h
  split at h
  case isTrue => exact tick_of_mem_endings_proceed h
  case isFalse => cases h

theorem tick_le_of_mem_endings_tick {x : Ending ε} (h : x ∈ endings (s.tick c).2) :
    x.tick ≤ s.now + 1 := by
  rw [tick_eq, endings_append, endings_append, mem_append, mem_append] at h
  rcases h with (late | woken) | due
  case inl.inl => exact Nat.le_succ_of_le (Nat.le_of_eq (tick_of_mem_endings_fire late))
  case inl.inr => exact Nat.le_of_eq (tick_of_mem_endings_wake woken)
  case inr => exact Nat.le_of_eq (tick_of_mem_endings_fire due)

theorem tick_le_of_mem_endings_ticks {n : Nat} {x : Ending ε} (h : x ∈ endings (ticks c n s).2) :
    x.tick ≤ s.now + n := by
  induction n generalizing s
  case zero => cases h
  case succ n hi =>
    rw [ticks, endings_append] at h
    rcases mem_append.mp h with first | rest
    case inl => exact Nat.le_trans (tick_le_of_mem_endings_tick first) (by omega)
    case inr =>
      have := hi rest
      rw [now_tick] at this
      omega

-- The moment of a closing: what is armed is cancelled, and nothing is armed any more.
def shut (s : Scheduler ε σ ω) : Scheduler ε σ ω := { s with timers := [], closed := true }

theorem close_eq (s : Scheduler ε σ ω) :
    s.close c = ticks c (s.shut.remaining c.state) s.shut :=
  advance_eq_ticks ..

-- The deliveries do what they do, as far as a move lets them do anything.
def Move.Under (c : Conduct ε σ ω) : Move ε σ ω → Prop
  | schedule .. => True
  | advance c' _ | close c' => c' = c

-- A move leaves alone what is under way, or it lets some time pass.
theorem move_cases (s : Scheduler ε σ ω) (m : Move ε σ ω) :
    (∃ ts, s.move m = ({ s with timers := ts }, [])) ∨
      ∃ c n ts b, s.move m = ticks c n { s with timers := ts, closed := b } ∧
        ∀ c', m.Under c' → c = c' := by
  cases m
  case schedule e d =>
    rcases move_schedule s e d with h | h
    case inl => exact .inl ⟨_, h⟩
    case inr => exact .inl ⟨s.timers, h⟩
  case advance c n => exact .inr ⟨c, n, s.timers, s.closed, advance_eq_ticks n s, fun _ h => h⟩
  case close c => exact .inr ⟨c, _, [], true, close_eq s, fun _ h => h⟩

theorem asleep_move (h : s.Asleep) (m : Move ε σ ω) : (s.move m).1.Asleep := by
  rcases move_cases s m with ⟨ts, same⟩ | ⟨c, n, ts, b, passes, -⟩
  case inl => rwa [same]
  case inr =>
    have asleep : Asleep { s with timers := ts, closed := b } := h
    rw [passes]
    exact asleep_ticks asleep n

theorem asleep_empty : Asleep ({} : Scheduler ε σ ω) := forall_mem_nil _

theorem asleep_run (h : s.Asleep) (ms : List (Move ε σ ω)) : (s.run ms).1.Asleep := by
  induction ms generalizing s
  case nil => exact h
  case cons m ms hi => exact hi (asleep_move h m)

theorem now_le_move (s : Scheduler ε σ ω) (m : Move ε σ ω) : s.now ≤ (s.move m).1.now := by
  rcases move_cases s m with ⟨ts, same⟩ | ⟨c, n, ts, b, passes, -⟩
  case inl => exact same ▸ Nat.le_refl s.now
  case inr =>
    rw [passes, now_ticks]
    exact Nat.le_add_right ..

theorem now_le_run (s : Scheduler ε σ ω) (ms : List (Move ε σ ω)) : s.now ≤ (s.run ms).1.now := by
  induction ms generalizing s
  case nil => exact Nat.le_refl _
  case cons m ms hi => exact Nat.le_trans (now_le_move s m) (hi _)

theorem tick_le_of_mem_endings_move {m : Move ε σ ω} {x : Ending ε} (h : x ∈ endings (s.move m).2) :
    x.tick ≤ (s.move m).1.now := by
  rcases move_cases s m with ⟨ts, same⟩ | ⟨c, n, ts, b, passes, -⟩
  case inl =>
    rw [same] at h
    cases h
  case inr =>
    rw [passes] at h
    rw [passes, now_ticks]
    exact tick_le_of_mem_endings_ticks h

theorem tick_le_of_mem_endings_run {x : Ending ε} (h : x ∈ endings (s.run ms).2) :
    x.tick ≤ (s.run ms).1.now := by
  induction ms generalizing s
  case nil => cases h
  case cons m ms hi =>
    rw [run, endings_append] at h
    rcases mem_append.mp h with first | rest
    case inl => exact Nat.le_trans (tick_le_of_mem_endings_move first) (now_le_run ..)
    case inr => exact hi rest

theorem marks_move (h : s.Asleep) (m : Move ε σ ω) :
    (endings (s.move m).2).map Ending.mark ++ (s.move m).1.running.map Running.mark ~
      s.running.map Running.mark ++ starts (s.move m).2 := by
  rcases move_cases s m with ⟨ts, same⟩ | ⟨c, n, ts, b, passes, -⟩
  case inl => simp [same, endings, starts]
  case inr =>
    have asleep : Asleep { s with timers := ts, closed := b } := h
    rw [passes]
    exact marks_ticks asleep n

-- Of the deliveries of a run each has ended or is under way.
theorem marks_run (h : s.Asleep) (ms : List (Move ε σ ω)) :
    (endings (s.run ms).2).map Ending.mark ++ (s.run ms).1.running.map Running.mark ~
      s.running.map Running.mark ++ starts (s.run ms).2 := by
  induction ms generalizing s
  case nil => simp [run, endings, starts]
  case cons m ms hi =>
    simp only [run, endings_append, starts_append, map_append]
    exact carry (marks_move h m) (hi (asleep_move h m))

theorem endings_move (h : s.Asleep) {m : Move ε σ ω} (hm : m.Under c) :
    endings (s.move m).2 ++ (s.move m).1.running.map (·.ending c.state) ~
      s.running.map (·.ending c.state) ++ (starts (s.move m).2).map c.ending := by
  rcases move_cases s m with ⟨ts, same⟩ | ⟨c', n, ts, b, passes, own⟩
  case inl => simp [same, endings, starts]
  case inr =>
    have asleep : Asleep { s with timers := ts, closed := b } := h
    rw [passes, own c hm]
    exact endings_ticks asleep n

-- As long as deliveries do what they were to do when they started, each ends as it was bound to.
theorem endings_run (h : s.Asleep) (hm : ∀ m ∈ ms, m.Under c) :
    endings (s.run ms).2 ++ (s.run ms).1.running.map (·.ending c.state) ~
      s.running.map (·.ending c.state) ++ (starts (s.run ms).2).map c.ending := by
  induction ms generalizing s
  case nil => simp [run, endings, starts]
  case cons m ms hi =>
    obtain ⟨first, rest⟩ := forall_mem_cons.mp hm
    simp only [run, endings_append, starts_append, map_append]
    exact carry (endings_move h first) (hi (asleep_move h m) rest)

-- Of the deliveries that have started, those have ended whose time has come.
theorem endings_run_eq (hm : ∀ m ∈ ms, m.Under c) :
    endings (run {} ms).2 ~
      ((starts (run {} ms).2).map c.ending).filter (·.tick ≤ (run {} ms).1.now) := by
  have all := (endings_run (c := c) asleep_empty hm).filter (·.tick ≤ (run {} ms).1.now)
  have ended : (endings (run {} ms).2).filter (·.tick ≤ (run {} ms).1.now) = endings (run {} ms).2 :=
    filter_eq_self.mpr fun x hx => decide_eq_true (tick_le_of_mem_endings_run hx)
  have asleep : ((run {} ms).1.running.map (·.ending c.state)).filter
      (·.tick ≤ (run {} ms).1.now) = [] := by
    refine filter_eq_nil_iff.mpr fun x hx => ?_
    obtain ⟨r, hr, rfl⟩ := mem_map.mp hx
    have later : (run {} ms).1.now < r.wake := asleep_run asleep_empty ms r hr
    have ends : (r.ending c.state).tick = r.wake + r.rest.duration c.state := rfl
    rw [decide_eq_true_eq]
    omega
  rwa [filter_append, ended, asleep, append_nil] at all

end RefWatch.Scheduler
