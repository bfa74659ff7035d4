import Mathlib.Data.Set.Card
import RefWatch.Proofs.Calls

namespace RefWatch.Scheduler

open List

variable {ε σ ω : Type} {c : Conduct ε σ ω} {ms pre post : List (Move ε σ ω)} {i : Nat} {e : ε}
  {d : Delay}

-- The scheduler after some moves of a run.
def after (ms : List (Move ε σ ω)) (i : Nat) : Scheduler ε σ ω := (run {} (ms.take i)).1

structure Accepted (ms : List (Move ε σ ω)) (i : Nat) (e : ε) (d : Delay) : Prop where
  call : ms[i]? = some (.schedule e d)
  early : (ms.take i).any Move.isClose = false
  returns : ∃ s, (after ms i).schedule e d = .ok s

-- After a call and before a closing, the clock moves, to some tick or past it.
def Reaches (ms : List (Move ε σ ω)) (i due : Nat) : Prop :=
  ∃ j, i < j ∧ (ms.take j).any Move.isClose = false ∧
    (after ms i).now < (after ms j).now ∧ due ≤ (after ms j).now

-- The timers of a call, and its starts.
def pendingOf (ms : List (Move ε σ ω)) (i : Nat) : List (Timer (Nat × ε)) :=
  (trace ms).1.timers.filter (·.event.1 == i)

def startsOf (ms : List (Move ε σ ω)) (i : Nat) : List (Nat × Nat × ε) :=
  (starts (trace ms).2).filter (·.2.1 == i)

inductive Fate
  | pending
  | started
  | cancelled

def Meets (ms : List (Move ε σ ω)) (i : Nat) : Fate → Prop
  | .pending => pendingOf ms i ≠ []
  | .started => startsOf ms i ≠ []
  | .cancelled => ∃ j c, ms[j]? = some (.close c) ∧ pendingOf (ms.take j) i ≠ []

theorem exists_split {m : Move ε σ ω} (h : ms[i]? = some m) :
    ∃ pre post, ms = pre ++ m :: post ∧ pre.length = i := by
  obtain ⟨hi, rfl⟩ := List.getElem?_eq_some_iff.mp h
  refine ⟨ms.take i, ms.drop (i + 1), ?_, by simp; omega⟩
  rw [← drop_eq_getElem_cons, take_append_drop]

theorem take_append_cons {α : Type} (pre post : List α) (m : α) (k : Nat) :
    (pre ++ m :: post).take (pre.length + (k + 1)) = pre ++ m :: post.take k := by
  rw [take_length_add_append, take_succ_cons]

theorem close_free_or (ms : List (Move ε σ ω)) :
    ms.any Move.isClose = false ∨
      ∃ xs c ys, ms = xs ++ .close c :: ys ∧ xs.any Move.isClose = false := by
  induction ms
  case nil => exact .inl rfl
  case cons m ms hi =>
    cases m
    case close c => exact .inr ⟨[], c, ms, rfl, rfl⟩
    all_goals
      rcases hi with h | ⟨xs, c, ys, rfl, h⟩
      · exact .inl (by simpa [Move.isClose] using h)
      · exact .inr ⟨_ :: xs, c, ys, rfl, by simpa [Move.isClose] using h⟩

theorem exists_open_part (ms : List (Move ε σ ω)) :
    ∃ xs ys, ms = xs ++ ys ∧ xs.any Move.isClose = false ∧ elapsed xs = elapsed ms := by
  obtain h | ⟨xs, c, ys, rfl, h⟩ := close_free_or ms
  case inl => exact ⟨ms, [], (append_nil _).symm, h, rfl⟩
  case inr => exact ⟨xs, .close c :: ys, rfl, h, (elapsed_append_close ..).symm⟩

theorem elapsed_append (h : pre.any Move.isClose = false) (post : List (Move ε σ ω)) :
    elapsed (pre ++ post) = elapsed pre + elapsed post := by
  induction pre
  case nil => simp [elapsed]
  case cons m ms hi =>
    cases m
    case close c => cases h
    case schedule e d => exact hi h
    case advance c n =>
      have := hi h
      simp only [cons_append, elapsed]
      omega

theorem now_after (h : (ms.take i).any Move.isClose = false) :
    (after ms i).now = elapsed (ms.take i) :=
  (now_run h).trans (Nat.zero_add _)

theorem spares_numbered {k : Nat}
    (h : ∀ j e d, ms[j]? = some (.schedule e d) → k + j ≠ i) :
    Spares (fun e => e.1 == i) (numbered k ms) := by
  intro e d he
  obtain ⟨j, call, hj⟩ := mem_numbered he
  simpa [hj] using h j _ _ call

section
variable (h : ∀ e d, ms[i]? ≠ some (.schedule e d))
include h

theorem spares_of_no_call : Spares (fun e => e.1 == i) (numbered 0 ms) :=
  spares_numbered fun j e d call hj => h e d ((Nat.zero_add j).symm.trans hj ▸ call)

theorem pendingOf_of_no_call : pendingOf ms i = [] := by
  simp [pendingOf, trace, filter_timers_run (spares_of_no_call h)]

theorem startsOf_of_no_call : startsOf ms i = [] :=
  perm_nil.mp (filter_starts_run ahead_empty (spares_of_no_call h))

end

theorem no_call_of_length_le (h : ms.length ≤ i) (e : ε) (d : Delay) :
    ms[i]? ≠ some (.schedule e d) := by
  simp [getElem?_eq_none h]

-- Nothing is armed yet for the next call.
theorem next_not_armed (pre : List (Move ε σ ω)) :
    (trace pre).1.timers.filter (·.event.1 == pre.length) = [] :=
  pendingOf_of_no_call (no_call_of_length_le (Nat.le_refl _))

theorem next_not_started (pre : List (Move ε σ ω)) :
    (starts (trace pre).2).filter (·.2.1 == pre.length) = [] :=
  startsOf_of_no_call (no_call_of_length_le (Nat.le_refl _))

-- What a run does from some place on.
theorem trace_append_cons (pre post : List (Move ε σ ω)) (m : Move ε σ ω) :
    trace (pre ++ m :: post) =
      let s := (trace pre).1.move (m.numbered pre.length)
      let r := s.1.run (numbered (pre.length + 1) post)
      (r.1, (trace pre).2 ++ (s.2 ++ r.2)) := by
  simp [trace, numbered_append, run_append, numbered, run]

theorem pendingOf_append_cons (pre post : List (Move ε σ ω)) (m : Move ε σ ω) :
    pendingOf (pre ++ m :: post) pre.length =
      let s := ((trace pre).1.move (m.numbered pre.length)).1
      if post.any Move.isClose then []
      else (s.timers.filter (·.event.1 == pre.length)).filter
        (!·.reached s.now (elapsed post)) := by
  have spares : Spares (fun e => e.1 == pre.length) (numbered (pre.length + 1) post) :=
    spares_numbered fun j _ _ _ => by omega
  simp only [pendingOf, trace_append_cons, filter_timers_run spares, any_isClose_numbered,
    elapsed_numbered]

theorem ahead_trace (ms : List (Move ε σ ω)) : (trace ms).1.Ahead :=
  ahead_run ahead_empty _

theorem startsOf_append_cons (pre post : List (Move ε σ ω)) (m : Move ε σ ω)
    (quiet : starts ((trace pre).1.move (m.numbered pre.length)).2 = []) :
    startsOf (pre ++ m :: post) pre.length ~
      let s := ((trace pre).1.move (m.numbered pre.length)).1
      ((s.timers.filter (·.event.1 == pre.length)).filter
        (·.reached s.now (elapsed post))).map Timer.stamp := by
  have spares : Spares (fun e => e.1 == pre.length) (numbered (pre.length + 1) post) :=
    spares_numbered fun j _ _ _ => by omega
  have rest := filter_starts_run (ahead_move (ahead_trace pre) (m.numbered pre.length)) spares
  simp only [startsOf, trace_append_cons, starts_append, filter_append, next_not_started,
    quiet, nil_append]
  rwa [elapsed_numbered] at rest

theorem after_append_cons (pre post : List (Move ε σ ω)) (m : Move ε σ ω) :
    after (pre ++ m :: post) pre.length = (trace pre).1.map Prod.snd := by
  simp [after, run_eq_trace]

theorem accepted_iff (pre post : List (Move ε σ ω)) (e : ε) (d : Delay) :
    Accepted (pre ++ .schedule e d :: post) pre.length e d ↔
      (trace pre).1.closed = false ∧ ∃ s, (trace pre).1.schedule (pre.length, e) d = .ok s := by
  have closed : (trace pre).1.closed = pre.any Move.isClose :=
    (closed_run {} _).trans (any_isClose_numbered 0 pre)
  have named := schedule_map (f := Prod.snd) (trace pre).1 (pre.length, e) d
  constructor
  case mp =>
    rintro ⟨_, early, s, returns⟩
    refine ⟨closed.trans (by simpa using early), ?_⟩
    rw [after_append_cons, named] at returns
    cases h : (trace pre).1.schedule (pre.length, e) d
    case ok s => exact ⟨s, rfl⟩
    case error => simp [h, Except.map] at returns
  case mpr =>
    rintro ⟨opened, s, h⟩
    refine ⟨by simp, by simpa using closed.symm.trans opened, s.map Prod.snd, ?_⟩
    rw [after_append_cons, named, h]
    rfl

-- A call arms its event, or it is not accepted and does nothing.
theorem call_cases (pre post : List (Move ε σ ω)) (e : ε) (d : Delay) :
    let s := (trace pre).1
    (Accepted (pre ++ .schedule e d :: post) pre.length e d ∧
        s.move (.schedule (pre.length, e) d) =
          ({ s with timers := s.timers ++ [armed s.now (pre.length, e) d] }, [])) ∨
      (¬Accepted (pre ++ .schedule e d :: post) pre.length e d ∧
        s.move (.schedule (pre.length, e) d) = (s, [])) := by
  rw [accepted_iff]
  rcases schedule_cases (trace pre).1 (pre.length, e) d with ⟨opened, h⟩ | ⟨closed, h⟩ | ⟨r, h⟩
  · exact .inl ⟨⟨opened, _, h⟩, by simp [move, h, Except.toOption]⟩
  · exact .inr ⟨by simp [closed], by simp [move, h, Except.toOption]⟩
  · exact .inr ⟨by simp [h], by simp [move, h, Except.toOption]⟩

section
variable (h : Accepted (pre ++ .schedule e d :: post) pre.length e d)
include h

theorem armed_of_accepted :
    let r := (trace pre).1.move (Move.numbered pre.length (.schedule e d))
    r.2 = [] ∧ r.1.now = (trace pre).1.now ∧
      r.1.timers.filter (·.event.1 == pre.length) =
        [armed (trace pre).1.now (pre.length, e) d] := by
  obtain ⟨_, hm⟩ | ⟨hn, _⟩ := call_cases pre post e d
  case inr => exact absurd h hn
  rw [Move.numbered, hm]
  refine ⟨rfl, rfl, ?_⟩
  simp [next_not_armed, armed]

theorem pendingOf_accepted :
    pendingOf (pre ++ .schedule e d :: post) pre.length =
      let t := armed (trace pre).1.now (pre.length, e) d
      if post.any Move.isClose || t.reached (trace pre).1.now (elapsed post) then [] else [t] := by
  obtain ⟨_, now, timers⟩ := armed_of_accepted h
  rw [pendingOf_append_cons]
  simp only [timers, now, filter_cons, filter_nil]
  cases post.any Move.isClose <;> cases Timer.reached .. <;> rfl

theorem startsOf_accepted :
    startsOf (pre ++ .schedule e d :: post) pre.length =
      let t := armed (trace pre).1.now (pre.length, e) d
      if t.reached (trace pre).1.now (elapsed post) then [t.stamp] else [] := by
  obtain ⟨quiet, now, timers⟩ := armed_of_accepted h
  have starts := startsOf_append_cons pre post (.schedule e d) (by rw [quiet]; rfl)
  simp only [timers, now, filter_cons, filter_nil] at starts
  cases hr : Timer.reached (trace pre).1.now (elapsed post) (armed (trace pre).1.now (pre.length, e) d)
  case false => simpa [hr] using starts
  case true => simpa [hr] using starts

theorem meets_started_iff :
    Meets (pre ++ .schedule e d :: post) pre.length .started ↔
      (armed (trace pre).1.now (pre.length, e) d).reached (trace pre).1.now (elapsed post) := by
  simp [Meets, startsOf_accepted h]

theorem meets_pending_iff :
    Meets (pre ++ .schedule e d :: post) pre.length .pending ↔
      post.any Move.isClose = false ∧
        (armed (trace pre).1.now (pre.length, e) d).reached (trace pre).1.now (elapsed post) = false := by
  simp [Meets, pendingOf_accepted h]

end

-- What is accepted after some moves, is accepted whatever follows.
theorem Accepted.congr (h : Accepted (pre ++ .schedule e d :: post) pre.length e d)
    (post' : List (Move ε σ ω)) : Accepted (pre ++ .schedule e d :: post') pre.length e d := by
  rw [accepted_iff] at h ⊢
  exact h

theorem meets_cancelled_iff (h : Accepted (pre ++ .schedule e d :: post) pre.length e d) :
    Meets (pre ++ .schedule e d :: post) pre.length .cancelled ↔
      post.any Move.isClose ∧
        (armed (trace pre).1.now (pre.length, e) d).reached (trace pre).1.now (elapsed post) = false := by
  constructor
  case mp =>
    rintro ⟨j, c, close, pending⟩
    by_cases hj : j ≤ pre.length
    case pos => exact absurd (pendingOf_of_no_call (no_call_of_length_le (by simp; omega))) pending
    obtain ⟨k, rfl⟩ : ∃ k, j = pre.length + (k + 1) := ⟨j - pre.length - 1, by omega⟩
    have close : post[k]? = some (.close c) := by
      rwa [getElem?_append_right (Nat.le_add_right ..), Nat.add_sub_cancel_left] at close
    obtain ⟨xs, ys, rfl, rfl⟩ := exists_split close
    rw [take_append_cons, take_left] at pending
    have := ((meets_pending_iff (h.congr xs)).mp pending).2
    exact ⟨by simp [Move.isClose], by rwa [elapsed_append_close]⟩
  case mpr =>
    rintro ⟨closes, late⟩
    obtain opened | ⟨xs, c, ys, rfl, opened⟩ := close_free_or post
    case inl => simp [opened] at closes
    rw [elapsed_append_close] at late
    refine ⟨pre.length + (xs.length + 1), c, by simp, ?_⟩
    rw [take_append_cons, take_left]
    exact (meets_pending_iff (h.congr xs)).mpr ⟨opened, late⟩

theorem reached_armed {α : Type} {a : α} {now n : Nat} :
    (armed now a d).reached now n ↔ 0 < n ∧ ∃ k, ticksOf d.seconds = some k ∧ k ≤ n := by
  cases h : ticksOf d.seconds <;> simp [Timer.reached, Timer.isDue, armed, h]

theorem reaches_iff (h : pre.any Move.isClose = false) (k : Nat) :
    Reaches (pre ++ .schedule e d :: post) pre.length
        ((after (pre ++ .schedule e d :: post) pre.length).now + k) ↔
      0 < elapsed post ∧ k ≤ elapsed post := by
  have called : (after (pre ++ .schedule e d :: post) pre.length).now = elapsed pre := by
    rw [now_after (by simpa using h), take_left]
  have later (n : Nat) (hn : (post.take n).any Move.isClose = false) :
      (after (pre ++ .schedule e d :: post) (pre.length + (n + 1))).now =
        elapsed pre + elapsed (post.take n) := by
    have opened : ((pre ++ .schedule e d :: post).take (pre.length + (n + 1))).any Move.isClose = false := by
      simp [take_append_cons, h, hn, Move.isClose]
    rw [now_after opened, take_append_cons, elapsed_append h]
    rfl
  constructor
  case mp =>
    rintro ⟨j, hj, opened, moved, due⟩
    obtain ⟨n, rfl⟩ : ∃ n, j = pre.length + (n + 1) := ⟨j - pre.length - 1, by omega⟩
    have hn : (post.take n).any Move.isClose = false := by
      rw [take_append_cons] at opened
      simp_all
    have := elapsed_append_le (post.take n) (post.drop n)
    rw [take_append_drop] at this
    rw [called, later n hn] at moved due
    omega
  case mpr =>
    rintro ⟨moved, due⟩
    obtain ⟨xs, ys, rfl, opened, same⟩ := exists_open_part post
    have part : (xs ++ ys).take xs.length = xs := take_left
    refine ⟨pre.length + (xs.length + 1), by omega, ?_, ?_, ?_⟩
    · simp [take_append_cons, h, opened, Move.isClose]
    · rw [called, later _ (by rwa [part]), part]
      omega
    · rw [called, later _ (by rwa [part]), part]
      omega

theorem refused_cases (h : ¬∃ e d, Accepted ms i e d) :
    (∀ e d, ms[i]? ≠ some (.schedule e d)) ∨
      ∃ pre e d post, ms = pre ++ .schedule e d :: post ∧ pre.length = i ∧
        (trace pre).1.move (.schedule (pre.length, e) d) = ((trace pre).1, []) := by
  by_cases hc : ∃ e d, ms[i]? = some (.schedule e d)
  case neg => exact .inl fun e d call => hc ⟨e, d, call⟩
  obtain ⟨e, d, call⟩ := hc
  obtain ⟨pre, post, rfl, rfl⟩ := exists_split call
  obtain ⟨ha, _⟩ | ⟨_, hm⟩ := call_cases pre post e d
  case inl => exact absurd ⟨e, d, ha⟩ h
  case inr => exact .inr ⟨pre, e, d, post, rfl, rfl, hm⟩

theorem pendingOf_of_refused (h : ¬∃ e d, Accepted ms i e d) : pendingOf ms i = [] := by
  obtain hc | ⟨pre, e, d, post, rfl, rfl, hm⟩ := refused_cases h
  case inl => exact pendingOf_of_no_call hc
  case inr =>
    rw [pendingOf_append_cons, Move.numbered, hm]
    simp [next_not_armed]

theorem startsOf_of_refused (h : ¬∃ e d, Accepted ms i e d) : startsOf ms i = [] := by
  obtain hc | ⟨pre, e, d, post, rfl, rfl, hm⟩ := refused_cases h
  case inl => exact startsOf_of_no_call hc
  case inr =>
    have starts := startsOf_append_cons pre post (.schedule e d) (by rw [Move.numbered, hm]; rfl)
    rw [Move.numbered, hm] at starts
    simpa [next_not_armed] using starts

theorem accepted_of_take {j : Nat} (h : Accepted (ms.take j) i e d) : Accepted ms i e d := by
  have hj : i < j := by
    have := (List.getElem?_eq_some_iff.mp h.call).1
    simp at this
    omega
  have part : (ms.take j).take i = ms.take i := by rw [take_take, Nat.min_eq_left (Nat.le_of_lt hj)]
  have same : after (ms.take j) i = after ms i := by rw [after, part, after]
  exact ⟨getElem?_take_of_lt hj ▸ h.call, part ▸ h.early, same ▸ h.returns⟩

theorem not_meets_of_refused (h : ¬∃ e d, Accepted ms i e d) (f : Fate) : ¬Meets ms i f := by
  cases f
  case pending => exact not_not.mpr (pendingOf_of_refused h)
  case started => exact not_not.mpr (startsOf_of_refused h)
  case cancelled =>
    rintro ⟨j, _, _, hp⟩
    exact hp (pendingOf_of_refused fun ⟨e, d, ha⟩ => h ⟨e, d, accepted_of_take ha⟩)

structure ExactlyOnce (ms : List (Move ε σ ω)) : Prop where
  -- Numbering the calls changes nothing.
  same : run {} ms = ((trace ms).1.map Prod.snd, (trace ms).2.map (·.map Prod.snd))
  fate : ∀ i e d, Accepted ms i e d → ∃! f, Meets ms i f
  started_iff : ∀ i e d, Accepted ms i e d →
    (Meets ms i .started ↔
      ∃ k, ticksOf d.seconds = some k ∧ Reaches ms i ((after ms i).now + k))
  once : ∀ i e d, Accepted ms i e d → Meets ms i .started →
    ∃ k, ticksOf d.seconds = some k ∧ startsOf ms i = [((after ms i).now + k, i, e)]
  pending : (run {} ms).1.pending =
    {i | (∃ e d, Accepted ms i e d) ∧ ¬Meets ms i .started ∧ ¬Meets ms i .cancelled}.ncard
  refused : ∀ i e d, ms[i]? = some (.schedule e d) → ¬Accepted ms i e d →
    (after ms i).move (.schedule e d) = (after ms i, [])
  nothing : ∀ i, (¬∃ e d, Accepted ms i e d) → ∀ f, ¬Meets ms i f

theorem exists_unique_fate (h : Accepted ms i e d) : ∃! f, Meets ms i f := by
  obtain ⟨pre, post, rfl, rfl⟩ := exists_split h.call
  have pending := meets_pending_iff h
  have started := meets_started_iff h
  have cancelled := meets_cancelled_iff h
  cases hr : (armed (trace pre).1.now (pre.length, e) d).reached (trace pre).1.now (elapsed post)
  case true =>
    refine ⟨.started, started.mpr hr, fun f hf => ?_⟩
    cases f <;> simp_all
  case false =>
    cases hc : post.any Move.isClose
    case false =>
      refine ⟨.pending, pending.mpr ⟨hc, hr⟩, fun f hf => ?_⟩
      cases f <;> simp_all
    case true =>
      refine ⟨.cancelled, cancelled.mpr ⟨hc, hr⟩, fun f hf => ?_⟩
      cases f <;> simp_all

theorem meets_pending_iff_neither (h : Accepted ms i e d) :
    Meets ms i .pending ↔ ¬Meets ms i .started ∧ ¬Meets ms i .cancelled := by
  obtain ⟨f, hf, only⟩ := exists_unique_fate h
  constructor
  case mp =>
    intro hp
    have this (g : Fate) (hg : Meets ms i g) : g = .pending := (only g hg).trans (only _ hp).symm
    refine ⟨fun hs => ?_, fun hc => ?_⟩
    · cases this _ hs
    · cases this _ hc
  case mpr =>
    rintro ⟨hs, hc⟩
    cases f
    case pending => exact hf
    case started => exact absurd hf hs
    case cancelled => exact absurd hf hc

theorem length_pendingOf_le (ms : List (Move ε σ ω)) (i : Nat) : (pendingOf ms i).length ≤ 1 := by
  by_cases h : ∃ e d, Accepted ms i e d
  case neg => simp [pendingOf_of_refused h]
  obtain ⟨e, d, h⟩ := h
  obtain ⟨pre, post, rfl, rfl⟩ := exists_split h.call
  rw [pendingOf_accepted h]
  dsimp only
  split <;> simp

theorem pending_run (ms : List (Move ε σ ω)) :
    (run {} ms).1.pending =
      {i | (∃ e d, Accepted ms i e d) ∧ ¬Meets ms i .started ∧ ¬Meets ms i .cancelled}.ncard := by
  let calls := (trace ms).1.timers.map (·.event.1)
  have count (i : Nat) : calls.count i = (pendingOf ms i).length := by
    rw [pendingOf, ← countP_eq_length_filter]
    exact countP_map
  have distinct : calls.Nodup := nodup_iff_count_le_one.mpr fun i => count i ▸ length_pendingOf_le ms i
  have mem (i : Nat) : i ∈ calls ↔
      (∃ e d, Accepted ms i e d) ∧ ¬Meets ms i .started ∧ ¬Meets ms i .cancelled := by
    rw [← count_pos_iff, count, length_pos_iff]
    constructor
    case mp =>
      intro hp
      by_cases h : ∃ e d, Accepted ms i e d
      case neg => exact absurd (pendingOf_of_refused h) hp
      obtain ⟨e, d, h⟩ := h
      exact ⟨⟨e, d, h⟩, (meets_pending_iff_neither h).mp hp⟩
    case mpr =>
      rintro ⟨⟨e, d, h⟩, hn⟩
      exact (meets_pending_iff_neither h).mpr hn
  calc
    _ = calls.length := by rw [run_eq_trace]; simp [pending, map, calls]
    _ = calls.toFinset.card := (toFinset_card_of_nodup distinct).symm
    _ = _ := by
      rw [← Set.ncard_coe_finset]
      congr 1
      ext i
      simp [mem]

theorem exactlyOnce (ms : List (Move ε σ ω)) : ExactlyOnce ms where
  same := run_eq_trace ms
  fate i e d h := exists_unique_fate h
  started_iff i e d h := by
    obtain ⟨pre, post, rfl, rfl⟩ := exists_split h.call
    have early : pre.any Move.isClose = false := by simpa using h.early
    rw [meets_started_iff h, reached_armed]
    simp only [reaches_iff early]
    constructor
    case mp => exact fun ⟨moved, k, hk, due⟩ => ⟨k, hk, moved, due⟩
    case mpr => exact fun ⟨k, hk, moved, due⟩ => ⟨moved, k, hk, due⟩
  once i e d h started := by
    obtain ⟨pre, post, rfl, rfl⟩ := exists_split h.call
    have reached := (meets_started_iff h).mp started
    obtain ⟨_, k, hk, _⟩ := reached_armed.mp reached
    refine ⟨k, hk, ?_⟩
    rw [startsOf_accepted h, after_append_cons]
    dsimp only
    rw [if_pos reached]
    simp [Timer.stamp, armed, hk, map]
  pending := pending_run ms
  refused i e d call h := by
    obtain ⟨pre, post, rfl, rfl⟩ := exists_split call
    obtain ⟨ha, _⟩ | ⟨_, hm⟩ := call_cases pre post e d
    case inl => exact absurd ha h
    rw [after_append_cons, move_map _ pre.length, Move.numbered, hm]
    rfl
  nothing i h := not_meets_of_refused h

end RefWatch.Scheduler
