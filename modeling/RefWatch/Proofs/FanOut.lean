import RefWatch.Listener.FanOut

namespace RefWatch.Listener.FanOut

open List

variable {α : Type} {f : FanOut α} {h : Nat}

-- How often a handle is among children.
def count (h : Nat) (cs : List (Nat × α)) : Nat := cs.countP (·.1 == h)

theorem count_append (cs ds : List (Nat × α)) : count h (cs ++ ds) = count h cs + count h ds :=
  countP_append

-- The children whose turn is over, and those whose turn is still to come.
def behind (f : FanOut α) : List (Nat × α) := f.children.take f.place

def ahead (f : FanOut α) : List (Nat × α) := f.children.drop f.place

theorem behind_append_ahead (f : FanOut α) : f.behind ++ f.ahead = f.children := take_append_drop ..

-- A child is overtaken if its turn is next when one is taken away whose turn is over.
def overtakes (h : Nat) (f : FanOut α) : Move α → Bool
  | .remove k => f.behind.any (·.1 == k) && f.ahead.head?.any (·.1 == h)
  | _ => false

-- How often a child is overtaken in a run.
def overtaken (h : Nat) : FanOut α → List (Move α) → Nat
  | _, [] => 0
  | f, m :: ms => (f.overtakes h m).toNat + overtaken h (f.move m) ms

-- Whether a child is registered all the time, once.
def stays (h : Nat) : FanOut α → List (Move α) → Bool
  | f, [] => count h f.children = 1
  | f, m :: ms => count h f.children = 1 && stays h (f.move m) ms

theorem stays_cons {m : Move α} {ms : List (Move α)} :
    f.stays h (m :: ms) ↔ count h f.children = 1 ∧ (f.move m).stays h ms := by
  simp [stays]

theorem count_of_stays {ms : List (Move α)} (registered : f.stays h ms) : count h f.children = 1 := by
  cases ms
  case nil => simpa [stays] using registered
  case cons => exact (stays_cons.mp registered).left

theorem turn_of_ahead {c : Nat × α} {cs : List (Nat × α)} (going : f.ended = false)
    (next : f.ahead = c :: cs) :
    f.turn.told = f.told ++ [c] ∧ f.turn.ahead = cs ∧ f.turn.ended = false := by
  have here : f.children[f.place]? = some c := by
    rw [← head?_drop, ← ahead, next]
    rfl
  have rest : f.children.drop (f.place + 1) = cs := by
    rw [← tail_drop, ← ahead, next]
    rfl
  have turn : f.turn = { f with place := f.place + 1, told := f.told ++ [c] } := by
    simp [FanOut.turn, going, here]
  rw [turn]
  exact ⟨rfl, rest, going⟩

theorem turn_of_end (going : f.ended = false) (last : f.ahead = []) : f.turn = { f with ended := true } := by
  have here : f.children[f.place]? = none := by
    rw [← head?_drop, ← ahead, last]
    rfl
  simp [FanOut.turn, going, here]

theorem ahead_add (handle : Nat) (child : α) :
    (f.move (.add handle child)).ahead = f.ahead ++ [(handle, child)].drop (f.place - f.children.length) :=
  drop_append ..

-- Past its end a fan-out has nobody ahead, whoever is taken away.
theorem ahead_remove_of_lt (past : f.children.length < f.place) (k : Nat) :
    f.ahead = [] ∧ (f.move (.remove k)).ahead = [] := by
  have fewer : (f.children.eraseP (·.1 == k)).length ≤ f.children.length := length_eraseP_le
  exact ⟨drop_eq_nil_of_le (Nat.le_of_lt past),
    drop_eq_nil_of_le (Nat.le_trans fewer (Nat.le_of_lt past))⟩

theorem length_behind (before : f.place ≤ f.children.length) : f.behind.length = f.place := by
  rw [behind, length_take, Nat.min_eq_left before]

-- Those ahead move up past the place that is looked at.
theorem ahead_remove_behind {k : Nat} (past : f.behind.any (·.1 == k)) :
    (f.move (.remove k)).ahead = f.ahead.tail := by
  by_cases before : f.place ≤ f.children.length
  case neg =>
    have ⟨nobody, still⟩ := ahead_remove_of_lt (Nat.lt_of_not_le before) k
    rw [nobody, still, tail_nil]
  case pos =>
    obtain ⟨c, hc, hk⟩ := any_eq_true.mp past
    have split : (f.move (.remove k)).children = f.behind.eraseP (·.1 == k) ++ f.ahead := by
      rw [move, ← f.behind_append_ahead]
      exact eraseP_append_left (p := (·.1 == k)) hk _ hc
    have length : (f.behind.eraseP (·.1 == k)).length = f.place - 1 := by
      rw [length_eraseP_of_mem hc hk, length_behind before]
    have some : 0 < f.place := by
      rw [← length_behind before]
      exact length_pos_of_mem hc
    have one : f.place - (f.place - 1) = 1 := by omega
    change (f.move (.remove k)).children.drop f.place = _
    rw [split, drop_append, length, one, drop_one, drop_eq_nil_of_le (by omega), nil_append]

theorem ahead_remove {k : Nat} (coming : f.behind.any (·.1 == k) = false) :
    (f.move (.remove k)).ahead = f.ahead.eraseP (·.1 == k) := by
  by_cases before : f.place ≤ f.children.length
  case neg =>
    have ⟨nobody, still⟩ := ahead_remove_of_lt (Nat.lt_of_not_le before) k
    rw [nobody, still, eraseP_nil]
  case pos =>
    have split : (f.move (.remove k)).children = f.behind ++ f.ahead.eraseP (·.1 == k) := by
      rw [move, ← f.behind_append_ahead]
      change (f.behind ++ f.ahead).eraseP (·.1 == k) = _
      rw [eraseP_append, coming, if_neg Bool.false_ne_true]
    change (f.move (.remove k)).children.drop f.place = _
    rw [split]
    exact drop_left' (length_behind before)

theorem count_cons (c : Nat × α) (cs : List (Nat × α)) :
    count h (c :: cs) = (c.1 == h).toNat + count h cs := by
  rw [count, countP_cons, ← count, Nat.add_comm]
  cases c.1 == h <;> rfl

theorem count_eraseP {k : Nat} (cs : List (Nat × α)) :
    count h (cs.eraseP (·.1 == k)) = count h cs - if k = h then 1 else 0 := by
  induction cs
  case nil => simp [count]
  case cons c cs hi =>
    by_cases hc : c.1 = k
    case pos =>
      rw [eraseP_cons_of_pos (by simpa using hc), count_cons, hc]
      by_cases hk : k = h <;> simp [hk]
    case neg =>
      rw [eraseP_cons_of_neg (by simpa using hc), count_cons, count_cons, hi]
      by_cases hk : k = h
      case pos =>
        have other : (c.1 == h) = false := beq_false_of_ne (hk ▸ hc)
        simp [other]
      case neg => simp [hk]

-- Nobody who stays is ahead of a fan-out that has ended.
def Spent (h : Nat) (f : FanOut α) : Prop := f.ended → count h f.ahead = 0

-- A child that is ahead of a fan-out before a move has been told by it, or overtaken, or is still ahead.
structure Balanced (h : Nat) (f : FanOut α) (m : Move α) : Prop where
  spent : (f.move m).Spent h
  count : count h (f.move m).told + (f.overtakes h m).toNat + count h (f.move m).ahead =
    count h f.told + count h f.ahead

theorem balanced_turn (spent : f.Spent h) : Balanced h f .turn := by
  cases going : f.ended
  case true =>
    have still : f.move .turn = f := turn_of_ended going
    exact ⟨still.symm ▸ spent, by rw [still]; rfl⟩
  case false =>
    cases next : f.ahead
    case nil =>
      have last : f.move .turn = { f with ended := true } := turn_of_end going next
      have nobody : count h (f.move .turn).ahead = 0 := by
        rw [last]
        exact congrArg (FanOut.count h) next
      exact ⟨fun _ => nobody, by rw [nobody, next, last]; rfl⟩
    case cons c cs =>
      have ⟨told, rest, goes⟩ := turn_of_ahead going next
      have one : count h [c] = (c.1 == h).toNat := count_cons c []
      refine ⟨fun ended => (nomatch goes.symm.trans ended), ?_⟩
      change count h f.turn.told + 0 + count h f.turn.ahead = _
      rw [told, rest, next, count_append, one, count_cons, Nat.add_zero, Nat.add_assoc]

theorem balanced_add {k : Nat} {a : α} (spent : f.Spent h) (other : k ≠ h) :
    Balanced h f (.add k a) := by
  have none : count h ([(k, a)].drop (f.place - f.children.length)) = 0 := by
    refine countP_eq_zero.mpr fun c hc => ?_
    rw [mem_singleton.mp (mem_of_mem_drop hc)]
    simpa using other
  have same : count h (f.move (.add k a)).ahead = count h f.ahead := by
    rw [ahead_add, count_append, none, Nat.add_zero]
  exact ⟨fun ended => same ▸ spent ended, by rw [same]; rfl⟩

theorem balanced_remove {k : Nat} (spent : f.Spent h) (other : k ≠ h) : Balanced h f (.remove k) := by
  cases turned : f.behind.any (·.1 == k)
  case false =>
    have same : count h (f.move (.remove k)).ahead = count h f.ahead := by
      rw [ahead_remove turned, count_eraseP, if_neg other, Nat.sub_zero]
    have kept : f.overtakes h (.remove k) = false := by rw [overtakes, turned, Bool.false_and]
    exact ⟨fun ended => same ▸ spent ended, by rw [same, kept]; rfl⟩
  case true =>
    have next : f.overtakes h (.remove k) = f.ahead.head?.any (·.1 == h) := by
      rw [overtakes, turned, Bool.true_and]
    have moved : (f.overtakes h (.remove k)).toNat + count h (f.move (.remove k)).ahead =
        count h f.ahead := by
      rw [next, ahead_remove_behind turned]
      cases f.ahead
      case nil => rfl
      case cons c cs => rw [count_cons]; rfl
    refine ⟨fun ended => ?_, ?_⟩
    · exact Nat.le_zero.mp (spent ended ▸ moved ▸ Nat.le_add_left ..)
    · change count h f.told + _ + _ = _
      rw [Nat.add_assoc, moved]

theorem count_add {k : Nat} {a : α} :
    count h (f.move (.add k a)).children = count h f.children + if k = h then 1 else 0 := by
  have one : count h [(k, a)] = if k = h then 1 else 0 := by simp [count]
  change count h (f.children ++ [(k, a)]) = _
  rw [count_append, one]

-- A child that is registered once, before and after, is neither added nor taken away in between.
theorem balanced_move (m : Move α) (spent : f.Spent h) (before : count h f.children = 1)
    (after : count h (f.move m).children = 1) : Balanced h f m := by
  cases m
  case turn => exact balanced_turn spent
  case add k a =>
    refine balanced_add spent fun same => ?_
    rw [count_add, if_pos same] at after
    omega
  case remove k =>
    refine balanced_remove spent fun same => ?_
    rw [move, count_eraseP, if_pos same] at after
    omega

theorem balance_run (ms : List (Move α)) (spent : f.Spent h) (registered : f.stays h ms) :
    (f.run ms).Spent h ∧
      count h (f.run ms).told + overtaken h f ms + count h (f.run ms).ahead =
        count h f.told + count h f.ahead := by
  induction ms generalizing f
  case nil => exact ⟨spent, rfl⟩
  case cons m ms hi =>
    have ⟨before, later⟩ := stays_cons.mp registered
    have ⟨first, kept⟩ := balanced_move m spent before (count_of_stays later)
    have ⟨last, rest⟩ := hi first later
    refine ⟨last, ?_⟩
    change count h ((f.move m).run ms).told + ((f.overtakes h m).toNat + overtaken h (f.move m) ms) +
      count h ((f.move m).run ms).ahead = _
    omega

-- What those that a fan-out has told make of an occasion.
def response (f : FanOut Listener) (e : HeadEvent) (o : Occasion) : Response := respondAll e o f.told

theorem response_run_all (cs : List (Nat × Listener)) (e : HeadEvent) (o : Occasion) :
    ((ofChildren cs).run (replicate (cs.length + 1) .turn)).response e o = (fanOut cs).respond e o := by
  rw [run_all, response, respond]

-- However children come and go while a fan-out is under way, one that is there all the time has been told
-- once or overtaken once by its end.
theorem told_add_overtaken (cs : List (Nat × α)) (ms : List (Move α)) (h : Nat)
    (registered : (ofChildren cs).stays h ms) (ended : ((ofChildren cs).run ms).ended) :
    count h ((ofChildren cs).run ms).told + overtaken h (ofChildren cs) ms = 1 := by
  have begun : (ofChildren cs).Spent h := nofun
  have ⟨spent, balance⟩ := balance_run ms begun registered
  have one : count h cs = 1 := count_of_stays registered
  have start : count h (ofChildren cs).told + count h (ofChildren cs).ahead = count h cs := Nat.zero_add _
  have nobody := spent ended
  omega

-- The first child goes when it has been told; the second is overtaken, the third is told.
theorem told_add_overtaken_remove :
    let cs : List (Nat × Listener) := [0, 1, 2].map (·, .single .silent)
    let ms : List (Move Listener) :=
      [.turn, .remove 0, .turn, .add 3 (.single .silent), .turn, .turn]
    (∀ h ∈ [1, 2], (ofChildren cs).stays h ms) ∧ ((ofChildren cs).run ms).ended ∧
      overtaken 1 (ofChildren cs) ms = 1 ∧ overtaken 2 (ofChildren cs) ms = 0 ∧
      ∀ h ∈ [1, 2], count h ((ofChildren cs).run ms).told + overtaken h (ofChildren cs) ms = 1 := by
  intro cs ms
  have registered : ∀ h ∈ [1, 2], (ofChildren cs).stays h ms := by decide
  have ended : ((ofChildren cs).run ms).ended := by decide
  exact ⟨registered, ended, by decide, by decide,
    fun h hh => told_add_overtaken cs ms h (registered h hh) ended⟩

-- A child may stay all the time and never be told.
theorem not_told_once :
    ¬∀ (cs : List (Nat × Listener)) (ms : List (Move Listener)) (h : Nat), (ofChildren cs).stays h ms →
      ((ofChildren cs).run ms).ended → count h ((ofChildren cs).run ms).told = 1 := by
  intro all
  have once := all [(0, .single .silent), (1, .single .silent)] [.turn, .remove 0, .turn] 1 (by decide)
    (by decide)
  revert once
  decide

end RefWatch.Listener.FanOut
