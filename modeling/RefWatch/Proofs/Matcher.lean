import RefWatch.Proofs.Stretches

namespace RefWatch.Pattern

namespace Outcome

def memory : Outcome → Memory
  | found m | failed m => m

def isFound : Outcome → Bool
  | found _ => true
  | failed _ => false

variable {next : Memory → Outcome}

theorem isFound_iff {o : Outcome} : o.isFound ↔ ∃ m, o = found m := by
  cases o <;> simp [isFound]

theorem isFound_mapFailed (g : Memory → Memory) (o : Outcome) : (o.mapFailed g).isFound = o.isFound := by
  cases o <;> rfl

theorem isFound_orElse_left {o : Outcome} (h : o.isFound) : (o.orElse next).isFound := by
  cases o
  case found => rfl
  case failed => cases h

theorem isFound_orElse_right (o : Outcome) (h : ∀ m, (next m).isFound) : (o.orElse next).isFound := by
  cases o
  case found => rfl
  case failed m => exact h m

end Outcome

abbrev Marks := List (Option Nat)

-- A relation between marks before and marks after, whatever is tried and given up on the way.
structure Persists (r : Marks → Marks → Prop) : Prop where
  refl  : ∀ ms, r ms ms
  trans : ∀ {ms ns os}, r ms ns → r ns os → r ms os
  cut   : ∀ {ms ns}, r ms ns → r ms (ns.take ms.length)

theorem persists_any : Persists fun _ _ => True where
  refl _    := trivial
  trans _ _ := trivial
  cut _     := trivial

section

variable {r : Marks → Marks → Prop}

theorem Persists.after (h : Persists r) {m f : Memory} (kept : r m.marks f.marks) (putBack : Bool) :
    r m.marks (m.after putBack f).marks := by
  cases putBack
  case true => exact h.refl _
  case false => exact h.cut kept

def Keeps (r : Marks → Marks → Prop) (a : Attempt) : Prop :=
  ∀ pos m, r m.marks (a pos m).memory.marks

def Allows (r : Marks → Marks → Prop) (i : Nat) : Prop :=
  ∀ m pos, r m.marks (Memory.mark m i pos).marks

-- The marks of a group: where it opens, and where it closes.
def spotsOf (g : Nat) : List Nat := [2 * (g - 1), 2 * (g - 1) + 1]

-- The marks that a part may set.
def Node.spots : Node → List Nat
  | seq a b | alt a b | cond _ a b => a.spots ++ b.spots
  | group (some g) _ _ b => spotsOf g ++ b.spots
  | group none _ _ b | atomic b | look _ _ b | rep _ _ _ b => b.spots
  | _ => []

-- The outcome of a part and then the rest, tried with the marks `ms`: where it is a match, the part ended
-- at one of `ends`, and the rest was matched from there on.
structure Leads (r : Marks → Marks → Prop) (ends : Nat → Prop) (rest : Attempt) (ms : Marks)
    (o : Outcome) : Prop where
  kept  : r ms o.memory.marks
  found : ∀ m, o = .found m → ∃ e k, ends e ∧ r ms (Memory.marks k) ∧ rest e k = .found m

namespace Leads

variable {ends : Nat → Prop} {rest : Attempt} {ms : Marks} {o : Outcome} {m : Memory}

theorem failed (kept : r ms m.marks) : Leads r ends rest ms (.failed m) where
  kept  := kept
  found := nofun

theorem onward {e : Nat} (h : Persists r) (keeps : Keeps r rest) (here : ends e) (kept : r ms m.marks) :
    Leads r ends rest ms (rest e m) where
  kept    := h.trans kept (keeps e m)
  found _ := fun ended => ⟨e, m, here, kept, ended⟩

theorem mapFailed {g : Memory → Memory} (l : Leads r ends rest ms o)
    (stays : ∀ f, r ms f.marks → r ms (g f).marks) : Leads r ends rest ms (o.mapFailed g) := by
  cases o
  case found => exact l
  case failed f => exact failed (stays f l.kept)

theorem orElse {next : Memory → Outcome} (l : Leads r ends rest ms o)
    (other : ∀ f, r ms f.marks → Leads r ends rest ms (next f)) :
    Leads r ends rest ms (o.orElse next) := by
  cases o
  case found => exact l
  case failed f => exact other f l.kept

theorem mono {wider : Nat → Prop} (l : Leads r ends rest ms o) (sub : ∀ e, ends e → wider e) :
    Leads r wider rest ms o where
  kept := l.kept
  found m ended := by
    obtain ⟨e, k, here, kept, next⟩ := l.found m ended
    exact ⟨e, k, sub e here, kept, next⟩

theorem trans {ns : Marks} (h : Persists r) (kept : r ms ns) (l : Leads r ends rest ns o) :
    Leads r ends rest ms o where
  kept := h.trans kept l.kept
  found m ended := by
    obtain ⟨e, k, here, later, next⟩ := l.found m ended
    exact ⟨e, k, here, h.trans kept later, next⟩

theorem bind {middle : Nat → Prop} {second : Attempt} (l : Leads r middle second ms o)
    (next : ∀ e k, middle e → r ms (Memory.marks k) → Leads r ends rest ms (second e k)) :
    Leads r ends rest ms o where
  kept := l.kept
  found m ended := by
    obtain ⟨e, k, here, kept, goes⟩ := l.found m ended
    exact (next e k here kept).found m goes

end Leads

theorem keeps_done (h : Persists r) : Keeps r done := fun _ _ => h.refl _

end

section

variable {text : Array Char} {has : Char → Bool}

theorem le_streak_iff {n most pos : Nat} :
    n ≤ streak text has most pos ↔ n ≤ most ∧ Times (Single text has) n pos (pos + n) := by
  induction most generalizing n pos
  case zero =>
    refine ⟨fun h => ⟨h, ?_⟩, And.left⟩
    have none : n = 0 := Nat.le_zero.mp h
    rw [none]
    rfl
  case succ most hi =>
    cases n
    case zero => exact ⟨fun _ => ⟨Nat.zero_le _, rfl⟩, fun _ => Nat.zero_le _⟩
    case succ n =>
      have there : pos + (n + 1) = pos + 1 + n := by omega
      rw [streak, there]
      split
      case isTrue first =>
        have onward : Times (Single text has) (n + 1) pos (pos + 1 + n) ↔
            Times (Single text has) n (pos + 1) (pos + 1 + n) := by simp [Times, Single, first]
        rw [Nat.succ_le_succ_iff, Nat.succ_le_succ_iff, hi, onward]
      case isFalse unfit =>
        have unmet : ¬Times (Single text has) (n + 1) pos (pos + 1 + n) := by simp [Times, Single, unfit]
        simp [unmet]

namespace Setting

variable {s : Setting} {r : Marks → Marks → Prop} {rest : Attempt}

-- How often the part may be taken from `pos` on if it was taken `rounds` times already.
def Fits (s : Setting) (round : Nat → Nat → Prop) (rounds pos e : Nat) : Prop :=
  ∃ n, s.least ≤ rounds + n ∧ s.most.all (rounds + n ≤ ·) ∧ Times round n pos e

theorem le_cap_iff {n left : Nat} :
    n ≤ (s.most.map (Nat.min · left)).getD left ↔ n ≤ left ∧ s.most.all (n ≤ ·) := by
  cases s.most
  case none => simp
  case some most =>
    have both : n ≤ most.min left ↔ n ≤ most ∧ n ≤ left := Nat.le_min
    simp [both, and_comm]

theorem leads_giveBack {ends : Nat → Prop} {pos extra : Nat} {m : Memory} {ms : Marks} (h : Persists r)
    (keeps : Keeps r rest) (here : ∀ k ≤ extra, ends (pos + k)) (kept : r ms m.marks) :
    Leads r ends rest ms (s.giveBack text rest pos extra m) := by
  have tried (extra : Nat) (here : ends (pos + extra)) (m : Memory) : Leads r ends rest m.marks
      (if s.next.isChar && !s.next.admits text[pos + extra]? then .failed m
        else (rest (pos + extra) (m.goTo (pos + extra))).mapFailed (m.after s.putBack)) := by
    split
    case isTrue => exact .failed (h.refl _)
    case isFalse =>
      have onward : Leads r ends rest m.marks (rest (pos + extra) (m.goTo (pos + extra))) :=
        .onward h keeps here (h.refl _)
      exact onward.mapFailed fun f kept => h.after kept _
  refine .trans h kept ?_
  clear kept
  induction extra generalizing m
  case zero => exact tried 0 (here 0 (Nat.le_refl 0)) m
  case succ extra hi =>
    refine (tried (extra + 1) (here _ (Nat.le_refl _)) m).orElse fun f kept => .trans h kept ?_
    exact hi fun k hk => here k (Nat.le_succ_of_le hk)

theorem leads_ones {one : One} (h : Persists r) (keeps : Keeps r rest) (pos : Nat) (m : Memory) :
    Leads r (s.Fits (Single text one.has) 0 pos) rest m.marks (s.ones text one .greedy rest pos m) := by
  simp only [ones, reduceCtorEq, if_false]
  split
  case isTrue => exact .failed (h.refl _)
  case isFalse =>
    split
    case isTrue => exact .failed (h.refl _)
    case isFalse enough =>
      refine leads_giveBack h keeps (fun k hk => ?_) (h.refl _)
      obtain ⟨capped, taken⟩ := le_streak_iff.mp (Nat.add_le_of_le_sub' (Nat.le_of_not_lt enough) hk)
      refine ⟨s.least + k, by omega, ?_, by rwa [← Nat.add_assoc] at taken⟩
      simpa using (le_cap_iff.mp capped).right

-- Rounds of a part, each of which takes what `round` says.
theorem leads_greedyRounds {round : Nat → Nat → Prop} {way : Way} (h : Persists r) (keeps : Keeps r rest)
    (body : ∀ rest, Keeps r rest → ∀ pos m, Leads r (round pos) rest m.marks (way rest pos m))
    (range : s.most.all (s.least ≤ ·)) (fuel rounds : Nat) (last : Option Nat) (pos : Nat) (m : Memory)
    (few : s.most.all (rounds ≤ ·)) :
    Leads r (s.Fits round rounds pos) rest m.marks
      (s.greedyRounds way rest fuel rounds last pos m) := by
  induction fuel generalizing rounds last pos m
  case zero => exact .failed (h.refl _)
  case succ fuel hi =>
    have goOn (more : s.most.all (rounds + 1 ≤ ·)) (last : Option Nat) :
        Leads r (s.Fits round rounds pos) rest m.marks
          (way (s.greedyRounds way rest fuel (rounds + 1) last) pos (m.goTo pos)) := by
      have further : Keeps r (s.greedyRounds way rest fuel (rounds + 1) last) :=
        fun pos m => (hi (rounds + 1) last pos m more).kept
      refine (body _ further pos (m.goTo pos)).bind fun e k first kept => ?_
      refine .trans h kept ((hi (rounds + 1) last e k more).mono fun j fits => ?_)
      obtain ⟨n, enough, atMost, rest⟩ := fits
      exact ⟨n + 1, by omega, by simpa [Nat.add_assoc, Nat.add_comm 1 n] using atMost, e, first, rest⟩
    rw [greedyRounds]
    split
    case isTrue short =>
      have more : s.most.all (rounds + 1 ≤ ·) := by
        cases limit : s.most <;> simp_all
        omega
      exact (goOn more last).mapFailed fun f kept => kept
    case isFalse enough =>
      have stop : s.Fits round rounds pos pos := ⟨0, Nat.le_of_not_lt enough, few, rfl⟩
      refine .orElse ?_ fun f kept => ?_
      case refine_1 =>
        split
        case isTrue allowed =>
          have more : s.most.all (rounds + 1 ≤ ·) := (Bool.and_eq_true_iff.mp allowed).left
          exact (goOn more (some pos)).mapFailed fun f kept => h.refl _
        case isFalse => exact .failed (h.refl _)
      case refine_2 => exact (Leads.onward h keeps stop kept).mapFailed fun f kept => kept

theorem isFound_giveBack {pos extra : Nat} (back : Nat) (within : back ≤ extra)
    (admitted : s.next.admits text[pos + back]?) (found : ∀ k, (rest (pos + back) k).isFound)
    (m : Memory) : (s.giveBack text rest pos extra m).isFound := by
  have tried (m : Memory) :
      (if s.next.isChar && !s.next.admits text[pos + back]? then Outcome.failed m
        else (rest (pos + back) (m.goTo (pos + back))).mapFailed (m.after s.putBack)).isFound := by
    simp [admitted, Outcome.isFound_mapFailed, found]
  induction extra generalizing m
  case zero =>
    cases Nat.le_zero.mp within
    exact tried m
  case succ extra hi =>
    rcases Nat.lt_or_eq_of_le within with less | rfl
    case inl => exact Outcome.isFound_orElse_right _ (hi (Nat.le_of_lt_succ less))
    case inr => exact Outcome.isFound_orElse_left (tried m)

theorem isFound_ones {one : One} {i j : Nat} (fits : s.Fits (Single text one.has) 0 i j)
    (admitted : s.next.admits text[j]?) (found : ∀ k, (rest j k).isFound) (m : Memory) :
    (s.ones text one .greedy rest i m).isFound := by
  obtain ⟨n, enough, atMost, taken⟩ := fits
  have forward : i = j ∨ i < j ∧ j ≤ text.size := forward_single.times n i j taken
  cases eq_add_of_times_single taken
  rw [Nat.zero_add] at enough atMost
  have inside : n ≤ text.size - i := by omega
  have counted := le_streak_iff.mpr ⟨le_cap_iff.mpr ⟨inside, atMost⟩, taken⟩
  simp only [ones, reduceCtorEq, if_false]
  rw [if_neg (by omega), if_neg (by omega)]
  have there : i + s.least + (n - s.least) = i + n := by omega
  exact isFound_giveBack (n - s.least) (by omega) (there ▸ admitted) (there ▸ found) _

-- A round that takes nothing can be left out, unless it is forced; any other begins where none has begun.
theorem isFound_greedyRounds {round : Nat → Nat → Prop} {way : Way} {j : Nat}
    (forward : Forward text.size round) (found : ∀ k, (rest j k).isFound)
    (body : ∀ rest pos e, round pos e → (∀ k, (rest e k).isFound) → ∀ m, (way rest pos m).isFound)
    {fuel rounds i : Nat} {last : Option Nat} (fits : s.Fits round rounds i j)
    (fresh : last ≠ some i) (forced : rounds < s.least → last = none)
    (enough : s.least - rounds + (text.size - i) < fuel) (m : Memory) :
    (s.greedyRounds way rest fuel rounds last i m).isFound := by
  induction fuel generalizing rounds i last m
  case zero => cases enough
  case succ fuel hi =>
    obtain ⟨n, atLeast, atMost, taken⟩ := fits
    have further {n k : Nat} (atLeast : s.least ≤ rounds + (n + 1))
        (atMost : s.most.all (rounds + (n + 1) ≤ ·)) (taken : Times round n k j) :
        s.Fits round (rounds + 1) k j :=
      ⟨n, by omega, by simpa [Nat.add_assoc, Nat.add_comm 1 n] using atMost, taken⟩
    rw [greedyRounds]
    split
    case isTrue short =>
      cases n
      case zero => omega
      case succ n =>
        obtain ⟨k, first, taken⟩ := taken
        have := forward i k first
        have onward : ∀ m, (s.greedyRounds way rest fuel (rounds + 1) last k m).isFound :=
          hi (further atLeast atMost taken) (by simp [forced short]) (fun _ => forced short) (by omega)
        rw [Outcome.isFound_mapFailed]
        exact body _ i k first onward _
    case isFalse done =>
      induction n
      case zero =>
        cases taken
        exact Outcome.isFound_orElse_right _ fun m => (Outcome.isFound_mapFailed _ _).trans (found m)
      case succ n skip =>
        obtain ⟨k, first, taken⟩ := taken
        rcases forward i k first with rfl | ⟨less, inside⟩
        case inl =>
          refine skip (by omega) ?_ taken
          cases limit : s.most <;> simp_all
          omega
        case inr =>
          have onward : ∀ m, (s.greedyRounds way rest fuel (rounds + 1) (some i) k m).isFound :=
            hi (further atLeast atMost taken) (by simp; omega) (by omega) (by omega)
          have allowed : s.allows rounds last i := by
            cases limit : s.most <;> simp_all [allows]
            omega
          refine Outcome.isFound_orElse_left ?_
          rw [if_pos allowed, Outcome.isFound_mapFailed]
          exact body _ i k first onward _

end Setting

end

namespace Node

variable {text : Array Char} {r : Marks → Marks → Prop}

theorem leads_stepIf {has : Char → Bool} {rest : Attempt} (h : Persists r) (keeps : Keeps r rest)
    (pos : Nat) (m : Memory) :
    Leads r (Single text has pos) rest m.marks (stepIf text has rest pos m) := by
  unfold stepIf
  split
  case isTrue fits => exact .onward h keeps ⟨fits, rfl⟩ (h.refl _)
  case isFalse => exact .failed (h.refl _)

theorem leads_way {n : Node} {rest : Attempt} (h : Persists r) (plain : n.isPlain)
    (allowed : ∀ i ∈ n.spots, Allows r i) (keeps : Keeps r rest) (f : Flags) (within : Bool)
    (next : Lead) (pos : Nat) (m : Memory) :
    Leads r (n.Takes text f pos) rest m.marks (n.way text f within next rest pos m) := by
  induction n generalizing rest f within next pos m
  case empty => exact .onward h keeps rfl (h.refl _)
  case never => exact .failed (h.refl _)
  case any | char | set => exact leads_stepIf h keeps pos m
  case anchor a =>
    unfold way
    split
    case isTrue fits => exact .onward h keeps ⟨fits, rfl⟩ (h.refl _)
    case isFalse => exact .failed (h.refl _)
  case seq a b ha hb =>
    obtain ⟨plain_a, plain_b⟩ := Bool.and_eq_true_iff.mp plain
    simp only [spots, List.forall_mem_append] at allowed
    have second (pos : Nat) (m : Memory) := hb plain_b allowed.right keeps f within next pos m
    have first := ha plain_a allowed.left (fun pos m => (second pos m).kept) f within (b.lead f next) pos m
    exact first.bind fun e k here kept => .trans h kept ((second e k).mono fun j there => ⟨e, here, there⟩)
  case alt a b ha hb =>
    obtain ⟨plain_a, plain_b⟩ := Bool.and_eq_true_iff.mp plain
    simp only [spots, List.forall_mem_append] at allowed
    unfold way
    refine .orElse ?_ fun k kept => .trans h kept ?_
    case refine_1 =>
      unfold branch
      split
      case isTrue =>
        have first := ha plain_a allowed.left keeps f within .unknown pos (m.goTo pos)
        exact (first.mono fun j => .inl).mapFailed fun k kept => h.after kept _
      case isFalse => exact .failed (h.refl _)
    case refine_2 =>
      have second := hb plain_b allowed.right keeps f within .unknown pos k
      exact second.mono fun j => .inr
  case group index on off b hb =>
    cases index
    case none => exact hb plain allowed keeps _ within next pos m
    case some i =>
      simp only [spots, spotsOf, List.forall_mem_append, List.forall_mem_cons] at allowed
      obtain ⟨⟨opened, closed, -⟩, allowed⟩ := allowed
      have closing : Keeps r (fun pos m => rest pos (m.close i pos)) :=
        fun pos m => h.trans (closed m pos) (keeps pos _)
      refine .trans h (opened m pos) ?_
      refine (hb plain allowed closing _ within .unknown pos (m.open i pos)).bind ?_
      exact fun e k here kept => .onward h keeps here (h.trans kept (closed k e))
  case look ahead negated b hb =>
    cases ahead <;> cases negated
    case true.false =>
      have tried := hb plain allowed (keeps_done h) f within .unknown pos (m.goTo pos)
      unfold way Pattern.look alone
      simp only [if_true, Nat.not_lt_zero, if_false, Nat.sub_zero]
      cases outcome : b.way text f within .unknown done pos (m.goTo pos) <;> rw [outcome] at tried
      case failed => exact .failed tried.kept
      case found =>
        obtain ⟨e, k, there, -, -⟩ := tried.found _ rfl
        exact .onward h keeps ⟨⟨e, there⟩, rfl⟩ tried.kept
    all_goals cases plain
  case rep least most g b hb =>
    cases g
    case greedy =>
      obtain ⟨plain_b, range⟩ := Bool.and_eq_true_iff.mp plain
      simp only [way]
      cases single : b.one? f
      case some one =>
        refine (Setting.leads_ones h keeps pos m).mono fun j fits => ?_
        simpa [Setting.Fits, Takes, takes_eq_single single] using fits
      case none =>
        have body (rest : Attempt) (keeps : Keeps r rest) :=
          hb plain_b allowed keeps f (within || Greed.greedy ≠ Greed.possessive) .unknown
        have none_yet : most.all (0 ≤ ·) := by cases most <;> simp
        refine (Setting.leads_greedyRounds h keeps body range _ 0 none pos m none_yet).mono ?_
        exact fun j fits => by simpa [Setting.Fits, Takes] using fits
    all_goals cases plain
  all_goals cases plain

theorem keeps_way {n : Node} {rest : Attempt} (h : Persists r) (plain : n.isPlain)
    (allowed : ∀ i ∈ n.spots, Allows r i) (keeps : Keeps r rest) (f : Flags) (within : Bool)
    (next : Lead) : Keeps r (n.way text f within next rest) :=
  fun pos m => (leads_way h plain allowed keeps f within next pos m).kept

theorem exists_takes {n : Node} {rest : Attempt} {f : Flags} {within : Bool} {next : Lead} {pos : Nat}
    {m found : Memory} (h : Persists r) (plain : n.isPlain) (allowed : ∀ i ∈ n.spots, Allows r i)
    (keeps : Keeps r rest) (ended : n.way text f within next rest pos m = .found found) :
    ∃ e k, n.Takes text f pos e ∧ r m.marks (Memory.marks k) ∧ rest e k = .found found :=
  (leads_way h plain allowed keeps f within next pos m).found found ended

theorem admits_unknown (c : Option Char) : Lead.unknown.admits c := rfl

theorem isFound_stepIf {has : Char → Bool} {rest : Attempt} {i j : Nat} (taken : Single text has i j)
    (found : ∀ k, (rest j k).isFound) (m : Memory) : (stepIf text has rest i m).isFound := by
  obtain ⟨fits, rfl⟩ := taken
  rw [stepIf, if_pos fits]
  exact found m

theorem isFound_way {n : Node} {rest : Attempt} {i j : Nat} (plain : n.isPlain) {f : Flags}
    (taken : n.Takes text f i j) (within : Bool) {next : Lead} (admitted : next.admits text[j]?)
    (found : ∀ k, (rest j k).isFound) (m : Memory) : (n.way text f within next rest i m).isFound := by
  induction n generalizing rest f within next i j m
  case empty =>
    cases taken
    exact found m
  case any | char | set => exact isFound_stepIf taken found m
  case anchor a =>
    obtain ⟨fits, rfl⟩ := taken
    simp only [way, fits, if_true]
    exact found m
  case seq a b ha hb =>
    obtain ⟨plain_a, plain_b⟩ := Bool.and_eq_true_iff.mp plain
    obtain ⟨k, first, second⟩ := taken
    exact ha plain_a first within (admits_lead second admitted) (hb plain_b second within admitted found) m
  case alt a b ha hb =>
    obtain ⟨plain_a, plain_b⟩ := Bool.and_eq_true_iff.mp plain
    rcases taken with taken | taken
    case inl =>
      refine Outcome.isFound_orElse_left ?_
      have leads : (a.lead f .unknown).admits text[i]? := admits_lead taken (admits_unknown _)
      rw [branch, if_pos leads, Outcome.isFound_mapFailed]
      exact ha plain_a taken within (admits_unknown _) found _
    case inr =>
      exact Outcome.isFound_orElse_right _ (hb plain_b taken within (admits_unknown _) found)
  case group index on off b hb =>
    cases index
    case none => exact hb plain taken within admitted found m
    case some index =>
      let closing : Attempt := fun pos m => rest pos (m.close index pos)
      have closed (k : Memory) : (closing j k).isFound := found _
      exact hb plain taken within (admits_unknown _) closed (m.open index i)
  case look ahead negated b hb =>
    cases ahead <;> cases negated
    case true.false =>
      obtain ⟨⟨k, there⟩, rfl⟩ := taken
      have seen : (b.way text f within .unknown done i (m.goTo i)).isFound :=
        hb plain there within (admits_unknown _) (fun _ => rfl) _
      obtain ⟨seen, outcome⟩ := Outcome.isFound_iff.mp seen
      simp only [way, Pattern.look, alone, if_true, Nat.not_lt_zero, if_false, Nat.sub_zero, outcome]
      exact found seen
    all_goals cases plain
  case rep least most g b hb =>
    cases g
    case greedy =>
      obtain ⟨plain_b, range⟩ := Bool.and_eq_true_iff.mp plain
      let s : Setting := ⟨least, most, within, next⟩
      have fits : s.Fits (b.Takes text f) 0 i j := by simpa [Setting.Fits, Takes] using taken
      simp only [way]
      cases single : b.one? f
      case some one => exact Setting.isFound_ones (takes_eq_single single ▸ fits) admitted found m
      case none =>
        have body (rest : Attempt) (pos e : Nat) (round : b.Takes text f pos e)
            (found : ∀ k, (rest e k).isFound) (m : Memory) :=
          hb plain_b round (within || Greed.greedy ≠ Greed.possessive) (admits_unknown _) found m
        have enough : s.least - 0 + (text.size - i) < s.fuel text := by
          simp only [Setting.fuel]
          omega
        exact Setting.isFound_greedyRounds (b.forward_takes f) found body fits (by simp) (fun _ => rfl)
          enough m
    all_goals cases plain
  all_goals cases taken

end Node

end RefWatch.Pattern
