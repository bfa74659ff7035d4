import RefWatch.Pattern

namespace RefWatch.Pattern

-- `n` steps of a relation, one after another.
def Times (r : Nat → Nat → Prop) : Nat → Nat → Nat → Prop
  | 0, i, j => i = j
  | n + 1, i, k => ∃ j, r i j ∧ Times r n j k

section

variable (text : Array Char)

-- The stretch of one character that fits.
def Single (has : Char → Bool) (i j : Nat) : Prop := (text[i]?).any has ∧ j = i + 1

namespace Node

-- Whether a part is of the kinds that are spoken of here.
def isPlain : Node → Bool
  | empty | never | any | char _ | set .. | anchor _ => true
  | seq a b | alt a b => a.isPlain && b.isPlain
  | group _ _ _ b | look true false b => b.isPlain
  | rep least most .greedy b => b.isPlain && most.all (least ≤ ·)
  | _ => false

-- The stretch from `i` to `j` is one that the part stands for.
def Takes : Node → Flags → (i j : Nat) → Prop
  | empty, _, i, j => i = j
  | any, f, i, j => Single text (fun c => f.dotAll || c != '\n') i j
  | char n, f, i, j => Single text (charIs f n) i j
  | set negated items, f, i, j => Single text (setHas f negated items) i j
  | anchor a, f, i, j => anchored text f i a ∧ i = j
  | seq a b, f, i, k => ∃ j, a.Takes f i j ∧ b.Takes f j k
  | alt a b, f, i, j => a.Takes f i j ∨ b.Takes f i j
  | group _ on off b, f, i, j => b.Takes (f.switch on off) i j
  | look true false b, f, i, j => (∃ k, b.Takes f i k) ∧ i = j
  | rep least most .greedy b, f, i, j =>
    ∃ n, least ≤ n ∧ most.all (n ≤ ·) ∧ Times (b.Takes f) n i j
  | _, _, _, _ => False

end Node

end

section

variable {text : Array Char} {r : Nat → Nat → Prop} {has : Char → Bool} {n i j size : Nat}

theorem eq_add_of_times_single (h : Times (Single text has) n i j) : j = i + n := by
  induction n generalizing i
  case zero => exact h.symm
  case succ n hi =>
    obtain ⟨k, ⟨-, rfl⟩, rest⟩ := h
    have := hi rest
    omega

-- A step goes forward within the text, or nowhere.
def Forward (size : Nat) (r : Nat → Nat → Prop) : Prop := ∀ i j, r i j → i = j ∨ i < j ∧ j ≤ size

theorem Forward.times (h : Forward size r) (n : Nat) : Forward size (Times r n) := by
  intro i j taken
  induction n generalizing i
  case zero => exact .inl taken
  case succ n hi =>
    obtain ⟨k, first, rest⟩ := taken
    have := h i k first
    have := hi k rest
    omega

theorem forward_single : Forward text.size (Single text has) := by
  rintro i _ ⟨fits, rfl⟩
  have inside : i < text.size := by
    apply Nat.lt_of_not_le
    intro outside
    rw [Array.getElem?_eq_none outside] at fits
    cases fits
  exact .inr ⟨Nat.lt_succ_self i, inside⟩

end

section

variable {l : List Char} {has : Char → Bool} {n i j : Nat}

theorem single_toArray :
    Single l.toArray has i j ↔ j = i + 1 ∧ ∃ c, has c ∧ l.drop i = c :: l.drop j := by
  have first : l[i]? = (l.drop i).head? := by simp
  constructor
  case mp =>
    rintro ⟨fits, rfl⟩
    rw [List.getElem?_toArray, first] at fits
    cases here : l.drop i
    case nil => simp [here] at fits
    case cons c cs =>
      have rest : l.drop (i + 1) = cs := by rw [← List.drop_drop, here]; rfl
      exact ⟨rfl, c, by simpa [here] using fits, by rw [rest]⟩
  case mpr =>
    rintro ⟨rfl, c, fits, here⟩
    refine ⟨?_, rfl⟩
    rw [List.getElem?_toArray, first, here]
    exact fits

theorem times_single_toArray :
    Times (Single l.toArray has) n i j ↔ j = i + n ∧
      ∃ front, front.length = n ∧ (∀ c ∈ front, has c) ∧ l.drop i = front ++ l.drop j := by
  induction n generalizing i
  case zero =>
    refine ⟨?_, fun h => h.left.symm⟩
    rintro rfl
    exact ⟨rfl, [], rfl, by simp, rfl⟩
  case succ n hi =>
    constructor
    case mp =>
      rintro ⟨k, first, taken⟩
      obtain ⟨rfl, c, fits, here⟩ := single_toArray.mp first
      obtain ⟨rfl, front, length, all, rest⟩ := hi.mp taken
      refine ⟨by omega, c :: front, by simp [length], List.forall_mem_cons.mpr ⟨fits, all⟩, ?_⟩
      rw [here, rest]
      rfl
    case mpr =>
      rintro ⟨rfl, front, length, all, here⟩
      cases front
      case nil => cases length
      case cons c front =>
        obtain ⟨fits, all⟩ := List.forall_mem_cons.mp all
        have rest : l.drop (i + 1) = front ++ l.drop (i + (n + 1)) := by
          rw [← List.drop_drop, here]
          rfl
        have first : Single l.toArray has i (i + 1) :=
          single_toArray.mpr ⟨rfl, c, fits, by rw [here, rest]; rfl⟩
        exact ⟨i + 1, first, hi.mpr ⟨by omega, front, by simpa using length, all, rest⟩⟩

-- A whole text is taken character by character if all of its characters fit.
theorem times_single_whole :
    Times (Single l.toArray has) n 0 l.length ↔ n = l.length ∧ ∀ c ∈ l, has c := by
  rw [times_single_toArray]
  constructor
  case mp =>
    rintro ⟨same, front, length, all, here⟩
    have : l = front := by simpa using here
    exact ⟨by omega, this ▸ all⟩
  case mpr =>
    rintro ⟨rfl, all⟩
    exact ⟨by omega, l, rfl, all, by simp⟩

end

namespace Node

variable {text : Array Char} {f : Flags} {i j : Nat}

theorem forward_takes (n : Node) (f : Flags) : Forward text.size (n.Takes text f) := by
  intro i j taken
  induction n generalizing f i j
  case empty => exact .inl taken
  case any | char | set => exact forward_single i j taken
  case anchor => exact .inl taken.right
  case seq a b ha hb =>
    obtain ⟨k, first, second⟩ := taken
    have := ha f i k first
    have := hb f k j second
    omega
  case alt a b ha hb => exact taken.elim (ha f i j) (hb f i j)
  case group on off b hb => exact hb _ i j taken
  case look ahead negated b hb =>
    cases ahead <;> cases negated
    case true.false => exact .inl taken.right
    all_goals cases taken
  case rep least most g b hb =>
    cases g
    case greedy =>
      obtain ⟨n, -, -, taken⟩ := taken
      exact Forward.times (fun i j => hb f i j) n i j taken
    all_goals cases taken
  case never | atomic | backref | cond => cases taken

theorem le_of_takes {n : Node} (h : n.Takes text f i j) : i ≤ j := by
  have := n.forward_takes f i j h
  omega

theorem width_le {n : Node} (h : n.Takes text f i j) : i + n.width.min ≤ j := by
  have capped (w : Width) : w.capped.min ≤ w.min := Nat.min_le_left _ _
  induction n generalizing f i j
  case empty => exact Nat.le_of_eq h
  case any | char | set => exact Nat.le_of_eq h.right.symm
  case anchor => exact Nat.le_of_eq h.right
  case seq a b ha hb =>
    obtain ⟨k, first, second⟩ := h
    have := ha first
    have := hb second
    have : (a.width.add b.width).min = a.width.min + b.width.min := rfl
    have : (seq a b).width.min ≤ (a.width.add b.width).min := capped _
    omega
  case alt a b ha hb =>
    have : (alt a b).width.min ≤ a.width.min := Nat.min_le_left _ _
    have : (alt a b).width.min ≤ b.width.min := Nat.min_le_right _ _
    rcases h with h | h
    · have := ha h
      omega
    · have := hb h
      omega
  case group on off b hb => exact hb h
  case look ahead negated b hb =>
    cases ahead <;> cases negated
    case true.false => exact Nat.le_of_eq h.right
    all_goals cases h
  case rep least most g b hb =>
    cases g
    case greedy =>
      obtain ⟨n, enough, -, taken⟩ := h
      have rounds : i + b.width.min * n ≤ j := by
        clear enough
        induction n generalizing i
        case zero => exact Nat.le_of_eq taken
        case succ n hi =>
          obtain ⟨k, first, rest⟩ := taken
          have := hb first
          have := hi rest
          rw [Nat.mul_succ]
          omega
      have : b.width.min * least ≤ b.width.min * n := Nat.mul_le_mul_left _ enough
      have : (rep least most .greedy b).width.min ≤ b.width.min * least := capped _
      omega
    all_goals cases h
  case never | atomic | backref | cond => cases h

theorem one?_set (f : Flags) (negated : Bool) (items : List SetItem) :
    ∃ moves, (set negated items).one? f = some ⟨setHas f negated items, moves⟩ := by
  unfold one?
  split
  case h_3 same =>
    cases same
    exact ⟨_, rfl⟩
  case h_4 same =>
    cases same
    exact ⟨_, rfl⟩
  case h_6 other _ => exact absurd rfl (other negated items)
  all_goals rename_i same; cases same

theorem lead?_set (f : Flags) (negated : Bool) (items : List SetItem) :
    (set negated items).lead? f = some .unknown ∨
      (set negated items).lead? f = some (.set (setHas f negated items)) := by
  unfold lead?
  split
  case h_3 => exact .inl rfl
  case h_4 same =>
    cases same
    split
    case isTrue => exact .inl rfl
    case isFalse => exact .inr rfl
  case h_7 => exact .inl rfl
  all_goals rename_i same; cases same

-- A part that the matcher takes for one character stands for one character.
theorem takes_eq_single {n : Node} {one : One} (h : n.one? f = some one) :
    n.Takes text f = Single text one.has := by
  induction n generalizing f
  case any | char =>
    cases h
    rfl
  case set negated items =>
    obtain ⟨moves, shape⟩ := one?_set f negated items
    cases shape.symm.trans h
    rfl
  case group index on off b hb =>
    cases index
    case none => exact hb h
    case some => cases h
  all_goals cases h

-- A character of the pattern takes itself where case matters.
theorem takes_char {l : List Char} (d : Char) (h : f.ignoreCase = false) :
    (char d.toNat).Takes l.toArray f i j ↔ j = i + 1 ∧ l.drop i = d :: l.drop j := by
  have same (c : Char) : charIs f d.toNat c ↔ c = d := by
    rw [charIs_of_caseSensitive h, beq_iff_eq, Char.toNat_inj]
  simp only [Takes, single_toArray, same, exists_eq_left]

-- Parts in a row, and what follows them.
theorem takes_foldr {ns : List Node} {rest : Node} : (ns.foldr seq rest).Takes text f i j ↔
    ∃ k, (ns.foldr seq empty).Takes text f i k ∧ rest.Takes text f k j := by
  induction ns generalizing i
  case nil => exact ⟨fun taken => ⟨i, rfl, taken⟩, fun ⟨_, here, taken⟩ => here ▸ taken⟩
  case cons n ns hi =>
    constructor
    case mp =>
      rintro ⟨e, first, taken⟩
      obtain ⟨k, others, taken⟩ := hi.mp taken
      exact ⟨k, ⟨e, first, others⟩, taken⟩
    case mpr =>
      rintro ⟨k, ⟨e, first, others⟩, taken⟩
      exact ⟨e, first, hi.mpr ⟨k, others, taken⟩⟩

theorem takes_word {l w : List Char} (h : f.ignoreCase = false) :
    ((w.map fun c => char c.toNat).foldr seq empty).Takes l.toArray f i j ↔
      j = i + w.length ∧ l.drop i = w ++ l.drop j := by
  induction w generalizing i
  case nil => exact ⟨fun here => ⟨here.symm, congrArg l.drop here⟩, fun here => here.left.symm⟩
  case cons c w hi =>
    constructor
    case mp =>
      rintro ⟨k, first, taken⟩
      obtain ⟨rfl, here⟩ := (takes_char c h).mp first
      obtain ⟨rfl, rest⟩ := hi.mp taken
      exact ⟨by simp; omega, by rw [here, rest]; rfl⟩
    case mpr =>
      rintro ⟨rfl, here⟩
      have rest : l.drop (i + 1) = w ++ l.drop (i + (w.length + 1)) := by
        rw [← List.drop_drop, here]
        rfl
      have first : (char c.toNat).Takes l.toArray f i (i + 1) :=
        (takes_char c h).mpr ⟨rfl, by rw [here, rest]; rfl⟩
      exact ⟨i + 1, first, hi.mpr ⟨by simp; omega, rest⟩⟩

theorem takes_optional {b : Node} :
    (rep 0 (some 1) .greedy b).Takes text f i j ↔ i = j ∨ b.Takes text f i j := by
  constructor
  case mp =>
    rintro ⟨n, -, atMost, taken⟩
    cases n
    case zero => exact .inl taken
    case succ n =>
      obtain ⟨k, first, taken⟩ := taken
      have last : n = 0 := by simpa using atMost
      cases last
      cases taken
      exact .inr first
  case mpr =>
    rintro (taken | taken)
    case inl => exact ⟨0, Nat.le_refl 0, rfl, taken⟩
    case inr => exact ⟨1, Nat.zero_le 1, rfl, j, taken, rfl⟩

-- What a part takes begins with what its lead admits, and so does what follows if it takes nothing.
theorem admits_lead {n : Node} {next : Lead} (taken : n.Takes text f i j)
    (follows : next.admits text[j]?) : (n.lead f next).admits text[i]? := by
  induction n generalizing f i j next
  case empty =>
    cases taken
    exact follows
  case char code =>
    simp only [lead, lead?, Option.getD_some]
    split
    case isTrue => rfl
    case isFalse folded =>
      have fits := taken.left
      cases here : text[i]? <;> rw [here] at fits
      case none => cases fits
      case some c => simpa [Lead.admits, charIs, folded] using fits
  case set negated items =>
    unfold lead
    rcases lead?_set f negated items with shape | shape <;> rw [shape]
    case inl => rfl
    case inr => exact taken.left
  case seq a b ha hb =>
    obtain ⟨k, first, second⟩ := taken
    rw [lead_seq]
    exact ha first (hb second follows)
  case group index on off b hb =>
    cases index
    case none => exact hb taken follows
    case some => rfl
  all_goals rfl

end Node

end RefWatch.Pattern
