import RefWatch.Name

namespace RefWatch.Name

open Text (isAsciiAlphanumeric isHexDigit)

theorem char_le_iff (c d : Char) : c ≤ d ↔ c.toNat ≤ d.toNat := by
  rw [Char.le_def, UInt32.le_iff_toNat_le]
  rfl

def IsHex (c : Char) : Prop := c.isDigit ∨ 'a' ≤ c ∧ c ≤ 'f' ∨ 'A' ≤ c ∧ c ≤ 'F'

theorem isAsciiAlphanumeric_eq (c : Char) : isAsciiAlphanumeric c = c.isAlphanum := by
  have upper : c.isUpper = decide ('A' ≤ c ∧ c ≤ 'Z') := rfl
  have lower : c.isLower = (decide ('a' ≤ c) && decide (c ≤ 'z')) := rfl
  have letter : Text.isAsciiLetter c = (c.isUpper || c.isLower) := by
    rw [upper, lower, Text.isAsciiLetter, Bool.decide_and, Bool.or_comm]
  have digit : Text.isAsciiDigit c = c.isDigit := rfl
  rw [isAsciiAlphanumeric, letter, digit]
  rfl

theorem isHexDigit_iff {c : Char} : isHexDigit c ↔ IsHex c := by
  have digit : c.isDigit = Text.isAsciiDigit c := rfl
  simp only [isHexDigit, IsHex, digit, Bool.or_eq_true, Bool.and_eq_true, decide_eq_true_eq, or_assoc]

-- A character of ASCII that does not break the line.
def Inline (c : Char) : Prop := c ≠ '\n' ∧ c.toNat < 0x80

instance (c : Char) : Decidable (Inline c) := inferInstanceAs (Decidable (_ ∧ _))

theorem inline_of_between {c low high : Char} (h : low ≤ c ∧ c ≤ high) (late : 0x0A < low.toNat)
    (early : high.toNat < 0x80) : Inline c := by
  obtain ⟨first, last⟩ := h
  rw [char_le_iff] at first last
  have other : c.toNat ≠ '\n'.toNat := Nat.ne_of_gt (Nat.lt_of_lt_of_le late first)
  exact ⟨fun same => other (congrArg Char.toNat same), Nat.lt_of_le_of_lt last early⟩

theorem inline_of_isAlphanum {c : Char} (h : c.isAlphanum) : Inline c := by
  simp only [← isAsciiAlphanumeric_eq, isAsciiAlphanumeric, Text.isAsciiLetter, Text.isAsciiDigit,
    Bool.or_eq_true, Bool.and_eq_true, decide_eq_true_eq] at h
  obtain (within | within) | within := h <;> exact inline_of_between within (by decide) (by decide)

theorem inline_of_isHex {c : Char} (h : IsHex c) : Inline c := by
  simp only [← isHexDigit_iff, isHexDigit, Text.isAsciiDigit, Bool.or_eq_true, Bool.and_eq_true,
    decide_eq_true_eq] at h
  obtain (within | within) | within := h <;> exact inline_of_between within (by decide) (by decide)

-- Letters and digits, in stretches that single hyphens keep apart.
structure IsAccountName (s : String) : Prop where
  length : 1 ≤ s.length ∧ s.length ≤ 39
  chars  : ∀ c ∈ s.toList, c.isAlphanum ∨ c = '-'
  first  : s.toList.head? ≠ some '-'
  last   : s.toList.getLast? ≠ some '-'
  apart  : ¬['-', '-'] <:+: s.toList

structure IsRepositoryName (s : String) : Prop where
  filled : s ≠ ""
  chars  : ∀ c ∈ s.toList, c.isAlphanum ∨ c = '.' ∨ c = '_' ∨ c = '-'

structure IsCommitId (s : String) : Prop where
  length : s.length = 40
  chars  : ∀ c ∈ s.toList, IsHex c

-- The rest of an account name, after its first letter or digit.
structure IsAccountRest (cs : List Char) : Prop where
  chars : ∀ c ∈ cs, c.isAlphanum ∨ c = '-'
  last  : cs.getLast? ≠ some '-'
  apart : ¬['-', '-'] <:+: cs

theorem isAccountRest_cons_iff {c : Char} {cs : List Char} (h : c ≠ '-') :
    IsAccountRest (c :: cs) ↔ c.isAlphanum ∧ IsAccountRest cs := by
  have last : (c :: cs).getLast? = some '-' ↔ cs.getLast? = some '-' := by
    cases here : cs.getLast? <;> simp [List.getLast?_cons, here, h]
  have apart : ['-', '-'] <:+: c :: cs ↔ ['-', '-'] <:+: cs := by
    simp [List.infix_cons_iff, List.cons_prefix_cons, Ne.symm h]
  constructor
  case mp =>
    intro rest
    have ⟨first, others⟩ := List.forall_mem_cons.mp rest.chars
    exact ⟨first.resolve_right h, others, (not_congr last).mp rest.last, (not_congr apart).mp rest.apart⟩
  case mpr =>
    rintro ⟨first, rest⟩
    exact ⟨List.forall_mem_cons.mpr ⟨.inl first, rest.chars⟩, (not_congr last).mpr rest.last,
      (not_congr apart).mpr rest.apart⟩

theorem isAccountRest_hyphen_cons_iff {c : Char} {cs : List Char} :
    IsAccountRest ('-' :: c :: cs) ↔ c ≠ '-' ∧ IsAccountRest (c :: cs) := by
  have last : ('-' :: c :: cs).getLast? = (c :: cs).getLast? := List.getLast?_cons_cons
  have apart : ['-', '-'] <:+: '-' :: c :: cs ↔ c = '-' ∨ ['-', '-'] <:+: c :: cs := by
    simp [List.infix_cons_iff, List.cons_prefix_cons, eq_comm]
  constructor
  case mp =>
    intro rest
    have ⟨other, rest_apart⟩ := not_or.mp ((not_congr apart).mp rest.apart)
    exact ⟨other, (List.forall_mem_cons.mp rest.chars).right, last ▸ rest.last, rest_apart⟩
  case mpr =>
    rintro ⟨other, rest⟩
    exact ⟨List.forall_mem_cons.mpr ⟨.inr rfl, rest.chars⟩, last ▸ rest.last,
      (not_congr apart).mpr (not_or.mpr ⟨other, rest.apart⟩)⟩

theorem isHyphenated_iff {cs : List Char} : isHyphenated cs ↔ IsAccountRest cs := by
  fun_induction isHyphenated cs
  case case1 => exact ⟨fun _ => ⟨by simp, by simp, by simp⟩, fun _ => rfl⟩
  case case2 c cs hi =>
    rw [Bool.and_eq_true, hi, isAsciiAlphanumeric_eq, isAccountRest_hyphen_cons_iff]
    by_cases h : c = '-'
    case pos => simp [h]
    case neg => simp [h, isAccountRest_cons_iff h]
  case case3 c cs not hi =>
    rw [Bool.and_eq_true, hi, isAsciiAlphanumeric_eq]
    by_cases h : c = '-'
    case pos =>
      have hyphen : c.isAlphanum = false := by rw [h]; decide
      cases cs
      case nil =>
        have ended : ¬IsAccountRest [c] := fun rest => rest.last (by rw [h]; rfl)
        simp [hyphen, ended]
      case cons d ds => cases not d ds h rfl
    case neg => rw [isAccountRest_cons_iff h]

theorem isAccount_iff {s : String} : isAccount s ↔ IsAccountName s := by
  have length : s.toList.length = s.length := String.length_toList
  unfold isAccount
  split
  case h_1 empty =>
    rw [empty] at length
    refine ⟨nofun, fun name => ?_⟩
    have := name.length.left
    simp only [List.length_nil] at length
    omega
  case h_2 c cs text =>
    rw [text, List.length_cons] at length
    simp only [Bool.and_eq_true, decide_eq_true_eq, isAsciiAlphanumeric_eq, isHyphenated_iff]
    have longest : longestAccount = 39 := rfl
    constructor
    case mp =>
      rintro ⟨letter, short⟩
      have first : c ≠ '-' := fun h => by simp [h] at letter
      have rest := (isAccountRest_cons_iff first).mpr letter
      exact ⟨by omega, text ▸ rest.chars, by simp [text, first], text ▸ rest.last, text ▸ rest.apart⟩
    case mpr =>
      intro name
      have first : c ≠ '-' := fun h => name.first (by rw [text, h]; rfl)
      have rest : IsAccountRest (c :: cs) := text ▸ ⟨name.chars, name.last, name.apart⟩
      have := name.length.right
      exact ⟨(isAccountRest_cons_iff first).mp rest, by omega⟩

theorem isRepository_iff {s : String} : isRepository s ↔ IsRepositoryName s := by
  have chars : (∀ c ∈ s.toList, isRepositoryChar c) ↔
      ∀ c ∈ s.toList, c.isAlphanum ∨ c = '.' ∨ c = '_' ∨ c = '-' := by
    simp [isRepositoryChar, isAsciiAlphanumeric_eq, or_assoc]
  rw [isRepository, Bool.and_eq_true, List.all_eq_true, chars, bne_iff_ne]
  exact ⟨fun ⟨filled, chars⟩ => ⟨filled, chars⟩, fun name => ⟨name.filled, name.chars⟩⟩

theorem isCommit_iff {s : String} : isCommit s ↔ IsCommitId s := by
  have length : s.toList.length = s.length := String.length_toList
  simp only [isCommit, Bool.and_eq_true, decide_eq_true_eq, List.all_eq_true, isHexDigit_iff, length,
    commitLength]
  exact ⟨fun ⟨length, chars⟩ => ⟨length, chars⟩, fun id => ⟨id.length, id.chars⟩⟩

theorem IsAccountName.inline {s : String} (h : IsAccountName s) : ∀ c ∈ s.toList, Inline c := by
  intro c hc
  rcases h.chars c hc with letter | rfl
  case inl => exact inline_of_isAlphanum letter
  case inr => decide

theorem ascii_of_isAccount {s : String} (h : isAccount s) : ∀ c ∈ s.toList, c.toNat < 0x80 :=
  fun c hc => ((isAccount_iff.mp h).inline c hc).right

theorem IsRepositoryName.inline {s : String} (h : IsRepositoryName s) : ∀ c ∈ s.toList, Inline c := by
  intro c hc
  rcases h.chars c hc with letter | rfl | rfl | rfl
  case inl => exact inline_of_isAlphanum letter
  all_goals decide

theorem ascii_of_isRepository {s : String} (h : isRepository s) : ∀ c ∈ s.toList, c.toNat < 0x80 :=
  fun c hc => ((isRepository_iff.mp h).inline c hc).right

theorem IsCommitId.inline {s : String} (h : IsCommitId s) : ∀ c ∈ s.toList, Inline c :=
  fun c hc => inline_of_isHex (h.chars c hc)

end RefWatch.Name
