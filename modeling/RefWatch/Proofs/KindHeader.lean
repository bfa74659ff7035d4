import RefWatch.Notification
import RefWatch.Proofs.LetterCase

namespace RefWatch

open List

namespace Text

variable {c d : Char} {a b s t w : List Char} {blank : Char → Bool}

theorem trim_framed (ha : ∀ c ∈ a, blank c) (hw : ∀ c ∈ w, ¬blank c) (hb : ∀ c ∈ b, blank c) :
    trim blank (a ++ w ++ b) = w := by
  have front : (a ++ w ++ b).dropWhile blank = (w ++ b).dropWhile blank := by
    rw [append_assoc, dropWhile_append_of_pos ha]
  rw [trim, front]
  cases w
  case nil => rw [nil_append, dropWhile_eq_nil_iff.mpr hb]; rfl
  case cons c w =>
    have inside : ∀ d ∈ (c :: w).reverse, ¬blank d := fun d hd => hw d (mem_reverse.mp hd)
    have first : (c :: w ++ b).dropWhile blank = c :: w ++ b :=
      dropWhile_cons_of_neg (hw c mem_cons_self)
    have back : ∀ d ∈ b.reverse, blank d := fun d hd => hb d (mem_reverse.mp hd)
    rw [first, reverse_append, dropWhile_append_of_pos back]
    cases last : (c :: w).reverse
    case nil => simp at last
    case cons d v =>
      rw [last] at inside
      rw [dropWhile_cons_of_neg (inside d mem_cons_self), ← last, reverse_reverse]

theorem exists_framed (blank : Char → Bool) (s : List Char) :
    ∃ a b, s = a ++ trim blank s ++ b ∧ (∀ c ∈ a, blank c) ∧ ∀ c ∈ b, blank c := by
  have blanks (t : List Char) : ∀ c ∈ t.takeWhile blank, blank c := fun _ => mem_takeWhile_imp
  have cut (t : List Char) : t.takeWhile blank ++ t.dropWhile blank = t := takeWhile_append_dropWhile
  generalize back : (s.dropWhile blank).reverse = r
  refine ⟨s.takeWhile blank, (r.takeWhile blank).reverse, ?_, blanks s, fun c hc => ?_⟩
  case refine_1 =>
    have rest : trim blank s ++ (r.takeWhile blank).reverse = s.dropWhile blank := by
      rw [trim, back, ← reverse_append, cut, ← back, reverse_reverse]
    rw [append_assoc, rest, cut]
  case refine_2 => exact blanks r c (mem_reverse.mp hc)

theorem isBlank_of_letter (h : isAsciiLetter c) : isBlank c = false := by
  have table : ∀ n < 0x7B, isAsciiLetter (Char.ofNat n) → isBlank (Char.ofNat n) = false := by
    decide +kernel
  have letter := toNat_of_isAsciiLetter h
  have small : c.toNat < 0x7B := by omega
  have here := table c.toNat small
  rw [Char.ofNat_toNat] at here
  exact here h

-- Two letters stand in the lower case of other characters, the dotted capital I and the sign for kelvin.
def isFaithful (c : Char) : Bool := 'a' ≤ c && c ≤ 'z' && c != 'i' && c != 'k'

-- A run begins with a capital letter, or leads beyond the ASCII characters, or to a 'k'.
theorem lowerRuns_avoid :
    lowerRuns.all fun r => Nat.blt r.last 0x80 || Nat.ble 0x80 (r.target r.first) ||
      (r.first == r.last && r.target r.first == 'k'.toNat) := by
  decide +kernel

theorem isFaithful_iff :
    isFaithful c ↔ 0x61 ≤ c.toNat ∧ c.toNat ≤ 0x7A ∧ c ≠ 'i' ∧ c ≠ 'k' := by
  simp [isFaithful, Char.le_def, UInt32.le_iff_toNat_le, and_assoc]

theorem ascii_of_mem_lowerChar (h : d ∈ lowerChar c) (faithful : isFaithful d) : c.toNat < 0x80 := by
  obtain ⟨first, last, dotted, kelvin⟩ := isFaithful_iff.mp faithful
  by_contra beyond
  rw [lowerChar, if_neg beyond, caseOf] at h
  split at h
  case h_1 ns expansion =>
    have long : c.toNat = 0x130 := by
      by_contra other
      rw [lookup_lowerExpansions_eq_none other] at expansion
      cases expansion
    simp only [long, lowerExpansions, lookup_cons, beq_self_eq_true, Option.some.injEq] at expansion
    subst expansion
    have : d = 'i' ∨ d = Char.ofNat 0x307 := by simpa using h
    rcases this with rfl | rfl
    · exact dotted rfl
    · revert last; decide
  case h_2 =>
    split at h
    case h_1 r found =>
      rw [mem_singleton] at h
      have member := mem_of_find?_eq_some found
      have here : r.has c.toNat := by simpa using find?_some found
      obtain ⟨lower, upper⟩ := CaseRun.bounds here
      have code : d.toNat = r.target c.toNat ∨ d.toNat = 0 := by
        rw [h]
        exact (Char.toNat_ofNat _).symm ▸ ite_eq_or_eq ..
      have avoid := all_eq_true.mp lowerRuns_avoid r member
      simp only [Bool.or_eq_true, Bool.and_eq_true, Nat.blt_eq, Nat.ble_eq, beq_iff_eq] at avoid
      rcases avoid with (capital | away) | ⟨single, same⟩
      · omega
      · simp only [CaseRun.target] at code away
        omega
      · have point : c.toNat = r.first := by omega
        rw [point, same] at code
        refine kelvin (Char.toNat_inj.mp (code.resolve_right ?_))
        omega
    case h_2 =>
      rw [mem_singleton] at h
      rw [h] at last
      omega

theorem map_toLower_of_lowerFrom {b : Bool} (h : lowerFrom b s = t) (faithful : ∀ d ∈ t, isFaithful d) :
    s.map Char.toLower = t := by
  induction s generalizing b t
  case nil => exact h
  case cons c cs hi =>
    have ordinary : c ≠ capitalSigma := by
      rintro rfl
      rw [lowerFrom, if_pos rfl] at h
      subst h
      have sigma := faithful _ mem_cons_self
      split at sigma <;> revert sigma <;> decide
    rw [lowerFrom_cons_of_ne ordinary] at h
    obtain ⟨d, hd⟩ := exists_mem_of_ne_nil _ (lowerChar_ne_nil c)
    have ascii := ascii_of_mem_lowerChar hd (faithful d (h ▸ mem_append_left _ hd))
    rw [lowerChar, if_pos ascii, singleton_append] at h
    subst h
    rw [map_cons, hi rfl fun e he => faithful e (mem_cons_of_mem _ he)]

theorem sameLetter_toLower (c : Char) : SameLetter c c.toLower := by
  cases letter : isAsciiLetter c
  case false => exact .inl (toLower_of_not_letter letter).symm
  case true =>
    have small : isAsciiLetter c.toLower := (isAsciiLetter_toLower c).trans letter
    exact .inr ⟨letter, small, (Char.toLower_toLower_eq_toLower c).symm⟩

-- Some texts are the lower case of nothing but themselves in other cases of their letters.
theorem lower_eq_iff_recased {name w : String} (small : lower name = name)
    (faithful : ∀ d ∈ name.toList, isFaithful d) : lower w = name ↔ Recased w name := by
  constructor
  case mp =>
    intro h
    have lowered : w.toList.map Char.toLower = name.toList := by
      refine map_toLower_of_lowerFrom (b := false) ?_ faithful
      rw [← h, lower, String.toList_ofList]
    rw [Recased, ← lowered, forall₂_map_right_iff]
    exact forall₂_same.mpr fun c _ => sameLetter_toLower c
  case mpr => exact fun h => h.lower.trans small

end Text

namespace EventKind

open Text

theorem ofName?_eq_some_iff {s : String} {k : EventKind} : ofName? s = some k ↔ s = k.name := by
  constructor
  case mp =>
    intro h
    unfold ofName? at h
    repeat' split at h
    all_goals cases h
    all_goals assumption
  case mpr =>
    rintro rfl
    exact ofName?_name k

theorem lower_name (k : EventKind) : lower k.name = k.name := by cases k <;> decide +kernel

theorem isFaithful_of_mem_name (k : EventKind) : ∀ c ∈ k.name.toList, isFaithful c := by
  refine all_eq_true.mp ?_
  cases k <;> decide +kernel

-- The name of a kind, in any case of its letters, between blanks.
structure Spelled (k : EventKind) (before word after header : String) : Prop where
  whole  : header = before ++ word ++ after
  front  : ∀ c ∈ before.toList, isBlank c
  back   : ∀ c ∈ after.toList, isBlank c
  letter : Recased word k.name

theorem isAsciiLetter_of_recased {k : EventKind} {w : String} (h : Recased w k.name) :
    ∀ c ∈ w.toList, isAsciiLetter c := by
  have named : ∀ d ∈ k.name.toList, isAsciiLetter d := by
    refine all_eq_true.mp ?_
    cases k <;> decide +kernel
  intro c hc
  have lowered : c.toLower ∈ k.name.toList.map Char.toLower := h.toLower ▸ mem_map_of_mem hc
  obtain ⟨d, hd, same⟩ := mem_map.mp lowered
  rw [← isAsciiLetter_toLower, ← same, isAsciiLetter_toLower]
  exact named d hd

theorem Spelled.strip {k : EventKind} {before word after header : String}
    (h : Spelled k before word after header) : strip header = word := by
  have inside : ∀ c ∈ word.toList, ¬isBlank c := fun c hc =>
    Bool.eq_false_iff.mp (isBlank_of_letter (isAsciiLetter_of_recased h.letter c hc))
  rw [Text.strip, h.whole, String.toList_append, String.toList_append,
    trim_framed h.front inside h.back, String.ofList_toList]

theorem exists_spelled {k : EventKind} {header : String} (h : Recased (strip header) k.name) :
    ∃ before word after, Spelled k before word after header := by
  obtain ⟨a, b, whole, front, back⟩ := exists_framed isBlank header.toList
  refine ⟨String.ofList a, Text.strip header, String.ofList b, ?_, ?_, ?_, h⟩
  case refine_1 =>
    rw [← String.toList_inj, String.toList_append, String.toList_append, Text.strip,
      String.toList_ofList, String.toList_ofList, String.toList_ofList]
    exact whole
  case refine_2 => rwa [String.toList_ofList]
  case refine_3 => rwa [String.toList_ofList]

theorem ofHeader?_eq_some_iff {header : String} {k : EventKind} :
    ofHeader? header = some k ↔ Recased (strip header) k.name := by
  rw [ofHeader?, ofName?_eq_some_iff, lower_eq_iff_recased (lower_name k) (isFaithful_of_mem_name k)]

theorem ofHeader_iff_spelled (header : String) :
    (∀ k, ofHeader? header = some k ↔ ∃ before word after, Spelled k before word after header) ∧
      (ofHeader? header = none ↔ ∀ k before word after, ¬Spelled k before word after header) ∧
      ∀ c ∈ (strip header).toList, 0x80 ≤ c.toNat → ofHeader? header = none := by
  have exactly (k : EventKind) :
      ofHeader? header = some k ↔ ∃ before word after, Spelled k before word after header := by
    rw [ofHeader?_eq_some_iff]
    refine ⟨exists_spelled, fun ⟨before, word, after, spelled⟩ => ?_⟩
    rw [spelled.strip]
    exact spelled.letter
  refine ⟨exactly, ?_, fun c hc beyond => ?_⟩
  case refine_1 => simp only [Option.eq_none_iff_forall_ne_some, ne_eq, exactly, not_exists]
  case refine_2 =>
    by_contra named
    obtain ⟨k, hk⟩ := Option.ne_none_iff_exists'.mp named
    have letter := isAsciiLetter_of_recased (ofHeader?_eq_some_iff.mp hk) c hc
    have := toNat_of_isAsciiLetter letter
    omega

-- The blanks need not be ASCII characters either.
example : ofHeader? "\u2003PuSH\t" = some .push := by decide +kernel

end EventKind

end RefWatch
