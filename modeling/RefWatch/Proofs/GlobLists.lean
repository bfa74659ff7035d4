import Mathlib.Data.List.Basic
import RefWatch.Prefilter

namespace RefWatch

namespace Text

variable {c : Char} {s t w : List Char}

-- Words that are closed already stay behind those that are found in front of them.
theorem foldr_wordStep (s : List Char) (ws : List (List Char)) :
    s.foldr wordStep ([], ws) =
      ((s.foldr wordStep ([], [])).1, (s.foldr wordStep ([], [])).2 ++ ws) := by
  induction s
  case nil => rfl
  case cons c s hi =>
    simp only [List.foldr_cons, hi, wordStep]
    split
    case isFalse => rfl
    case isTrue =>
      unfold closeWord
      split <;> rfl

-- Words are cut at every blank, and nothing else about blanks is needed below.
theorem wordsOf_append_cons (h : isBlank c) (s t : List Char) :
    wordsOf (s ++ c :: t) = wordsOf s ++ wordsOf t := by
  have cut : (c :: t).foldr wordStep ([], []) = ([], wordsOf t) := by
    rw [List.foldr_cons, wordStep, if_pos h]
    rfl
  rw [wordsOf, List.foldr_append, cut, foldr_wordStep]
  simp only [wordsOf, closeWord]
  split <;> simp

theorem wordsOf_blanks_append (h : ∀ c ∈ w, isBlank c) (t : List Char) :
    wordsOf (w ++ t) = wordsOf t := by
  induction w
  case nil => rfl
  case cons c w hi =>
    have ⟨here, later⟩ := List.forall_mem_cons.mp h
    rw [List.cons_append, wordsOf_blank_cons here, hi later]

-- Nothing but blanks, and at least one of them.
structure IsGap (w : String) : Prop where
  filled : w ≠ ""
  blank  : ∀ c ∈ w.toList, isBlank c

theorem words_append_gap {w : String} (gap : IsGap w) (s t : String) :
    words (s ++ w ++ t) = words s ++ words t := by
  have blank := gap.blank
  cases chars : w.toList
  case nil => exact absurd (String.toList_eq_nil_iff.mp chars) gap.filled
  case cons c cs =>
    rw [chars] at blank
    have ⟨here, later⟩ := List.forall_mem_cons.mp blank
    have cut : wordsOf (s ++ w ++ t).toList = wordsOf s.toList ++ wordsOf t.toList := by
      simp only [String.toList_append, chars, List.append_assoc, List.cons_append]
      rw [wordsOf_append_cons here, wordsOf_blanks_append later]
    simp only [words, cut, List.map_append]

end Text

namespace Prefilter

open Text (words IsGap words_append_gap)

variable {i j d e w name : String}

theorem listed_iff : listed i name ↔ ∃ p ∈ words i, (Glob.ofString p).accepts name := by
  simp [listed, globs]

theorem listed_append_gap (gap : IsGap w) (i j name : String) :
    listed (i ++ w ++ j) name = (listed i name || listed j name) := by
  simp [listed, globs, words_append_gap gap]

theorem listed_mono (h : words i ⊆ words j) : listed i name → listed j name := by
  simp only [listed_iff]
  rintro ⟨p, member, accepted⟩
  exact ⟨p, h member, accepted⟩

theorem wildcardExcludes_iff :
    wildcardExcludes i e name ↔ (listed i name → listed e name) := by
  simp [wildcardExcludes, ← Bool.not_eq_true, imp_iff_not_or]

-- More to include never keeps more away.
theorem wildcardExcludes_anti (h : words i ⊆ words j) :
    wildcardExcludes j e name → wildcardExcludes i e name := by
  simp only [wildcardExcludes_iff]
  exact fun excluded member => excluded (listed_mono h member)

-- More to exclude never lets more pass.
theorem wildcardExcludes_mono (h : words d ⊆ words e) :
    wildcardExcludes i d name → wildcardExcludes i e name := by
  simp only [wildcardExcludes_iff]
  exact fun excluded member => listed_mono h (excluded member)

theorem wildcardExcludes_congr (hi : ∀ p, p ∈ words i ↔ p ∈ words j)
    (he : ∀ p, p ∈ words d ↔ p ∈ words e) :
    wildcardExcludes i d name = wildcardExcludes j e name := by
  have there : wildcardExcludes i d name → wildcardExcludes j e name := fun h =>
    wildcardExcludes_anti (fun p => (hi p).mpr) (wildcardExcludes_mono (fun p => (he p).mp) h)
  have back : wildcardExcludes j e name → wildcardExcludes i d name := fun h =>
    wildcardExcludes_anti (fun p => (hi p).mp) (wildcardExcludes_mono (fun p => (he p).mpr) h)
  exact Bool.eq_iff_iff.mpr ⟨there, back⟩

theorem wildcardExcludes_append_gap (gap : IsGap w) (i j e name : String) :
    wildcardExcludes (i ++ w ++ j) e name =
      (wildcardExcludes i e name && wildcardExcludes j e name) := by
  simp only [wildcardExcludes, listed_append_gap gap, Bool.not_or]
  exact Bool.or_and_distrib_right _ _ _

theorem wildcardExcludes_gap_append (gap : IsGap w) (i d e name : String) :
    wildcardExcludes i (d ++ w ++ e) name =
      (wildcardExcludes i d name || wildcardExcludes i e name) := by
  simp only [wildcardExcludes, listed_append_gap gap]
  cases listed i name <;> rfl

-- Two lists with a gap between them are asked as one, and only the sets of their globs count.
theorem excludes_wildcard_joined (gap : IsGap w) (h : Head) :
    (∀ i e v, (wildcard i e).excludes v h = .ok (wildcardExcludes i e h.name)) ∧
      (∀ i j e, wildcardExcludes (i ++ w ++ j) e h.name =
        (wildcardExcludes i e h.name && wildcardExcludes j e h.name)) ∧
      (∀ i d e, wildcardExcludes i (d ++ w ++ e) h.name =
        (wildcardExcludes i d h.name || wildcardExcludes i e h.name)) ∧
      (∀ i j d e, (∀ p, p ∈ words i ↔ p ∈ words j) → (∀ p, p ∈ words d ↔ p ∈ words e) →
        wildcardExcludes i d h.name = wildcardExcludes j e h.name) ∧
      (∀ i j e, words i ⊆ words j → wildcardExcludes j e h.name → wildcardExcludes i e h.name) ∧
      (∀ i d e, words d ⊆ words e → wildcardExcludes i d h.name → wildcardExcludes i e h.name) :=
  ⟨fun _ _ _ => rfl, fun i j e => wildcardExcludes_append_gap gap i j e h.name,
    fun i d e => wildcardExcludes_gap_append gap i d e h.name,
    fun _ _ _ _ => wildcardExcludes_congr, fun _ _ _ => wildcardExcludes_anti,
    fun _ _ _ => wildcardExcludes_mono⟩

-- A wide blank and a separator of files, and lists that come in another order, with a repetition.
theorem excludes_wildcard_joined_release :
    IsGap "\u2003\x1c" ∧
      (wildcardExcludes ("main" ++ "\u2003\x1c" ++ "release-*") "*-rc" "release-1" =
        (wildcardExcludes "main" "*-rc" "release-1" && wildcardExcludes "release-*" "*-rc" "release-1")) ∧
      wildcardExcludes "main" "*-rc" "release-1" ∧
      wildcardExcludes "release-*" "*-rc" "release-1" = false ∧
      wildcardExcludes "main release-*" "*-rc" "release-1" =
        wildcardExcludes "release-*\x85main\n release-* " "*-rc" "release-1" := by
  have gap : IsGap "\u2003\x1c" := ⟨by decide, List.all_eq_true.mp (by decide +kernel)⟩
  have joined := excludes_wildcard_joined gap (.branch "release-1")
  refine ⟨gap, joined.2.1 _ _ _, by decide +kernel, by decide +kernel, ?_⟩
  refine joined.2.2.2.1 _ _ _ _ (fun p => ?_) fun p => Iff.rfl
  have first : words "main release-*" = ["main", "release-*"] := by decide +kernel
  have second : words "release-*\x85main\n release-* " = ["release-*", "main", "release-*"] := by
    decide +kernel
  simp only [first, second, List.mem_cons, List.not_mem_nil, or_false]
  tauto

end Prefilter

end RefWatch
