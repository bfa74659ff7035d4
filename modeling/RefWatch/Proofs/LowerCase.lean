import Mathlib
import RefWatch.Text.Case

namespace RefWatch.Text

variable {c d : Char} {s t : List Char} {b : Bool}

-- Where a run moves a code point.
def CaseRun.target (r : CaseRun) (n : Nat) : Nat := (n + r.shift).toNat

-- Whether nothing that a run moves comes to stand in another run: it lands before it, behind it, or
-- between its steps.
def CaseRun.misses (r s : CaseRun) : Bool :=
  Nat.blt (r.target r.last) s.first || Nat.blt s.last (r.target r.first) ||
    ((r.step == 2 || r.first == r.last) && s.step == 2 && Nat.blt 0 (r.target r.first) &&
      r.target r.first % 2 != s.first % 2)

theorem CaseRun.bounds {r : CaseRun} {n : Nat} (h : r.has n) : r.first ≤ n ∧ n ≤ r.last := by
  simp only [has, Bool.and_eq_true, decide_eq_true_eq] at h
  exact h.left

theorem CaseRun.parity {r : CaseRun} {n : Nat} (h : r.has n) (hs : r.step = 2) :
    n % 2 = r.first % 2 := by
  simp only [has, hs, Bool.and_eq_true, decide_eq_true_eq, beq_iff_eq] at h
  omega

theorem CaseRun.not_has_of_misses {r s : CaseRun} {n : Nat} (h : r.has n) (hm : r.misses s) :
    s.has (r.target n) = false := by
  have ⟨first, last⟩ := bounds h
  refine Bool.eq_false_iff.mpr fun hs => ?_
  have ⟨first', last'⟩ := bounds hs
  simp only [misses, Bool.or_eq_true, Bool.and_eq_true, Nat.blt_eq, beq_iff_eq, bne_iff_ne] at hm
  simp only [target] at hm first' last' hs
  obtain (before | behind) | ⟨⟨⟨steps | point, step⟩, positive⟩, between⟩ := hm
  · omega
  · omega
  · have := parity h steps
    have := parity hs step
    omega
  · have := parity hs step
    omega

-- No run leads to a character with a longer lower case, or into another run.
theorem lowerRuns_settled :
    (lowerRuns.all fun r => Nat.blt (r.target r.last) 0x130 || Nat.blt 0x130 (r.target r.first)) ∧
      lowerRuns.all fun r => lowerRuns.all r.misses := by
  decide +kernel

-- What the runs do not tell: the ASCII characters, and those that come out of the other rules.
theorem lowerChar_settled :
    (∀ n < 0x80, lowerChar (Char.ofNat n).toLower = [(Char.ofNat n).toLower]) ∧
      (['i', Char.ofNat 0x307, Char.ofNat 0, smallSigma, finalSigma].all fun d => lowerChar d = [d]) ∧
      lowerChar capitalSigma = [smallSigma] ∧ smallSigma ≠ capitalSigma := by
  decide +kernel

theorem lowerChar_of_settled (h : d ∈ ['i', Char.ofNat 0x307, Char.ofNat 0, smallSigma, finalSigma]) :
    lowerChar d = [d] := by
  have := List.all_eq_true.mp lowerChar_settled.right.left d h
  simpa only [decide_eq_true_eq] using this

theorem lowerRuns_find?_eq_none {r : CaseRun} {n : Nat} (hr : r ∈ lowerRuns) (h : r.has n) :
    lowerRuns.find? (·.has (r.target n)) = none := by
  refine List.find?_eq_none.mpr fun s hs => ?_
  have miss : r.misses s := List.all_eq_true.mp (List.all_eq_true.mp lowerRuns_settled.right r hr) s hs
  simp [CaseRun.not_has_of_misses h miss]

theorem CaseRun.target_ne_of_mem {r : CaseRun} {n : Nat} (hr : r ∈ lowerRuns) (h : r.has n) :
    r.target n ≠ 0x130 := by
  have ⟨first, last⟩ := bounds h
  have avoid := List.all_eq_true.mp lowerRuns_settled.left r hr
  simp only [Bool.or_eq_true, Nat.blt_eq, target] at avoid ⊢
  omega

theorem lookup_lowerExpansions_eq_none {n : Nat} (h : n ≠ 0x130) :
    lowerExpansions.lookup n = none := by
  simp [lowerExpansions, h]

-- A character stays as it is if no entry of the tables is about it.
theorem lowerChar_eq_self (hl : d.toNat ≠ 0x130) (hf : lowerRuns.find? (·.has d.toNat) = none) :
    lowerChar d = [d] := by
  by_cases ascii : d.toNat < 0x80
  case pos =>
    have upper : ¬(0x41 ≤ d.toNat ∧ d.toNat ≤ 0x5A) := by
      have := List.find?_eq_none.mp hf ⟨0x41, 0x5A, 1, 32⟩ (.head _)
      simpa [CaseRun.has, Nat.mod_one] using this
    have same : d.toLower = d := by
      refine dif_neg fun h => upper ?_
      simpa [UInt32.le_iff_toNat_le] using h
    rw [lowerChar, if_pos ascii, same]
  case neg => simp [lowerChar, ascii, caseOf, lookup_lowerExpansions_eq_none hl, hf]

theorem lowerChar_of_mem_lowerChar (h : d ∈ lowerChar c) : lowerChar d = [d] := by
  by_cases ascii : c.toNat < 0x80
  case pos =>
    rw [lowerChar, if_pos ascii, List.mem_singleton] at h
    have := lowerChar_settled.left c.toNat ascii
    rwa [Char.ofNat_toNat, ← h] at this
  case neg =>
    rw [lowerChar, if_neg ascii] at h
    by_cases long : c.toNat = 0x130
    case pos =>
      have : d = 'i' ∨ d = Char.ofNat 0x307 := by simpa [caseOf, long, lowerExpansions] using h
      exact lowerChar_of_settled (by rcases this with rfl | rfl <;> simp)
    case neg =>
      simp only [caseOf, lookup_lowerExpansions_eq_none long] at h
      split at h
      case h_1 r hr =>
        rw [List.mem_singleton] at h
        have hm := List.mem_of_find?_eq_some hr
        have here : r.has c.toNat := by simpa using List.find?_some hr
        by_cases valid : (r.target c.toNat).isValidChar
        case pos =>
          have code : d.toNat = r.target c.toNat := by
            rw [h]
            exact (Char.toNat_ofNat _).trans (if_pos valid)
          have long' : d.toNat ≠ 0x130 := code ▸ CaseRun.target_ne_of_mem hm here
          exact lowerChar_eq_self long' (code ▸ lowerRuns_find?_eq_none hm here)
        case neg =>
          have code : d.toNat = 0 := by
            rw [h]
            exact (Char.toNat_ofNat _).trans (if_neg valid)
          rw [← Char.ofNat_toNat d, code]
          exact lowerChar_of_settled (by simp)
      case h_2 none =>
        rw [List.mem_singleton] at h
        exact h ▸ lowerChar_eq_self long none

theorem lowerChar_ne_nil (c : Char) : lowerChar c ≠ [] := by
  unfold lowerChar caseOf
  split
  case isTrue => simp
  case isFalse =>
    split
    case h_1 ns hl =>
      have : ns = [0x69, 0x307] := by
        simp only [lowerExpansions, List.lookup] at hl
        split at hl <;> simp_all
      simp [this]
    case h_2 => split <;> simp

theorem lowerFrom_eq_self (h : ∀ c ∈ s, lowerChar c = [c]) (b : Bool) : lowerFrom b s = s := by
  induction s generalizing b
  case nil => rfl
  case cons c cs hi =>
    have fixed : lowerChar c = [c] := h c List.mem_cons_self
    have ordinary : c ≠ capitalSigma := by
      rintro rfl
      obtain ⟨-, -, small, ne⟩ := lowerChar_settled
      exact ne (List.singleton_inj.mp (small.symm.trans fixed))
    rw [lowerFrom_cons_of_ne ordinary, fixed, hi fun d hd => h d (List.mem_cons_of_mem _ hd)]
    rfl

theorem lowerChar_of_mem_lowerFrom (h : d ∈ lowerFrom b s) : lowerChar d = [d] := by
  induction s generalizing b
  case nil => cases h
  case cons c cs hi =>
    rw [lowerFrom] at h
    rcases List.mem_append.mp h with h | h
    case inr => exact hi h
    case inl =>
      split at h
      case isTrue =>
        rw [List.mem_singleton] at h
        rw [h]
        exact lowerChar_of_settled (by split <;> simp)
      case isFalse => exact lowerChar_of_mem_lowerChar h

theorem lowerFrom_lowerFrom (a b : Bool) (s : List Char) :
    lowerFrom a (lowerFrom b s) = lowerFrom b s :=
  lowerFrom_eq_self (fun _ => lowerChar_of_mem_lowerFrom) a

theorem lower_lower (s : String) : lower (lower s) = lower s := by
  simp [lower, lowerFrom_lowerFrom]

-- How long a text gets does not depend on what stands around it.
theorem length_lowerFrom (b : Bool) (s : List Char) :
    (lowerFrom b s).length = (s.map fun c => (lowerChar c).length).sum := by
  induction s generalizing b
  case nil => rfl
  case cons c cs hi =>
    rw [lowerFrom, List.length_append, hi, List.map_cons, List.sum_cons]
    congr 1
    split
    case isTrue h => rw [h, lowerChar_settled.right.right.left]; rfl
    case isFalse => rfl

theorem length_lowerFrom_append (b : Bool) (s t : List Char) :
    (lowerFrom b (s ++ t)).length = (lowerFrom b s).length + (lowerFrom b t).length := by
  simp [length_lowerFrom]

theorem length_le_length_lowerFrom (b : Bool) (s : List Char) :
    s.length ≤ (lowerFrom b s).length := by
  induction s generalizing b
  case nil => simp
  case cons c cs hi =>
    have := List.length_pos_iff.mpr (lowerChar_ne_nil c)
    have := hi b
    simp only [length_lowerFrom, List.map_cons, List.sum_cons, List.length_cons] at this ⊢
    omega

end RefWatch.Text
