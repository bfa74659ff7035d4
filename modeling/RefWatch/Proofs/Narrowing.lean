import Mathlib.Data.List.TakeWhile
import RefWatch.Proofs.Prefilter
import RefWatch.Settings

namespace RefWatch

namespace Text

theorem wordsOf_eq_nil_iff {s : List Char} : wordsOf s = [] ↔ ∀ c ∈ s, isBlank c := by
  induction s
  case nil => simp [wordsOf_nil]
  case cons c s hi =>
    rw [List.forall_mem_cons]
    by_cases blank : isBlank c
    case pos =>
      rw [wordsOf_blank_cons blank, hi, iff_and_self]
      exact fun _ => blank
    case neg =>
      have opened : wordsOf (c :: s) ≠ [] := by
        rw [wordsOf, List.foldr_cons, wordStep, if_neg blank]
        exact List.cons_ne_nil _ _
      exact iff_of_false opened fun all => blank all.left

theorem trim_eq_nil_iff {blank : Char → Bool} {s : List Char} :
    trim blank s = [] ↔ ∀ c ∈ s, blank c := by
  rw [trim, List.reverse_eq_nil_iff, List.dropWhile_eq_nil_iff]
  simp only [List.mem_reverse]
  constructor
  case mp =>
    intro left c hc
    rw [← List.takeWhile_append_dropWhile (p := blank) (l := s), List.mem_append] at hc
    exact hc.elim List.mem_takeWhile_imp (left c)
  case mpr => exact fun all c hc => all c ((List.dropWhile_suffix blank).mem hc)

theorem words_eq_nil_iff {s : String} : words s = [] ↔ strip s = "" := by
  rw [words, List.map_eq_nil_iff, wordsOf_eq_nil_iff, strip, String.ofList_eq_empty_iff, trim_eq_nil_iff]

end Text

namespace Glob

-- After `*` a text fits if any of its suffixes does.
theorem headD_fitsAfterText (fits : List Bool) : (fitsAfterText fits).headD false = fits.any id := by
  induction fits
  case nil => rfl
  case cons b bs hi => rw [List.any_cons, ← hi]; rfl

theorem accepts_anyText (g : Glob) (s : String) : accepts (.anyText :: g) s = (fits s.toList g).any id :=
  headD_fitsAfterText _

-- Line breaks are no exception.
theorem accepts_star (s : String) : (ofString "*").accepts s = true := by
  have read : ofString "*" = [.anyText] := by decide +kernel
  rw [read, accepts_anyText, fits, List.any_append]
  exact Bool.or_true _

end Glob

theorem Prefilter.chainExcludes_singleton (p : Prefilter) (v : View) (h : Head) :
    chainExcludes [p] v h = p.excludes v h := by
  by_cases pass : p.excludes v h = .ok false
  case pos => rw [chainExcludes_cons_of_pass pass, chainExcludes_nil, pass]
  case neg => exact chainExcludes_cons_of_stop pass []

namespace SourceSettings

open Prefilter

variable {s : SourceSettings}

theorem narrows_eq_false_iff :
    s.narrows = false ↔ Text.words s.includes = ["*"] ∧ Text.words s.excludes = [] := by
  rw [narrows, Bool.or_eq_false_iff, bne_eq_false_iff_eq, bne_eq_false_iff_eq, Text.words_eq_nil_iff]

example :
    narrows
      { owner := "acme", repository := "widgets", includes := "\t*\n", excludes := "\u2003\x1c" } =
        false := by
  decide +kernel

theorem wildcardExcludes_of_not_narrows (h : s.narrows = false) (name : String) :
    wildcardExcludes s.includes s.excludes name = false := by
  have ⟨includes, excludes⟩ := narrows_eq_false_iff.mp h
  simp [wildcardExcludes, listed, globs, includes, excludes, Glob.accepts_star]

-- The lists may always be asked: where no prefilter has been made of them, they let everything pass.
theorem chainExcludes_prefilters (s : SourceSettings) (v : View) (h : Head) :
    chainExcludes s.prefilters v h =
      chainExcludes (.wildcard s.includes s.excludes :: (s.pattern.map Prefilter.pattern).toList) v h := by
  rw [prefilters]
  cases narrow : s.narrows
  case true => rfl
  case false =>
    have pass : (wildcard s.includes s.excludes).excludes v h = .ok false :=
      congrArg Except.ok (wildcardExcludes_of_not_narrows narrow h.name)
    rw [chainExcludes_cons_of_pass pass]
    rfl

-- A head is excluded by the lists of globs, whether they have been left out or not, or else by a pattern
-- that does not take its whole name.
theorem excludes_toSource (s : SourceSettings) (v : View) (h : Head) :
    chainExcludes s.toSource.prefilters v h =
      if wildcardExcludes s.includes s.excludes h.name then .ok true
      else
        match s.pattern with
        | none => .ok false
        | some p => ((p.accepts h.name).map not).mapError .misfit := by
  have made : s.toSource.prefilters = s.prefilters := rfl
  rw [made, chainExcludes_prefilters]
  by_cases stop : wildcardExcludes s.includes s.excludes h.name
  case pos =>
    have stopped : (wildcard s.includes s.excludes).excludes v h = .ok true := congrArg Except.ok stop
    rw [chainExcludes_cons_of_stop (by rw [stopped]; simp), stopped, if_pos stop]
  case neg =>
    have pass : (wildcard s.includes s.excludes).excludes v h = .ok false :=
      congrArg Except.ok (Bool.eq_false_iff.mpr stop)
    rw [chainExcludes_cons_of_pass pass, if_neg stop]
    cases s.pattern
    case none => rfl
    case some p => exact chainExcludes_singleton (.pattern p) v h

end SourceSettings

end RefWatch
