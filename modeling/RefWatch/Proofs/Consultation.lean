import Mathlib.Data.List.Basic
import RefWatch.Proofs.Prefilter

namespace RefWatch.Prefilter

variable {p : Prefilter} {ps qs : List Prefilter} {v w : View} {h : Head}

-- To ask prefilters, after some that have been asked; what has been asked stays so if one fails.
abbrev Inquiry := ExceptT Failure (StateM (List Prefilter))

def ask (v : View) (h : Head) (p : Prefilter) : Inquiry Bool :=
  ExceptT.mk fun asked => (p.excludes v h, asked ++ [p])

-- What a chain answers, and those that it asks for that, in order.
def consult (ps : List Prefilter) (v : View) (h : Head) : Except Failure Bool × List Prefilter :=
  (ps.anyM (ask v h)).run []

-- The chain itself asks in the same way and keeps no record.
theorem chainExcludes_eq_anyM (ps : List Prefilter) (v : View) (h : Head) :
    chainExcludes ps v h = ps.anyM (·.excludes v h) := by
  induction ps
  case nil => rfl
  case cons p ps hi =>
    rw [chainExcludes, hi, List.anyM_cons]
    cases p.excludes v h
    case error => rfl
    case ok b => cases b <;> rfl

theorem run_anyM_ask_cons (p : Prefilter) (ps : List Prefilter) (v : View) (h : Head) (asked : List Prefilter) :
    ((p :: ps).anyM (ask v h)).run asked =
      if p.excludes v h = .ok false then (ps.anyM (ask v h)).run (asked ++ [p])
      else (p.excludes v h, asked ++ [p]) := by
  rw [List.anyM_cons]
  match answer : p.excludes v h with
  | .ok false | .ok true | .error _ => simp only [ask, answer]; rfl

-- Those that have been asked before only stand in front of the record.
theorem run_anyM_ask (ps : List Prefilter) (v : View) (h : Head) (asked : List Prefilter) :
    (ps.anyM (ask v h)).run asked = (chainExcludes ps v h, asked ++ (consult ps v h).2) := by
  induction ps generalizing asked
  case nil => exact congrArg (Prod.mk _) asked.append_nil.symm
  case cons p ps hi =>
    rw [consult, run_anyM_ask_cons, run_anyM_ask_cons]
    by_cases pass : p.excludes v h = .ok false
    case pos =>
      rw [if_pos pass, if_pos pass, hi, hi, chainExcludes_cons_of_pass pass, List.append_assoc]
      rfl
    case neg =>
      rw [if_neg pass, if_neg pass, chainExcludes_cons_of_stop pass]
      rfl

theorem fst_consult (ps : List Prefilter) (v : View) (h : Head) : (consult ps v h).1 = chainExcludes ps v h :=
  congrArg Prod.fst (run_anyM_ask ps v h [])

theorem consult_nil (v : View) (h : Head) : consult [] v h = (.ok false, []) := rfl

theorem consult_cons_of_pass (pass : p.excludes v h = .ok false) (ps : List Prefilter) :
    consult (p :: ps) v h = ((consult ps v h).1, p :: (consult ps v h).2) := by
  rw [consult, run_anyM_ask_cons, if_pos pass, run_anyM_ask, fst_consult]
  rfl

theorem consult_cons_of_stop (stop : p.excludes v h ≠ .ok false) (ps : List Prefilter) :
    consult (p :: ps) v h = (p.excludes v h, [p]) := by
  rw [consult, run_anyM_ask_cons, if_neg stop]
  rfl

theorem consult_append_of_pass (pass : ∀ p ∈ ps, p.excludes v h = .ok false) (qs : List Prefilter) :
    consult (ps ++ qs) v h = ((consult qs v h).1, ps ++ (consult qs v h).2) := by
  induction ps
  case nil => rfl
  case cons p ps hi =>
    obtain ⟨hp, pass⟩ := List.forall_mem_cons.mp pass
    rw [List.cons_append, consult_cons_of_pass hp, hi pass]
    rfl

theorem consult_of_pass (pass : ∀ p ∈ ps, p.excludes v h = .ok false) : consult ps v h = (.ok false, ps) := by
  have all := consult_append_of_pass pass []
  rwa [consult_nil, List.append_nil] at all

-- The first prefilter that does not let the head pass is the last that is asked.
theorem consult_append_cons_of_stop (pass : ∀ p ∈ ps, p.excludes v h = .ok false)
    (stop : p.excludes v h ≠ .ok false) (qs : List Prefilter) :
    consult (ps ++ p :: qs) v h = (p.excludes v h, ps ++ [p]) := by
  rw [consult_append_of_pass pass, consult_cons_of_stop stop]

theorem chainExcludes_append (ps qs : List Prefilter) (v : View) (h : Head) :
    chainExcludes (ps ++ qs) v h =
      if chainExcludes ps v h = .ok false then chainExcludes qs v h else chainExcludes ps v h := by
  induction ps
  case nil => rw [chainExcludes_nil, if_pos rfl, List.nil_append]
  case cons p ps hi =>
    by_cases pass : p.excludes v h = .ok false
    case pos => rw [List.cons_append, chainExcludes_cons_of_pass pass, chainExcludes_cons_of_pass pass, hi]
    case neg =>
      rw [List.cons_append, chainExcludes_cons_of_stop pass, chainExcludes_cons_of_stop pass, if_neg pass]

-- A chain that cannot fail excludes what one of its members excludes.
theorem chainExcludes_of_answers (answers : ∀ p ∈ ps, ∃ b, p.excludes v h = .ok b) :
    ∃ b, chainExcludes ps v h = .ok b ∧ (b ↔ ∃ p ∈ ps, p.excludes v h = .ok true) := by
  match outcome : chainExcludes ps v h with
  | .error f =>
    obtain ⟨p, asked, fails⟩ := chainExcludes_eq_error_iff.mp outcome
    obtain ⟨b, answer⟩ := answers p asked.mem
    cases fails.symm.trans answer
  | .ok true =>
    obtain ⟨p, asked, excludes⟩ := chainExcludes_eq_ok_true_iff.mp outcome
    exact ⟨true, rfl, iff_of_true rfl ⟨p, asked.mem, excludes⟩⟩
  | .ok false =>
    have pass := chainExcludes_eq_ok_false_iff.mp outcome
    refine ⟨false, rfl, iff_of_false Bool.false_ne_true ?_⟩
    rintro ⟨p, hp, excludes⟩
    cases (pass p hp).symm.trans excludes

-- What a chain answers is decided by what its members answer.
theorem chainExcludes_congr (answers : ∀ p ∈ ps, p.excludes v h = p.excludes w h) :
    chainExcludes ps v h = chainExcludes ps w h := by
  induction ps
  case nil => rfl
  case cons p ps hi =>
    obtain ⟨hp, answers⟩ := List.forall_mem_cons.mp answers
    simp only [chainExcludes, hp, hi answers]

theorem chainExcludes_eq_of_mem_iff (members : ∀ p, p ∈ ps ↔ p ∈ qs)
    (answers : ∀ p ∈ ps, ∃ b, p.excludes v h = .ok b) : chainExcludes ps v h = chainExcludes qs v h := by
  obtain ⟨b, hb, excluded⟩ := chainExcludes_of_answers answers
  obtain ⟨c, hc, excluded'⟩ := chainExcludes_of_answers fun p hp => answers p ((members p).mpr hp)
  have same : b = c := by
    rw [Bool.eq_iff_iff, excluded, excluded']
    simp only [members]
  rw [hb, hc, same]

end RefWatch.Prefilter
