import RefWatch.Prefilter

namespace RefWatch.Prefilter

variable {p q : Prefilter} {ps : List Prefilter} {v : View} {h : Head} {f : Failure}

-- All that stands before the prefilter in the chain lets the head pass.
def Asked (ps : List Prefilter) (v : View) (h : Head) (p : Prefilter) : Prop :=
  ∃ before after, ps = before ++ p :: after ∧ ∀ q ∈ before, q.excludes v h = .ok false

namespace Asked

theorem not_nil : ¬Asked [] v h p := by
  rintro ⟨before, after, e, -⟩
  cases before <;> simp at e

theorem head : Asked (p :: ps) v h p := ⟨[], ps, rfl, by simp⟩

theorem mem (a : Asked ps v h p) : p ∈ ps := by
  obtain ⟨before, after, rfl, -⟩ := a
  simp

theorem cons_iff : Asked (q :: ps) v h p ↔ p = q ∨ (q.excludes v h = .ok false ∧ Asked ps v h p) := by
  constructor
  case mp =>
    rintro ⟨before, after, e, pass⟩
    cases before
    case nil => exact .inl (List.cons.inj e).left.symm
    case cons b before =>
      obtain ⟨rfl, rfl⟩ := List.cons.inj e
      exact .inr ⟨pass q (by simp), before, after, rfl, fun r hr => pass r (by simp [hr])⟩
  case mpr =>
    rintro (rfl | ⟨hq, before, after, rfl, pass⟩)
    case inl => exact head
    case inr => exact ⟨q :: before, after, rfl, by simpa using ⟨hq, pass⟩⟩

end Asked

theorem chainExcludes_eq_ok_false_iff :
    chainExcludes ps v h = .ok false ↔ ∀ p ∈ ps, p.excludes v h = .ok false := by
  induction ps
  case nil => simp [chainExcludes_nil]
  case cons p ps hi =>
    by_cases hp : p.excludes v h = .ok false
    case pos => simp [chainExcludes_cons_of_pass hp, hi, hp]
    case neg => simp [chainExcludes_cons_of_stop hp, hp]

-- Any answer but to let the head pass comes from a prefilter that was asked.
theorem chainExcludes_eq_iff_asked {r : Except Failure Bool} (hr : r ≠ .ok false) :
    chainExcludes ps v h = r ↔ ∃ p, Asked ps v h p ∧ p.excludes v h = r := by
  induction ps
  case nil => simp [chainExcludes_nil, Asked.not_nil, hr.symm]
  case cons p ps hi =>
    by_cases hp : p.excludes v h = .ok false
    case pos =>
      rw [chainExcludes_cons_of_pass hp, hi]
      constructor
      case mp => exact fun ⟨q, a, hq⟩ => ⟨q, Asked.cons_iff.mpr (.inr ⟨hp, a⟩), hq⟩
      case mpr =>
        rintro ⟨q, a, hq⟩
        cases Asked.cons_iff.mp a
        case inl e => exact absurd (hq.symm.trans (e ▸ hp)) hr
        case inr a => exact ⟨q, a.right, hq⟩
    case neg => simp [chainExcludes_cons_of_stop hp, Asked.cons_iff, hp]

theorem chainExcludes_eq_error_iff :
    chainExcludes ps v h = .error f ↔ ∃ p, Asked ps v h p ∧ p.excludes v h = .error f :=
  chainExcludes_eq_iff_asked (by simp)

theorem chainExcludes_eq_ok_true_iff :
    chainExcludes ps v h = .ok true ↔ ∃ p, Asked ps v h p ∧ p.excludes v h = .ok true :=
  chainExcludes_eq_iff_asked (by simp)

theorem chainExcludes_eq_ok_false_iff_asked :
    chainExcludes ps v h = .ok false ↔
      (∀ p ∈ ps, p.excludes v h ≠ .ok true) ∧ ∀ p, Asked ps v h p → ∀ f, p.excludes v h ≠ .error f := by
  constructor
  case mp =>
    intro pass
    rw [chainExcludes_eq_ok_false_iff] at pass
    exact ⟨fun p hp => by simp [pass p hp], fun p a f => by simp [pass p a.mem]⟩
  case mpr =>
    rintro ⟨noneExcludes, noneFails⟩
    match hr : chainExcludes ps v h with
    | .ok false => rfl
    | .ok true =>
      have ⟨p, a, hp⟩ := chainExcludes_eq_ok_true_iff.mp hr
      exact absurd hp (noneExcludes p a.mem)
    | .error f =>
      have ⟨p, a, hp⟩ := chainExcludes_eq_error_iff.mp hr
      exact absurd hp (noneFails p a f)

end RefWatch.Prefilter
