import Mathlib.Data.List.Induction
import Mathlib.Data.List.Range
import RefWatch.Delivery
import RefWatch.Proofs.Resolution

namespace RefWatch.Delivery

-- What the listener is told in a step.
def Step.occasion? : Step → Option Occasion
  | navigator n _ => some (.navigator n)
  | source s heads _ => some (.source s heads)
  | _ => none

def told (steps : List Step) : List Occasion := steps.filterMap Step.occasion?

theorem told_append (xs ys : List Step) : told (xs ++ ys) = told xs ++ told ys :=
  List.filterMap_append

-- Whether a delivery gets no further than a source.
def stops (e : HeadEvent) (s : Source) : Bool :=
  match e.isFor (.source s) with
  | .error _ => true
  | .ok _ => false

-- What is told of the source at a place. It is told nothing if a source before it stops the delivery.
def toldAt (e : HeadEvent) (l : Listener) (ss : List Source) (i : Nat) : List Occasion :=
  if (ss.take i).any (stops e) then [] else told (sourceSteps e l ss[i]?.toList)

variable {e : HeadEvent} {l : Listener} {s : Source} {xs ys ss : List Source}

theorem stops_iff : stops e s ↔ ∃ f, Host.ofApi s.api e.aliases = .error f := by
  simp only [← Resolution.watches_eq_error_iff (r := e.repository), stops, HeadEvent.isFor,
    Scope.watches]
  cases s.watches e.repository e.aliases <;> simp

theorem sourceSteps_append :
    sourceSteps e l (xs ++ ys) =
      sourceSteps e l xs ++ if xs.any (stops e) then [] else sourceSteps e l ys := by
  induction xs
  case nil => simp [sourceSteps]
  case cons x xs hi =>
    match hx : e.isFor (.source x) with
    | .error _ => simp [sourceSteps, stops, hx]
    | .ok false => simp [sourceSteps, stops, hx, hi]
    | .ok true => simp [sourceSteps, stops, hx, hi]

theorem told_sourceSteps_append :
    told (sourceSteps e l (xs ++ ys)) =
      told (sourceSteps e l xs) ++ if xs.any (stops e) then [] else told (sourceSteps e l ys) := by
  rw [sourceSteps_append, told_append]
  split <;> rfl

theorem toldAt_of_lt {i : Nat} (h : i < xs.length) : toldAt e l (xs ++ ys) i = toldAt e l xs i := by
  rw [toldAt, toldAt, List.take_append_of_le_length (Nat.le_of_lt h), List.getElem?_append_left h]

theorem toldAt_append (i : Nat) :
    toldAt e l (xs ++ ys) (xs.length + i) =
      if xs.any (stops e) then [] else toldAt e l ys i := by
  rw [toldAt, toldAt, List.take_length_add_append, List.getElem?_append_right (by omega),
    Nat.add_sub_cancel_left, List.any_append]
  cases xs.any (stops e) <;> simp

theorem told_sourceSteps :
    told (sourceSteps e l ss) = (List.range ss.length).flatMap (toldAt e l ss) := by
  induction ss using List.reverseRecOn
  case nil => rfl
  case append_singleton ss s hi =>
    have earlier : (List.range ss.length).flatMap (toldAt e l (ss ++ [s])) =
        (List.range ss.length).flatMap (toldAt e l ss) :=
      List.flatMap_congr fun i hm => toldAt_of_lt (List.mem_range.mp hm)
    have last : toldAt e l (ss ++ [s]) ss.length =
        if ss.any (stops e) then [] else told (sourceSteps e l [s]) :=
      toldAt_append 0
    rw [told_sourceSteps_append, hi, List.length_append, List.length_singleton, List.range_succ,
      List.flatMap_append, earlier, List.flatMap_singleton, last]

-- Nothing but the source at a place is named in what is told of that place.
theorem eq_source_of_mem_toldAt {i : Nat} {o : Occasion} (h : o ∈ toldAt e l ss i) :
    ∃ s heads, ss[i]? = some s ∧ o = .source s heads := by
  unfold toldAt at h
  split at h
  case isTrue => simp at h
  case isFalse =>
    cases hs : ss[i]?
    case none => simp [hs, sourceSteps, told] at h
    case some s =>
      refine ⟨s, ?_⟩
      simp only [hs, Option.toList, sourceSteps] at h
      split at h
      case h_1 => simp [told, Step.occasion?] at h
      case h_2 => simp [told] at h
      case h_3 =>
        unfold sourceStep at h
        split at h
        case h_1 | h_2 => simp [told, Step.occasion?] at h
        case h_3 heads _ _ => exact ⟨heads, rfl, by simpa [told, Step.occasion?] using h⟩

-- What the listener is told in a whole delivery.
theorem told_steps (now : Int) (r : Registry) :
    told (steps l now e r) = told (navigatorSteps e l r.navigators) ++
      (List.range r.sources.length).flatMap (toldAt e l r.sources) := by
  have ending : told ((conclusion
      (navigatorSteps e l r.navigators ++ sourceSteps e l r.sources)).output r) = [] := by
    unfold conclusion
    split <;> rfl
  rw [steps_eq, ← told_sourceSteps, told, List.filterMap_cons_none (by rfl), ← told, told_append,
    told_append, ending, List.append_nil]

-- Whether the sources before and behind a source are told what they are told without it.
structure Isolated (e : HeadEvent) (l : Listener) (xs : List Source) (s : Source)
    (ys : List Source) : Prop where
  before : ∀ i < xs.length, toldAt e l (xs ++ s :: ys) i = toldAt e l (xs ++ ys) i
  behind : ∀ i < ys.length,
    toldAt e l (xs ++ s :: ys) (xs.length + 1 + i) = toldAt e l (xs ++ ys) (xs.length + i)

-- What is told in a delivery falls into the navigators' part and a part of the source at each place;
-- and all that a source can take from others is what is told behind it, by stopping there.
theorem isolated_iff (e : HeadEvent) (l : Listener) (xs : List Source) (s : Source)
    (ys : List Source) :
    (∀ now r, told (steps l now e r) = told (navigatorSteps e l r.navigators) ++
      (List.range r.sources.length).flatMap (toldAt e l r.sources)) ∧
    (∀ ss i, ∀ o ∈ toldAt e l ss i, ∃ s heads, ss[i]? = some s ∧ o = .source s heads) ∧
    (Isolated e l xs s ys ↔
      ((∃ f, Host.ofApi s.api e.aliases = .error f) →
        (∃ x ∈ xs, ∃ f, Host.ofApi x.api e.aliases = .error f) ∨
          ∀ i < ys.length, toldAt e l ys i = [])) := by
  refine ⟨told_steps, fun _ _ _ => eq_source_of_mem_toldAt, ?_⟩
  have stopped : (∃ x ∈ xs, ∃ f, Host.ofApi x.api e.aliases = .error f) ↔ xs.any (stops e) := by
    simp [← stops_iff]
  have before (i : Nat) (h : i < xs.length) :
      toldAt e l (xs ++ s :: ys) i = toldAt e l (xs ++ ys) i := by
    rw [toldAt_of_lt h, toldAt_of_lt h]
  have behind (i : Nat) :
      toldAt e l (xs ++ s :: ys) (xs.length + 1 + i) =
        if xs.any (stops e) || stops e s then [] else toldAt e l ys i := by
    have : toldAt e l (xs ++ [s] ++ ys) ((xs ++ [s]).length + i) = _ := toldAt_append i
    simpa [List.any_append] using this
  rw [stopped, ← stops_iff]
  constructor
  case mp =>
    intro ⟨_, h⟩ hs
    by_cases hx : xs.any (stops e)
    case pos => exact .inl hx
    case neg =>
      refine .inr fun i hi => ?_
      have := h i hi
      simpa [behind, toldAt_append, hx, hs] using this.symm
  case mpr =>
    refine fun h => ⟨before, fun i hi => ?_⟩
    rw [behind, toldAt_append]
    by_cases hx : xs.any (stops e) <;> by_cases hs : stops e s <;> simp [hx, hs]
    exact (h hs).resolve_left hx i hi

-- An open bracket in the address of a source keeps a push from the source behind it.
theorem not_isolated_openBracket :
    ¬Isolated
      { payload :=
          { ref := "refs/heads/main"
            subject :=
              { name := some "widgets", htmlUrl := some "https://github.com/acme/widgets"
                owner := { login := some "acme" } }
            change := .push (some "0123456789abcdef0123456789abcdef01234567") none false false }
        repository := { host := "github.com", owner := "acme", name := "widgets" }
        origin := "unknown"
        received := .ofInstant 1714564800000000
        aliases := Aliases.standard }
      (.single .silent) [] { owner := "acme", repository := "gadgets", api := some "http://[" }
      [{ owner := "acme", repository := "widgets" }] := by
  intro ⟨_, behind⟩
  have same := congrArg List.length (behind 0 (by decide))
  exact absurd same (by decide +kernel)

end RefWatch.Delivery
