import RefWatch.Glob
import RefWatch.Head
import RefWatch.Pattern
import RefWatch.Text.Blank

namespace RefWatch

-- What can be seen of a prefilter from outside; a rule that was brought along is known by its handle.
inductive Prefilter.Face
  | wildcard (includes excludes : String)
  | pattern (p : Pattern)
  | failing (text : String)
  | external (handle : Nat)

-- What a prefilter is shown of the source that it is asked for, the chain it stands in included.
structure Prefilter.View where
  owner : String
  repository : String
  api : Option String
  wantBranches : Bool
  wantTags : Bool
  prefilters : List Prefilter.Face

-- A rule that was brought along.
structure Prefilter.Rule where
  -- What tells it from other rules.
  handle : Nat
  answer : Prefilter.View → Head → Except String Bool

-- A rule is the same as another only if it is that very rule.
instance : BEq Prefilter.Rule := ⟨fun a b => a.handle == b.handle⟩

instance : ReflBEq Prefilter.Rule where
  rfl {a} := beq_self_eq_true a.handle

inductive Prefilter
  -- Lists of globs between blanks: what to include, and what to exclude of that.
  | wildcard (includes excludes : String)
  -- A pattern that the whole name has to match.
  | pattern (p : Pattern)
  -- A rule that cannot be evaluated.
  | failing (text : String)
  | external (r : Prefilter.Rule)
  deriving BEq, ReflBEq

namespace Prefilter

-- Why a prefilter gave no answer.
inductive Failure
  | unanswered (text : String)
  | misfit (m : Pattern.Misfit)
  deriving DecidableEq

def Failure.message : Failure → String
  | unanswered text => text
  | misfit m => m.message

def globs (patterns : String) : List Glob := (Text.words patterns).map Glob.ofString

-- Whether a name fits at least one glob of a list.
def listed (patterns name : String) : Bool := (globs patterns).any (·.accepts name)

def wildcardExcludes (includes excludes name : String) : Bool :=
  !listed includes name || listed excludes name

def face : Prefilter → Face
  | wildcard i e => .wildcard i e
  | pattern p => .pattern p
  | failing text => .failing text
  | external r => .external r.handle

-- Only a rule that was brought along looks at the source.
def excludes (p : Prefilter) (v : View) (h : Head) : Except Failure Bool :=
  match p with
  | wildcard i e => .ok (wildcardExcludes i e h.name)
  | pattern p => ((p.accepts h.name).map not).mapError .misfit
  | failing text => .error (.unanswered text)
  | external r => (r.answer v h).mapError .unanswered

-- The first prefilter that does not let the head pass decides.
def chainExcludes : List Prefilter → View → Head → Except Failure Bool
  | [], _, _ => .ok false
  | p :: ps, v, h =>
    match p.excludes v h with
    | .ok false => chainExcludes ps v h
    | r => r

variable {p : Prefilter} {v : View} {h : Head}

theorem chainExcludes_nil (v : View) (h : Head) : chainExcludes [] v h = .ok false := rfl

theorem chainExcludes_cons_of_pass (hp : p.excludes v h = .ok false) (ps : List Prefilter) :
    chainExcludes (p :: ps) v h = chainExcludes ps v h := by
  simp [chainExcludes, hp]

theorem chainExcludes_cons_of_stop (hp : p.excludes v h ≠ .ok false) (ps : List Prefilter) :
    chainExcludes (p :: ps) v h = p.excludes v h := by
  rw [chainExcludes]
  split
  · next e => exact absurd e hp
  · rfl

end Prefilter

end RefWatch
