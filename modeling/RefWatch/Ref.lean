import RefWatch.Text.Split

namespace RefWatch

inductive RefKind
  | branch
  | tag
  deriving DecidableEq

namespace RefKind

def name : RefKind → String
  | branch => "branch"
  | tag => "tag"

def ofName? (s : String) : Option RefKind :=
  if s = "branch" then some branch else if s = "tag" then some tag else none

def root : RefKind → String
  | branch => "refs/heads/"
  | tag => "refs/tags/"

theorem ofName?_name (k : RefKind) : ofName? k.name = some k := by cases k <;> rfl

theorem ofName?_eq_some_iff {s : String} {k : RefKind} : ofName? s = some k ↔ s = k.name := by
  constructor
  · intro h
    unfold ofName? at h
    split at h
    · cases h; assumption
    · split at h
      · cases h; assumption
      · cases h
  · rintro rfl
    exact ofName?_name k

-- Takes the root of this kind off a ref, if it begins with it.
def short (k : RefKind) (ref : String) : String := (Text.dropFront? k.root ref).getD ref

end RefKind

structure Ref where
  kind : RefKind
  name : String
  deriving DecidableEq

namespace Ref

-- A root decides; without one, the kind told beside the ref; without that, it is a branch.
def classify (ref : String) (told : Option RefKind := none) : Ref :=
  match Text.dropFront? RefKind.branch.root ref with
  | some name => ⟨.branch, name⟩
  | none =>
    match Text.dropFront? RefKind.tag.root ref with
    | some name => ⟨.tag, name⟩
    | none => ⟨told.getD .branch, ref⟩

theorem after?_heads_tags (s : List Char) :
    Text.after? RefKind.branch.root.toList (RefKind.tag.root.toList ++ s) = none := by
  rfl

theorem classify_root_append (k : RefKind) (s : String) (told : Option RefKind) :
    classify (k.root ++ s) told = ⟨k, s⟩ := by
  cases k with
  | branch => simp [classify, Text.dropFront?_append]
  | tag =>
    have : Text.dropFront? RefKind.branch.root (RefKind.tag.root ++ s) = none := by
      rw [Text.dropFront?, String.toList_append, after?_heads_tags]
      rfl
    simp [classify, this, Text.dropFront?_append]

end Ref

end RefWatch
