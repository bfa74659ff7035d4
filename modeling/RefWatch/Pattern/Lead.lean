import RefWatch.Pattern.Set

namespace RefWatch.Pattern

inductive Lead
  -- Nothing is known of the next character.
  | unknown
  | char (n : Nat)
  | set (has : Char → Bool)

namespace Lead

def admits : Lead → Option Char → Bool
  | unknown, _ => true
  | char n, c => c.any (·.toNat == n)
  | set has, c => c.any has

def isChar : Lead → Bool
  | char _ => true
  | _ => false

end Lead

-- A part that takes one character.
structure One where
  has : Char → Bool
  -- Whether the matcher moves along while it counts how often the part fits.
  moves : Bool

namespace Node

-- Whether a character is looked up among several that it may stand for.
def hasKin (f : Flags) (n : Nat) : Bool :=
  folds f n && !f.ascii && (sameUpper.lookup (lowerCode n)).isSome

def one? (f : Flags) : Node → Option One
  | any => some ⟨fun c => f.dotAll || c != '\n', false⟩
  | char n => some ⟨charIs f n, hasKin f n⟩
  | set true [.char n] => some ⟨setHas f true [.char n], hasKin f n⟩
  | set negated items => some ⟨setHas f negated items, setFolds f items⟩
  | group none on off b => b.one? (f.switch on off)
  | _ => none

-- What the part begins with; none if it takes nothing and what follows decides.
def lead? (f : Flags) : Node → Option Lead
  | empty => none
  | char n => some (if folds f n then .unknown else .char n)
  | set true [.char _] => some .unknown
  | set negated items => some (if setFolds f items then .unknown else .set (setHas f negated items))
  | seq a b => (a.lead? f).or (b.lead? f)
  | group none on off b => b.lead? (f.switch on off)
  | _ => some .unknown

def lead (n : Node) (f : Flags) (next : Lead) : Lead := (n.lead? f).getD next

theorem lead_seq (a b : Node) (f : Flags) (next : Lead) :
    (seq a b).lead f next = a.lead f (b.lead f next) := by
  rw [lead, lead?, lead, lead]
  cases a.lead? f <;> rfl

end Node

end RefWatch.Pattern
