import RefWatch.Pattern.Node

namespace RefWatch.Pattern

namespace Width

-- Widths are not told apart from here on; the fewest characters stay one below the most.
def largest : Nat := 4294967295

def zero : Width := ⟨0, 0⟩

def one : Width := ⟨1, 1⟩

-- No alternative is left to be narrower or wider.
def never : Width := ⟨largest - 1, 0⟩

def add (v w : Width) : Width := ⟨v.min + w.min, v.max + w.max⟩

def join (v w : Width) : Width := ⟨Nat.min v.min w.min, Nat.max v.max w.max⟩

def times (w : Width) (min : Nat) (max : Option Nat) : Width where
  min := w.min * min
  max := w.max * max.getD largest

def capped (w : Width) : Width := ⟨Nat.min w.min (largest - 1), Nat.min w.max largest⟩

def Fixed (w : Width) : Prop := w.min = w.max

instance (w : Width) : Decidable w.Fixed := inferInstanceAs (Decidable (w.min = w.max))

end Width

def Node.width : Node → Width
  | .empty | .anchor _ | .look .. => .zero
  | .never => .never
  | .any | .char _ | .set .. => .one
  | .seq a b => (a.width.add b.width).capped
  | .alt a b => a.width.join b.width
  | .group _ _ _ b | .atomic b => b.width
  | .backref _ w => w
  | .cond _ y n => y.width.join n.width
  | .rep min max _ b => (b.width.times min max).capped

end RefWatch.Pattern
