import RefWatch.Text.Case

namespace RefWatch.Pattern

open Text (foldLower foldUpper)

def lowerCode (n : Nat) : Nat := if n.isValidChar then (foldLower (Char.ofNat n)).toNat else n

def upperCode (n : Nat) : Nat := if n.isValidChar then (foldUpper (Char.ofNat n)).toNat else n

def asciiLowerCode (n : Nat) : Nat := if 0x41 ≤ n && n ≤ 0x5A then n + 0x20 else n

-- Lower case forms that share their upper case form.
def sameUpper : List (Nat × List Nat) := [
  (0x0069, [0x0131]), (0x0073, [0x017F]), (0x00B5, [0x03BC]), (0x0131, [0x0069]),
  (0x017F, [0x0073]), (0x0345, [0x03B9, 0x1FBE]), (0x0390, [0x1FD3]), (0x03B0, [0x1FE3]),
  (0x03B2, [0x03D0]), (0x03B5, [0x03F5]), (0x03B8, [0x03D1]), (0x03B9, [0x0345, 0x1FBE]),
  (0x03BA, [0x03F0]), (0x03BC, [0x00B5]), (0x03C0, [0x03D6]), (0x03C1, [0x03F1]),
  (0x03C2, [0x03C3]), (0x03C3, [0x03C2]), (0x03C6, [0x03D5]), (0x03D0, [0x03B2]),
  (0x03D1, [0x03B8]), (0x03D5, [0x03C6]), (0x03D6, [0x03C0]), (0x03F0, [0x03BA]),
  (0x03F1, [0x03C1]), (0x03F5, [0x03B5]), (0x0432, [0x1C80]), (0x0434, [0x1C81]),
  (0x043E, [0x1C82]), (0x0441, [0x1C83]), (0x0442, [0x1C84, 0x1C85]), (0x044A, [0x1C86]),
  (0x0463, [0x1C87]), (0x1C80, [0x0432]), (0x1C81, [0x0434]), (0x1C82, [0x043E]),
  (0x1C83, [0x0441]), (0x1C84, [0x0442, 0x1C85]), (0x1C85, [0x0442, 0x1C84]), (0x1C86, [0x044A]),
  (0x1C87, [0x0463]), (0x1C88, [0xA64B]), (0x1E61, [0x1E9B]), (0x1E9B, [0x1E61]),
  (0x1FBE, [0x0345, 0x03B9]), (0x1FD3, [0x0390]), (0x1FE3, [0x03B0]), (0xA64B, [0x1C88]),
  (0xFB05, [0xFB06]), (0xFB06, [0xFB05])]

def lowerKin (n : Nat) : List Nat := n :: (sameUpper.lookup n).getD []

def isCasedCode (n : Nat) : Bool := lowerCode n != n || upperCode n != n

def isAsciiCased (n : Nat) : Bool := (0x41 ≤ n && n ≤ 0x5A) || (0x61 ≤ n && n ≤ 0x7A)

-- The characters whose lower case form is `n`.
def loweredTo (n : Nat) : List Nat :=
  let moved := Text.lowerRuns.filterMap fun r =>
    let m := ((n : Int) - r.shift).toNat
    if r.has m then some m else none
  let expanded := Text.lowerExpansions.filterMap fun e => if e.2.head? = some n then some e.1 else none
  (n :: moved ++ expanded).filter (lowerCode · == n)

-- The first code point of a run from `lo` on, if it is at most `hi`.
def runMeets (lo hi : Nat) (r : Text.CaseRun) : Bool :=
  let first := if lo ≤ r.first then r.first else r.first + (lo - r.first + r.step - 1) / r.step * r.step
  first ≤ hi && first ≤ r.last

def anyCased (lo hi : Nat) : Bool :=
  Text.lowerRuns.any (runMeets lo hi) || Text.upperRuns.any (runMeets lo hi) ||
  Text.lowerExpansions.any (fun e => lo ≤ e.1 && e.1 ≤ hi) ||
  Text.upperExpansions.any (fun e => lo ≤ e.1 && e.1 ≤ hi)

end RefWatch.Pattern
