import RefWatch.Text.Case.Context
import RefWatch.Text.Case.Table

namespace RefWatch.Text

def caseOf (expansions : List (Nat × List Nat)) (runs : List CaseRun) (c : Char) : List Char :=
  match expansions.lookup c.toNat with
  | some ns => ns.map Char.ofNat
  | none =>
    match runs.find? (·.has c.toNat) with
    | some r => [Char.ofNat (c.toNat + r.shift).toNat]
    | none => [c]

def lowerChar (c : Char) : List Char :=
  if c.toNat < 0x80 then [c.toLower] else caseOf lowerExpansions lowerRuns c

def upperChar (c : Char) : List Char :=
  if c.toNat < 0x80 then [c.toUpper] else caseOf upperExpansions upperRuns c

-- The first character of the other case, for comparing one character with one character.
def foldLower (c : Char) : Char := (lowerChar c).headD c

def foldUpper (c : Char) : Char := (upperChar c).headD c

def capitalSigma : Char := Char.ofNat 0x3A3

def smallSigma : Char := Char.ofNat 0x3C3

def finalSigma : Char := Char.ofNat 0x3C2

def startsCased (s : List Char) : Bool := (s.find? (!isCaseIgnorable ·)).any isCased

-- `afterCased`: the nearest character before that is not ignored has case.
def lowerFrom (afterCased : Bool) : List Char → List Char
  | [] => []
  | c :: cs =>
    let here :=
      if c = capitalSigma then
        [if afterCased && !startsCased cs then finalSigma else smallSigma]
      else lowerChar c
    here ++ lowerFrom (if isCaseIgnorable c then afterCased else isCased c) cs

def lower (s : String) : String := String.ofList (lowerFrom false s.toList)

def upper (s : String) : String := String.ofList (s.toList.flatMap upperChar)

theorem lowerFrom_cons_of_ne {b : Bool} {c : Char} {cs : List Char} (h : c ≠ capitalSigma) :
    lowerFrom b (c :: cs) =
      lowerChar c ++ lowerFrom (if isCaseIgnorable c then b else isCased c) cs := by
  simp [lowerFrom, h]

end RefWatch.Text
