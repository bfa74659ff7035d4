namespace RefWatch

inductive Glob.Range
  | single (c : Char)
  | span (lo hi : Char)
  deriving DecidableEq

inductive Glob.Part
  | anyText
  | anyChar
  | char (c : Char)
  | set (negated : Bool) (ranges : List Glob.Range)
  deriving DecidableEq

abbrev Glob := List Glob.Part

namespace Glob

def Range.has (x : Char) : Range → Bool
  | single c => x == c
  | span lo hi => lo ≤ x && x ≤ hi

def Part.has (x : Char) : Part → Bool
  | anyText | anyChar => true
  | char c => x == c
  | set negated rs => rs.any (·.has x) != negated

-- Cuts the text of a set at its range hyphens. At least `skip` characters are passed over before a
-- hyphen counts: one at the start (two if the first is `!`), and two after a cut.
def cut : (skip : Nat) → (chunk : List Char) → List Char → List (List Char)
  | _, chunk, [] => [chunk.reverse]
  | 0, chunk, '-' :: cs => chunk.reverse :: cut 2 [] cs
  | 0, chunk, c :: cs => cut 0 (c :: chunk) cs
  | skip + 1, chunk, c :: cs => cut skip (c :: chunk) cs

-- A hyphen at the very end belongs to the chunk before it.
def endHyphen : List (List Char) → List (List Char)
  | [] => []
  | [a, []] => [a ++ ['-']]
  | a :: r => a :: endHyphen r

-- Joins two chunks where the range between them would run backwards, without the range.
def joinBackward (a : List Char) : List (List Char) → List (List Char)
  | [] => [a]
  | b :: r =>
    match a.getLast?, b with
    | some x, y :: b' => if x > y then (a.dropLast ++ b') :: r else a :: b :: r
    | _, _ => a :: b :: r

def chunksOf (body : List Char) : List (List Char) :=
  let skip := if body.head? = some '!' then 2 else 1
  (endHyphen (cut skip [] body)).foldr joinBackward []

-- Characters of a set, with `none` for a hyphen that makes a range.
def marksOf (chunks : List (List Char)) : List (Option Char) :=
  [none].intercalate (chunks.map (·.map some))

def markChar (m : Option Char) : Char := m.getD '-'

def rangesOf : List (Option Char) → List Range
  | [] => []
  | a :: none :: b :: r => .span (markChar a) (markChar b) :: rangesOf r
  | a :: r => .single (markChar a) :: rangesOf r

-- The set that a text between brackets stands for.
def setOf (body : List Char) : Part :=
  match marksOf (chunksOf body) with
  | [] => .set false []
  | some '!' :: ms => .set true (rangesOf ms)
  | ms => .set false (rangesOf ms)

-- Splits after a bracket: the text of the set, and what follows the closing bracket.
def bracket? (cs : List Char) : Option (List Char × List Char) :=
  let lead := if cs.head? = some '!' then 1 else 0
  let lead := if (cs.drop lead).head? = some ']' then lead + 1 else lead
  let length := lead + ((cs.drop lead).takeWhile (· != ']')).length
  match cs.drop length with
  | [] => none
  | _ :: rest => some (cs.take length, rest)

theorem bracket?_length {cs body rest : List Char} (h : bracket? cs = some (body, rest)) :
    rest.length < cs.length := by
  simp only [bracket?] at h
  split at h
  · cases h
  next _ r hd =>
    obtain ⟨-, rfl⟩ := Prod.mk.inj (Option.some.inj h)
    have := congrArg List.length hd
    simp only [List.length_drop, List.length_cons] at this
    omega

def ofChars : List Char → Glob
  | [] => []
  | '*' :: cs => .anyText :: ofChars cs
  | '?' :: cs => .anyChar :: ofChars cs
  | '[' :: cs =>
    match h : bracket? cs with
    | some (body, rest) =>
      have := bracket?_length h
      setOf body :: ofChars rest
    | none => .char '[' :: ofChars cs
  | c :: cs => .char c :: ofChars cs
termination_by cs => cs.length

def ofString (s : String) : Glob := ofChars s.toList

-- From the right: a suffix fits after `*` if it or a shorter one fits.
def fitsAfterText (fits : List Bool) : List Bool :=
  fits.foldr (fun b bs => (b || bs.headD false) :: bs) []

-- For each suffix of a text, the longest first, whether it fits.
def fits (s : List Char) : Glob → List Bool
  | [] => s.map (fun _ => false) ++ [true]
  | .anyText :: g => fitsAfterText (fits s g)
  | p :: g => s.zipWith (fun c b => p.has c && b) (fits s g).tail ++ [false]

def accepts (g : Glob) (s : String) : Bool := (fits s.toList g).headD false

end Glob

end RefWatch
