import RefWatch.Pattern.Attempt
import RefWatch.Pattern.Lead

namespace RefWatch.Pattern

section

variable (text : Array Char)

-- How many characters from `pos` on fit in a row, at most `most`.
def streak (has : Char → Bool) : (most pos : Nat) → Nat
  | 0, _ => 0
  | most + 1, pos => if (text[pos]?).any has then streak has most (pos + 1) + 1 else 0

-- How the repeats of a part stand in their pattern.
structure Setting where
  least : Nat
  most : Option Nat
  -- Whether a failed attempt puts all marks back.
  putBack : Bool
  next : Lead

namespace Setting

variable (s : Setting)

-- Tries the rest after `extra` characters beyond `pos`, then after one fewer, and so on.
def giveBack (rest : Attempt) (pos : Nat) : (extra : Nat) → Memory → Outcome
  | extra, m =>
    let here := pos + extra
    let tried :=
      if s.next.isChar && !s.next.admits text[here]? then .failed m
      else (rest here (m.goTo here)).mapFailed (m.after s.putBack)
    match extra with
    | 0 => tried
    | extra + 1 => tried.orElse (giveBack rest pos extra)

-- Tries the rest, then after one character more, and so on for `extra` characters.
def takeMore (one : One) (rest : Attempt) : (extra pos : Nat) → Memory → Outcome
  | extra, pos, m =>
    ((rest pos (m.goTo pos)).mapFailed (m.after s.putBack)).orElse fun m =>
      let fits := (text[pos]?).any one.has
      let m := m.goTo (if fits && one.moves then pos + 1 else pos)
      match extra with
      | 0 => .failed m
      | extra + 1 => if fits then takeMore one rest extra (pos + 1) m else .failed m

-- Repeats of a part that takes one character.
def ones (one : One) (g : Greed) : Way := fun rest pos m =>
  let left := text.size - pos
  let most := (s.most.map (Nat.min · left)).getD left
  if left < s.least then .failed m
  else
    let n := streak text one.has (if g = .lazy then s.least else most) pos
    let m := m.goTo (if one.moves then pos + n else pos)
    if n < s.least then .failed m
    else
      match g with
      | .greedy => s.giveBack text rest (pos + s.least) (n - s.least) m
      | .lazy => s.takeMore text one rest (most - s.least) (pos + s.least) m
      | .possessive => rest (pos + n) m

-- Whether there may be a further round. One that would begin where the last one did is refused.
def allows (rounds : Nat) (last : Option Nat) (pos : Nat) : Bool :=
  s.most.all (rounds < ·) && last != some pos

-- As many rounds as possible, from `rounds` on; after each, the rest may take over.
def greedyRounds (way : Way) (rest : Attempt) : (fuel rounds : Nat) → (last : Option Nat) → Attempt
  | 0, _, _ => fun _ m => .failed m
  | fuel + 1, rounds, last => fun pos m =>
    let m := m.goTo pos
    let goOn (last : Option Nat) : Outcome := way (greedyRounds way rest fuel (rounds + 1) last) pos m
    if rounds < s.least then (goOn last).mapFailed (·.goTo pos)
    else
      let tried :=
        if s.allows rounds last pos then (goOn (some pos)).mapFailed fun f => (m.after true f).goTo pos
        else .failed m
      tried.orElse fun m => (rest pos m).mapFailed (·.goTo pos)

-- As few rounds as possible, from `rounds` on.
def lazyRounds (way : Way) (rest : Attempt) : (fuel rounds : Nat) → (last : Option Nat) → Attempt
  | 0, _, _ => fun _ m => .failed m
  | fuel + 1, rounds, last => fun pos m =>
    let m := m.goTo pos
    let goOn (last : Option Nat) (m : Memory) : Outcome :=
      (way (lazyRounds way rest fuel (rounds + 1) last) pos m).mapFailed (·.goTo pos)
    if rounds < s.least then goOn last m
    else
      ((rest pos m).mapFailed fun f => (m.after s.putBack f).goTo pos).orElse fun m =>
        if s.allows rounds last pos then goOn (some pos) m else .failed m

-- `n` rounds, each in its first way.
def firstRounds (way : Way) : Nat → Memory → Outcome
  | 0, m => .found m
  | n + 1, m => (alone way m.here m).andThen (firstRounds way n)

-- All further rounds, each in its first way. The one that fails decides where they end.
def furtherRounds (way : Way) : (fuel rounds : Nat) → (last : Option Nat) → Memory → Memory
  | 0, _, _, m => m
  | fuel + 1, rounds, last, m =>
    if s.allows rounds last m.here then
      match alone way m.here m with
      | .found n => furtherRounds way fuel (rounds + 1) (some m.here) n
      | .failed f => m.after true f
    else m

-- No fewer rounds than there can be, with one more for each place to come back to.
def fuel : Nat := s.least + 2 * text.size + 4

-- Repeats of a part that is matched in rounds.
def rounds (way : Way) (g : Greed) : Way := fun rest pos m =>
  match g with
  | .greedy => s.greedyRounds way rest (s.fuel text) 0 none pos m
  | .lazy => s.lazyRounds way rest (s.fuel text) 0 none pos m
  | .possessive =>
    ((firstRounds way s.least (m.goTo pos)).mapFailed (·.goTo pos)).andThen fun m =>
      let m := s.furtherRounds way (s.fuel text) s.least none m
      rest m.here m

end Setting

end

end RefWatch.Pattern
