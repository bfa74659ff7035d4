namespace RefWatch.Pattern

-- The switches that an inline group such as `(?i)` turns on or off.
structure Flags where
  ignoreCase : Bool := false
  multiline : Bool := false
  dotAll : Bool := false
  verbose : Bool := false
  ascii : Bool := false
  unicode : Bool := false
  template : Bool := false
  deriving DecidableEq

namespace Flags

def or (f g : Flags) : Flags where
  ignoreCase := f.ignoreCase || g.ignoreCase
  multiline := f.multiline || g.multiline
  dotAll := f.dotAll || g.dotAll
  verbose := f.verbose || g.verbose
  ascii := f.ascii || g.ascii
  unicode := f.unicode || g.unicode
  template := f.template || g.template

def without (f g : Flags) : Flags where
  ignoreCase := f.ignoreCase && !g.ignoreCase
  multiline := f.multiline && !g.multiline
  dotAll := f.dotAll && !g.dotAll
  verbose := f.verbose && !g.verbose
  ascii := f.ascii && !g.ascii
  unicode := f.unicode && !g.unicode
  template := f.template && !g.template

def meets (f g : Flags) : Bool :=
  (f.ignoreCase && g.ignoreCase) || (f.multiline && g.multiline) || (f.dotAll && g.dotAll) ||
  (f.verbose && g.verbose) || (f.ascii && g.ascii) || (f.unicode && g.unicode) ||
  (f.template && g.template)

-- `ascii` and `unicode` exclude each other, so naming one drops the other.
def switch (f on off : Flags) : Flags :=
  let f := if on.ascii || on.unicode then { f with ascii := false, unicode := false } else f
  (f.or on).without off

end Flags

inductive Category
  | digit
  | space
  | word
  deriving DecidableEq

-- A member of a set. Characters are code points, since an escape can name one that no text has.
inductive SetItem
  | char (n : Nat)
  | range (lo hi : Nat)
  | category (k : Category) (negated : Bool)
  deriving DecidableEq

inductive Anchor
  | lineStart
  | lineEnd
  | textStart
  | textEnd
  | boundary
  | noBoundary
  deriving DecidableEq

inductive Greed
  | greedy
  | lazy
  | possessive
  deriving DecidableEq

-- The fewest and the most characters that a pattern can take.
structure Width where
  min : Nat
  max : Nat
  deriving DecidableEq

inductive Node
  | empty
  -- What is left when every alternative has been tried.
  | never
  | any
  | char (n : Nat)
  | set (negated : Bool) (items : List SetItem)
  | anchor (a : Anchor)
  | seq (first second : Node)
  | alt (first second : Node)
  | group (index : Option Nat) (on off : Flags) (body : Node)
  | atomic (body : Node)
  | look (ahead negated : Bool) (body : Node)
  | backref (index : Nat) (width : Width)
  | cond (index : Nat) (yes no : Node)
  | rep (min : Nat) (max : Option Nat) (greed : Greed) (body : Node)
  deriving DecidableEq

namespace Node

def ofList : List Node → Node
  | [] => empty
  | [n] => n
  | n :: ns => seq n (ofList ns)

-- The items of a sequence.
def items : Node → List Node
  | empty => []
  | seq a b => a :: b.items
  | n => [n]

-- The items that a plain group stands for; any other item stands for itself.
def unwrapped : Node → List Node
  | group none on off b => if on = {} ∧ off = {} then b.items else [group none on off b]
  | n => [n]

end Node

end RefWatch.Pattern
