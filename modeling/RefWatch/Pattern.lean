import RefWatch.Pattern.Reader
import RefWatch.Pattern.Repeat

namespace RefWatch

structure Pattern where
  text : String
  root : Pattern.Node
  flags : Pattern.Flags
  deriving DecidableEq

namespace Pattern

def ofString (text : String) : Except Fault Pattern := do
  let (root, flags) ← read text.toList
  return { text, root, flags }

section

variable (text : Array Char)

def stepIf (has : Char → Bool) : Way := fun rest pos m =>
  if (text[pos]?).any has then rest (pos + 1) m else .failed m

def wordAt (ascii : Bool) (pos : Nat) : Bool := (text[pos]?).any (isWordChar ascii)

def atBoundary (ascii : Bool) (pos : Nat) : Bool :=
  (pos > 0 && wordAt text ascii (pos - 1)) != wordAt text ascii pos

def anchored (f : Flags) (pos : Nat) : Anchor → Bool
  | .textStart => pos = 0
  | .textEnd => pos = text.size
  | .lineStart => pos = 0 || (f.multiline && text[pos - 1]? = some '\n')
  | .lineEnd =>
    pos = text.size ||
      (text[pos]? = some '\n' && (f.multiline || pos + 1 = text.size))
  | .boundary => atBoundary text f.ascii pos
  | .noBoundary => !atBoundary text f.ascii pos

def sameChar (f : Flags) (c d : Char) : Bool :=
  if f.ignoreCase then lowerFor f.ascii c == lowerFor f.ascii d else c == d

-- The stretch from `a` to `b`, once more.
def again (f : Flags) (a b : Nat) : Way := fun rest pos m =>
  let n := b - a
  let same := (List.range n).all fun i =>
    match text[a + i]?, text[pos + i]? with
    | some c, some d => sameChar f c d
    | _, _ => false
  if same then rest (pos + n) m else .failed m

-- One of several alternatives; it is not tried where its first character cannot fit.
def branch (putBack : Bool) (lead : Lead) (way : Way) : Way := fun rest pos m =>
  if lead.admits text[pos]? then (way rest pos (m.goTo pos)).mapFailed (m.after putBack)
  else .failed m

-- Looks at what follows, or at what stands `width` characters back, and stays where it is.
def look (ahead negated putBack : Bool) (width : Nat) (way : Way) : Way := fun rest pos m =>
  let back := if ahead then 0 else width
  if pos < back then if negated then rest pos m else .failed m
  else
    match alone way (pos - back) m, negated with
    | .found m, false => rest pos m
    | .failed f, true => rest pos (m.after putBack f)
    | .found f, true | .failed f, false => .failed f

namespace Node

-- How a node is matched, with the flags that hold for it. Within a repeat a failed attempt puts all
-- marks back. `next` is what the rest begins with.
def way : Node → Flags → (within : Bool) → (next : Lead) → Way
  | empty, _, _, _ => fun rest => rest
  | never, _, _, _ => fun _ _ m => .failed m
  | any, f, _, _ => stepIf text fun c => f.dotAll || c != '\n'
  | char n, f, _, _ => stepIf text (charIs f n)
  | set negated items, f, _, _ => stepIf text (setHas f negated items)
  | anchor a, f, _, _ => fun rest pos m => if anchored text f pos a then rest pos m else .failed m
  | seq a b, f, within, next => fun rest =>
    a.way f within (b.lead f next) (b.way f within next rest)
  | alt a b, f, within, _ => fun rest pos m =>
    (branch text within (a.lead f .unknown) (a.way f within .unknown) rest pos m).orElse
      (b.way f within .unknown rest pos)
  | group none on off b, f, within, next => b.way (f.switch on off) within next
  | group (some i) on off b, f, within, _ => fun rest pos m =>
    b.way (f.switch on off) within .unknown (fun pos m => rest pos (m.close i pos)) pos (m.open i pos)
  | atomic b, f, within, _ => fun rest pos m =>
    ((alone (b.way f within .unknown) pos m).mapFailed (·.goTo pos)).andThen fun m => rest m.here m
  | .look ahead negated b, f, within, _ =>
    Pattern.look ahead negated within b.width.min (b.way f within .unknown)
  | backref i _, f, _, _ => fun rest pos m =>
    match m.span? i with
    | some (a, b) => again text f a b rest pos m
    | none => .failed m
  | cond i yes no, f, within, next => fun rest pos m =>
    if (m.span? i).isSome then
      yes.way f within (if no = empty then next else .unknown) rest pos m
    else no.way f within next rest pos m
  | rep least most g b, f, within, next =>
    let s : Setting := ⟨least, most, within, next⟩
    match b.one? f with
    | some one => s.ones text one g
    | none => s.rounds text (b.way f (within || g ≠ .possessive) .unknown) g

end Node

end

-- What went wrong with a group although the pattern fits.
inductive Misfit
  -- The group closed before it last opened.
  | backward
  deriving DecidableEq

namespace Misfit

def message : Misfit → String
  | backward => "The span of capturing group is wrong, please report a bug for the re module."

end Misfit

def Memory.checkGroups (m : Memory) : Except Misfit Unit :=
  if (List.range (m.marks.length / 2)).any fun i => (m.ends? (i + 1)).any fun e => e.2 < e.1 then
    .error .backward
  else .ok ()

-- Whether the pattern takes the whole text.
def accepts (p : Pattern) (text : String) : Except Misfit Bool :=
  let cs := text.toList.toArray
  let atEnd : Attempt := fun pos m => if pos = cs.size then done pos m else .failed m
  if cs.size < p.root.width.min then .ok false
  else
    match p.root.way cs p.flags false .unknown atEnd 0 {} with
    | .found m => m.checkGroups.map fun _ => true
    | .failed _ => .ok false

end Pattern

end RefWatch
