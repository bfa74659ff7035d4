import RefWatch.Log.Template.Place

namespace RefWatch.Log.Template

open Text (natOfDigits isAsciiDigit)

-- The values for a template: those left to be taken in turn, and what they are looked up in by name.
structure Values where
  left : List Json := []
  table : Option Json := none
  deriving Inhabited

namespace Values

-- One value that is not part of a list.
def ofSingle (v : Json) : Values where
  left := [v]
  table :=
    match v with
    | .object _ | .list _ => some v
    | _ => none

-- The values of a list; one filled object alone also gives them by name.
def ofList : List Json → Values
  | [.object (m :: ms)] => ofSingle (.object (m :: ms))
  | vs => { left := vs }

-- What stands in place of a list of values; nothing that counts as false does.
def ofJson (j : Json) : Values := if j.isTrue then ofSingle j else {}

def next (vs : Values) : Except Fault (Json × Values) :=
  match vs.left with
  | [] => .error .tooFew
  | v :: left => .ok (v, { vs with left })

-- The value of a name is what is left then.
def select (vs : Values) (name : String) : Except Fault Values :=
  match vs.table with
  | some (.object ms) =>
    match Json.Members.get? ms name with
    | some v => .ok { vs with left := [v] }
    | none => .error (.missingKey name)
  | some _ => .error .keyOfList
  | none => .error .noMapping

def finish (vs : Values) : Except Fault Unit :=
  if vs.left.isEmpty || vs.table.isSome then .ok () else .error .tooMany

end Values

namespace Place

def isFlag (c : Char) : Bool := c == '-' || c == '+' || c == ' ' || c == '#' || c == '0'

def isLength (c : Char) : Bool := c == 'h' || c == 'l' || c == 'L'

-- The name ends at the parenthesis that closes the first one.
def keyChars : Nat → List Char → Option (List Char × List Char)
  | _, [] => none
  | 0, ')' :: r => some ([], r)
  | n + 1, ')' :: r => (keyChars n r).map fun k => (')' :: k.1, k.2)
  | n, '(' :: r => (keyChars (n + 1) r).map fun k => ('(' :: k.1, k.2)
  | n, c :: r => (keyChars n r).map fun k => (c :: k.1, k.2)

def readKey (vs : Values) (s : List Char) : Except Fault (Values × List Char) :=
  match s with
  | '(' :: r =>
    if vs.table.isNone then .error .noMapping
    else
      match keyChars 0 r with
      | some (k, r) => (vs.select (String.ofList k)).map fun vs => (vs, r)
      | none => .error .incompleteKey
  | _ => .ok (vs, s)

def widthLimit : Nat := 9223372036854775807

def precisionLimit : Nat := 2147483647

-- Lines are never that long.
def memoryLimit : Nat := 1099511627776

-- A width or a precision that is given by a value.
def starred (vs : Values) (limit : Nat) (type : String) : Except Fault (Int × Values) := do
  let (v, vs) ← vs.next
  match v with
  | .bool b => return (if b then 1 else 0, vs)
  | .number (.whole n) =>
    if n < -(limit : Int) - 1 || n > limit then throw (.countTooLarge type)
    return (n, vs)
  | _ => throw .badCount

def readWidth (vs : Values) (s : List Char) : Except Fault (Int × Values × List Char) := do
  match s with
  | '*' :: r =>
    let (n, vs) ← starred vs widthLimit "ssize_t"
    return (n, vs, r)
  | _ =>
    let n := natOfDigits (s.takeWhile isAsciiDigit)
    if n > widthLimit then throw .widthTooBig
    return (n, vs, s.dropWhile isAsciiDigit)

def readPrecision (vs : Values) (s : List Char) :
    Except Fault (Option Nat × Values × List Char) := do
  match s with
  | '.' :: '*' :: r =>
    let (n, vs) ← starred vs precisionLimit "int"
    return (some n.toNat, vs, r)
  | '.' :: r =>
    let n := natOfDigits (r.takeWhile isAsciiDigit)
    if n > precisionLimit then throw .precisionTooBig
    return (some n, vs, r.dropWhile isAsciiDigit)
  | _ => return (none, vs, s)

def skipLength (s : List Char) : List Char :=
  match s with
  | c :: r => if isLength c then r else s
  | [] => []

-- Reads a place after its per cent sign, in a template of `length` characters.
def read (length : Nat) (vs : Values) (s : List Char) :
    Except Fault (Place × Values × List Char) := do
  let (vs, s) ← readKey vs s
  let flags := s.takeWhile isFlag
  let (width, vs, s) ← readWidth vs (s.dropWhile isFlag)
  let (precision, vs, s) ← readPrecision vs s
  match skipLength s with
  | [] => throw .incomplete
  | form :: rest =>
    let flags := if width < 0 then '-' :: flags else flags
    return ({ flags, width := width.natAbs, precision, form, index := length - (rest.length + 1) },
      vs, rest)

end Place

def fillFrom (length : Nat) : (fuel : Nat) → Values → List Char → Except Fault (List Char)
  | 0, _, _ => .ok []
  | _, vs, [] => vs.finish.map fun _ => []
  | fuel + 1, vs, '%' :: '%' :: r => (fillFrom length fuel vs r).map ('%' :: ·)
  | fuel + 1, vs, '%' :: r => do
    let (p, vs, rest) ← Place.read length vs r
    let (v, vs) ← vs.next
    if p.width > Place.memoryLimit then throw .outOfMemory
    let written ← p.write v
    return written.toList ++ (← fillFrom length fuel vs rest)
  | fuel + 1, vs, c :: r => (fillFrom length fuel vs r).map (c :: ·)

-- Puts values into a template. Without any values it is taken as it is.
def fill (template : String) (values : Values) : Except Fault String :=
  if values.left.isEmpty then .ok template
  else
    let cs := template.toList
    (fillFrom cs.length (cs.length + 1) values cs).map String.ofList

theorem fill_nil (template : String) (table : Option Json) : fill template ⟨[], table⟩ = .ok template :=
  rfl

end RefWatch.Log.Template
