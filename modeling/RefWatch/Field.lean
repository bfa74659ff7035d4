import RefWatch.Timestamp.Reader

namespace RefWatch.Field

inductive Step
  | member (name : String)
  | item (index : Nat)
  deriving DecidableEq

inductive Flaw
  | missing
  | unknown
  | notText
  | brokenText
  | emptyText
  | notBoolean
  | unclearBoolean
  | notInteger
  | unclearInteger
  | fractional
  | tooManyDigits
  | notFinite
  | notTable
  | notList
  | notModel (name : String)
  | notObject
  | noDocument (reason : String)
  | notChoice (choices : String)
  | badTimestamp (f : Timestamp.Fault)
  -- Refused by a rule of its own.
  | refused (reason : String)
  deriving DecidableEq

namespace Flaw

def timestampCode : Timestamp.Fault → String
  | .wrongType => "datetime_type"
  | .unreadable _ => "datetime_parsing"
  | .noDate _ => "datetime_from_date_parsing"

def code : Flaw → String
  | missing => "missing"
  | unknown => "extra_forbidden"
  | notText => "string_type"
  | brokenText => "string_unicode"
  | emptyText => "string_too_short"
  | notBoolean => "bool_type"
  | unclearBoolean => "bool_parsing"
  | notInteger => "int_type"
  | unclearInteger => "int_parsing"
  | fractional => "int_from_float"
  | tooManyDigits => "int_parsing_size"
  | notFinite => "finite_number"
  | notTable => "dict_type"
  | notList => "list_type"
  | notModel _ | notObject => "model_type"
  | noDocument _ => "json_invalid"
  | notChoice _ => "enum"
  | badTimestamp f => timestampCode f
  | refused _ => "value_error"

def message : Flaw → String
  | missing => "Field required"
  | unknown => "Extra inputs are not permitted"
  | notText => "Input should be a valid string"
  | brokenText => "Input should be a valid string, unable to parse raw data as a unicode string"
  | emptyText => "String should have at least 1 character"
  | notBoolean => "Input should be a valid boolean"
  | unclearBoolean => "Input should be a valid boolean, unable to interpret input"
  | notInteger => "Input should be a valid integer"
  | unclearInteger => "Input should be a valid integer, unable to parse string as an integer"
  | fractional => "Input should be a valid integer, got a number with a fractional part"
  | tooManyDigits => "Unable to parse input string as an integer, exceeded maximum size"
  | notFinite => "Input should be a finite number"
  | notTable => "Input should be a valid dictionary"
  | notList => "Input should be a valid list"
  | notModel name => "Input should be a valid dictionary or instance of " ++ name
  | notObject => "Input should be an object"
  | noDocument reason => "Invalid JSON: " ++ reason
  | notChoice choices => "Input should be " ++ choices
  | badTimestamp f => f.message
  | refused reason => "Value error, " ++ reason

end Flaw

structure Fault where
  path : List Step
  flaw : Flaw
  deriving DecidableEq

-- What stops the reading at once: a pattern that no matcher can be made for.
inductive Stop
  | repetitionTooLarge
  | lookbehindTooLong
  | tooDeep
  deriving DecidableEq

-- Why a document was not read.
inductive Problem
  | faults (fs : List Fault)
  | stopped (s : Stop)
  deriving DecidableEq

namespace Problem

def join : Problem → Problem → Problem
  | faults fs, faults gs => faults (fs ++ gs)
  | stopped s, _ => stopped s
  | _, stopped s => stopped s

def under (s : Step) : Problem → Problem
  | faults fs => faults (fs.map fun f => { f with path := s :: f.path })
  | stopped s => stopped s

def count : Problem → Nat
  | faults fs => fs.length
  | stopped _ => 1

end Problem

inductive Checked (α : Type)
  | ok (a : α)
  | wrong (p : Problem)
  deriving DecidableEq

namespace Checked

def map (f : α → β) : Checked α → Checked β
  | ok a => ok (f a)
  | wrong p => wrong p

-- Readers of several fields keep the faults of all of them, in the order of the fields.
def seq (f : Checked (α → β)) (x : Checked α) : Checked β :=
  match f, x with
  | ok f, ok a => ok (f a)
  | ok _, wrong q => wrong q
  | wrong p, ok _ => wrong p
  | wrong p, wrong q => wrong (p.join q)

instance : Applicative Checked where
  pure := ok
  map := map
  seq f x := f.seq (x ())

def under (s : Step) : Checked α → Checked α
  | ok a => ok a
  | wrong p => wrong (p.under s)

def flaw (f : Flaw) : Checked α := wrong (.faults [⟨[], f⟩])

-- A further rule for a value that has been read.
def andThen (x : Checked α) (f : α → Checked β) : Checked β :=
  match x with
  | ok a => f a
  | wrong p => wrong p

def toExcept : Checked α → Except Problem α
  | ok a => .ok a
  | wrong p => .error p

theorem seq_eq_ok_iff {f : Checked (α → β)} {x : Checked α} {b : β} :
    f.seq x = ok b ↔ ∃ g a, f = ok g ∧ x = ok a ∧ g a = b := by
  cases f <;> cases x <;> simp [seq]

end Checked

open Checked

abbrev Read (α : Type) := Json → Checked α

def text : Read String
  | .text s => ok s
  | .brokenText => flaw .brokenText
  | _ => flaw .notText

def filledText : Read String := fun j =>
  (text j).andThen fun s => if s = "" then flaw .emptyText else ok s

def nullable (r : Read α) : Read (Option α)
  | .null => ok none
  | j => (r j).map some

def truthWords : List String := ["1", "t", "true", "y", "yes", "on"]

def falseWords : List String := ["0", "f", "false", "n", "no", "off"]

def boolOfWord (s : String) : Checked Bool :=
  let w := s.map Char.toLower
  if truthWords.contains w then ok true
  else if falseWords.contains w then ok false
  else flaw .unclearBoolean

-- Whole numbers below this size fit into a word.
def wordLimit : Nat := 9223372036854775808

def boolOfNumber (n : Number) : Checked Bool :=
  let x := n.toFloat
  let small :=
    match n with
    | .whole n => -(wordLimit : Int) ≤ n && n < wordLimit
    | _ => x.floor == x && x.abs < wordLimit.toFloat
  if x == 0.0 then ok false
  else if x == 1.0 then ok true
  else if small then flaw .unclearBoolean
  else flaw .notBoolean

-- True and false, zero and one, and words for them.
def boolean : Read Bool
  | .bool b => ok b
  | .number n => boolOfNumber n
  | .text s => boolOfWord s
  | .brokenText => flaw .brokenText
  | _ => flaw .notBoolean

def timestamp : Read Timestamp := fun j =>
  match Timestamp.ofJson j with
  | .ok t => ok t
  | .error f => flaw (.badTimestamp f)

-- A member that has to be there.
def required (ms : Json.Members) (name : String) (r : Read α) : Checked α :=
  (match ms.get? name with
    | some j => r j
    | none => flaw .missing).under (.member name)

-- A member with a value to take where it is left out.
def withDefault (ms : Json.Members) (name : String) (default : α) (r : Read α) : Checked α :=
  (match ms.get? name with
    | some j => r j
    | none => ok default).under (.member name)

def optional (ms : Json.Members) (name : String) (r : Read α) : Checked (Option α) :=
  withDefault ms name none (nullable r)

def items (r : Read α) : Nat → List Json → Checked (List α)
  | _, [] => ok []
  | i, j :: js => (· :: ·) <$> (r j).under (.item i) <*> items r (i + 1) js

def list (r : Read α) : Read (List α)
  | .list js => items r 0 js
  | _ => flaw .notList

-- A member by its name and value; a name that is broken is a fault of its own.
def entry (r : Read α) (m : String × Json) : Checked (String × α) :=
  match m.2 with
  | .misnamed v =>
    (fun (_ : Unit) v => (m.1, v)) <$> ((flaw .brokenText).under (.member "[key]")).under (.member m.1) <*>
      (r v).under (.member m.1)
  | v => (fun v => (m.1, v)) <$> (r v).under (.member m.1)

def entries (r : Read α) : Json.Members → Checked (List (String × α))
  | [] => ok []
  | m :: ms => (· :: ·) <$> entry r m <*> entries r ms

-- An object with members of any names.
def table (r : Read α) : Read (List (String × α))
  | .object ms => entries r (Json.distinct ms)
  | _ => flaw .notTable

-- Faults for the members that are not expected.
def onlyNames (names : List String) (ms : Json.Members) : Checked Unit :=
  let unknown := (Json.distinct ms).filter fun m => !names.contains m.1
  if unknown.isEmpty then ok ()
  else wrong (.faults (unknown.map fun m => ⟨[.member m.1], .unknown⟩))

-- An object of a document, whose members are read further.
def object (read : Json.Members → Checked α) : Read α
  | .object ms => read ms
  | _ => flaw .notObject

-- An object among values that are given directly.
def model (name : String) (read : Json.Members → Checked α) : Read α
  | .object ms => read ms
  | _ => flaw (.notModel name)

end RefWatch.Field
