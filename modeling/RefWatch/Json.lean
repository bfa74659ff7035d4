import RefWatch.Number

namespace RefWatch

-- The members of an object are kept as they were written; of a name that is repeated the last member counts,
-- in the place of the first.
inductive Json
  | null
  | bool (b : Bool)
  | number (n : Number)
  | text (s : String)
  -- A text in which half of a surrogate pair stands alone.
  | brokenText
  -- The value of a member whose name is such a text.
  | misnamed (value : Json)
  | list (items : List Json)
  | object (members : List (String × Json))

namespace Json

abbrev Members := List (String × Json)

def Members.get? (ms : Members) (name : String) : Option Json :=
  (ms.reverse.find? (·.1 == name)).map (·.2)

-- Sets a name to a value: in its old place if it has one, else at the end.
def put {α : Type} (ms : List (String × α)) (name : String) (v : α) : List (String × α) :=
  if ms.any (·.1 == name) then ms.map fun m => if m.1 == name then (name, v) else m
  else ms ++ [(name, v)]

-- Each name once, with the value given last.
def distinct {α : Type} (ms : List (String × α)) : List (String × α) :=
  ms.foldl (fun done m => put done m.1 m.2) []

def get? (j : Json) (name : String) : Option Json :=
  match j with
  | object ms => Members.get? ms name
  | _ => none

def ofWhole (n : Int) : Json := number (.whole n)

theorem Members.get?_concat (ms : Members) (m : String × Json) (name : String) :
    Members.get? (ms ++ [m]) name = if m.1 == name then some m.2 else Members.get? ms name := by
  simp only [Members.get?, List.reverse_append, List.reverse_singleton, List.singleton_append,
    List.find?_cons]
  split <;> simp_all

end Json

end RefWatch
