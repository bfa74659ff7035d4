import RefWatch.Pattern.Node

namespace RefWatch.Pattern.Node

-- Items that hold no further pattern can be compared.
def isLeaf : Node → Bool
  | any | char _ | set .. | anchor _ | backref .. => true
  | _ => false

-- How many items of the first branch the other branches begin with.
def sharedLength : List Node → List (List Node) → Nat
  | [], _ => 0
  | n :: ns, others =>
    if n.isLeaf && others.all (·.head? = some n) then
      sharedLength ns (others.map List.tail) + 1
    else 0

def setMembers? : List Node → Option (List SetItem)
  | [char n] => some [.char n]
  | [set false members] => some members
  | _ => none

def alternatives (branches : List (List Node)) : Node :=
  match branches.mapM setMembers? with
  | some members => set false members.flatten.eraseDups
  | none => branches.foldr (fun b n => alt (ofList b) n) never

def ofBranches : List (List Node) → List Node
  | [] => []
  | [b] => b
  | b :: bs =>
    let n := sharedLength b bs
    b.take n ++ [alternatives ((b :: bs).map (·.drop n))]

end RefWatch.Pattern.Node
