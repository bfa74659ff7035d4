import RefWatch.Listener

namespace RefWatch.Listener

structure FanOut (α : Type) where
  children : List (Nat × α)
  place : Nat := 0
  told : List (Nat × α) := []
  ended : Bool := false

namespace FanOut

variable {α : Type}

def ofChildren (cs : List (Nat × α)) : FanOut α := { children := cs }

inductive Move (α : Type)
  | turn
  | add (handle : Nat) (child : α)
  | remove (handle : Nat)

-- A fan-out that has ended stays ended, whoever comes later.
def turn (f : FanOut α) : FanOut α :=
  if f.ended then f
  else
    match f.children[f.place]? with
    | some c => { f with place := f.place + 1, told := f.told ++ [c] }
    | none => { f with ended := true }

def move (f : FanOut α) : Move α → FanOut α
  | .turn => f.turn
  | .add handle child => { f with children := f.children ++ [(handle, child)] }
  | .remove handle => { f with children := f.children.eraseP (·.1 == handle) }

def run (f : FanOut α) (ms : List (Move α)) : FanOut α := ms.foldl move f

theorem run_append (f : FanOut α) (ms ns : List (Move α)) : f.run (ms ++ ns) = (f.run ms).run ns :=
  List.foldl_append ..

theorem turn_of_ended {f : FanOut α} (h : f.ended) : f.turn = f := by
  simp [turn, h]

theorem run_turns (cs : List (Nat × α)) (n : Nat) (h : n ≤ cs.length) :
    (ofChildren cs).run (List.replicate n .turn) =
      { children := cs, place := n, told := cs.take n } := by
  induction n with
  | zero => rfl
  | succ n ih =>
    have hn : cs[n]? = some cs[n] := List.getElem?_eq_getElem h
    rw [List.replicate_succ', run_append, ih (Nat.le_of_succ_le h)]
    simp [run, move, turn, hn]

theorem run_all (cs : List (Nat × α)) :
    (ofChildren cs).run (List.replicate (cs.length + 1) .turn) =
      { children := cs, place := cs.length, told := cs, ended := true } := by
  rw [List.replicate_succ', run_append, run_turns cs _ (Nat.le_refl _)]
  simp [run, move, turn]

end FanOut

end RefWatch.Listener
