import RefWatch.Field
import RefWatch.Ref
import RefWatch.Timestamp

namespace RefWatch

inductive Head
  | branch (name : String)
  | tag (name : String) (time : Timestamp) (approximate : Bool)
  deriving DecidableEq

namespace Head

def kind : Head → RefKind
  | branch _ => .branch
  | tag .. => .tag

def name : Head → String
  | branch n => n
  | tag n .. => n

-- Equality of heads; tags compare their times as points in time.
def same : Head → Head → Bool
  | branch m, branch n => m == n
  | tag m t a, tag n u b => m == n && t.same u && a == b
  | _, _ => false

theorem same_refl (h : Head) : h.same h := by
  cases h <;> simp [same, Timestamp.same_refl]

theorem kind_of_same {g h : Head} (equal : g.same h) : g.kind = h.kind := by
  cases g <;> cases h <;> first | rfl | simp [same] at equal

-- A head of a kind, with the time its notification was received.
def ofRef (r : Ref) (received : Timestamp) : Head :=
  match r.kind with
  | .branch => branch r.name
  | .tag => tag r.name received true

theorem name_ofRef (r : Ref) (t : Timestamp) : (ofRef r t).name = r.name := by
  cases r with | mk k n => cases k <;> rfl

end Head

inductive Revision
  | unresolved (head : Head)
  | pinned (head : Head) (commit : String)
  deriving DecidableEq

namespace Revision

def head : Revision → Head
  | unresolved h => h
  | pinned h _ => h

-- Equality of revisions, with their heads compared as heads are.
def same : Revision → Revision → Bool
  | unresolved g, unresolved h => g.same h
  | pinned g c, pinned h d => g.same h && c == d
  | _, _ => false

theorem same_refl (r : Revision) : r.same r := by
  cases r <;> simp [same, Head.same_refl]

theorem head_same {r q : Revision} (equal : r.same q) : r.head.same q.head := by
  cases r <;> cases q <;> simp_all [same, head]

end Revision

end RefWatch
