namespace RefWatch

inductive EventKind
  | create
  | delete
  | push
  deriving DecidableEq

namespace EventKind

def name : EventKind → String
  | create => "create"
  | delete => "delete"
  | push => "push"

def ofName? (s : String) : Option EventKind :=
  if s = "create" then some create
  else if s = "delete" then some delete
  else if s = "push" then some push
  else none

theorem ofName?_name (k : EventKind) : ofName? k.name = some k := by cases k <;> rfl

end EventKind

-- The first text if there is one and it is not empty, else the second.
def firstFilled (a b : Option String) : Option String := if a.getD "" = "" then b else a

namespace Payload

structure Owner where
  login : Option String := none
  name : Option String := none
  deriving DecidableEq

structure Subject where
  name : Option String := none
  htmlUrl : Option String := none
  url : Option String := none
  owner : Owner := {}
  deriving DecidableEq

def Subject.webUrl (s : Subject) : Option String := firstFilled s.htmlUrl s.url

def Subject.ownerName (s : Subject) : Option String := firstFilled s.owner.login s.owner.name

inductive Change
  | create (refType : Option String)
  | delete
  | push (after head : Option String) (created deleted : Bool)
  deriving DecidableEq

end Payload

structure Payload where
  ref : String
  subject : Payload.Subject
  change : Payload.Change
  deriving DecidableEq

inductive ChangeType
  | created
  | updated
  | removed
  deriving DecidableEq

def ChangeType.name : ChangeType → String
  | created => "created"
  | updated => "updated"
  | removed => "removed"

namespace Payload

def Change.kind : Change → EventKind
  | create _ => .create
  | delete => .delete
  | push .. => .push

def kind (p : Payload) : EventKind := p.change.kind

def Change.type : Change → ChangeType
  | create _ => .created
  | delete => .removed
  | push _ _ created deleted =>
    if created then .created else if deleted then .removed else .updated

def changeType (p : Payload) : ChangeType := p.change.type

-- The commit that a push leaves its ref at.
def Change.commit : Change → Option String
  | push after head .. => firstFilled after head
  | _ => none

end Payload

end RefWatch
