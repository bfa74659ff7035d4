import RefWatch.Resolution

namespace RefWatch

structure HeadEvent where
  payload : Payload
  repository : Repository
  origin : String
  received : Timestamp
  aliases : Aliases
  -- Told beside the payload, though an event that is made of a notification has it from there.
  changeType : ChangeType := payload.changeType
  deriving DecidableEq

namespace HeadEvent

def kind (e : HeadEvent) : EventKind := e.payload.kind

-- Equality of events. The alias table does not belong to an event's identity.
def same (d e : HeadEvent) : Bool :=
  d.changeType == e.changeType && d.payload == e.payload && d.repository == e.repository &&
    d.origin == e.origin && d.received.same e.received

theorem same_refl (e : HeadEvent) : e.same e := by simp [same, Timestamp.same_refl]

theorem same_comm (d e : HeadEvent) : d.same e = e.same d := by
  simp only [same, Timestamp.same_comm d.received, Bool.beq_comm (a := d.changeType),
    Bool.beq_comm (a := d.payload), Bool.beq_comm (a := d.repository), Bool.beq_comm (a := d.origin)]

-- One event of each class of equal ones, the first.
def distinct : List HeadEvent → List HeadEvent
  | [] => []
  | e :: es => e :: (distinct es).filter (!e.same ·)

def isFor (e : HeadEvent) (s : Scope) : Except Url.Fault Bool := s.watches e.repository e.aliases

def resolve (e : HeadEvent) (s : Source) : Except Resolution.Refusal Report :=
  e.payload.resolve e.repository e.received s e.aliases

def heads (e : HeadEvent) (s : Source) : Except Resolution.Failure (List Report) :=
  Resolution.heads (e.resolve s)

def resolutionLog (e : HeadEvent) (s : Source) : List Log.Record :=
  Resolution.log e.payload s (e.resolve s)

-- A text is tried as the ref of a tag first; what is none is told of as a branch.
def refText (verb ref : String) : String :=
  match Text.dropFront? RefKind.tag.root ref with
  | some name => verb ++ " event for tag " ++ name
  | none => verb ++ " event to branch " ++ RefKind.branch.short ref

-- Create events call a branch a tag and a tag a branch: their readers expect it so.
def createText (ref : String) (refType : Option String) : String :=
  match refType.bind RefKind.ofName? with
  | some .branch => "Create event for tag " ++ ref
  | some .tag => "Create event for branch " ++ ref
  | none => "Create event for " ++ ref ++ ", with unknown ref type " ++ refType.getD "None"

def eventText (p : Payload) : String :=
  match p.change with
  | .create t => createText p.ref t
  | .delete => refText "Delete" p.ref
  | .push .. => refText "Push" p.ref

def description (e : HeadEvent) : String :=
  eventText e.payload ++ " in repository " ++ e.repository.fullName

-- A description that leaves out what goes without saying in a scope.
def descriptionFor (e : HeadEvent) (s : Scope) : String :=
  match e.payload.change, s with
  | .create _, _ => e.description
  | _, .navigator _ => eventText e.payload ++ " in repository " ++ e.repository.name
  | _, .source _ => eventText e.payload

-- The fields of an event for the log.
def fields (e : HeadEvent) : List (String × Json) := [
  ("event_kind", .text e.kind.name),
  ("change_type", .text e.changeType.name),
  ("repository", .text e.repository.fullName),
  ("host", .text e.repository.host),
  ("origin", .text e.origin),
  ("timestamp", .text e.received.text)]

end HeadEvent

end RefWatch
