import RefWatch.Head
import RefWatch.Log
import RefWatch.Name
import RefWatch.Payload
import RefWatch.Source
import RefWatch.Text.Quoted

namespace RefWatch

structure Report where
  head : Head
  revision : Revision
  deriving DecidableEq

namespace Resolution

inductive Refusal
  | badHost (f : Url.Fault)
  | notWatched
  | badRepositoryName (name : Option String)
  | badOwnerName (name : Option String)
  | unknownRefType (refType : Option String)
  | badCommit (commit : Option String)
  | noName
  | unwanted (head : Head)
  | excluded (head : Head)
  | filterFailed (head : Head) (f : Prefilter.Failure)
  deriving DecidableEq

-- The two refusals that are failures.
inductive Failure
  | badHost (f : Url.Fault)
  | filterFailed (f : Prefilter.Failure)
  deriving DecidableEq

def Failure.message : Failure → String
  | badHost f => f.message
  | filterFailed f => f.message

-- Whether a text that may be missing is there and has a form.
def hasForm (form : String → Bool) (s : Option String) : Bool := s.any form

-- What every payload has to pass: the source watches its repository, and its names have their
-- forms.
def screen (subject : Payload.Subject) (repository : Repository) (source : Source)
    (aliases : Aliases) : Except Refusal Unit := do
  match source.watches repository aliases with
  | .error f => throw (.badHost f)
  | .ok false => throw .notWatched
  | .ok true =>
    unless hasForm Name.isRepository subject.name do throw (.badRepositoryName subject.name)
    unless hasForm Name.isAccount subject.ownerName do throw (.badOwnerName subject.ownerName)

-- Kind and name of the changed ref, as the change prescribes.
def refOf (p : Payload) : Except Refusal Ref :=
  match p.change with
  | .create refType =>
    match refType.bind RefKind.ofName? with
    | some k => .ok ⟨k, k.short p.ref⟩
    | none => .error (.unknownRefType refType)
  | .delete | .push .. => .ok (Ref.classify p.ref)

-- A push has to tell the commit that it leaves the ref at; nothing else tells one.
def commitOf (change : Payload.Change) : Except Refusal (Option String) :=
  match change with
  | .push .. =>
    match change.commit with
    | some c => if Name.isCommit c then .ok (some c) else .error (.badCommit (some c))
    | none => .error (.badCommit none)
  | _ => .ok none

def revisionOf (head : Head) : Option String → Revision
  | some commit => .pinned head commit
  | none => .unresolved head

end Resolution

def Source.wants (s : Source) : RefKind → Bool
  | .branch => s.wantBranches
  | .tag => s.wantTags

namespace Resolution

-- Whether a source takes a head: it wants the kind, and no prefilter stands against the head.
def allow (source : Source) (head : Head) : Except Refusal Unit := do
  unless source.wants head.kind do throw (.unwanted head)
  match Prefilter.chainExcludes source.prefilters source.view head with
  | .error f => throw (.filterFailed head f)
  | .ok true => throw (.excluded head)
  | .ok false => return

end Resolution

open Resolution in
def Payload.resolve (p : Payload) (repository : Repository) (received : Timestamp) (source : Source)
    (aliases : Aliases) : Except Refusal Report := do
  screen p.subject repository source aliases
  let commit ← commitOf p.change
  let ref ← refOf p
  if ref.name = "" then throw .noName
  let head := Head.ofRef ref received
  allow source head
  return ⟨head, revisionOf head commit⟩

namespace Resolution

-- The heads of a resolution: one, none, or a failure.
def heads : Except Refusal Report → Except Failure (List Report)
  | .ok r => .ok [r]
  | .error (.badHost f) => .error (.badHost f)
  | .error (.filterFailed _ f) => .error (.filterFailed f)
  | .error _ => .ok []

def note (message : String) : Log.Record where
  level := .debug
  logger := .resolution
  message := message

def headText (h : Head) : String := h.kind.name ++ " head " ++ h.name

def exclusionNote (source : Source) (h : Head) : Log.Record :=
  note ("Prefilters excluded " ++ headText h ++ " for " ++ source.fullName)

-- What a refusal at the screen writes to the log.
def screenLog : Refusal → List Log.Record
  | .badRepositoryName n => [note ("Rejected repository name " ++ Text.quoted? n)]
  | .badOwnerName n => [note ("Rejected owner name " ++ Text.quoted? n)]
  | _ => []

-- Beyond the screen a create payload tells how far it gets.
def createLog (ref : String) (r : Except Refusal Report) : List Log.Record :=
  let mapped (h : Head) : Log.Record := note ("Mapped " ++ headText h ++ " for ref " ++ ref)
  let handling := note ("Handling create event for ref " ++ ref)
  match r with
  | .ok r => [handling, mapped r.head]
  | .error (.excluded h) | .error (.filterFailed h _) => [handling, mapped h]
  | .error (.unknownRefType t) =>
    [handling, note ("Create event for ref " ++ ref ++ " has unknown ref type " ++ Text.quoted? t)]
  | .error .noName | .error (.unwanted _) => [handling]
  | .error _ => []

-- What a resolution writes to the log.
def log (p : Payload) (source : Source) (r : Except Refusal Report) : List Log.Record :=
  let created :=
    match p.change with
    | .create _ => createLog p.ref r
    | _ => []
  created ++
    match r with
    | .error (.badCommit c) => [note ("Rejected head commit " ++ Text.quoted? c)]
    | .error (.excluded h) => [exclusionNote source h]
    | .error e => screenLog e
    | .ok _ => []

-- A payload of a type that has no heads: it is screened, and then reported as such.
def unsupported (typeName : String) (subject : Payload.Subject) (repository : Repository)
    (source : Source) (aliases : Aliases) : Except Failure (List Report) × List Log.Record :=
  match screen subject repository source aliases with
  | .error e => (heads (.error e), screenLog e)
  | .ok _ =>
    (.ok [],
      [{ level := .warning, logger := .resolution
         message := "Unsupported payload type: " ++ typeName }])

end Resolution

end RefWatch
