import RefWatch.HeadEvent

namespace RefWatch

-- What a listener is told about an event.
inductive Occasion
  | navigator (n : Navigator)
  | source (s : Source) (heads : List Report)

structure Response where
  notes : List Json := []
  log : List Log.Record := []
  -- Ticks that the listener took.
  pause : Nat := 0
  error : Option String := none

namespace Response

def failed (r : Response) : Bool := r.error.isSome

-- One response after another.
def andThen (r s : Response) : Response where
  notes := r.notes ++ s.notes
  log := r.log ++ s.log
  pause := r.pause + s.pause
  error := r.error.or s.error

end Response

structure Observer where
  name : String
  respond : HeadEvent → Occasion → Response

namespace Observer

-- Discards what it is told.
def silent : Observer where
  name := "NullHeadEventListener"
  respond _ _ := {}

-- Notes down what it is told.
def recorder (note : HeadEvent → Occasion → List Json) : Observer where
  name := "Recorder"
  respond e o := { notes := note e o }

-- Fails where it is told to.
def failing (onNavigator onSource : Bool) (text : String) : Observer where
  name := "Boom"
  respond _ o :=
    let fails :=
      match o with
      | .navigator _ => onNavigator
      | .source .. => onSource
    { error := if fails then some text else none }

def loggerOf (name : Option String) : Log.Logger :=
  match name with
  | none | some "" => .listener
  | some n => .named n

def deliveryRecord (logger : Log.Logger) (e : HeadEvent) : Occasion → Log.Record
  | .navigator n =>
    { level := .info, logger
      message := e.descriptionFor (.navigator n) ++ " (navigator " ++ n.owner ++ ")"
      extra := e.fields }
  | .source s heads =>
    { level := .info, logger
      message :=
        e.descriptionFor (.source s) ++ ": " ++ toString heads.length ++ " head(s) for " ++ s.fullName
      extra := e.fields ++
        [("heads", .list ((heads.map (·.head.name)).mergeSort.map Json.text))] }

-- Writes what it is told to the log.
def logging (logger : Option String) : Observer where
  name := "LoggingHeadEventListener"
  respond e o := { log := [deliveryRecord (loggerOf logger) e o] }

end Observer

-- The children of a fan-out are kept under the handles they were registered with.
inductive Listener
  | single (o : Observer)
  | fanOut (children : List (Nat × Listener))

instance : Inhabited Listener := ⟨.single .silent⟩

namespace Listener

def name : Listener → String
  | single o => o.name
  | fanOut _ => "CompositeHeadEventListener"

-- The fields of a listener's failure for the log.
def failureFields (listener error : String) (e : HeadEvent) : List (String × Json) :=
  [("listener_type", .text listener), ("error", .text error)] ++ e.fields

def childFailure (e : HeadEvent) (o : Occasion) (child error : String) : Log.Record where
  level := .error
  logger := .listener
  message :=
    "Listener " ++ child ++ " failed for " ++
      (match o with
        | .navigator n => "navigator " ++ n.owner
        | .source s _ => s.fullName) ++
      ": " ++ error
  extra := failureFields child error e

-- What a fan-out makes of the response of a child.
def contain (e : HeadEvent) (o : Occasion) (child : String) (r : Response) : Response :=
  match r.error with
  | none => r
  | some error => { r with log := r.log ++ [childFailure e o child error], error := none }

mutual

def respond (e : HeadEvent) (o : Occasion) : Listener → Response
  | single ob => ob.respond e o
  | fanOut cs => respondAll e o cs

-- A child that fails keeps nothing from the others.
def respondAll (e : HeadEvent) (o : Occasion) : List (Nat × Listener) → Response
  | [] => {}
  | c :: cs => (respondChild e o c).andThen (respondAll e o cs)

def respondChild (e : HeadEvent) (o : Occasion) : Nat × Listener → Response
  | (_, l) => contain e o l.name (respond e o l)

end

theorem contain_error (e : HeadEvent) (o : Occasion) (child : String) (r : Response) :
    (contain e o child r).error = none := by
  unfold contain
  split <;> simp_all

theorem respondAll_error (e : HeadEvent) (o : Occasion) (cs : List (Nat × Listener)) :
    (respondAll e o cs).error = none := by
  induction cs with
  | nil => rw [respondAll]
  | cons c cs ih =>
    rw [respondAll, Response.andThen, ih, respondChild, contain_error]
    rfl

-- Registers a child under a handle. Only a fan-out has children.
def add? (l : Listener) (handle : Nat) (child : Listener) : Option Listener :=
  match l with
  | single _ => none
  | fanOut cs => some (fanOut (cs ++ [(handle, child)]))

-- Takes the child with a handle away, if it is there.
def remove? (l : Listener) (handle : Nat) : Option Listener :=
  match l with
  | single _ => none
  | fanOut cs => if cs.any (·.1 == handle) then some (fanOut (cs.eraseP (·.1 == handle))) else none

def size : Listener → Nat
  | single _ => 0
  | fanOut cs => cs.length

end Listener

end RefWatch
