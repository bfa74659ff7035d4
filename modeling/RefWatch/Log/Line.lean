import RefWatch.Log
import RefWatch.Log.Template
import RefWatch.Text.Case

namespace RefWatch.Log

-- A record whose message is still a template and values.
structure Draft where
  level : Json
  logger : Json
  template : Json
  values : Template.Values
  fields : Json.Members := []
  -- The error that the record was made over, as it is told with all its calls.
  traceback : Option String := none

inductive Flaw
  | template (f : Template.Fault)
  -- No text, where the name of a level should be.
  | levelKind (kind : String)
  -- No document, in a record that says it already is one.
  | documentKind (kind : String)
  -- A list, in a record that says it already is a document.
  | documentList
  deriving DecidableEq

def Flaw.message : Flaw → String
  | template f => f.message
  | levelKind k => "'" ++ k ++ "' object has no attribute 'lower'"
  | documentKind k => "'" ++ k ++ "' object has no attribute 'copy'"
  | documentList => "list indices must be integers or slices, not str"

namespace Draft

def ofParts (level : Level) (logger : String) (template : Json) (values : List Json)
    (fields : Json.Members) (traceback : Option String := none) : Draft where
  level := (fields.get? "levelname").getD (.text level.name)
  logger := (fields.get? "name").getD (.text logger)
  template := (fields.get? "msg").getD template
  values :=
    match fields.get? "args" with
    | some v => .ofJson v
    | none => .ofList values
  fields := fields
  traceback := traceback

-- Names of parts of a record, and names that are in use while a line is made.
def ownNames : List String :=
  ["name", "msg", "args", "levelname", "levelno", "pathname", "filename", "module", "exc_info",
    "exc_text", "stack_info", "lineno", "funcName", "created", "msecs", "relativeCreated", "thread",
    "threadName", "processName", "process", "_record", "_from_structlog"]

def internalNames : List String := ["_record", "_from_structlog"]

-- Whether the record says that its message is a document already.
def isDocument (d : Draft) : Bool :=
  (d.fields.get? "_logger").isSome && (d.fields.get? "_name").isSome

def levelText (d : Draft) : Except Flaw String :=
  match d.level with
  | .text s =>
    let name := Text.lower s
    .ok (if name = "warn" then "warning" else if name = "exception" then "error" else name)
  | j => .error (.levelKind j.kindName)

def message (d : Draft) : Except Flaw String :=
  (Template.fill d.template.plain d.values).mapError .template

def document (d : Draft) : Except Flaw Json.Members :=
  match d.template with
  | .object ms => .ok ((Json.distinct ms).filter fun m => !internalNames.contains m.1)
  | .list _ => .error .documentList
  | j => .error (.documentKind j.kindName)

-- The members of the line. Fields may replace the message, level and logger; the time is always
-- that of writing, and an error is told last.
def line (now : String) (d : Draft) : Except Flaw Json.Members := do
  if d.isDocument then d.document
  else
    let level ← d.levelText
    let message ← d.message
    let base : Json.Members := [("event", .text message), ("logger", d.logger), ("level", .text level)]
    let fields := d.fields.filter fun m => !ownNames.contains m.1
    let stamped := Json.put (fields.foldl (fun ms m => Json.put ms m.1 m.2) base) "timestamp" (.text now)
    return match d.traceback with
      | some told => Json.put stamped "exception" (.text told)
      | none => stamped

end Draft

end RefWatch.Log
