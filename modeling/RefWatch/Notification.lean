import RefWatch.Log
import RefWatch.Payload.Reader
import RefWatch.Text.Blank
import RefWatch.Text.Case
import RefWatch.Text.Quoted

namespace RefWatch

-- The kind that a header names, without regard to case and blanks around it.
def EventKind.ofHeader? (header : String) : Option EventKind :=
  ofName? (Text.lower (Text.strip header))

structure Notification where
  kind : EventKind
  origin : String := "unknown"
  received : Timestamp
  body : ByteArray

namespace Notification

open RefWatch.Field

def kindOf : Read EventKind
  | .text s =>
    match EventKind.ofName? s with
    | some k => .ok k
    | none => .flaw (.notChoice "'create', 'delete' or 'push'")
  | _ => .flaw (.notChoice "'create', 'delete' or 'push'")

-- From the fields of a document; `now` stands in for a missing time.
def ofMembers (now : Timestamp) (body : ByteArray) (ms : Json.Members) : Checked Notification :=
  (fun kind origin received => { kind, origin, received, body }) <$> required ms "kind" kindOf <*>
    withDefault ms "origin" "unknown" text <*> withDefault ms "received_at" now timestamp

def payload (n : Notification) : Except Nat Payload := Payload.decode n.kind n.body

def undecodable (n : Notification) (faults : Nat) : Log.Record where
  level := .warning
  logger := .payload
  message :=
    "Could not parse " ++ n.kind.name ++ " event from " ++ n.origin ++ " with payload: " ++
      Text.quotedBytes n.body
  extra :=
    [("event_kind", .text n.kind.name), ("origin", .text n.origin), ("error_count", .ofWhole faults)]

-- What decoding writes to the log.
def decodingLog (n : Notification) : List Log.Record :=
  match n.payload with
  | .ok _ => []
  | .error faults => [n.undecodable faults]

end Notification

end RefWatch
