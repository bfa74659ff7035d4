import RefWatch.Field
import RefWatch.Json.Reader
import RefWatch.Payload

namespace RefWatch.Payload

open RefWatch.Field
open Checked

def Owner.ofMembers (ms : Json.Members) : Checked Owner :=
  Owner.mk <$> optional ms "login" text <*> optional ms "name" text

def Subject.ofMembers (ms : Json.Members) : Checked Subject :=
  Subject.mk <$> optional ms "name" text <*> optional ms "html_url" text <*> optional ms "url" text <*>
    withDefault ms "owner" {} (object Owner.ofMembers)

def Change.ofMembers (kind : EventKind) (ms : Json.Members) : Checked Change :=
  match kind with
  | .create => create <$> optional ms "ref_type" text
  | .delete => pure delete
  | .push =>
    push <$> optional ms "after" text <*> optional ms "head" text <*>
      withDefault ms "created" false boolean <*> withDefault ms "deleted" false boolean

def subjectField (ms : Json.Members) : Checked Subject :=
  required ms "repository" (object Subject.ofMembers)

def ofMembers (kind : EventKind) (ms : Json.Members) : Checked Payload :=
  (fun ref change subject => ⟨ref, subject, change⟩) <$> required ms "ref" text <*>
    Change.ofMembers kind ms <*> subjectField ms

def ofJson (kind : EventKind) : Read Payload := object (ofMembers kind)

-- Reads a document off its bytes; bytes that are none are one fault.
def document (read : Read α) (body : ByteArray) : Checked α :=
  match Json.readBytes .body body with
  | .error f => flaw (.noDocument (f.message (Text.Utf8.octets body)))
  | .ok j => read j

-- The repository of an event of any kind, which is all that is read of it.
def subjectOf (body : ByteArray) : Checked Subject := document (object subjectField) body

-- A payload from its bytes, or the number of faults.
def decode (kind : EventKind) (body : ByteArray) : Except Nat Payload :=
  (document (ofJson kind) body).toExcept.mapError (·.count)

end RefWatch.Payload
