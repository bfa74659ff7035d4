import RefWatch.Json.Shown
import RefWatch.Metrics

namespace RefWatch.Metrics

-- The parameters of a measure; the last of them may have a default.
structure Signature where
  name : String
  parameters : List String
  optional : Bool := false

def signatures : List Signature :=
  [⟨"received", ["kind"], false⟩, ⟨"dropped", ["kind", "reason"], false⟩,
    ⟨"scheduled", ["kind", "change_type"], false⟩, ⟨"delivery", ["kind", "target"], false⟩,
    ⟨"heads", ["head_kind", "count"], true⟩, ⟨"listener_failure", ["listener"], false⟩,
    ⟨"delivery_lag", ["kind", "lag_seconds"], false⟩]

inductive CallFault
  | unknown (name : String)
  | missing (name : String) (parameters : List String)
  | tooMany (name : String) (least most given : Nat)
  | incomparable (sign kind type : String)
  | refused (r : Refusal)
  deriving DecidableEq

namespace CallFault

def listText (names : List String) : String :=
  match names.reverse with
  | [] => ""
  | [n] => n
  | [n, m] => m ++ " and " ++ n
  | n :: ns => ", ".intercalate ns.reverse ++ ", and " ++ n

def countText (n : Nat) (noun : String) : String :=
  toString n ++ " " ++ noun ++ if n = 1 then "" else "s"

def message : CallFault → String
  | unknown name => "'EventMetrics' object has no attribute 'record_" ++ name ++ "'"
  | missing name ps =>
    "EventMetrics.record_" ++ name ++ "() missing " ++
      countText ps.length "required positional argument" ++ ": " ++
      listText (ps.map fun p => "'" ++ p ++ "'")
  | tooMany name least most given =>
    "EventMetrics.record_" ++ name ++ "() takes " ++
      (if least = most then countText most "positional argument"
        else "from " ++ toString least ++ " to " ++ countText most "positional argument") ++
      " but " ++ toString given ++ " were given"
  | incomparable sign kind type =>
    "'" ++ sign ++ "' not supported between instances of '" ++ kind ++ "' and '" ++ type ++ "'"
  | refused r => r.message

end CallFault

namespace Signature

def required (s : Signature) : Nat := s.parameters.length - if s.optional then 1 else 0

-- The measures themselves count as one more value.
def check (s : Signature) (given : Nat) : Except CallFault Unit :=
  if given > s.parameters.length then
    .error (.tooMany s.name (s.required + 1) (s.parameters.length + 1) (given + 1))
  else if given < s.required then
    .error (.missing s.name ((s.parameters.take s.required).drop given))
  else .ok ()

end Signature

-- A number, or a truth value in place of one.
def amount? : Json → Option Number
  | .number n => some n
  | .bool b => some (.whole (if b then 1 else 0))
  | _ => none

def callHeads (m : Metrics) (kind : String) (count : Json) : Metrics × Option CallFault :=
  match amount? count with
  | some n =>
    let (heads, refusal) := Counter.raise m.heads [kind] n
    ({ m with heads }, refusal.map .refused)
  | none =>
    ({ m with heads := Counter.touch m.heads [kind] },
      some (.incomparable "<" count.kindName "int"))

def callLag (m : Metrics) (kind : String) (seconds : Json) : Metrics × Option CallFault :=
  match amount? seconds with
  | some n =>
    let (lag, refusal) := observeLag m.lag kind n
    ({ m with lag }, refusal.map .refused)
  | none =>
    ({ m with lag := m.lag.update [kind] {} id },
      some (.incomparable ">" seconds.kindName "float"))

-- Takes a measure whose values have been counted.
def take (m : Metrics) (name : String) (vs : List Json) : Metrics × Option CallFault :=
  let labels := vs.map Json.plain
  match name, vs with
  | "received", _ => ({ m with received := Counter.increment m.received labels }, none)
  | "dropped", _ => ({ m with dropped := Counter.increment m.dropped labels }, none)
  | "scheduled", _ => ({ m with scheduled := Counter.increment m.scheduled labels.reverse }, none)
  | "delivery", _ => ({ m with deliveries := Counter.increment m.deliveries labels }, none)
  | "listener_failure", _ => ({ m with failures := Counter.increment m.failures labels }, none)
  | "heads", [kind] => ({ m with heads := Counter.increment m.heads [kind.plain] }, none)
  | "heads", [kind, count] => callHeads m kind.plain count
  | "delivery_lag", [kind, seconds] => callLag m kind.plain seconds
  | _, _ => (m, none)

-- Takes the measure of a name with the values that are given for it.
def call (m : Metrics) (name : String) (vs : List Json) : Metrics × Option CallFault :=
  match signatures.find? (·.name == name) with
  | none => (m, some (.unknown name))
  | some s =>
    match s.check vs.length with
    | .error f => (m, some f)
    | .ok () => take m name vs

end RefWatch.Metrics
