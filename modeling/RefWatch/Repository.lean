import RefWatch.Log
import RefWatch.Text.Split

namespace RefWatch

structure Repository where
  host : String
  owner : String
  name : String
  deriving DecidableEq

namespace Repository

def fullName (r : Repository) : String := r.owner ++ "/" ++ r.name

-- What follows `http://` or `https://`.
def afterScheme? (url : List Char) : Option (List Char) :=
  (Text.after? "http://".toList url).or (Text.after? "https://".toList url)

-- The host of a web address with three non-empty segments.
def hostOf? (url : String) : Option String := do
  let rest ← afterScheme? url.toList
  match Text.fields '/' rest with
  | [host, owner, name] =>
    if host.isEmpty || owner.isEmpty || name.isEmpty then none else some (String.ofList host)
  | _ => none

-- A document has a host only if it is a text.
def hostIn? : Json → Option String
  | .text url => hostOf? url
  | _ => none

-- What reading the host off an address writes to the log.
def hostLog (url : String) : List Log.Record :=
  if (hostOf? url).isSome then []
  else
    [{ level := .debug, logger := .matching
       message := url ++ " does not match expected repository name pattern" }]

end Repository

end RefWatch
