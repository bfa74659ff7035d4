import RefWatch.Text.Case
import RefWatch.Url

namespace RefWatch

-- Hosts of interfaces, each with the host of its repositories.
abbrev Aliases := List (String × String)

namespace Host

def fallback : String := "github.com"

end Host

namespace Aliases

def standard : Aliases := [("api.github.com", Host.fallback)]

-- The repository host for a host in lower case: that of the first alias that fits, or itself.
def resolve (aliases : Aliases) (host : String) : String :=
  match aliases.find? fun a => Text.lower a.1 == host with
  | some a => Text.lower a.2
  | none => host

end Aliases

namespace Host

-- The repository host behind an interface address.
def ofApi (api : Option String) (aliases : Aliases) : Except Url.Fault String := do
  match api with
  | none | some "" => return fallback
  | some url =>
    match ← Url.host? url with
    | none => return fallback
    | some host => return aliases.resolve (Text.lower host)

end Host

end RefWatch
