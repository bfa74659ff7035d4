import RefWatch.Host
import RefWatch.Prefilter
import RefWatch.Repository

namespace RefWatch

def Host.standardApi : String := "https://api.github.com"

structure Source where
  owner : String
  repository : String
  api : Option String := some Host.standardApi
  wantBranches : Bool := true
  wantTags : Bool := false
  prefilters : List Prefilter := []
  deriving BEq, ReflBEq

structure Navigator where
  owner : String
  api : Option String := some Host.standardApi
  deriving DecidableEq

namespace Source

def fullName (s : Source) : String := s.owner ++ "/" ++ s.repository

-- The source as its prefilters are shown it.
def view (s : Source) : Prefilter.View where
  owner := s.owner
  repository := s.repository
  api := s.api
  wantBranches := s.wantBranches
  wantTags := s.wantTags
  prefilters := s.prefilters.map Prefilter.face

-- Host, owner and name agree, without regard to case.
def watches (s : Source) (r : Repository) (aliases : Aliases) : Except Url.Fault Bool := do
  let host ← Host.ofApi s.api aliases
  return Text.lower r.host == host && Text.lower r.owner == Text.lower s.owner &&
    Text.lower r.name == Text.lower s.repository

end Source

namespace Navigator

def watches (n : Navigator) (r : Repository) : Bool := Text.lower r.owner == Text.lower n.owner

end Navigator

-- A source or a navigator.
inductive Scope
  | source (s : Source)
  | navigator (n : Navigator)

def Scope.watches (s : Scope) (r : Repository) (aliases : Aliases) : Except Url.Fault Bool :=
  match s with
  | .source s => s.watches r aliases
  | .navigator n => .ok (n.watches r)

end RefWatch
