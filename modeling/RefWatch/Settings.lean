import RefWatch.Log
import RefWatch.Source
import RefWatch.Text.Blank

namespace RefWatch

inductive LogFormat
  | text
  | json
  deriving DecidableEq

namespace LogFormat

def name : LogFormat → String
  | text => "text"
  | json => "json"

def ofName? (s : String) : Option LogFormat :=
  if s = "text" then some text else if s = "json" then some json else none

theorem ofName?_name (f : LogFormat) : ofName? f.name = some f := by cases f <;> decide

end LogFormat

-- A source as it is set: its prefilters are told by lists of globs and a pattern.
structure SourceSettings where
  owner : String
  repository : String
  api : Option String := some Host.standardApi
  wantBranches : Bool := true
  wantTags : Bool := false
  includes : String := "*"
  excludes : String := ""
  pattern : Option Pattern := none
  deriving DecidableEq

namespace SourceSettings

-- Whether the lists of globs keep anything away.
def narrows (s : SourceSettings) : Bool :=
  Text.words s.includes != ["*"] || Text.strip s.excludes != ""

def prefilters (s : SourceSettings) : List Prefilter :=
  (if s.narrows then [.wildcard s.includes s.excludes] else []) ++
    (s.pattern.map Prefilter.pattern).toList

def toSource (s : SourceSettings) : Source where
  owner := s.owner
  repository := s.repository
  api := s.api
  wantBranches := s.wantBranches
  wantTags := s.wantTags
  prefilters := s.prefilters

end SourceSettings

structure NavigatorSettings where
  owner : String
  api : Option String := some Host.standardApi
  deriving DecidableEq

def NavigatorSettings.toNavigator (n : NavigatorSettings) : Navigator := ⟨n.owner, n.api⟩

structure Settings where
  -- Seconds.
  delay : Nat := 5
  aliases : Aliases := Aliases.standard
  sources : List SourceSettings := []
  navigators : List NavigatorSettings := []
  logLevel : Log.Level := .info
  logFormat : LogFormat := .text
  host : String := "0.0.0.0"
  port : Nat := 8080
  deriving DecidableEq

end RefWatch
