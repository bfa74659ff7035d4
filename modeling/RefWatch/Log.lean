import RefWatch.Json

namespace RefWatch.Log

inductive Level
  -- Below all others.
  | unset
  | debug
  | info
  | warning
  | error
  | critical
  deriving DecidableEq

namespace Level

def rank : Level → Nat
  | unset => 0
  | debug => 10
  | info => 20
  | warning => 30
  | error => 40
  | critical => 50

def name : Level → String
  | unset => "NOTSET"
  | debug => "DEBUG"
  | info => "INFO"
  | warning => "WARNING"
  | error => "ERROR"
  | critical => "CRITICAL"

-- The levels that records are written at.
def all : List Level := [debug, info, warning, error, critical]

-- A level by its name, or by another name that it has.
def ofName? (s : String) : Option Level :=
  if s = "WARN" then some warning
  else if s = "FATAL" then some critical
  else (unset :: all).find? (·.name == s)

theorem ofName?_name (l : Level) : ofName? l.name = some l := by cases l <;> decide

end Level

inductive Logger
  | payload
  | matching
  | resolution
  | scheduler
  | dispatcher
  | listener
  | service
  | named (name : String)
  deriving DecidableEq

def Logger.name : Logger → String
  | payload => "webhook.parser"
  | matching => "heads.matching"
  | resolution => "heads.resolver"
  | scheduler => "scheduler.debounce"
  | dispatcher => "dispatcher"
  | listener => "events.listener"
  | service => "main"
  | named n => n

structure Record where
  level : Level
  logger : Logger
  message : String
  extra : List (String × Json) := []

-- The records that a level lets through.
def visible (level : Level) (rs : List Record) : List Record :=
  rs.filter fun r => level.rank ≤ r.level.rank

end RefWatch.Log
