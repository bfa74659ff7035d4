import RefWatch.Json
import RefWatch.Text.Case

namespace RefWatch.Http

structure Request where
  method : String := "POST"
  -- With the query, if there is one.
  target : String
  headers : List (String × String) := []
  body : ByteArray := .empty
  client : Option String := none

-- The first header of a name; names are compared without regard to case.
def Request.header? (r : Request) (name : String) : Option String :=
  (r.headers.find? fun h => Text.lower h.1 == Text.lower name).map (·.2)

def Request.path (r : Request) : String := String.ofList (r.target.toList.takeWhile (· != '?'))

inductive Content
  | document (j : Json)
  | text (s : String)
  | none

structure Reply where
  status : Nat := 200
  content : Content

def detail (status : Nat) (text : String) : Reply :=
  ⟨status, .document (.object [("detail", .text text)])⟩

def notFound : Reply := detail 404 "Not Found"

def methodNotAllowed : Reply := detail 405 "Method Not Allowed"

def redirect : Reply := ⟨307, .none⟩

inductive Page
  | health
  | metrics
  | webhook
  -- Pages that describe the service to people.
  | manual
  deriving DecidableEq

namespace Page

def ofName? (path : String) : Option Page :=
  match path with
  | "/health" => some health
  | "/metrics" => some metrics
  | "/webhooks/github" => some webhook
  | "/docs" | "/docs/oauth2-redirect" | "/redoc" | "/openapi.json" => some manual
  | _ => none

-- A page by its path; one line feed at the end of the path does not count.
def ofPath? (path : String) : Option Page :=
  ofName? (if path.endsWith "\n" then (path.dropEnd 1).toString else path)

def methods : Page → List String
  | health | metrics => ["GET"]
  | webhook => ["POST"]
  | manual => ["GET", "HEAD"]

end Page

-- The path with its slashes at the end taken off, or with one put there.
def otherPath (path : String) : String :=
  let cs := path.toList
  if cs.getLast? = some '/' then String.ofList (cs.reverse.dropWhile (· == '/')).reverse
  else path ++ "/"

-- The page that a request asks for, or the reply that there is none.
def Request.page (r : Request) : Except Reply Page :=
  match Page.ofPath? r.path with
  | some p => if p.methods.contains r.method then .ok p else .error methodNotAllowed
  | none =>
    if r.path != "/" && (Page.ofPath? (otherPath r.path)).isSome then .error redirect
    else .error notFound

end RefWatch.Http
