import RefWatch.Json
import RefWatch.Text.Quoted
import RefWatch.Text.Utf8

namespace RefWatch.Json

mutual

def shown : Json → String
  | null => "None"
  | bool b => if b then "True" else "False"
  | number n => n.text
  | text s => Text.quoted s
  | brokenText => Text.quoted Text.Utf8.replacement.toString
  | misnamed v => shown v
  | list js => "[" ++ ", ".intercalate (shownItems js) ++ "]"
  | object ms => "\x7b" ++ ", ".intercalate (shownMembers ms) ++ "\x7d"

def shownItems : List Json → List String
  | [] => []
  | j :: js => shown j :: shownItems js

def shownMembers : List (String × Json) → List String
  | [] => []
  | m :: ms => shownMember m :: shownMembers ms

def shownMember : String × Json → String
  | (name, j) => Text.quoted name ++ ": " ++ shown j

end

def plain : Json → String
  | text s => s
  | j => j.shown

-- Nothing, false, zero and what is empty count as false.
def isTrue : Json → Bool
  | null => false
  | bool b => b
  | number n => !(n.toFloat == 0.0)
  | text s => !s.isEmpty
  | brokenText => true
  | misnamed v => v.isTrue
  | list js => !js.isEmpty
  | object ms => !ms.isEmpty

-- What kind of value a document is, as messages call it.
def kindName : Json → String
  | null => "NoneType"
  | bool _ => "bool"
  | number (.whole _) => "int"
  | number _ => "float"
  | text _ | brokenText => "str"
  | misnamed v => v.kindName
  | list _ => "list"
  | object _ => "dict"

end RefWatch.Json
