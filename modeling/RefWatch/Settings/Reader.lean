import RefWatch.Field.Integer
import RefWatch.Json.Reader
import RefWatch.Settings
import RefWatch.Text.Case
import RefWatch.Text.Quoted

namespace RefWatch

open RefWatch.Field

def patternFlaw (text : String) : Pattern.Fault → Problem
  | .repetitionTooLarge => .stopped .repetitionTooLarge
  | .lookbehindTooLong => .stopped .lookbehindTooLong
  | .tooDeep => .stopped .tooDeep
  | f@(.misread ..) | f@(.unusable _) =>
    .faults [⟨[], .refused ("head_regex is not a valid pattern: " ++ f.message text)⟩]
  | f => .faults [⟨[], .refused (f.message text)⟩]

def patternField : Read Pattern := fun j =>
  (text j).andThen fun s =>
    match Pattern.ofString s with
    | .ok p => .ok p
    | .error f => .wrong (patternFlaw s f)

namespace SourceSettings

def ofMembers (ms : Json.Members) : Checked SourceSettings :=
  SourceSettings.mk <$> required ms "repo_owner" filledText <*> required ms "repository" filledText <*>
    withDefault ms "api_uri" (some Host.standardApi) (nullable text) <*>
    withDefault ms "want_branches" true boolean <*> withDefault ms "want_tags" false boolean <*>
    withDefault ms "includes" "*" text <*> withDefault ms "excludes" "" text <*>
    optional ms "head_regex" patternField

def ofJson : Read SourceSettings := model "SourceSettings" ofMembers

end SourceSettings

namespace NavigatorSettings

def ofMembers (ms : Json.Members) : Checked NavigatorSettings :=
  NavigatorSettings.mk <$> required ms "repo_owner" filledText <*>
    withDefault ms "api_uri" (some Host.standardApi) (nullable text)

def ofJson : Read NavigatorSettings := model "NavigatorSettings" ofMembers

end NavigatorSettings

namespace Settings

inductive Problem
  -- A variable whose name or value holds a NUL.
  | nul
  -- A variable whose name holds an equals sign.
  | badName
  -- A variable without a name.
  | noName
  -- The variable of a field is no JSON.
  | unreadable (field : String)
  -- The variable of a field nests lists or objects too deep.
  | tooDeep (inList : Bool)
  | invalid (p : Field.Problem)

def nulText : String := "embedded null byte"

def badNameText : String := "illegal environment variable name"

def noNameText : String := "[Errno 22] Invalid argument"

def tooDeepText (inList : Bool) : String :=
  "maximum recursion depth exceeded while decoding a JSON " ++ (if inList then "array" else "object") ++
    " from a unicode string"

def unreadableText (field : String) : String :=
  "error parsing value for field \"" ++ field ++ "\" from source \"EnvSettingsSource\""

def delayField : Read Nat := fun j =>
  (integer j).andThen fun n =>
    if n < 0 then .flaw (.refused "event_delay_seconds must be at least 0") else .ok n.toNat

-- Hosts are kept in lower case; of those that become equal the last one counts, in the first
-- place.
def lowerAliases (aliases : Aliases) : Aliases :=
  Json.distinct (aliases.map fun a => (Text.lower a.1, Text.lower a.2))

def aliasesField : Read Aliases := fun j => lowerAliases <$> table text j

def levelField : Read Log.Level := fun j =>
  (text j).andThen fun s =>
    match Log.Level.all.find? (·.name == Text.upper (Text.strip s)) with
    | some l => .ok l
    | none => .flaw (.refused ("log_level must be a logging level name, got " ++ Text.quoted s))

def formatField : Read LogFormat := fun j =>
  (text j).andThen fun s =>
    match LogFormat.ofName? (Text.lower (Text.strip s)) with
    | some f => .ok f
    | none => .flaw (.refused ("log_format must be 'text' or 'json', got " ++ Text.quoted s))

def portField : Read Nat := fun j =>
  (integer j).andThen fun n =>
    if 1 ≤ n && n ≤ 65535 then .ok n.toNat
    else .flaw (.refused "port must be between 1 and 65535")

def fieldNames : List String :=
  ["event_delay_seconds", "api_host_aliases", "sources", "navigators", "log_level", "log_format",
    "host", "port"]

def ofMembers (ms : Json.Members) : Checked Settings :=
  (fun s _ => s) <$>
    (Settings.mk <$> withDefault ms "event_delay_seconds" 5 delayField <*>
      withDefault ms "api_host_aliases" Aliases.standard aliasesField <*>
      withDefault ms "sources" [] (list SourceSettings.ofJson) <*>
      withDefault ms "navigators" [] (list NavigatorSettings.ofJson) <*>
      withDefault ms "log_level" .info levelField <*>
      withDefault ms "log_format" .text formatField <*>
      withDefault ms "host" "0.0.0.0" text <*> withDefault ms "port" 8080 portField) <*>
    onlyNames fieldNames ms

-- Variables that an environment can hold.
def checkVariables (env : List (String × String)) : Except Problem Unit :=
  env.forM fun v =>
    if v.1.contains '\x00' || v.2.contains '\x00' then throw .nul
    else if v.1.contains '=' then throw .badName
    else if v.1 = "" then throw .noName
    else pure ()

-- The fields whose variables hold JSON.
def documentFields : List String := ["api_host_aliases", "sources", "navigators"]

-- The variable of a field, by its name in lower case.
def valueFor? (env : List (String × String)) (field : String) : Option String :=
  let lowered := (Json.distinct env).map fun v => (Text.lower v.1, v.2)
  (lowered.reverse.find? (·.1 == "scm_events_" ++ field)).map (·.2)

-- What a variable gives for a field. A document that is null gives nothing.
def variableField (env : List (String × String)) (field : String) :
    Except Problem (Option (String × Json)) :=
  match valueFor? env field with
  | none => .ok none
  | some v =>
    if documentFields.contains field then
      match Json.readText .setting v with
      | .error ⟨.listTooDeep, _⟩ => .error (.tooDeep true)
      | .error ⟨.objectTooDeep, _⟩ => .error (.tooDeep false)
      | .error _ => .error (.unreadable field)
      | .ok .null => .ok none
      | .ok j => .ok (some (field, j))
    else .ok (some (field, .text v))

def variableFields (env : List (String × String)) : Except Problem Json.Members :=
  (fieldNames.mapM (variableField env)).map (·.filterMap id)

-- Sets a member; an object is laid over an object member by member.
def overlay (ms : Json.Members) (m : String × Json) : Json.Members :=
  match ms.get? m.1, m.2 with
  | some (.object old), .object new =>
    Json.put ms m.1 (.object (new.foldl (fun done n => Json.put done n.1 n.2) (Json.distinct old)))
  | _, v => Json.put ms m.1 v

def fieldNamed? (name : String) : Option String := fieldNames.find? (· == Text.lower name)

-- Given values by their fields, whose names are read without regard to case; of several values for a
-- field the first counts.
def byField (given : Json.Members) : Json.Members :=
  given.foldl (fun done m =>
    match fieldNamed? m.1 with
    | some field => if (done.get? field).isSome then done else done ++ [(field, m.2)]
    | none => done ++ [m]) []

-- The settings of an environment with values that are given directly.
def read (env : List (String × String)) (given : Json.Members) : Except Problem Settings := do
  checkVariables env
  let fromEnv ← variableFields env
  (ofMembers ((byField (Json.distinct given)).foldl overlay fromEnv)).toExcept.mapError .invalid

end Settings

end RefWatch
