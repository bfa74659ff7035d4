import RefWatch.Proofs.Aliases
import RefWatch.Proofs.Configuration
import RefWatch.Proofs.Schema

namespace RefWatch

namespace Field

open Checked

section

variable {α : Type} {r : Read α} {w : α → Json} {ms : Json.Members} {name : String} {a default : α}

-- A value that has been read is read again from the way it is written.
def Settles (r : Read α) (w : α → Json) : Prop := ∀ j a, r j = ok a → r (w a) = ok a

theorem settles_text : Settles text .text := fun _ _ _ => rfl

theorem settles_filledText : Settles filledText .text := by
  intro j s h
  cases j
  case text t =>
    have same : t = s := by
      by_cases empty : t = "" <;> simp_all [filledText, text, andThen, flaw]
    exact same ▸ h
  all_goals cases h

def orNull (w : α → Json) : Option α → Json
  | none => .null
  | some a => w a

theorem Settles.nullable (h : Settles r w) (filled : ∀ a, w a ≠ .null) :
    Settles (nullable r) (orNull w) := by
  intro j o read
  cases o
  case none => rfl
  case some a =>
    have again : r (w a) = ok a := h j a (ok_of_nullable read)
    rw [orNull, Field.nullable, again]
    · rfl
    · exact filled a

theorem Settles.items (h : Settles r w) {i : Nat} {js : List Json} {as : List α}
    (read : items r i js = ok as) (k : Nat) : Field.items r k (as.map w) = ok as := by
  induction js generalizing i k as
  case nil =>
    cases read
    rfl
  case cons j js hi =>
    obtain ⟨f, bs, cons, rest, rfl⟩ := ap_eq_ok_iff.mp read
    obtain ⟨b, first, rfl⟩ := map_eq_ok_iff.mp cons
    have first : r (w b) = ok b := h j b (under_eq_ok_iff.mp first)
    simp only [List.map_cons, Field.items, first, hi rest]
    rfl

theorem Settles.list (h : Settles r w) : Settles (list r) fun as => .list (as.map w) := by
  intro j as read
  cases j
  case list js => exact h.items read 0
  all_goals cases read

theorem Settles.required (h : Settles r w) (read : required ms name r = ok a) : r (w a) = ok a := by
  obtain ⟨j, -, read⟩ := required_eq_ok_iff.mp read
  exact h j a read

-- A value that is taken where a member is left out has to be one that is read as itself.
theorem Settles.withDefault (h : Settles r w) (fixed : r (w default) = ok default)
    (read : withDefault ms name default r = ok a) : r (w a) = ok a := by
  rcases withDefault_eq_ok_iff.mp read with ⟨-, rfl⟩ | ⟨j, -, read⟩
  case inl => exact fixed
  case inr => exact h j a read

end

end Field

open RefWatch.Field Checked

theorem settles_patternField : Settles patternField fun p => .text p.text :=
  fun _ _ read => patternField_of_ok (remade_of_patternField read)

namespace SourceSettings

variable {s : SourceSettings} {ms : Json.Members}

-- Each field is read off its member.
structure Read (ms : Json.Members) (s : SourceSettings) : Prop where
  owner        : required ms "repo_owner" filledText = ok s.owner
  repository   : required ms "repository" filledText = ok s.repository
  api          : withDefault ms "api_uri" (some Host.standardApi) (nullable text) = ok s.api
  wantBranches : withDefault ms "want_branches" true boolean = ok s.wantBranches
  wantTags     : withDefault ms "want_tags" false boolean = ok s.wantTags
  includes     : withDefault ms "includes" "*" text = ok s.includes
  excludes     : withDefault ms "excludes" "" text = ok s.excludes
  pattern      : withDefault ms "head_regex" none (nullable patternField) = ok s.pattern

theorem ofMembers_eq_ok_iff : ofMembers ms = ok s ↔ Read ms s := by
  simp only [ofMembers, Field.optional, ap_eq_ok_iff, map_eq_ok_iff]
  constructor
  case mp =>
    rintro ⟨_, _, ⟨_, _, ⟨_, _, ⟨_, _, ⟨_, _, ⟨_, _, ⟨_, _, ⟨_, h₁, rfl⟩, h₂, rfl⟩, h₃, rfl⟩, h₄, rfl⟩,
      h₅, rfl⟩, h₆, rfl⟩, h₇, rfl⟩, h₈, rfl⟩
    exact ⟨h₁, h₂, h₃, h₄, h₅, h₆, h₇, h₈⟩
  case mpr =>
    rintro ⟨h₁, h₂, h₃, h₄, h₅, h₆, h₇, h₈⟩
    exact ⟨_, _, ⟨_, _, ⟨_, _, ⟨_, _, ⟨_, _, ⟨_, _, ⟨_, _, ⟨_, h₁, rfl⟩, h₂, rfl⟩, h₃, rfl⟩, h₄, rfl⟩,
      h₅, rfl⟩, h₆, rfl⟩, h₇, rfl⟩, h₈, rfl⟩

-- The values of the fields.
def members (s : SourceSettings) : Json.Members :=
  [("repo_owner", .text s.owner), ("repository", .text s.repository), ("api_uri", orNull .text s.api),
    ("want_branches", .bool s.wantBranches), ("want_tags", .bool s.wantTags),
    ("includes", .text s.includes), ("excludes", .text s.excludes),
    ("head_regex", orNull (fun p => .text p.text) s.pattern)]

theorem read_members (h : Read ms s) : Read s.members s where
  owner := required_eq_ok_iff.mpr ⟨_, rfl, settles_filledText.required h.owner⟩
  repository := required_eq_ok_iff.mpr ⟨_, rfl, settles_filledText.required h.repository⟩
  api := withDefault_eq_ok_iff.mpr
    (.inr ⟨_, rfl, (settles_text.nullable nofun).withDefault rfl h.api⟩)
  wantBranches := rfl
  wantTags := rfl
  includes := rfl
  excludes := rfl
  pattern := withDefault_eq_ok_iff.mpr
    (.inr ⟨_, rfl, (settles_patternField.nullable nofun).withDefault rfl h.pattern⟩)

theorem settles_ofJson : Settles ofJson fun s => .object s.members := by
  intro j s read
  obtain ⟨ms, read⟩ := exists_of_ofJson read
  exact ofMembers_eq_ok_iff.mpr (read_members (ofMembers_eq_ok_iff.mp read))

end SourceSettings

namespace NavigatorSettings

variable {n : NavigatorSettings} {ms : Json.Members}

def members (n : NavigatorSettings) : Json.Members :=
  [("repo_owner", .text n.owner), ("api_uri", orNull .text n.api)]

theorem settles_ofJson : Settles ofJson fun n => .object n.members := by
  intro j n read
  cases j
  case object ms =>
    obtain ⟨_, api, h, hapi, rfl⟩ := ap_eq_ok_iff.mp read
    obtain ⟨owner, howner, rfl⟩ := map_eq_ok_iff.mp h
    refine ap_eq_ok_iff.mpr ⟨_, _, map_eq_ok_iff.mpr ⟨_, ?_, rfl⟩, ?_, rfl⟩
    case refine_1 => exact required_eq_ok_iff.mpr ⟨_, rfl, settles_filledText.required howner⟩
    case refine_2 =>
      have again := (settles_text.nullable nofun).withDefault rfl hapi
      exact withDefault_eq_ok_iff.mpr (.inr ⟨_, rfl, again⟩)
  all_goals cases read

end NavigatorSettings

namespace Settings

variable {s : Settings} {ms : Json.Members}

-- Hosts are in lower case already, and no two of them are left to fall together.
theorem lowerAliases_lowerAliases (al : Aliases) : lowerAliases (lowerAliases al) = lowerAliases al := by
  have low : (lowerAliases al).map (fun a => (Text.lower a.1, Text.lower a.2)) = lowerAliases al := by
    refine List.map_congr_left (fun a ha => ?_) |>.trans (List.map_id _)
    obtain ⟨b, -, rfl⟩ := List.mem_map.mp (Json.mem_of_mem_distinct ha)
    simp only [Text.lower_lower, id_eq]
  rw [lowerAliases, low]
  exact Json.distinct_of_nodup (Json.nodup_distinct _)

theorem settles_aliasesField : Settles aliasesField Aliases.document := by
  intro j al read
  obtain ⟨given, -, rfl⟩ := map_eq_ok_iff.mp read
  have once : ((lowerAliases given).map (·.1)).Nodup := Json.nodup_distinct _
  rw [Aliases.aliasesField_document once, lowerAliases_lowerAliases]

theorem settles_delayField : Settles delayField fun n => Json.ofWhole n := by
  intro j n _
  have natural : ¬(n : Int) < 0 := Int.not_lt.mpr (Int.natCast_nonneg n)
  simp [delayField, Json.ofWhole, integer, andThen, natural]

theorem settles_portField : Settles portField fun n => Json.ofWhole n := by
  intro j n read
  cases number : integer j
  case wrong p => simp [portField, number, andThen] at read
  case ok k =>
    simp only [portField, number, andThen] at read
    split at read
    case isFalse => cases read
    case isTrue bounds =>
      cases read
      have bounds : 1 ≤ k ∧ k ≤ 65535 := by simpa using bounds
      have same : (k.toNat : Int) = k := Int.toNat_of_nonneg (by omega)
      simp [portField, Json.ofWhole, integer, andThen, same, bounds]

theorem levelField_name : ∀ l ∈ Log.Level.all, levelField (.text l.name) = ok l := by
  decide +kernel

theorem settles_levelField : Settles levelField fun l => .text l.name := by
  intro j l read
  cases j
  case text t =>
    simp only [levelField, text, andThen] at read
    split at read
    case h_1 l' found =>
      cases read
      exact levelField_name l (List.mem_of_find?_eq_some found)
    case h_2 => cases read
  all_goals cases read

theorem settles_formatField : Settles formatField fun f => .text f.name := by
  intro j f _
  cases f <;> decide +kernel

-- Each field is read off its member, and there are no other members.
structure Read (ms : Json.Members) (s : Settings) : Prop where
  delay      : withDefault ms "event_delay_seconds" 5 delayField = ok s.delay
  aliases    : withDefault ms "api_host_aliases" Aliases.standard aliasesField = ok s.aliases
  sources    : withDefault ms "sources" [] (list SourceSettings.ofJson) = ok s.sources
  navigators : withDefault ms "navigators" [] (list NavigatorSettings.ofJson) = ok s.navigators
  logLevel   : withDefault ms "log_level" .info levelField = ok s.logLevel
  logFormat  : withDefault ms "log_format" .text formatField = ok s.logFormat
  host       : withDefault ms "host" "0.0.0.0" text = ok s.host
  port       : withDefault ms "port" 8080 portField = ok s.port
  known      : onlyNames fieldNames ms = ok ()

theorem ofMembers_eq_ok_iff : ofMembers ms = ok s ↔ Read ms s := by
  simp only [ofMembers, ap_eq_ok_iff, map_eq_ok_iff]
  constructor
  case mp =>
    rintro ⟨_, _, ⟨_, ⟨_, _, ⟨_, _, ⟨_, _, ⟨_, _, ⟨_, _, ⟨_, _, ⟨_, _, ⟨_, h₁, rfl⟩, h₂, rfl⟩, h₃, rfl⟩,
      h₄, rfl⟩, h₅, rfl⟩, h₆, rfl⟩, h₇, rfl⟩, h₈, rfl⟩, rfl⟩, h₉, rfl⟩
    exact ⟨h₁, h₂, h₃, h₄, h₅, h₆, h₇, h₈, h₉⟩
  case mpr =>
    rintro ⟨h₁, h₂, h₃, h₄, h₅, h₆, h₇, h₈, h₉⟩
    exact ⟨_, _, ⟨_, ⟨_, _, ⟨_, _, ⟨_, _, ⟨_, _, ⟨_, _, ⟨_, _, ⟨_, _, ⟨_, h₁, rfl⟩, h₂, rfl⟩, h₃, rfl⟩,
      h₄, rfl⟩, h₅, rfl⟩, h₆, rfl⟩, h₇, rfl⟩, h₈, rfl⟩, rfl⟩, h₉, rfl⟩

-- The values of the fields, those of sources and navigators by their own fields.
def members (s : Settings) : Json.Members :=
  [("event_delay_seconds", Json.ofWhole s.delay), ("api_host_aliases", s.aliases.document),
    ("sources", .list (s.sources.map fun source => .object source.members)),
    ("navigators", .list (s.navigators.map fun navigator => .object navigator.members)),
    ("log_level", .text s.logLevel.name), ("log_format", .text s.logFormat.name), ("host", .text s.host),
    ("port", Json.ofWhole s.port)]

-- The members are the fields, each of them once.
theorem names_members (s : Settings) : s.members.map (·.1) = fieldNames := rfl

theorem nodup_members (s : Settings) : (s.members.map (·.1)).Nodup := by
  rw [names_members]
  decide

theorem withDefault_members {α : Type} {r : Field.Read α} {name : String} {j : Json} {a : α}
    (member : (name, j) ∈ s.members) (read : r j = ok a) (default : α) :
    withDefault s.members name default r = ok a :=
  withDefault_eq_ok_iff.mpr (.inr ⟨j, Json.get?_of_mem s.nodup_members member, read⟩)

theorem onlyNames_members (s : Settings) : onlyNames fieldNames s.members = ok () := by
  have unknown : s.members.filter (fun m => !fieldNames.contains m.1) = [] := by
    refine List.filter_eq_nil_iff.mpr fun m hm => ?_
    have known : m.1 ∈ fieldNames := s.names_members ▸ List.mem_map_of_mem hm
    simpa using known
  rw [onlyNames, Json.distinct_of_nodup s.nodup_members, unknown]
  rfl

theorem read_members (h : Read ms s) : Read s.members s where
  delay := by
    have again := settles_delayField.withDefault rfl h.delay
    exact withDefault_members (by simp [members]) again _
  aliases := by
    have fixed : aliasesField Aliases.standard.document = ok Aliases.standard := by
      rw [Aliases.aliasesField_document (by decide)]
      decide +kernel
    have again := settles_aliasesField.withDefault fixed h.aliases
    exact withDefault_members (by simp [members]) again _
  sources := by
    have again := SourceSettings.settles_ofJson.list.withDefault rfl h.sources
    exact withDefault_members (by simp [members]) again _
  navigators := by
    have again := NavigatorSettings.settles_ofJson.list.withDefault rfl h.navigators
    exact withDefault_members (by simp [members]) again _
  logLevel := by
    have again := settles_levelField.withDefault (levelField_name .info (by decide)) h.logLevel
    exact withDefault_members (by simp [members]) again _
  logFormat := by
    have again := settles_formatField.withDefault (by decide +kernel) h.logFormat
    exact withDefault_members (by simp [members]) again _
  host := by
    have again := settles_text.withDefault rfl h.host
    exact withDefault_members (by simp [members]) again _
  port := by
    have again := settles_portField.withDefault rfl h.port
    exact withDefault_members (by simp [members]) again _
  known := s.onlyNames_members

theorem fieldNamed?_of_mem : ∀ name ∈ fieldNames, fieldNamed? name = some name := by
  decide +kernel

theorem byField_of_nodup (once : (ms.map (·.1)).Nodup) (known : ∀ m ∈ ms, m.1 ∈ fieldNames) :
    byField ms = ms := by
  induction ms using List.reverseRecOn
  case nil => rfl
  case append_singleton ms m hi =>
    rw [List.map_append, List.nodup_append] at once
    have fresh : m.1 ∉ ms.map (·.1) := fun old => once.2.2 m.1 old m.1 (by simp) rfl
    have before : byField ms = ms := hi once.1 fun n hn => known n (List.mem_append_left _ hn)
    have name : fieldNamed? m.1 = some m.1 := fieldNamed?_of_mem m.1 (known m (by simp))
    rw [byField] at before ⊢
    simp [List.foldl_append, before, name, Json.get?_eq_none fresh]

theorem foldl_overlay_of_nodup (once : (ms.map (·.1)).Nodup) : ms.foldl overlay [] = ms := by
  induction ms using List.reverseRecOn
  case nil => rfl
  case append_singleton ms m hi =>
    rw [List.map_append, List.nodup_append] at once
    have fresh : m.1 ∉ ms.map (·.1) := fun old => once.2.2 m.1 old m.1 (by simp) rfl
    rw [List.foldl_append, hi once.1, List.foldl_cons, List.foldl_nil, overlay, Json.get?_eq_none fresh]
    exact Json.put_of_not_mem fresh m.2

-- Without an environment there is nothing but what has been given.
theorem laid_members (s : Settings) : laid [] s.members = s.members := by
  have known : ∀ m ∈ s.members, m.1 ∈ fieldNames := fun m hm =>
    s.names_members ▸ List.mem_map_of_mem hm
  rw [laid, Json.distinct_of_nodup s.nodup_members, byField_of_nodup s.nodup_members known,
    foldl_overlay_of_nodup s.nodup_members]

theorem variableFields_nil : variableFields [] = .ok [] := rfl

-- Reading changes nothing about what has been read once.
theorem read_members_of_read {env : List (String × String)} {given : Json.Members}
    (h : read env given = .ok s) : read [] s.members = .ok s := by
  obtain ⟨ms, fields⟩ := exists_of_read h
  have again : ofMembers s.members = ok s :=
    ofMembers_eq_ok_iff.mpr (read_members (ofMembers_eq_ok_iff.mp fields))
  rw [read_of_ok rfl variableFields_nil, laid_members, again]
  rfl

-- Two hosts that fall together, and values that are written otherwise than they are kept.
def untidyVariables : List (String × String) :=
  [("SCM_EVENTS_EVENT_DELAY_SECONDS", " +0_7.0 "), ("scm_events_log_level", "\u2003Warning\n"),
    ("SCM_EVENTS_API_HOST_ALIASES",
      "\x7b\"GHE.example.com\": \"One.example.com\", \"ghe.EXAMPLE.com\": \"ΟΔΟΣ\"\x7d")]

def untidyValues : Json.Members :=
  [("PORT", .text "8_080"),
    ("sources", .list [.object [("repo_owner", .text "acme"), ("repository", .text "widgets"),
      ("want_tags", .text "YES"), ("head_regex", .text "v[0-9]+")]])]

theorem read_members_of_read_untidy :
    ∃ s, read untidyVariables untidyValues = .ok s ∧ read [] s.members = .ok s ∧
      s.delay = 7 ∧ s.aliases = [("ghe.example.com", "οδος")] ∧ s.logLevel = .warning ∧
      s.sources.map (·.pattern.map (·.text)) = [some "v[0-9]+"] := by
  have checked : checkVariables untidyVariables = .ok () := by cbv
  have kept : (read untidyVariables untidyValues).toOption.map
      (fun s => (s.delay, s.aliases, s.logLevel, s.sources.map (·.pattern.map (·.text)))) =
        some (7, [("ghe.example.com", "οδος")], .warning, [some "v[0-9]+"]) := by
    rw [read, checked]
    decide +kernel
  cases made : read untidyVariables untidyValues
  case error p =>
    rw [made] at kept
    cases kept
  case ok s =>
    rw [made] at kept
    simp only [Except.toOption, Option.map_some, Option.some.injEq, Prod.mk.injEq] at kept
    exact ⟨s, rfl, read_members_of_read made, kept⟩

end Settings

end RefWatch
