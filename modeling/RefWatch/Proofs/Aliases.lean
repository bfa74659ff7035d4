import RefWatch.Proofs.LowerCase
import RefWatch.Proofs.Members
import RefWatch.Settings.Reader
import RefWatch.Source

namespace RefWatch

open Settings (lowerAliases)

namespace Aliases

variable {al : Aliases} {host : String}

-- Whether an alias is for a host in lower case.
def fits (host : String) (a : String × String) : Bool := Text.lower a.1 == host

theorem resolve_eq (al : Aliases) (host : String) :
    al.resolve host = ((al.find? (fits host)).map (Text.lower ·.2)).getD host := by
  unfold resolve
  split
  case h_1 a found =>
    have first : al.find? (fits host) = some a := found
    rw [first]
    rfl
  case h_2 missed =>
    have none : al.find? (fits host) = none := missed
    rw [none]
    rfl

theorem lower_of_mem_lowerAliases {a : String × String} (h : a ∈ lowerAliases al) :
    Text.lower a.1 = a.1 := by
  obtain ⟨b, -, rfl⟩ := List.mem_map.mp (Json.mem_of_mem_distinct h)
  exact Text.lower_lower b.1

-- In its lowered form a table is read from its end.
theorem resolve_lowerAliases (al : Aliases) (host : String) :
    (lowerAliases al).resolve host = Aliases.resolve al.reverse host := by
  have kept : (lowerAliases al).find? (fits host) = (lowerAliases al).find? (·.1 == host) := by
    refine List.find?_congr fun a ha => ?_
    rw [fits, lower_of_mem_lowerAliases ha]
  have last : (lowerAliases al).find? (·.1 == host) =
      (al.reverse.find? (fits host)).map fun a => (Text.lower a.1, Text.lower a.2) := by
    rw [lowerAliases, Json.find?_distinct, ← List.map_reverse, List.find?_map]
    rfl
  rw [resolve_eq, resolve_eq, kept, last]
  cases al.reverse.find? (fits host)
  case none => rfl
  case some a => exact Text.lower_lower a.2

-- The first and the last alias for a host lead to the same host.
def Undisputed (al : Aliases) (host : String) : Prop :=
  ∀ a b, al.find? (fits host) = some a → al.reverse.find? (fits host) = some b →
    Text.lower a.2 = Text.lower b.2

theorem undisputed_iff :
    al.Undisputed host ↔ Aliases.resolve al.reverse host = al.resolve host := by
  rw [resolve_eq, resolve_eq, Undisputed]
  cases first : al.find? (fits host)
  case none =>
    have last : al.reverse.find? (fits host) = none := by
      simpa [List.find?_eq_none] using first
    simp [last]
  case some a =>
    cases last : al.reverse.find? (fits host)
    case none =>
      have : al.find? (fits host) = none := by simpa [List.find?_eq_none] using last
      cases first.symm.trans this
    case some b => simp [eq_comm]

end Aliases

namespace Host

variable {api : Option String} {url host : String}

theorem ofApi_of_host (h : Url.host? url = .ok (some host)) (al : Aliases) :
    ofApi (some url) al = .ok (al.resolve (Text.lower host)) := by
  have filled : url ≠ "" := by
    rintro rfl
    cases h
  rw [ofApi]
  · rw [h]
    rfl
  · exact filled

-- Aliases are asked only about a host that is read off an address.
theorem ofApi_of_no_host (h : ∀ url host, api = some url → Url.host? url ≠ .ok (some host))
    (al bl : Aliases) : ofApi api al = ofApi api bl := by
  cases api
  case none => rfl
  case some url =>
    unfold ofApi
    split
    case h_1 | h_2 => rfl
    case h_3 url' _ eq =>
      cases eq
      cases read : Url.host? url
      case error f => rfl
      case ok host? =>
        cases host?
        case none => rfl
        case some host => exact absurd read (h url host rfl)

end Host

namespace Aliases

variable {al : Aliases} {api : Option String}

def document (al : Aliases) : Json := .object (al.map fun a => (a.1, .text a.2))

theorem entries_text (al : Aliases) :
    Field.entries Field.text (al.map fun a => (a.1, .text a.2)) = .ok al := by
  induction al
  case nil => rfl
  case cons a al hi => simp only [List.map_cons, Field.entries, hi]; rfl

theorem aliasesField_document (h : (al.map (·.1)).Nodup) :
    Settings.aliasesField al.document = .ok (lowerAliases al) := by
  have names : ((al.map fun a => (a.1, Json.text a.2)).map (·.1)).Nodup := by
    simpa [Function.comp_def] using h
  rw [Settings.aliasesField, document, Field.table, Json.distinct_of_nodup names, entries_text]
  rfl

-- The lowered form leads an interface to the same host, and an event to the same sources with this
-- interface.
structure Kept (al : Aliases) (api : Option String) : Prop where
  host   : Host.ofApi api (lowerAliases al) = Host.ofApi api al
  routed : ∀ (s : Source) (r : Repository), s.api = api →
    s.watches r (lowerAliases al) = s.watches r al

theorem kept_iff_host : Kept al api ↔ Host.ofApi api (lowerAliases al) = Host.ofApi api al := by
  refine ⟨Kept.host, fun h => ⟨h, fun s r hs => ?_⟩⟩
  rw [Source.watches, Source.watches, hs, h]

theorem kept_iff_undisputed (h : Url.host? url = .ok (some host)) :
    Kept al (some url) ↔ al.Undisputed (Text.lower host) := by
  rw [kept_iff_host, Host.ofApi_of_host h, Host.ofApi_of_host h, resolve_lowerAliases,
    undisputed_iff, Except.ok.injEq]

-- Settings keep a table in its lowered form. It is a table like the one that is given for the
-- interfaces that have no host or a host on which the first and the last alias agree.
theorem kept_iff (al : Aliases) (api : Option String) :
    ((al.map (·.1)).Nodup → Settings.aliasesField al.document = .ok (lowerAliases al)) ∧
      (Kept al api ↔ ∀ url host, api = some url → Url.host? url = .ok (some host) →
        al.Undisputed (Text.lower host)) := by
  refine ⟨aliasesField_document, ?_⟩
  constructor
  case mp =>
    rintro kept url host rfl read
    exact (kept_iff_undisputed read).mp kept
  case mpr =>
    intro undisputed
    by_cases named : ∃ url host, api = some url ∧ Url.host? url = .ok (some host)
    case pos =>
      obtain ⟨url, host, rfl, read⟩ := named
      exact (kept_iff_undisputed read).mpr (undisputed url host rfl read)
    case neg =>
      refine kept_iff_host.mpr (Host.ofApi_of_no_host (fun url host eq read => ?_) _ _)
      exact named ⟨url, host, eq, read⟩

-- An interface that is aliased twice, in different case.
def twice : Aliases :=
  [("GHE.example.com", "one.example.com"), ("ghe.example.com", "two.example.com")]

-- The first alias counts in the table as it is given, the second in its lowered form.
theorem not_kept_twice :
    ¬∀ (al : Aliases) (url : String) (host : Option String), (al.map (·.1)).Nodup →
      Url.host? url = .ok host → Kept al (some url) := by
  intro all
  have read : Url.host? "https://ghe.example.com/api/v3" = .ok (some "ghe.example.com") := by
    decide +kernel
  have kept := all twice _ _ (by decide) read
  have agree := (kept_iff_undisputed read).mp kept _ _ rfl rfl
  revert agree
  decide +kernel

end Aliases

end RefWatch
