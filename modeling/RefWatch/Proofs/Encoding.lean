import RefWatch.Notification
import RefWatch.Proofs.Making
import RefWatch.Proofs.Reading

namespace RefWatch

namespace Json

variable {names : List String} {name : String} {fields ms : Members}

theorem get?_eq_getLast? (ms : Members) (name : String) :
    ms.get? name = ((ms.filter (·.1 == name)).getLast?).map (·.2) := by
  rw [Members.get?, ← List.head?_filter, List.filter_reverse, List.head?_reverse]

-- Members in any order, among others with names of their own.
def Among (names : List String) (fields ms : Members) : Prop :=
  ∃ others, ms.Perm (fields ++ others) ∧ ∀ m ∈ others, m.1 ∉ names

-- What stands under a name that is none of the others.
theorem Among.perm_filter (h : Among names fields ms) (known : name ∈ names) :
    (ms.filter (·.1 == name)).Perm (fields.filter (·.1 == name)) := by
  obtain ⟨others, perm, apart⟩ := h
  have none : others.filter (·.1 == name) = [] := by
    refine List.filter_eq_nil_iff.mpr fun m hm same => apart m hm ?_
    rwa [eq_of_beq same]
  have both := perm.filter (·.1 == name)
  rwa [List.filter_append, none, List.append_nil] at both

-- A field that is written once at most.
structure Once (name : String) (ms : Members) : Prop where
  named : ∀ m ∈ ms, m.1 = name
  short : ms.length ≤ 1

theorem Among.get? (h : Among names fields ms) (known : name ∈ names) {field : Members}
    (once : Once name field) (here : fields.filter (·.1 == name) = field) :
    ms.get? name = field.head?.map (·.2) := by
  have perm := h.perm_filter known
  rw [here] at perm
  rw [get?_eq_getLast?]
  have short := once.short
  match field with
  | [] => rw [perm.eq_nil]; rfl
  | [m] => rw [List.perm_singleton.mp perm]; rfl
  | _ :: _ :: _ => simp at short

theorem Once.filter (h : Once name ms) : ms.filter (·.1 == name) = ms :=
  List.filter_eq_self.mpr fun m hm => beq_iff_eq.mpr (h.named m hm)

theorem Once.filter_of_ne (h : Once name ms) {other : String} (ne : name ≠ other) :
    ms.filter (·.1 == other) = [] :=
  List.filter_eq_nil_iff.mpr fun m hm same => ne ((h.named m hm).symm.trans (eq_of_beq same))

end Json

namespace Payload

open Json (Members Among Once Writes Blanks)
open RefWatch.Field Checked

-- A text that may be missing.
inductive TextField (name : String) : Option String → Members → Prop
  | text (s : String) : TextField name (some s) [(name, .text s)]
  | null : TextField name none [(name, .null)]
  | left : TextField name none []

-- A truth value that is false by default.
inductive FlagField (name : String) : Bool → Members → Prop
  | told (b : Bool) : FlagField name b [(name, .bool b)]
  | left : FlagField name false []

inductive Owner.Written (o : Owner) (ms : Members) : Prop
  | members {login name : Members} (hl : TextField "login" o.login login) (hn : TextField "name" o.name name)
    (among : Among ["login", "name"] (login ++ name) ms)

-- An owner of whom nothing is known may be left out.
inductive OwnerField (o : Owner) : Members → Prop
  | object {ms : Members} (h : o.Written ms) : OwnerField o [("owner", .object ms)]
  | left (h : o = {}) : OwnerField o []

inductive Subject.Written (s : Subject) (ms : Members) : Prop
  | members {name html url owner : Members} (hn : TextField "name" s.name name)
    (hh : TextField "html_url" s.htmlUrl html) (hu : TextField "url" s.url url)
    (ho : OwnerField s.owner owner)
    (among : Among ["name", "html_url", "url", "owner"] (name ++ html ++ url ++ owner) ms)

inductive Change.Fields : Change → Members → Prop
  | create {refType : Option String} {ms : Members} (h : TextField "ref_type" refType ms) :
    Fields (.create refType) ms
  | delete : Fields .delete []
  | push {after head : Option String} {created deleted : Bool} {as hs cs ds : Members}
    (ha : TextField "after" after as) (hh : TextField "head" head hs)
    (hc : FlagField "created" created cs) (hd : FlagField "deleted" deleted ds) :
    Fields (.push after head created deleted) (as ++ hs ++ cs ++ ds)

-- The fields of a payload.
def names : EventKind → List String
  | .create => ["ref", "repository", "ref_type"]
  | .delete => ["ref", "repository"]
  | .push => ["ref", "repository", "after", "head", "created", "deleted"]

inductive Written (p : Payload) (ms : Members) : Prop
  | members {subject change : Members} (hs : p.subject.Written subject) (hc : p.change.Fields change)
    (among : Among (names p.kind) (("ref", .text p.ref) :: ("repository", .object subject) :: change) ms)

-- A text that a payload is written as, with blanks around it.
inductive Encodes (longest depth : Nat) (p : Payload) (t : String) : Prop
  | document {ms : Members} {a w b : List Char} (hp : p.Written ms) (ha : Blanks a) (hb : Blanks b)
    (h : Writes longest depth (.value (.object ms)) w) (text : t.toList = a ++ w ++ b)

section

variable {name : String} {field ms : Members}

theorem TextField.once {o : Option String} (h : TextField name o field) : Once name field := by
  cases h <;> exact ⟨by simp, by simp⟩

theorem FlagField.once {b : Bool} (h : FlagField name b field) : Once name field := by
  cases h <;> exact ⟨by simp, by simp⟩

theorem OwnerField.once {o : Owner} (h : OwnerField o field) : Once "owner" field := by
  cases h <;> exact ⟨by simp, by simp⟩

theorem once_single (name : String) (j : Json) : Once name [(name, j)] := ⟨by simp, by simp⟩

theorem required_of_some {α : Type} {a : α} {r : Read α} {j : Json} (get : ms.get? name = some j)
    (read : r j = ok a) : required ms name r = ok a := by
  rw [required, get]
  exact congrArg (under _) read

theorem withDefault_of_some {α : Type} {default a : α} {r : Read α} {j : Json}
    (get : ms.get? name = some j) (read : r j = ok a) : withDefault ms name default r = ok a := by
  rw [withDefault, get]
  exact congrArg (under _) read

theorem withDefault_of_none {α : Type} {default : α} {r : Read α} (get : ms.get? name = none) :
    withDefault ms name default r = ok default := by
  rw [withDefault, get]
  rfl

theorem TextField.read {o : Option String} (h : TextField name o field)
    (get : ms.get? name = field.head?.map (·.2)) : Field.optional ms name Field.text = ok o := by
  cases h
  case text s => exact withDefault_of_some get rfl
  case null => exact withDefault_of_some get rfl
  case left => exact withDefault_of_none get

theorem FlagField.read {b : Bool} (h : FlagField name b field)
    (get : ms.get? name = field.head?.map (·.2)) : withDefault ms name false boolean = ok b := by
  cases h
  case told => exact withDefault_of_some get rfl
  case left => exact withDefault_of_none get

end

theorem Owner.Written.read {o : Owner} {ms : Members} (h : o.Written ms) : Owner.ofMembers ms = ok o := by
  obtain ⟨hl, hn, among⟩ := h
  have login := hl.read (among.get? (by simp) hl.once (by
    simp [hl.once.filter, hn.once.filter_of_ne]))
  have name := hn.read (among.get? (by simp) hn.once (by
    simp [hn.once.filter, hl.once.filter_of_ne]))
  rw [Owner.ofMembers, login, name]
  rfl

theorem OwnerField.read {o : Owner} {field ms : Members} (h : OwnerField o field)
    (get : ms.get? "owner" = field.head?.map (·.2)) :
    withDefault ms "owner" {} (Field.object Owner.ofMembers) = ok o := by
  cases h
  case object ms h => exact withDefault_of_some get h.read
  case left h => exact h ▸ withDefault_of_none get

theorem Subject.Written.read {s : Subject} {ms : Members} (h : s.Written ms) :
    Subject.ofMembers ms = ok s := by
  obtain ⟨hn, hh, hu, ho, among⟩ := h
  have name := hn.read (among.get? (by simp) hn.once (by
    simp [hn.once.filter, hh.once.filter_of_ne, hu.once.filter_of_ne, ho.once.filter_of_ne]))
  have html := hh.read (among.get? (by simp) hh.once (by
    simp [hh.once.filter, hn.once.filter_of_ne, hu.once.filter_of_ne, ho.once.filter_of_ne]))
  have url := hu.read (among.get? (by simp) hu.once (by
    simp [hu.once.filter, hn.once.filter_of_ne, hh.once.filter_of_ne, ho.once.filter_of_ne]))
  have owner := ho.read (among.get? (by simp) ho.once (by
    simp [ho.once.filter, hn.once.filter_of_ne, hh.once.filter_of_ne, hu.once.filter_of_ne]))
  rw [Subject.ofMembers, name, html, url, owner]
  rfl

section

variable {c : Change} {change ms : Members} {ref repository : Json}

theorem Change.Fields.read (h : c.Fields change)
    (among : Among (names c.kind) (("ref", ref) :: ("repository", repository) :: change) ms) :
    Change.ofMembers c.kind ms = ok c := by
  cases h
  case create refType h =>
    have refType := h.read (among.get? (by simp [names, Change.kind]) h.once (by simp [h.once.filter]))
    rw [Change.kind, Change.ofMembers, refType]
    rfl
  case delete => rfl
  case push after head created deleted as hs cs ds ha hh hc hd =>
    have after := ha.read (among.get? (by simp [names, Change.kind]) ha.once (by
      simp [ha.once.filter, hh.once.filter_of_ne, hc.once.filter_of_ne, hd.once.filter_of_ne]))
    have head := hh.read (among.get? (by simp [names, Change.kind]) hh.once (by
      simp [hh.once.filter, ha.once.filter_of_ne, hc.once.filter_of_ne, hd.once.filter_of_ne]))
    have created := hc.read (among.get? (by simp [names, Change.kind]) hc.once (by
      simp [hc.once.filter, ha.once.filter_of_ne, hh.once.filter_of_ne, hd.once.filter_of_ne]))
    have deleted := hd.read (among.get? (by simp [names, Change.kind]) hd.once (by
      simp [hd.once.filter, ha.once.filter_of_ne, hh.once.filter_of_ne, hc.once.filter_of_ne]))
    rw [Change.kind, Change.ofMembers, after, head, created, deleted]
    rfl

-- No change has a field that all payloads have.
theorem Change.Fields.apart (h : c.Fields change) : ∀ m ∈ change, m.1 ∉ ["ref", "repository"] := by
  intro m hm
  cases h
  case create refType h => simp [h.once.named m hm]
  case delete => cases hm
  case push after head created deleted as hs cs ds ha hh hc hd =>
    simp only [List.mem_append] at hm
    rcases hm with ((hm | hm) | hm) | hm
    case inl.inl.inl => simp [ha.once.named m hm]
    case inl.inl.inr => simp [hh.once.named m hm]
    case inl.inr => simp [hc.once.named m hm]
    case inr => simp [hd.once.named m hm]

theorem Change.Fields.filter_of_common (h : c.Fields change) {name : String}
    (common : name ∈ ["ref", "repository"]) : change.filter (·.1 == name) = [] :=
  List.filter_eq_nil_iff.mpr fun m hm same => h.apart m hm (eq_of_beq same ▸ common)

end

theorem Written.read {p : Payload} {ms : Members} (h : p.Written ms) : ofMembers p.kind ms = ok p := by
  obtain @⟨subject, change, hs, hc, among⟩ := h
  have ref : ms.get? "ref" = some (.text p.ref) :=
    among.get? (by cases p.kind <;> decide) (once_single "ref" _) (by simp [hc.filter_of_common])
  have repository : ms.get? "repository" = some (.object subject) :=
    among.get? (by cases p.kind <;> decide) (once_single "repository" _) (by
      simp [hc.filter_of_common])
  have ref : required ms "ref" text = ok p.ref := required_of_some ref rfl
  have subject : subjectField ms = ok p.subject := required_of_some repository hs.read
  have change : Change.ofMembers p.kind ms = ok p.change := hc.read among
  rw [ofMembers, ref, change, subject]
  rfl

-- What is to be known of a notification whose body is a payload that has been written.
structure Decoded (p : Payload) (n : Notification) : Prop where
  payload : n.payload = .ok p
  silent  : n.decodingLog = []

theorem decode_of_encodes {longest depth : Nat} {p : Payload} {t : String} (h : p.Encodes longest depth t)
    (fits : longest ≤ Json.Dialect.body.longestNumeral) (deep : depth ≤ Json.Dialect.body.depth) :
    decode p.kind t.toUTF8 = .ok p := by
  obtain ⟨hp, ha, hb, written, text⟩ := h
  have document : Json.readText .body t = .ok (.object _) :=
    Json.readText_of_writes text ha hb written fits deep
  exact decode_eq_ok_iff.mpr ⟨_, document, hp.read⟩

-- A branch that is deleted.
def deletion : Payload where
  ref := "main"
  subject := {}
  change := .delete

-- The deletion as a text, with a number for a member that it does not have.
def deletionText (number : List Char) : List Char :=
  "\x7b\"ref\":\"main\",\"repository\":\x7b\x7d,\"x\":".toList ++ number ++ ['\x7d']

theorem written_deletion (x : Number) :
    deletion.Written [("ref", .text "main"), ("repository", .object []), ("x", .number x)] :=
  .members (.members .left .left .left (.left rfl) ⟨[], .nil, nofun⟩) .delete
    ⟨[("x", .number x)], .refl _, by simp [names, deletion, kind, Change.kind]⟩

theorem encodes_deletion {longest : Nat} {x : Number} {w : List Char} (h : Json.Numeral longest x w) :
    deletion.Encodes longest 200 (String.ofList (deletionText w)) := by
  have none : Blanks [] := nofun
  have spells (s : String) (h : s.toList.all (Json.Plain ·)) : Json.Spells s.toList s.toList :=
    Json.spells_of_plain fun c hc => of_decide_eq_true (List.all_eq_true.mp h c hc)
  have number : Writes longest 199 (.members [("x", .number x)]) _ :=
    .lastMember none none none none (spells "x" (by decide)) (.number h)
  have repository : Writes longest 199 (.members [("repository", .object []), ("x", .number x)]) _ :=
    .member none none none none (spells "repository" (by decide)) (.emptyObject none) number
  have ref : Writes longest 199
      (.members [("ref", .text "main"), ("repository", .object []), ("x", .number x)]) _ :=
    .member none none none none (spells "ref" (by decide)) (.text (spells "main" (by decide))) repository
  refine .document (written_deletion x) none none (.object ref) ?_
  simp only [String.toList_ofList, List.append_nil, List.nil_append]
  rfl

def deletionOf (number : List Char) : Notification where
  kind := .delete
  received := .ofInstant 0
  body := (String.ofList (deletionText number)).toUTF8

def ones (n : Nat) : List Char := List.replicate n '1'

theorem whole_ones {n : Nat} (h : 0 < n) : Json.Whole n (ones n) where
  digits c hc := by
    rw [List.eq_of_mem_replicate hc]
    decide
  filled := by
    rw [ones, ne_eq, List.replicate_eq_nil_iff]
    exact Nat.ne_of_gt h
  lead first := by
    obtain ⟨m, rfl⟩ := Nat.exists_eq_add_one.mpr h
    cases first
  short := Nat.le_of_eq List.length_replicate

theorem ascii_deletionText {w : List Char} (h : Json.Ascii w) : Json.Ascii (deletionText w) :=
  (Json.Ascii.append (by decide) h).append (by decide)

theorem not_decoded_of_unread {w : List Char} (ascii : Json.Ascii w)
    (unread : (Json.read .body (deletionText w)).isOk = false) : ¬Decoded deletion (deletionOf w) := by
  intro decoded
  have octets : Text.Utf8.octets (deletionOf w).body = deletionText w := by
    rw [deletionOf, Text.Utf8.octets_toUTF8, String.toList_ofList,
      Text.Utf8.encode_of_ascii (ascii_deletionText ascii)]
  obtain ⟨ms, read, -⟩ := decode_eq_ok_iff.mp decoded.payload
  rw [Json.readBytes, octets] at read
  rw [read] at unread
  cases unread

-- That numerals could be of any length.
def Unlimited : Prop :=
  ∀ (longest : Nat) (p : Payload) (t : String) (n : Notification), p.Encodes longest 200 t →
    n.kind = p.kind → n.body = t.toUTF8 → Decoded p n

theorem Unlimited.deletion (all : Unlimited) {longest : Nat} {w : List Char} (h : Json.Whole longest w) :
    Decoded deletion (deletionOf w) :=
  all longest _ _ _ (encodes_deletion (.whole false h)) rfl rfl

theorem unread_ones : (Json.read .body (deletionText (ones 4301))).isOk = false := by
  decide +kernel

end Payload

end RefWatch
