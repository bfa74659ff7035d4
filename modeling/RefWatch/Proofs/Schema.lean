import RefWatch.Notification
import RefWatch.Proofs.Making

namespace RefWatch

namespace Field

open Checked

-- The values that stand for true or for false.
inductive Truth : Json → Bool → Prop
  | bool (b : Bool) : Truth (.bool b) b
  | zero {n : Number} (h : n.toFloat == 0.0) : Truth (.number n) false
  | one {n : Number} (h : n.toFloat == 1.0) : Truth (.number n) true
  | yes {s : String} (h : s.map Char.toLower ∈ ["1", "t", "true", "y", "yes", "on"]) :
    Truth (.text s) true
  | no {s : String} (h : s.map Char.toLower ∈ ["0", "f", "false", "n", "no", "off"]) :
    Truth (.text s) false

inductive Kind
  | text
  | textOrNull
  | truth

def Kind.Fits : Kind → Json → Prop
  | text, j => ∃ s, j = .text s
  | textOrNull, j => j = .null ∨ ∃ s, j = .text s
  | truth, j => ∃ b, Truth j b

-- No number counts both as zero and as one.
theorem ne_one_of_eq_zero {x : Float} (h : x == 0.0) : (x == 1.0) = false := by
  have zero : x.toModel.unpack.beq (.zero .positive) = true := h
  have one : (x == 1.0) = x.toModel.unpack.beq (1.0 : Float).toModel.unpack := rfl
  rw [one]
  cases hx : x.toModel.unpack
  case zero s => rfl
  case notANumber => rfl
  case infinity s =>
    rw [hx] at zero
    cases s <;> cases zero
  case finite s m e hm =>
    rw [hx] at zero
    cases s <;> cases zero

-- One of two truth values is chosen, or there is none.
def choose (first second value : Bool) (f : Flaw) : Checked Bool :=
  if first then ok value else if second then ok (!value) else flaw f

section

variable {first second value b : Bool} {f : Flaw}

theorem choose_eq_ok_iff :
    choose first second value f = ok b ↔ first ∧ b = value ∨ ¬first ∧ second ∧ b = !value := by
  cases first <;> cases second <;> simp [choose, flaw, eq_comm]

theorem choose_cases (first second value : Bool) (f : Flaw) :
    (∃ b, choose first second value f = ok b) ∨ choose first second value f = flaw f := by
  cases first
  case true => exact .inl ⟨value, rfl⟩
  case false =>
    cases second
    case true => exact .inl ⟨!value, rfl⟩
    case false => exact .inr rfl

end

theorem boolOfNumber_eq_choose (n : Number) :
    ∃ f, boolOfNumber n = choose (n.toFloat == 0.0) (n.toFloat == 1.0) false f := by
  unfold boolOfNumber
  simp only [← apply_ite flaw]
  exact ⟨_, rfl⟩

theorem boolOfWord_eq_choose (s : String) :
    boolOfWord s = choose (truthWords.contains (s.map Char.toLower))
      (falseWords.contains (s.map Char.toLower)) true .unclearBoolean :=
  rfl

theorem boolOfNumber_eq_ok_iff {n : Number} {b : Bool} :
    boolOfNumber n = ok b ↔ Truth (.number n) b := by
  obtain ⟨f, chosen⟩ := boolOfNumber_eq_choose n
  rw [chosen, choose_eq_ok_iff]
  constructor
  case mp =>
    rintro (⟨zero, rfl⟩ | ⟨-, one, rfl⟩)
    case inl => exact .zero zero
    case inr => exact .one one
  case mpr =>
    rintro (_ | zero | one)
    case zero => exact .inl ⟨zero, rfl⟩
    case one =>
      have other : ¬(n.toFloat == 0.0) = true := fun zero => by
        cases one.symm.trans (ne_one_of_eq_zero zero)
      exact .inr ⟨other, one, rfl⟩

theorem boolOfWord_eq_ok_iff {s : String} {b : Bool} : boolOfWord s = ok b ↔ Truth (.text s) b := by
  rw [boolOfWord_eq_choose, choose_eq_ok_iff]
  simp only [List.contains_iff_mem]
  constructor
  case mp =>
    rintro (⟨yes, rfl⟩ | ⟨-, no, rfl⟩)
    case inl => exact .yes yes
    case inr => exact .no no
  case mpr =>
    have apart : ∀ w ∈ falseWords, w ∉ truthWords := by decide
    rintro (_ | _ | _ | yes | no)
    case yes => exact .inl ⟨yes, rfl⟩
    case no => exact .inr ⟨apart _ no, no, rfl⟩

theorem boolean_eq_ok_iff {j : Json} {b : Bool} : boolean j = ok b ↔ Truth j b := by
  cases j
  case number n => exact boolOfNumber_eq_ok_iff
  case text s => exact boolOfWord_eq_ok_iff
  case bool c =>
    constructor
    case mp =>
      rintro ⟨⟩
      exact .bool b
    case mpr =>
      rintro ⟨⟩
      rfl
  all_goals exact iff_of_false nofun nofun

theorem boolean_cases (j : Json) : (∃ b, boolean j = ok b) ∨ ∃ f, boolean j = flaw f := by
  cases j
  case bool b => exact .inl ⟨b, rfl⟩
  case number n =>
    obtain ⟨f, chosen⟩ := boolOfNumber_eq_choose n
    have read : boolean (.number n) = _ := chosen
    rw [read]
    exact (choose_cases ..).imp_right fun flawed => ⟨f, flawed⟩
  case text s =>
    have read : boolean (.text s) = _ := boolOfWord_eq_choose s
    rw [read]
    exact (choose_cases ..).imp_right fun flawed => ⟨_, flawed⟩
  all_goals exact .inr ⟨_, rfl⟩

instance (k : Kind) : DecidablePred k.Fits := fun j =>
  match k with
  | .text =>
    match j with
    | .text s => isTrue ⟨s, rfl⟩
    | .null | .bool _ | .number _ | .brokenText | .misnamed _ | .list _ | .object _ => isFalse nofun
  | .textOrNull =>
    match j with
    | .text s => isTrue (.inr ⟨s, rfl⟩)
    | .null => isTrue (.inl rfl)
    | .bool _ | .number _ | .brokenText | .misnamed _ | .list _ | .object _ => isFalse nofun
  | .truth =>
    match h : boolean j with
    | .ok b => isTrue ⟨b, boolean_eq_ok_iff.mp h⟩
    | .wrong _ => isFalse fun ⟨_, hb⟩ => nomatch h.symm.trans (boolean_eq_ok_iff.mpr hb)

mutual

inductive Shape
  | plain (k : Kind)
  | object (fields : Declared)

-- The fields of an object; its other members do not matter.
inductive Declared
  | nil
  | required (name : String) (shape : Shape) (rest : Declared)
  | optional (name : String) (shape : Shape) (rest : Declared)

end

mutual

-- How many faults a value has. An object has those of its fields.
def Shape.faults : Shape → Json → Nat
  | .plain k, j => if k.Fits j then 0 else 1
  | .object fields, .object ms => fields.faults ms
  | .object _, _ => 1

-- How many fields are missing, or are of the wrong kind, or hold such fields.
def Declared.faults : Declared → Json.Members → Nat
  | .nil, _ => 0
  | .required name shape rest, ms =>
    (match ms.get? name with
      | some j => shape.faults j
      | none => 1) + rest.faults ms
  | .optional name shape rest, ms =>
    (match ms.get? name with
      | some j => shape.faults j
      | none => 0) + rest.faults ms

end

inductive Tells {α : Type} : Checked α → Nat → Prop
  | ok (a : α) : Tells (ok a) 0
  | faults {fs : List Fault} (some : fs ≠ []) : Tells (wrong (.faults fs)) fs.length

section

variable {α β : Type} {x : Checked α} {m n : Nat}

theorem tells_flaw (f : Flaw) : Tells (flaw f : Checked α) 1 :=
  .faults (List.cons_ne_nil _ _)

theorem Tells.map (h : Tells x n) (f : α → β) : Tells (f <$> x) n := by
  cases h
  case ok a => exact .ok (f a)
  case faults some => exact .faults some

theorem Tells.ap {f : Checked (α → β)} (hf : Tells f m) (hx : Tells x n) : Tells (f <*> x) (m + n) := by
  cases hf <;> cases hx
  case ok.ok g a => exact .ok (g a)
  case ok.faults g gs some =>
    rw [Nat.zero_add]
    exact .faults some
  case faults.ok fs some a => exact .faults some
  case faults.faults fs some gs _ =>
    rw [← List.length_append]
    exact .faults (List.append_ne_nil_of_left_ne_nil some gs)

theorem Tells.under (h : Tells x n) (s : Step) : Tells (x.under s) n := by
  cases h
  case ok a => exact .ok a
  case faults fs some =>
    have length : fs.length = (fs.map fun f => { f with path := s :: f.path }).length :=
      List.length_map _ |>.symm
    rw [length]
    exact .faults (mt List.map_eq_nil_iff.mp some)

-- What a reading that tells a number of faults comes to.
theorem Tells.toExcept_eq_error_iff (h : Tells x n) {faults : Nat} :
    x.toExcept.mapError Problem.count = .error faults ↔ faults = n ∧ faults ≠ 0 := by
  cases h
  case ok a =>
    have told : (Checked.ok a).toExcept.mapError Problem.count = Except.ok a := rfl
    rw [told]
    exact ⟨nofun, fun h => absurd h.left h.right⟩
  case faults fs some =>
    have told : (wrong (.faults fs) : Checked α).toExcept.mapError Problem.count = .error fs.length :=
      rfl
    have filled : fs.length ≠ 0 := mt List.length_eq_zero_iff.mp some
    rw [told]
    constructor
    case mp =>
      rintro ⟨⟩
      exact ⟨rfl, filled⟩
    case mpr =>
      rintro ⟨rfl, -⟩
      rfl

end

section

variable {α : Type} {r : Read α} {s : Shape} {ms : Json.Members}

-- A reader tells the faults that a value has.
def Follows (r : Read α) (s : Shape) : Prop := ∀ j, Tells (r j) (s.faults j)

theorem faults_of_fits {k : Kind} {j : Json} (h : k.Fits j) : (Shape.plain k).faults j = 0 := by
  rw [Shape.faults, if_pos h]

theorem faults_of_not_fits {k : Kind} {j : Json} (h : ¬k.Fits j) : (Shape.plain k).faults j = 1 := by
  rw [Shape.faults, if_neg h]

-- A reader of a kind of values, all of whose faults are of the value as a whole.
theorem follows_plain {k : Kind} (fits : ∀ j, k.Fits j → ∃ a, r j = ok a)
    (flawed : ∀ j, ¬k.Fits j → ∃ f, r j = flaw f) : Follows r (.plain k) := by
  intro j
  by_cases h : k.Fits j
  case pos =>
    obtain ⟨a, read⟩ := fits j h
    rw [faults_of_fits h, read]
    exact .ok a
  case neg =>
    obtain ⟨f, read⟩ := flawed j h
    rw [faults_of_not_fits h, read]
    exact tells_flaw f

theorem follows_text : Follows Field.text (.plain .text) := by
  refine follows_plain ?fits ?flawed
  case fits =>
    rintro _ ⟨s, rfl⟩
    exact ⟨s, rfl⟩
  case flawed =>
    intro j h
    cases j
    case text s => exact absurd ⟨s, rfl⟩ h
    all_goals exact ⟨_, rfl⟩

theorem follows_nullable_text : Follows (nullable Field.text) (.plain .textOrNull) := by
  refine follows_plain ?fits ?flawed
  case fits =>
    rintro _ (rfl | ⟨s, rfl⟩)
    case inl => exact ⟨none, rfl⟩
    case inr => exact ⟨some s, rfl⟩
  case flawed =>
    intro j h
    cases j
    case null => exact absurd (.inl rfl) h
    case text s => exact absurd (.inr ⟨s, rfl⟩) h
    all_goals exact ⟨_, rfl⟩

theorem follows_boolean : Follows boolean (.plain .truth) :=
  follows_plain (fun _ ⟨b, truth⟩ => ⟨b, boolean_eq_ok_iff.mpr truth⟩) fun j none =>
    (boolean_cases j).resolve_left fun ⟨b, read⟩ => none ⟨b, boolean_eq_ok_iff.mp read⟩

theorem follows_object {read : Json.Members → Checked α} {fields : Declared}
    (h : ∀ ms, Tells (read ms) (fields.faults ms)) : Follows (object read) (.object fields) := by
  intro j
  cases j
  case object ms => exact h ms
  all_goals exact tells_flaw _

-- How many faults there are at a name.
def Shape.faultsAt (s : Shape) (missing : Nat) : Option Json → Nat
  | some j => s.faults j
  | none => missing

theorem Follows.required (h : Follows r s) (ms : Json.Members) (name : String) :
    Tells (Field.required ms name r) (s.faultsAt 1 (ms.get? name)) := by
  refine Tells.under ?_ _
  cases ms.get? name
  case none => exact tells_flaw _
  case some j => exact h j

theorem Follows.withDefault (h : Follows r s) (ms : Json.Members) (name : String) (default : α) :
    Tells (Field.withDefault ms name default r) (s.faultsAt 0 (ms.get? name)) := by
  refine Tells.under ?_ _
  cases ms.get? name
  case none => exact .ok _
  case some j => exact h j

end

-- What stands for a text that may be missing.
inductive TextAt : Option Json → Option String → Prop
  | missing : TextAt none none
  | null : TextAt (some .null) none
  | text (s : String) : TextAt (some (.text s)) (some s)

-- What stands for a truth value that is false by default.
inductive TruthAt : Option Json → Bool → Prop
  | missing : TruthAt none false
  | told {j : Json} {b : Bool} (h : Truth j b) : TruthAt (some j) b

section

variable {α : Type} {r : Read α} {ms : Json.Members} {name : String} {a default : α}

theorem required_eq_ok_iff : required ms name r = ok a ↔ ∃ j, ms.get? name = some j ∧ r j = ok a := by
  rw [required, under_eq_ok_iff]
  cases ms.get? name <;> simp [flaw]

theorem withDefault_eq_ok_iff :
    withDefault ms name default r = ok a ↔
      ms.get? name = none ∧ a = default ∨ ∃ j, ms.get? name = some j ∧ r j = ok a := by
  rw [withDefault, under_eq_ok_iff]
  cases ms.get? name <;> simp [eq_comm]

theorem text_eq_ok_iff {j : Json} {s : String} : Field.text j = ok s ↔ j = .text s := by
  cases j <;> simp [Field.text, flaw]

theorem optional_text_eq_ok_iff {o : Option String} :
    Field.optional ms name Field.text = ok o ↔ TextAt (ms.get? name) o := by
  rw [Field.optional, withDefault_eq_ok_iff]
  constructor
  case mp =>
    rintro (⟨missing, rfl⟩ | ⟨j, here, read⟩)
    case inl =>
      rw [missing]
      exact .missing
    case inr =>
      rw [here]
      cases j <;> cases read
      case null => exact .null
      case text s => exact .text s
  case mpr =>
    intro h
    cases hj : ms.get? name <;> rw [hj] at h <;> cases h
    case none.missing => exact .inl ⟨rfl, rfl⟩
    case some.null => exact .inr ⟨_, rfl, rfl⟩
    case some.text s => exact .inr ⟨_, rfl, rfl⟩

theorem flag_eq_ok_iff {b : Bool} :
    withDefault ms name false boolean = ok b ↔ TruthAt (ms.get? name) b := by
  rw [withDefault_eq_ok_iff]
  constructor
  case mp =>
    rintro (⟨missing, rfl⟩ | ⟨j, here, read⟩)
    case inl =>
      rw [missing]
      exact .missing
    case inr =>
      rw [here]
      exact .told (boolean_eq_ok_iff.mp read)
  case mpr =>
    intro h
    cases hj : ms.get? name <;> rw [hj] at h <;> cases h
    case none.missing => exact .inl ⟨rfl, rfl⟩
    case some.told truth => exact .inr ⟨_, rfl, boolean_eq_ok_iff.mpr truth⟩

theorem object_eq_ok_iff {read : Json.Members → Checked α} {j : Json} :
    object read j = ok a ↔ ∃ ms, j = .object ms ∧ read ms = ok a := by
  cases j <;> simp [object, flaw]

end

end Field

namespace Payload

open RefWatch.Field Checked

def Owner.fields : Declared :=
  .optional "login" (.plain .textOrNull) (.optional "name" (.plain .textOrNull) .nil)

def Subject.fields : Declared :=
  .optional "name" (.plain .textOrNull) (.optional "html_url" (.plain .textOrNull)
    (.optional "url" (.plain .textOrNull) (.optional "owner" (.object Owner.fields) .nil)))

def Change.fields : EventKind → Declared
  | .create => .optional "ref_type" (.plain .textOrNull) .nil
  | .delete => .nil
  | .push =>
    .optional "after" (.plain .textOrNull) (.optional "head" (.plain .textOrNull)
      (.optional "created" (.plain .truth) (.optional "deleted" (.plain .truth) .nil)))

def fields (k : EventKind) : Declared :=
  .required "ref" (.plain .text) (.required "repository" (.object Subject.fields) (Change.fields k))

-- An owner of whom nothing is told is one without names.
inductive Owner.At : Option Json → Owner → Prop
  | missing : Owner.At none {}
  | object {ms : Json.Members} {o : Owner} (login : TextAt (ms.get? "login") o.login)
    (name : TextAt (ms.get? "name") o.name) : Owner.At (some (.object ms)) o

structure Subject.Held (ms : Json.Members) (s : Subject) : Prop where
  name    : TextAt (ms.get? "name") s.name
  htmlUrl : TextAt (ms.get? "html_url") s.htmlUrl
  url     : TextAt (ms.get? "url") s.url
  owner   : Owner.At (ms.get? "owner") s.owner

inductive Change.Held (ms : Json.Members) : EventKind → Change → Prop
  | create {refType : Option String} (h : TextAt (ms.get? "ref_type") refType) :
    Change.Held ms .create (.create refType)
  | delete : Change.Held ms .delete .delete
  | push {after head : Option String} {created deleted : Bool} (ha : TextAt (ms.get? "after") after)
    (hh : TextAt (ms.get? "head") head) (hc : TruthAt (ms.get? "created") created)
    (hd : TruthAt (ms.get? "deleted") deleted) :
    Change.Held ms .push (.push after head created deleted)

structure Held (k : EventKind) (ms : Json.Members) (p : Payload) : Prop where
  ref     : ms.get? "ref" = some (.text p.ref)
  subject : ∃ inner, ms.get? "repository" = some (.object inner) ∧ p.subject.Held inner
  change  : p.change.Held ms k

section

variable {ms : Json.Members} {k : EventKind}

theorem Owner.ofMembers_eq_ok_iff {o : Owner} :
    Owner.ofMembers ms = ok o ↔ TextAt (ms.get? "login") o.login ∧ TextAt (ms.get? "name") o.name := by
  simp only [Owner.ofMembers, ap_eq_ok_iff, map_eq_ok_iff, optional_text_eq_ok_iff]
  constructor
  case mp =>
    rintro ⟨_, name, ⟨login, hl, rfl⟩, hn, rfl⟩
    exact ⟨hl, hn⟩
  case mpr =>
    rintro ⟨hl, hn⟩
    exact ⟨_, o.name, ⟨o.login, hl, rfl⟩, hn, rfl⟩

theorem ownerField_eq_ok_iff {o : Owner} :
    withDefault ms "owner" {} (Field.object Owner.ofMembers) = ok o ↔ Owner.At (ms.get? "owner") o := by
  simp only [withDefault_eq_ok_iff, object_eq_ok_iff, Owner.ofMembers_eq_ok_iff]
  constructor
  case mp =>
    rintro (⟨missing, rfl⟩ | ⟨_, here, inner, rfl, login, name⟩)
    case inl => exact missing ▸ .missing
    case inr => exact here ▸ .object login name
  case mpr =>
    intro h
    cases here : ms.get? "owner" <;> rw [here] at h <;> cases h
    case none.missing => exact .inl ⟨rfl, rfl⟩
    case some.object inner login name => exact .inr ⟨_, rfl, inner, rfl, login, name⟩

theorem Subject.ofMembers_eq_ok_iff {s : Subject} : Subject.ofMembers ms = ok s ↔ s.Held ms := by
  simp only [Subject.ofMembers, ap_eq_ok_iff, map_eq_ok_iff, optional_text_eq_ok_iff,
    ownerField_eq_ok_iff]
  constructor
  case mp =>
    rintro ⟨_, owner, ⟨_, url, ⟨_, html, ⟨name, hn, rfl⟩, hh, rfl⟩, hu, rfl⟩, ho, rfl⟩
    exact ⟨hn, hh, hu, ho⟩
  case mpr =>
    rintro ⟨hn, hh, hu, ho⟩
    exact ⟨_, s.owner, ⟨_, s.url, ⟨_, s.htmlUrl, ⟨s.name, hn, rfl⟩, hh, rfl⟩, hu, rfl⟩, ho, rfl⟩

theorem Change.ofMembers_eq_ok_iff {c : Change} : Change.ofMembers k ms = ok c ↔ c.Held ms k := by
  cases k
  case create =>
    simp only [Change.ofMembers, map_eq_ok_iff, optional_text_eq_ok_iff]
    constructor
    case mp =>
      rintro ⟨refType, h, rfl⟩
      exact .create h
    case mpr =>
      rintro ⟨h⟩
      exact ⟨_, h, rfl⟩
  case delete =>
    constructor
    case mp =>
      rintro ⟨⟩
      exact .delete
    case mpr =>
      rintro ⟨⟩
      rfl
  case push =>
    simp only [Change.ofMembers, ap_eq_ok_iff, map_eq_ok_iff, optional_text_eq_ok_iff, flag_eq_ok_iff]
    constructor
    case mp =>
      rintro ⟨_, deleted, ⟨_, created, ⟨_, head, ⟨after, ha, rfl⟩, hh, rfl⟩, hc, rfl⟩, hd, rfl⟩
      exact .push ha hh hc hd
    case mpr =>
      intro h
      cases h
      case push ha hh hc hd =>
        exact ⟨_, _, ⟨_, _, ⟨_, _, ⟨_, ha, rfl⟩, hh, rfl⟩, hc, rfl⟩, hd, rfl⟩

theorem ofMembers_eq_ok_iff {p : Payload} : ofMembers k ms = ok p ↔ Held k ms p := by
  simp only [ofMembers, subjectField, ap_eq_ok_iff, map_eq_ok_iff, required_eq_ok_iff, text_eq_ok_iff,
    object_eq_ok_iff, Subject.ofMembers_eq_ok_iff, Change.ofMembers_eq_ok_iff]
  constructor
  case mp =>
    rintro ⟨_, subject, ⟨_, change, ⟨ref, ⟨_, hr, rfl⟩, rfl⟩, hc, rfl⟩, ⟨_, here, inner, rfl, hs⟩, rfl⟩
    exact ⟨hr, ⟨inner, here, hs⟩, hc⟩
  case mpr =>
    rintro ⟨hr, ⟨inner, here, hs⟩, hc⟩
    exact ⟨_, p.subject, ⟨_, p.change, ⟨p.ref, ⟨_, hr, rfl⟩, rfl⟩, hc, rfl⟩, ⟨_, here, inner, rfl, hs⟩, rfl⟩

end

section

variable {ms : Json.Members} {name : String} {shape : Shape} {rest : Declared}

theorem faults_required :
    (Declared.required name shape rest).faults ms = shape.faultsAt 1 (ms.get? name) + rest.faults ms := by
  rw [Declared.faults]
  cases ms.get? name <;> rfl

theorem faults_optional :
    (Declared.optional name shape rest).faults ms = shape.faultsAt 0 (ms.get? name) + rest.faults ms := by
  rw [Declared.faults]
  cases ms.get? name <;> rfl

theorem faults_nil : Declared.nil.faults ms = 0 := by rw [Declared.faults]

-- The faults of a text that may be missing.
theorem tells_optional_text (ms : Json.Members) (name : String) :
    Tells (Field.optional ms name Field.text) ((Shape.plain .textOrNull).faultsAt 0 (ms.get? name)) :=
  follows_nullable_text.withDefault ms name none

theorem Owner.tells (ms : Json.Members) : Tells (Owner.ofMembers ms) (Owner.fields.faults ms) := by
  simp only [Owner.fields, faults_optional, faults_nil]
  exact ((tells_optional_text ms "login").map _).ap (tells_optional_text ms "name")

theorem Subject.tells (ms : Json.Members) : Tells (Subject.ofMembers ms) (Subject.fields.faults ms) := by
  have owner := (follows_object Owner.tells).withDefault ms "owner" {}
  have all := ((((tells_optional_text ms "name").map Subject.mk).ap
    (tells_optional_text ms "html_url")).ap (tells_optional_text ms "url")).ap owner
  simp only [Subject.fields, faults_optional, faults_nil, ← Nat.add_assoc]
  exact all

theorem Change.tells (k : EventKind) (ms : Json.Members) :
    Tells (Change.ofMembers k ms) ((Change.fields k).faults ms) := by
  cases k
  case create =>
    simp only [Change.fields, faults_optional, faults_nil]
    exact (tells_optional_text ms "ref_type").map _
  case delete =>
    rw [Change.fields, faults_nil]
    exact .ok _
  case push =>
    have created := follows_boolean.withDefault ms "created" false
    have deleted := follows_boolean.withDefault ms "deleted" false
    have all := ((((tells_optional_text ms "after").map Change.push).ap
      (tells_optional_text ms "head")).ap created).ap deleted
    simp only [Change.fields, faults_optional, faults_nil, ← Nat.add_assoc]
    exact all

theorem tells_ofMembers (k : EventKind) (ms : Json.Members) :
    Tells (ofMembers k ms) ((fields k).faults ms) := by
  have ref := follows_text.required ms "ref"
  have subject : Tells (subjectField ms) _ := (follows_object Subject.tells).required ms "repository"
  have all := ((ref.map fun ref change subject => (⟨ref, subject, change⟩ : Payload)).ap
    (Change.tells k ms)).ap subject
  rw [fields, faults_required, faults_required, ← Nat.add_assoc, Nat.add_right_comm]
  exact all

end

-- How many faults a body has. One that is no object has one.
def bodyFaults (k : EventKind) (body : ByteArray) : Nat :=
  match Json.readBytes .body body with
  | .ok (.object ms) => (fields k).faults ms
  | _ => 1

theorem tells_document (k : EventKind) (body : ByteArray) :
    Tells (document (ofJson k) body) (bodyFaults k body) := by
  unfold document bodyFaults
  cases Json.readBytes .body body
  case error f => exact tells_flaw _
  case ok j =>
    cases j
    case object ms => exact tells_ofMembers k ms
    all_goals exact tells_flaw _

-- What is to be known of the decoding of a notification.
structure Judged (n : Notification) : Prop where
  -- No body stops the reading.
  unstopped : ∀ s, document (ofJson n.kind) n.body ≠ wrong (.stopped s)
  accepted  : ∀ p, n.payload = .ok p ↔
    ∃ ms, Json.readBytes .body n.body = .ok (.object ms) ∧ Held n.kind ms p
  refused   : ∀ faults, n.payload = .error faults ↔
    faults = bodyFaults n.kind n.body ∧ faults ≠ 0
  silent    : ∀ p, n.payload = .ok p → n.decodingLog = []
  warned    : ∀ faults, n.payload = .error faults →
    ∀ level : Log.Level, level.rank ≤ Log.Level.warning.rank →
      Log.visible level n.decodingLog =
        [{ level := .warning, logger := .payload
           message := "Could not parse " ++ n.kind.name ++ " event from " ++ n.origin ++
             " with payload: " ++ Text.quotedBytes n.body
           extra := [("event_kind", .text n.kind.name), ("origin", .text n.origin),
             ("error_count", .ofWhole faults)] }]

-- A body is judged by its schema, field by field, and its faults are told once.
theorem payload_judged (n : Notification) : Judged n where
  unstopped s stopped := by
    have tells := tells_document n.kind n.body
    rw [stopped] at tells
    cases tells
  accepted p := by simp only [Notification.payload, decode_eq_ok_iff, ofMembers_eq_ok_iff]
  refused faults := (tells_document n.kind n.body).toExcept_eq_error_iff
  silent p h := by rw [Notification.decodingLog, h]
  warned faults h level shown := by
    rw [Notification.decodingLog, h]
    simp [Log.visible, Notification.undecodable, shown]

-- The reference, the name and the owner are at fault; of two members of one name the last counts.
example : bodyFaults .push (String.toUTF8 (
    "\x7b\"ref\": 1, \"repository\": null, " ++
    "\"repository\": \x7b\"name\": 2, \"owner\": null, \"size\": \"x\"\x7d, " ++
    "\"created\": \"Yes\", \"deleted\": 0.0\x7d")) = 3 := by
  decide +kernel

end Payload

end RefWatch
