import RefWatch.Head.Reader
import RefWatch.Proofs.TimestampText

namespace RefWatch

open RefWatch.Field

namespace Head

open Timestamp (WholeMinutes)

variable {h : Head}

-- A head with a name, and with a time that a calendar and a clock can show.
def Valid : Head → Prop
  | branch n => n ≠ ""
  | tag n t _ => n ≠ "" ∧ t.Valid

instance : (h : Head) → Decidable h.Valid
  | branch n => inferInstanceAs (Decidable (n ≠ ""))
  | tag n t _ => inferInstanceAs (Decidable (n ≠ "" ∧ t.Valid))

def members : Head → Json.Members
  | branch n => [("name", .text n)]
  | tag n t a => [("name", .text n), ("timestamp", .text t.text), ("approximate", .bool a)]

-- The text of its time, should it have one, can be read.
def Legible : Head → Prop
  | branch _ => True
  | tag _ t _ => WholeMinutes t.offset

instance : (h : Head) → Decidable h.Legible
  | branch _ => .isTrue trivial
  | tag _ t _ => inferInstanceAs (Decidable (WholeMinutes t.offset))

-- The head that its data tell of.
def told (h : Head) : Head := if h.Legible then h else branch h.name

theorem filledText_of_ne {n : String} (hn : n ≠ "") : filledText (.text n) = .ok n := by
  rw [filledText, text, Checked.andThen, if_neg hn]

theorem required_name {ms : Json.Members} {n : String} (given : ms.get? "name" = some (.text n))
    (hn : n ≠ "") : required ms "name" filledText = .ok n := by
  rw [required, given]
  exact congrArg (Checked.under _) (filledText_of_ne hn)

theorem branchOf_members (valid : h.Valid) : branchOf h.members = .ok (branch h.name) := by
  cases h
  case branch n =>
    rw [branchOf, required_name (n := n) rfl valid]
    rfl
  case tag n t a =>
    rw [branchOf, required_name (n := n) rfl valid.left]
    rfl

theorem tagOf_members_branch {n : String} (valid : (branch n).Valid) :
    tagOf (branch n).members = .wrong (.faults [⟨[.member "timestamp"], .missing⟩]) := by
  rw [tagOf, required_name (n := n) rfl valid]
  rfl

theorem tagOf_members_tag {n : String} {t : Timestamp} {a : Bool} (valid : (tag n t a).Valid) :
    tagOf (tag n t a).members = if WholeMinutes t.offset then .ok (tag n t a) else
      .wrong (.faults [⟨[.member "timestamp"], .badTimestamp (.noDate .tooLong)⟩]) := by
  have time : required (tag n t a).members "timestamp" timestamp =
      (timestamp (.text t.text)).under (.member "timestamp") := rfl
  have approximate : withDefault (tag n t a).members "approximate" true boolean = .ok a := rfl
  rw [tagOf, required_name (n := n) rfl valid.left, time, approximate, timestamp,
    t.ofJson_text valid.right]
  split_ifs <;> rfl

theorem told_of_legible (legible : h.Legible) : h.told = h := if_pos legible

theorem told_of_not_legible (unlegible : ¬h.Legible) : h.told = branch h.name := if_neg unlegible

theorem ofJson_members (valid : h.Valid) : ofJson (.object h.members) = .ok h.told := by
  simp only [ofJson, model, branchOf_members valid]
  cases h
  case branch n =>
    rw [tagOf_members_branch valid, told_of_legible (h := branch n) trivial]
    rfl
  case tag n t a =>
    rw [tagOf_members_tag valid]
    by_cases whole : WholeMinutes t.offset
    case pos => rw [if_pos whole, told_of_legible (h := tag n t a) whole]
    case neg => rw [if_neg whole, told_of_not_legible (h := tag n t a) whole]

-- A head is told by its data if they tell of its kind.
theorem kind_told (h : Head) : h.told.kind = h.kind ↔ h.Legible := by
  constructor
  case mp =>
    intro same
    by_contra unlegible
    rw [told_of_not_legible unlegible] at same
    cases h
    case branch => exact unlegible trivial
    case tag => cases same
  case mpr => exact fun legible => congrArg kind (told_of_legible legible)

theorem told_eq_self_iff : h.told = h ↔ h.Legible :=
  ⟨fun same => h.kind_told.mp (congrArg kind same), told_of_legible⟩

end Head

namespace Revision

def on (head : Head) : Revision → Revision
  | unresolved _ => unresolved head
  | pinned _ commit => pinned head commit

def members : Revision → Json.Members
  | unresolved h => [("head", .object h.members)]
  | pinned h commit => [("head", .object h.members), ("sha", .text commit)]

-- What a revision's own data are read as, by the reader of its type.
def reread : Revision → Checked Revision
  | unresolved h => model "Unresolved" unresolvedOf (.object (unresolved h).members)
  | pinned h commit => model "ShaPinned" pinnedOf (.object (pinned h commit).members)

variable {r : Revision}

theorem reread_eq (valid : r.head.Valid) : r.reread = .ok (r.on r.head.told) := by
  cases r
  case unresolved h =>
    have head : required (unresolved h).members "head" Head.ofJson = .ok h.told :=
      congrArg (Checked.under _) (Head.ofJson_members valid)
    rw [reread, model, unresolvedOf, head]
    rfl
  case pinned h commit =>
    have head : required (pinned h commit).members "head" Head.ofJson = .ok h.told :=
      congrArg (Checked.under _) (Head.ofJson_members valid)
    have sha : required (pinned h commit).members "sha" text = .ok commit := rfl
    rw [reread, model, pinnedOf, head, sha]
    rfl

theorem head_on (head : Head) (r : Revision) : (r.on head).head = head := by cases r <;> rfl

theorem on_eq_self_iff {head : Head} : r.on head = r ↔ head = r.head := by
  cases r <;> simp [on, Revision.head]

theorem reread_eq_ok_self_iff (valid : r.head.Valid) : r.reread = .ok r ↔ r.head.Legible := by
  rw [reread_eq valid, Checked.ok.injEq, on_eq_self_iff, Head.told_eq_self_iff]

end Revision

-- How far the clock of a zone is from UTC when it shows a reading. Where the clock is put back or forward, a
-- reading comes twice or is left out; the fold tells its two offsets apart.
def Zone := Int → Bool → Option Int

-- What the clock of a zone shows. A clock that is never put back or forward has one offset for all.
structure ZoneTime where
  zone : Zone
  reading : Timestamp
  fold : Bool := false

namespace ZoneTime

def offset (z : ZoneTime) (fold : Bool) : Option Int := z.zone z.reading.wall fold

-- The time as it is written, with the offset that it has.
def shown (z : ZoneTime) : Timestamp := { z.reading with offset := z.offset z.fold }

-- The fold does not matter.
def Certain (z : ZoneTime) : Prop := z.offset (!z.fold) = z.offset z.fold

instance (z : ZoneTime) : Decidable z.Certain :=
  inferInstanceAs (Decidable (z.offset (!z.fold) = z.offset z.fold))

-- Equality with a time of a fixed offset: a time with two offsets is never equal to one.
def same (z : ZoneTime) (t : Timestamp) : Bool := decide z.Certain && z.shown.same t

def fixed (t : Timestamp) : ZoneTime where
  zone _ _ := t.offset
  reading := t

theorem certain_fixed (t : Timestamp) : (fixed t).Certain := rfl

end ZoneTime

inductive ZoneHead
  | branch (name : String)
  | tag (name : String) (time : ZoneTime) (approximate : Bool)

namespace ZoneHead

def shown : ZoneHead → Head
  | branch n => .branch n
  | tag n z a => .tag n z.shown a

def Certain : ZoneHead → Prop
  | branch _ => True
  | tag _ z _ => z.Certain

def same : ZoneHead → Head → Bool
  | branch m, .branch n => m == n
  | tag m z a, .tag n t b => m == n && z.same t && a == b
  | _, _ => false

variable {g : ZoneHead} {h : Head}

theorem same_iff : g.same h ↔ g.Certain ∧ g.shown.same h := by
  cases g <;> cases h <;> simp [same, shown, Head.same, Certain, ZoneTime.same, and_left_comm, and_assoc]

end ZoneHead

inductive ZoneRevision
  | unresolved (head : ZoneHead)
  | pinned (head : ZoneHead) (commit : String)

namespace ZoneRevision

def head : ZoneRevision → ZoneHead
  | unresolved h => h
  | pinned h _ => h

def shown : ZoneRevision → Revision
  | unresolved h => .unresolved h.shown
  | pinned h commit => .pinned h.shown commit

def same : ZoneRevision → Revision → Bool
  | unresolved g, .unresolved h => g.same h
  | pinned g c, .pinned h d => g.same h && c == d
  | _, _ => false

variable {m : ZoneRevision} {r : Revision}

theorem same_iff : m.same r ↔ m.head.Certain ∧ m.shown.same r := by
  cases m <;> cases r <;>
    simp [same, shown, head, Revision.same, ZoneHead.same_iff, and_assoc]

end ZoneRevision

namespace Revision

-- The data of a tag are not read as a branch, nor those of a branch as a tag, but for tags whose time cannot
-- be read. What is read is as it was, and equal to it unless the offset of its time hangs on the fold.
theorem reread_of_valid (m : ZoneRevision) (valid : m.shown.head.Valid) :
    ((∃ r, m.shown.reread = .ok r ∧ m.same r) ↔ m.shown.head.Legible ∧ m.head.Certain) ∧
      (m.shown.reread = .ok m.shown ↔ m.shown.head.Legible) ∧
      (¬m.shown.head.Legible → m.shown.reread = .ok (m.shown.on (.branch m.shown.head.name))) ∧
      ∀ r, m.shown.reread = .ok r → (r.head.kind = m.shown.head.kind ↔ m.shown.head.Legible) := by
  have kind : ∀ r, m.shown.reread = .ok r → (r.head.kind = m.shown.head.kind ↔ m.shown.head.Legible) := by
    intro r read
    cases (reread_eq valid).symm.trans read
    rw [head_on, Head.kind_told]
  have whole := reread_eq_ok_self_iff valid
  refine ⟨⟨?equal, ?back⟩, whole, fun unlegible => ?other, kind⟩
  case equal =>
    rintro ⟨r, read, equal⟩
    have ⟨certain, same⟩ := ZoneRevision.same_iff.mp equal
    exact ⟨(kind r read).mp (Head.kind_of_same (head_same same)).symm, certain⟩
  case back =>
    rintro ⟨legible, certain⟩
    exact ⟨m.shown, whole.mpr legible, ZoneRevision.same_iff.mpr ⟨certain, same_refl _⟩⟩
  case other => rw [reread_eq valid, Head.told_of_not_legible unlegible]

-- The last second of a leap day, west of UTC by five hours and a half.
theorem reread_of_leap_day :
    let t : Timestamp :=
      { year := 2024, month := 2, day := 29, hour := 23, minute := 59, second := 59, micros := 1000,
        offset := some (-19800000000) }
    let m : ZoneRevision :=
      .pinned (.tag "v1.0" (.fixed t) false) "0123456789abcdef0123456789abcdef01234567"
    t.text = "2024-02-29T23:59:59.001000-05:30" ∧ m.shown.head.Valid ∧ m.shown.reread = .ok m.shown ∧
      ∃ r, m.shown.reread = .ok r ∧ m.same r := by
  intro t m
  have valid : m.shown.head.Valid := by decide
  have legible : m.shown.head.Legible := by decide
  obtain ⟨equal, whole, -⟩ := reread_of_valid m valid
  exact ⟨by decide +kernel, valid, whole.mpr legible, equal.mpr ⟨legible, ZoneTime.certain_fixed t⟩⟩

-- A clock west of UTC by four hours that is put back at two, on 3 November 2024.
def putBack : Zone := fun wall fold =>
  let two := Timestamp.wall { year := 2024, month := 11, day := 3, hour := 2 }
  if wall < two - 3600000000 ∨ wall < two ∧ !fold then some (-14400000000) else some (-18000000000)

-- Half a minute away from UTC, and in an hour that comes twice.
theorem reread_unequal :
    let t : Timestamp := { year := 2024, month := 5, day := 1, hour := 12, offset := some 30000000 }
    let r := unresolved (.tag "v1" t true)
    let z (fold : Bool) : ZoneTime :=
      { zone := putBack, fold, reading := { year := 2024, month := 11, day := 3, hour := 1, minute := 30 } }
    let m (fold : Bool) : ZoneRevision := .unresolved (.tag "v1" (z fold) true)
    (t.text = "2024-05-01T12:00:00+00:00:30" ∧ r.head.Valid ∧
      r.reread = .ok (unresolved (.branch "v1")) ∧ r.reread ≠ .ok r) ∧
    (z false).shown.text = "2024-11-03T01:30:00-04:00" ∧ (z true).shown.text = "2024-11-03T01:30:00-05:00" ∧
      ∀ fold, (m fold).shown.head.Valid ∧ (m fold).shown.reread = .ok (m fold).shown ∧
        (m fold).same (m fold).shown = false := by
  intro t r z m
  have valid : r.head.Valid := by decide
  have read : r.reread = .ok (unresolved (.branch "v1")) := reread_eq valid
  have illegible : ¬r.head.Legible := by decide
  refine ⟨⟨by decide +kernel, valid, read, fun same => illegible ((reread_eq_ok_self_iff valid).mp same)⟩,
    by decide +kernel, by decide +kernel, fun fold => ?_⟩
  have valid : (m fold).shown.head.Valid := by cases fold <;> decide +kernel
  have legible : (m fold).shown.head.Legible := by cases fold <;> decide +kernel
  have unequal : (m fold).same (m fold).shown = false := by cases fold <;> decide +kernel
  exact ⟨valid, (reread_eq_ok_self_iff valid).mpr legible, unequal⟩

end Revision

end RefWatch
