import Mathlib.Data.List.Basic
import RefWatch.HeadEvent
import RefWatch.Proofs.Resolution

namespace RefWatch

namespace Ref

-- No text begins with the roots of both kinds.
theorem dropFront?_tag_of_branch {ref name : String}
    (branch : Text.dropFront? RefKind.branch.root ref = some name) :
    Text.dropFront? RefKind.tag.root ref = none := by
  have after (s : List Char) :
      Text.after? RefKind.tag.root.toList (RefKind.branch.root.toList ++ s) = none := rfl
  rw [Text.eq_append_of_dropFront? branch, Text.dropFront?, String.toList_append, after]
  rfl

-- The order in which the roots are tried does not matter.
theorem classify_eq (ref : String) :
    classify ref =
      match Text.dropFront? RefKind.tag.root ref with
      | some name => ⟨.tag, name⟩
      | none => ⟨.branch, RefKind.branch.short ref⟩ := by
  rw [classify, RefKind.short]
  cases branch : Text.dropFront? RefKind.branch.root ref
  case some name => rw [dropFront?_tag_of_branch branch]; rfl
  case none => cases Text.dropFront? RefKind.tag.root ref <;> rfl

end Ref

namespace HeadEvent

def verb : EventKind → String
  | .create => "Create"
  | .delete => "Delete"
  | .push => "Push"

-- What there is to read about a head that has changed.
def account (k : EventKind) : Head → String
  | .branch name => verb k ++ " event to branch " ++ name
  | .tag name _ _ => verb k ++ " event for tag " ++ name

variable {e : HeadEvent} {s : Source}

theorem refText_classify (k : EventKind) (ref : String) (t : Timestamp) :
    refText (verb k) ref = account k (Head.ofRef (Ref.classify ref) t) := by
  rw [refText, Ref.classify_eq]
  cases Text.dropFront? RefKind.tag.root ref <;> rfl

-- Of a deletion or a push there is to read what its ref is classified as, even if it reports no head.
theorem eventText_of_change (p : Payload) (kind : p.kind ≠ .create) (t : Timestamp) :
    eventText p = account p.kind (Head.ofRef (Ref.classify p.ref) t) := by
  obtain ⟨ref, subject, change⟩ := p
  cases change
  case create => exact absurd rfl kind
  case delete => exact refText_classify .delete ref t
  case push => exact refText_classify .push ref t

theorem descriptionFor_source (kind : e.kind ≠ .create) (t : Source) :
    e.descriptionFor (.source t) = eventText e.payload := by
  obtain ⟨⟨_, _, change⟩, _⟩ := e
  cases change
  case create => exact absurd rfl kind
  all_goals rfl

theorem descriptionFor_navigator (kind : e.kind ≠ .create) (n : Navigator) :
    e.descriptionFor (.navigator n) = eventText e.payload ++ " in repository " ++ e.repository.name := by
  obtain ⟨⟨_, _, change⟩, _⟩ := e
  cases change
  case create => exact absurd rfl kind
  all_goals rfl

-- A head that a deletion or a push reports is the one that its ref is classified as.
theorem head_of_heads (kind : e.kind ≠ .create) {rs : List Report} (reported : e.heads s = .ok rs)
    {r : Report} (member : r ∈ rs) : r.head = Head.ofRef (Ref.classify e.payload.ref) e.received := by
  cases rs
  case nil => cases member
  case cons first rest =>
    obtain ⟨resolved, rfl⟩ := Resolution.heads_eq_ok_iff.mp reported
    obtain rfl := List.mem_singleton.mp member
    have ⟨candidate, _⟩ := Resolution.resolve_eq_ok_iff.mp resolved
    have prescribed := candidate.prescribed
    refine Resolution.eq_ofRef_iff.mpr ⟨?_, candidate.time⟩
    cases change : e.payload.change
    case create => exact absurd (congrArg Payload.Change.kind change) kind
    all_goals
      rw [change] at prescribed
      generalize Ref.mk r.head.kind r.head.name = ref at prescribed
      cases prescribed
      rfl

-- A source reads of a deletion or a push what became of the head that is reported, to it or to another
-- source; a navigator reads the same with the name of the repository, and the log with its owner and name.
theorem descriptions_name_head (e : HeadEvent) (kind : e.kind ≠ .create) (t : Source) :
    (∀ (s : Source) (rs : List Report) (r : Report), e.heads s = .ok rs → r ∈ rs →
      e.descriptionFor (.source t) = account e.kind r.head) ∧
      (∀ n : Navigator, e.descriptionFor (.navigator n) =
        e.descriptionFor (.source t) ++ " in repository " ++ e.repository.name) ∧
      e.description = e.descriptionFor (.source t) ++ " in repository " ++
        (e.repository.owner ++ "/" ++ e.repository.name) := by
  rw [descriptionFor_source kind]
  refine ⟨fun s rs r reported member => ?_, descriptionFor_navigator kind, rfl⟩
  rw [head_of_heads kind reported member]
  exact eventText_of_change e.payload kind e.received

-- A branch whose name looks like the ref of a tag is deleted.
theorem descriptions_name_head_nested :
    let e : HeadEvent :=
      { payload :=
          { ref := "refs/heads/refs/tags/v1"
            subject := { name := some "widgets", owner := { login := some "acme" } }
            change := .delete }
        repository := { host := "github.com", owner := "acme", name := "widgets" }
        origin := "hooks"
        received := .ofInstant 0
        aliases := Aliases.standard }
    let s : Source := { owner := "acme", repository := "widgets" }
    let r : Report := ⟨.branch "refs/tags/v1", .unresolved (.branch "refs/tags/v1")⟩
    e.kind ≠ .create ∧ e.heads s = .ok [r] ∧
      account e.kind r.head = "Delete event to branch refs/tags/v1" ∧
      e.descriptionFor (.source s) = account e.kind r.head ∧
      (∀ n : Navigator, e.descriptionFor (.navigator n) =
        e.descriptionFor (.source s) ++ " in repository " ++ e.repository.name) ∧
      e.description = e.descriptionFor (.source s) ++ " in repository " ++
        (e.repository.owner ++ "/" ++ e.repository.name) := by
  intro e s r
  have reported : e.heads s = .ok [r] := by decide +kernel
  obtain ⟨named, along⟩ := descriptions_name_head e (by decide) s
  exact ⟨by decide, reported, by decide +kernel, named s [r] r reported (List.mem_singleton_self r),
    along⟩

end HeadEvent

end RefWatch
