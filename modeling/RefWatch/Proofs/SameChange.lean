import Mathlib.Data.List.Induction
import Mathlib.Logic.Function.Basic
import RefWatch.Proofs.Resolution

namespace RefWatch

-- What heads go by where reports of them are kept.
def Head.key (h : Head) : RefKind × String := (h.kind, h.name)

namespace Resolution

-- The heads of a resolution, without their revisions.
def headsOf (x : Except Refusal Report) : Except Failure (List Head) := (heads x).map (·.map (·.head))

-- The last report of each head.
abbrev Book := RefKind × String → Option Report

def Book.record (b : Book) (rs : List Report) : Book :=
  rs.foldl (fun b rep => Function.update b rep.head.key (some rep)) b

variable {p q : Payload} {r : Repository} {t : Timestamp} {s : Source} {al : Aliases}

-- Nothing but the subject and the ref of a payload decides on its heads, once its commit has passed.
theorem headsOf_resolve_congr (subject : p.subject = q.subject) (ref : refOf p = refOf q)
    (hp : ∃ c, commitOf p.change = .ok c) (hq : ∃ c, commitOf q.change = .ok c) :
    headsOf (p.resolve r t s al) = headsOf (q.resolve r t s al) := by
  obtain ⟨c, hc⟩ := hp
  obtain ⟨d, hd⟩ := hq
  rw [resolve_eq, resolve_eq, subject, ref, hc, hd]
  cases screen q.subject r s al
  case error => rfl
  case ok =>
    cases refOf q
    case error => rfl
    case ok ref =>
      by_cases unnamed : ref.name = ""
      case pos => simp only [bind, Except.bind, unnamed, if_true]
      case neg =>
        simp only [bind, Except.bind, unnamed, if_false]
        cases allow s (Head.ofRef ref t) <;> rfl

theorem key_of_mem_heads {ref : Ref} {rs : List Report} (hr : refOf p = .ok ref)
    (h : heads (p.resolve r t s al) = .ok rs) : ∀ rep ∈ rs, rep.head.key = (ref.kind, ref.name) := by
  cases rs
  case nil => exact List.forall_mem_nil _
  case cons rep rs =>
    obtain ⟨resolved, rfl⟩ := heads_eq_ok_iff.mp h
    obtain ⟨candidate, -, -⟩ := resolve_eq_ok_iff.mp resolved
    have prescribed := refOf_eq_ok_iff.mpr candidate.prescribed
    cases hr.symm.trans prescribed
    exact List.forall_mem_singleton.mpr rfl

theorem eq_nil_iff_of_headsOf_eq {x y : Except Refusal Report} {rs rs' : List Report}
    (same : headsOf x = headsOf y) (hx : heads x = .ok rs) (hy : heads y = .ok rs') :
    rs = [] ↔ rs' = [] := by
  rw [headsOf, headsOf, hx, hy] at same
  have same : rs.map (·.head) = rs'.map (·.head) := Except.ok.inj same
  rw [← List.map_eq_nil_iff (f := Report.head), same, List.map_eq_nil_iff]

section

variable {b : Book} {k : RefKind × String} {rs rs' : List Report}

theorem record_eq (h : ∀ rep ∈ rs, rep.head.key = k) :
    b.record rs =
      match rs.getLast? with
      | none => b
      | some rep => Function.update b k (some rep) := by
  induction rs using List.reverseRecOn
  case nil => rfl
  case append_singleton rs rep hi =>
    have ⟨earlier, last⟩ := List.forall_mem_append.mp h
    have last : rep.head.key = k := last rep (List.mem_singleton_self rep)
    have before := hi earlier
    simp only [Book.record, List.foldl_append, List.foldl_cons, List.foldl_nil, last,
      List.getLast?_concat] at before ⊢
    rw [before]
    cases rs.getLast?
    case none => rfl
    case some => exact Function.update_idem ..

theorem record_of_ne (h : ∀ rep ∈ rs, rep.head.key = k) {l : RefKind × String} (hl : l ≠ k) :
    b.record rs l = b l := by
  rw [record_eq h]
  cases rs.getLast?
  case none => rfl
  case some => exact Function.update_of_ne hl ..

-- Reports of one head leave nothing of what was recorded of it before.
theorem record_record (h : ∀ rep ∈ rs, rep.head.key = k) (h' : ∀ rep ∈ rs', rep.head.key = k)
    (some : rs' = [] → rs = []) : (b.record rs).record rs' = b.record rs' := by
  rw [record_eq h', record_eq h']
  cases hl : rs'.getLast?
  case none =>
    have none : rs = [] := some (List.getLast?_eq_none_iff.mp hl)
    rw [none]
    rfl
  case some =>
    rw [record_eq h]
    cases rs.getLast?
    case none => rfl
    case some => exact Function.update_idem ..

-- Reports of one head take one entry, that of the last.
structure Collapse (k : RefKind × String) (rs rs' : List Report) : Prop where
  elsewhere : ∀ (b : Book) l, l ≠ k → (b.record rs).record rs' l = b l
  last      : rs' ≠ [] → ∀ b : Book, (b.record rs).record rs' = b.record rs'

theorem collapse (h : ∀ rep ∈ rs, rep.head.key = k) (h' : ∀ rep ∈ rs', rep.head.key = k) :
    Collapse k rs rs' where
  elsewhere _ _ hl := (record_of_ne h' hl).trans (record_of_ne h hl)
  last some _ := record_record h h' fun none => absurd none some

end

theorem refOf_creation (ref : String) (subject : Payload.Subject) (k : RefKind) :
    refOf ⟨ref, subject, .create (some k.name)⟩ = .ok ⟨k, k.short ref⟩ :=
  refOf_eq_ok_iff.mpr (.create k ref)

-- Beside a creation, the ref itself tells its kind.
theorem refOf_rooted {change : Payload.Change} (kind : change.kind ≠ .create) (name : String)
    (subject : Payload.Subject) (k : RefKind) :
    refOf ⟨k.root ++ name, subject, change⟩ = .ok ⟨k, name⟩ := by
  have classified := congrArg (Except.ok (ε := Refusal)) (Ref.classify_root_append k name none)
  cases change
  case create => exact absurd rfl kind
  case delete | push => exact classified

theorem commitOf_push {after head : Option String} {commit : String}
    (told : firstFilled after head = some commit) (valid : Name.isCommit commit) (new gone : Bool) :
    commitOf (.push after head new gone) = .ok (some commit) := by
  have ⟨length, digits⟩ := isCommit_iff.mp valid
  exact (commitOf_eq_ok_iff (.branch "")).mpr (.pinned _ told length digits)

-- A creation, a deletion and a push that tell of one ref report the same heads or fail alike, and so do
-- a deletion and a push of any ref. A creation and a push of one ref take one entry in a book, even if
-- they were received at different times, in whatever order they come.
theorem headsOf_alike {after head : Option String} {commit : String}
    (told : firstFilled after head = some commit) (valid : Name.isCommit commit) (new gone : Bool)
    (subject : Payload.Subject) (r : Repository) (t : Timestamp) (s : Source) (al : Aliases) :
    let creation (k : RefKind) (ref : String) : Payload := ⟨ref, subject, .create (some k.name)⟩
    let deletion (ref : String) : Payload := ⟨ref, subject, .delete⟩
    let push (ref : String) : Payload := ⟨ref, subject, .push after head new gone⟩
    (∀ k ref, let full := k.root ++ k.short ref
      headsOf ((creation k ref).resolve r t s al) = headsOf ((deletion full).resolve r t s al) ∧
      headsOf ((creation k ref).resolve r t s al) = headsOf ((push full).resolve r t s al)) ∧
    (∀ ref, headsOf ((deletion ref).resolve r t s al) = headsOf ((push ref).resolve r t s al)) ∧
    ∀ k ref t' rs rs', heads ((creation k ref).resolve r t s al) = .ok rs →
      heads ((push (k.root ++ k.short ref)).resolve r t' s al) = .ok rs' →
        Collapse (k, k.short ref) rs rs' ∧ Collapse (k, k.short ref) rs' rs ∧
          (t' = t → ∀ b : Book, (b.record rs).record rs' = b.record rs' ∧
            (b.record rs').record rs = b.record rs) := by
  intro creation deletion push
  have commit (ref : String) : ∃ c, commitOf (push ref).change = .ok c :=
    ⟨_, commitOf_push told valid new gone⟩
  have pushed (ref : String) :
      headsOf ((deletion ref).resolve r t s al) = headsOf ((push ref).resolve r t s al) :=
    headsOf_resolve_congr rfl rfl ⟨none, rfl⟩ (commit ref)
  have created (k : RefKind) (ref : String) :
      headsOf ((creation k ref).resolve r t s al) =
        headsOf ((deletion (k.root ++ k.short ref)).resolve r t s al) :=
    headsOf_resolve_congr rfl ((refOf_creation ..).trans (refOf_rooted (by nofun) ..).symm) ⟨none, rfl⟩
      ⟨none, rfl⟩
  refine ⟨fun k ref => ⟨created k ref, (created k ref).trans (pushed _)⟩, pushed, ?_⟩
  intro k ref t' rs rs' hc hp
  have key : ∀ rep ∈ rs, rep.head.key = (k, k.short ref) := key_of_mem_heads (refOf_creation ..) hc
  have key' : ∀ rep ∈ rs', rep.head.key = (k, k.short ref) :=
    key_of_mem_heads (refOf_rooted (by nofun) ..) hp
  refine ⟨collapse key key', collapse key' key, ?_⟩
  rintro rfl b
  have none : rs = [] ↔ rs' = [] :=
    eq_nil_iff_of_headsOf_eq ((created k ref).trans (pushed _)) hc hp
  exact ⟨record_record key key' none.mpr, record_record key' key none.mp⟩

-- A tag is told of by a creation with its full ref and by a push.
theorem headsOf_alike_tag :
    let commit := "0123456789abcdef0123456789abcdef01234567"
    let subject : Payload.Subject := { name := some "widgets", owner := { login := some "acme" } }
    let r : Repository := { host := "github.com", owner := "acme", name := "widgets" }
    let t := Timestamp.ofInstant 0
    let s : Source := { owner := "acme", repository := "widgets", wantTags := true }
    let creation : Payload := ⟨"refs/tags/v1", subject, .create (some "tag")⟩
    let push : Payload := ⟨"refs/tags/v1", subject, .push none (some commit) false false⟩
    firstFilled none (some commit) = some commit ∧ Name.isCommit commit ∧
      headsOf (creation.resolve r t s Aliases.standard) = .ok [.tag "v1" t true] ∧
      headsOf (creation.resolve r t s Aliases.standard) =
        headsOf (push.resolve r t s Aliases.standard) := by
  intro commit subject r t s creation push
  have valid : Name.isCommit commit := by decide
  have told : firstFilled none (some commit) = some commit := rfl
  have alike := headsOf_alike told valid false false subject r t s Aliases.standard
  exact ⟨told, valid, by decide +kernel, (alike.left .tag "refs/tags/v1").right⟩

end Resolution

end RefWatch
