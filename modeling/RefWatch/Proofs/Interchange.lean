import RefWatch.Proofs.Aliases
import RefWatch.Proofs.EventIdentity
import RefWatch.Proofs.Resolution

namespace RefWatch

open List

namespace Aliases

variable {al bl : Aliases} {host : String}

-- Aliases for the same host, in any case, lead to the same host.
def Unambiguous (al : Aliases) : Prop :=
  ∀ a ∈ al, ∀ b ∈ al, Text.lower a.1 = Text.lower b.1 → Text.lower a.2 = Text.lower b.2

-- The same table, or the same entries in another order that does not matter.
def Interchangeable (al bl : Aliases) : Prop := al = bl ∨ al.Perm bl ∧ al.Unambiguous

theorem resolve_of_mem (unambiguous : al.Unambiguous) {a : String × String} (ha : a ∈ al) :
    al.resolve (Text.lower a.1) = Text.lower a.2 := by
  rw [resolve_eq]
  cases first : al.find? (fits (Text.lower a.1))
  case none =>
    have missed := find?_eq_none.mp first a ha
    simp [fits] at missed
  case some b =>
    have fit : Text.lower b.1 = Text.lower a.1 := by simpa [fits] using find?_some first
    exact unambiguous b (mem_of_find?_eq_some first) a ha fit

theorem resolve_of_not_mem (missed : ∀ a ∈ al, Text.lower a.1 ≠ host) : al.resolve host = host := by
  have none : al.find? (fits host) = none :=
    find?_eq_none.mpr fun a ha fit => missed a ha (by simpa [fits] using fit)
  rw [resolve_eq, none]
  rfl

theorem resolve_of_perm (perm : al.Perm bl) (unambiguous : al.Unambiguous) (host : String) :
    al.resolve host = bl.resolve host := by
  have unambiguous' : bl.Unambiguous := fun a ha b hb =>
    unambiguous a (perm.mem_iff.mpr ha) b (perm.mem_iff.mpr hb)
  by_cases known : ∃ a ∈ al, Text.lower a.1 = host
  case pos =>
    obtain ⟨a, ha, rfl⟩ := known
    rw [resolve_of_mem unambiguous ha, resolve_of_mem unambiguous' (perm.mem_iff.mp ha)]
  case neg =>
    have missed : ∀ a ∈ al, Text.lower a.1 ≠ host := fun a ha fit => known ⟨a, ha, fit⟩
    rw [resolve_of_not_mem missed, resolve_of_not_mem fun a ha => missed a (perm.mem_iff.mpr ha)]

theorem Interchangeable.resolve (h : al.Interchangeable bl) : al.resolve = bl.resolve := by
  rcases h with rfl | ⟨perm, unambiguous⟩
  · rfl
  · exact funext (resolve_of_perm perm unambiguous)

theorem Interchangeable.ofApi (h : al.Interchangeable bl) (api : Option String) :
    Host.ofApi api al = Host.ofApi api bl := by
  unfold Host.ofApi
  rw [h.resolve]

theorem Interchangeable.watches (h : al.Interchangeable bl) (s : Source) (r : Repository) :
    s.watches r al = s.watches r bl := by
  rw [Source.watches, Source.watches, h.ofApi]

end Aliases

namespace Head

variable {g h : Head}

theorem name_of_same (equal : g.same h) : g.name = h.name := by
  cases g <;> cases h <;> simp_all [same, name]

theorem same_ofRef {t u : Timestamp} (equal : t.same u) (r : Ref) : (ofRef r t).same (ofRef r u) := by
  obtain ⟨k, n⟩ := r
  cases k <;> simp [ofRef, same, equal]

end Head

namespace Prefilter

variable {p : Prefilter} {ps : List Prefilter} {v : View} {g h : Head}

-- A rule that was brought along does not tell equal heads apart for a source.
def Even (v : View) (p : Prefilter) : Prop :=
  ∀ r, p = external r → ∀ g h : Head, g.same h → r.answer v g = r.answer v h

theorem excludes_of_same (even : p.Even v) (equal : g.same h) : p.excludes v g = p.excludes v h := by
  have name := Head.name_of_same equal
  cases p
  case external r => simp only [excludes, even r rfl g h equal]
  all_goals simp only [excludes, name]

theorem chainExcludes_of_same (even : ∀ p ∈ ps, p.Even v) (equal : g.same h) :
    chainExcludes ps v g = chainExcludes ps v h := by
  induction ps
  case nil => rfl
  case cons p ps hi =>
    simp only [chainExcludes, excludes_of_same (even p mem_cons_self) equal,
      hi fun q hq => even q (mem_cons_of_mem _ hq)]

end Prefilter

namespace Hashing

open Resolution

variable {κ : Type} (H : Hashing κ)

theorem head_eq_of_same {r : Ref} {t u : Timestamp} (ht : t.Valid) (hu : u.Valid) (equal : t.same u) :
    H.head (Head.ofRef r t) = H.head (Head.ofRef r u) := by
  obtain ⟨k, n⟩ := r
  cases k
  case branch => rfl
  case tag => simp only [Head.ofRef, head, H.time_eq_of_same ht hu equal]

-- An entry for a head finds another: by its hash, then as an equal head, with an equal revision.
structure Finds (r q : Report) : Prop where
  hash     : H.head r.head = H.head q.head
  head     : r.head.same q.head
  revision : r.revision.same q.revision

-- Equal tables of heads and revisions, or the same failure.
def Agree : Except Failure (List Report) → Except Failure (List Report) → Prop
  | .ok rs, .ok qs => Forall₂ H.Finds rs qs
  | .error f, .error g => f = g
  | _, _ => False

theorem agree_of_refusals {x y : Refusal} (h : x.failure? = y.failure?) :
    H.Agree (heads (.error x)) (heads (.error y)) := by
  cases x <;> cases y <;> simp_all [heads, Refusal.failure?, Agree]

theorem agree_allow {s : Source} {r q : Report} (found : H.Finds r q)
    (even : ∀ p ∈ s.prefilters, p.Even s.view) :
    H.Agree (heads (allow s r.head >>= fun _ => .ok r)) (heads (allow s q.head >>= fun _ => .ok q)) := by
  unfold allow
  rw [Head.kind_of_same found.head, Prefilter.chainExcludes_of_same even found.head]
  cases s.wants q.head.kind
  case false => exact H.agree_of_refusals rfl
  case true =>
    match Prefilter.chainExcludes s.prefilters s.view q.head with
    | .ok false => exact .cons found .nil
    | .ok true => exact H.agree_of_refusals rfl
    | .error f => exact H.agree_of_refusals rfl

theorem finds_ofRef {t u : Timestamp} (ht : t.Valid) (hu : u.Valid) (equal : t.same u) (r : Ref)
    (commit : Option String) :
    H.Finds ⟨Head.ofRef r t, revisionOf (Head.ofRef r t) commit⟩
      ⟨Head.ofRef r u, revisionOf (Head.ofRef r u) commit⟩ where
  hash := H.head_eq_of_same ht hu equal
  head := Head.same_ofRef equal r
  revision := by
    have head := Head.same_ofRef equal r
    cases commit
    case none => exact head
    case some c => simp only [revisionOf, Revision.same, head, beq_self_eq_true, Bool.and_self]

theorem agree_bind {α : Type} (x : Except Refusal α) {f g : α → Except Refusal Report}
    (h : ∀ a, H.Agree (heads (f a)) (heads (g a))) : H.Agree (heads (x >>= f)) (heads (x >>= g)) := by
  cases x
  case error e => exact H.agree_of_refusals rfl
  case ok a => exact h a

theorem agree_resolve {p : Payload} {r : Repository} {t u : Timestamp} {s : Source} {al bl : Aliases}
    (ht : t.Valid) (hu : u.Valid) (equal : t.same u) (tables : al.Interchangeable bl)
    (even : ∀ p ∈ s.prefilters, p.Even s.view) :
    H.Agree (heads (p.resolve r t s al)) (heads (p.resolve r u s bl)) := by
  have screened : screen p.subject r s al = screen p.subject r s bl := by
    rw [screen, screen, tables.watches]
  rw [resolve_eq, resolve_eq, screened]
  refine H.agree_bind _ fun _ => H.agree_bind _ fun commit => H.agree_bind _ fun ref => ?_
  split_ifs
  case pos => exact H.agree_of_refusals rfl
  case neg => exact H.agree_allow (H.finds_ofRef ht hu equal ref commit) even

end Hashing

namespace HeadEvent

variable {d e : HeadEvent}

theorem isFor_eq_of_same (equal : d.same e) (tables : d.aliases.Interchangeable e.aliases) (s : Scope) :
    d.isFor s = e.isFor s := by
  obtain ⟨-, -, repository, -, -⟩ := same_iff.mp equal
  rw [isFor, isFor, repository]
  cases s
  case source s => exact tables.watches s e.repository
  case navigator n => rfl

theorem descriptionFor_eq_of_same (equal : d.same e) (s : Scope) : d.descriptionFor s = e.descriptionFor s := by
  obtain ⟨-, payload, repository, -, -⟩ := same_iff.mp equal
  unfold descriptionFor description
  rw [payload, repository]

theorem agree_heads {κ : Type} (H : Hashing κ) (hd : d.received.Valid) (he : e.received.Valid)
    (equal : d.same e) (tables : d.aliases.Interchangeable e.aliases) {s : Source}
    (even : ∀ p ∈ s.prefilters, p.Even s.view) : H.Agree (d.heads s) (e.heads s) := by
  obtain ⟨-, payload, repository, -, time⟩ := same_iff.mp equal
  rw [heads, heads, resolve, resolve, payload, repository]
  exact H.agree_resolve hd he time tables even

-- What a scope gets of one event it gets of the other, as long as its rules do not tell equal heads apart.
structure Exchangeable {κ : Type} (H : Hashing κ) (d e : HeadEvent) : Prop where
  concerned : ∀ s, d.isFor s = e.isFor s
  told      : ∀ s, d.descriptionFor s = e.descriptionFor s
  reported  : ∀ s : Source, (∀ p ∈ s.prefilters, p.Even s.view) → H.Agree (d.heads s) (e.heads s)

-- Equality looks at everything but the aliases, and at times as points in time; the size of a set of events
-- is the number of classes of equal ones, whatever their order and however often each is added.
theorem same_identifies {κ : Type} [DecidableEq κ] (H : Hashing κ) :
    (Equivalence fun d e : HeadEvent => (d.same e : Prop)) ∧
      (∀ d e : HeadEvent, d.received.Valid → e.received.Valid →
        (d.same e ↔ d.changeType = e.changeType ∧ d.received.Equal e.received ∧ d.origin = e.origin ∧
          d.repository = e.repository ∧ d.payload = e.payload) ∧
        (d.same e → H.event d = H.event e) ∧
        (d.same e → d.aliases.Interchangeable e.aliases → Exchangeable H d e)) ∧
      ∀ es : List HeadEvent, (∀ e ∈ es, e.received.Valid) →
        (H.collect es).length = (classes es).card ∧
          ∀ fs, (∀ e, e ∈ fs ↔ e ∈ es) → (H.collect fs).length = (H.collect es).length := by
  refine ⟨equivalence_same, fun d e hd he => ⟨?_, H.event_eq_of_same hd he, fun equal tables => ?_⟩,
    fun es valid => ?_⟩
  case refine_1 =>
    rw [same_iff, Timestamp.same_iff_equal hd he]
    constructor
    case mp =>
      exact fun ⟨changeType, payload, repository, origin, time⟩ =>
        ⟨changeType, time, origin, repository, payload⟩
    case mpr =>
      exact fun ⟨changeType, time, origin, repository, payload⟩ =>
        ⟨changeType, payload, repository, origin, time⟩
  case refine_2 =>
    exact {
      concerned := isFor_eq_of_same equal tables
      told := descriptionFor_eq_of_same equal
      reported := fun s even => agree_heads H hd he equal tables even }
  case refine_3 =>
    have size {fs : List HeadEvent} (valid : ∀ e ∈ fs, e.received.Valid) :
        (H.collect fs).length = (classes fs).card := by
      rw [H.collect_eq_distinct valid, length_distinct]
    refine ⟨size valid, fun fs members => ?_⟩
    rw [size valid, size fun e he => valid e ((members e).mp he), classes_congr members]

-- A tag that was created, at some time.
def tagged (received : Timestamp) (aliases : Aliases) : HeadEvent where
  payload :=
    { ref := "v1", subject := { name := some "widgets", owner := { login := some "acme" } }
      change := .create (some "tag") }
  repository := ⟨"one.example.com", "acme", "widgets"⟩
  origin := "hooks"
  received
  aliases

def noon : Timestamp := { year := 2024, month := 5, day := 1, hour := 12, offset := some 0 }

-- The same time on a clock further east.
def afternoon : Timestamp := { year := 2024, month := 5, day := 1, hour := 14, offset := some 7200000000 }

-- Hashes that collide all the time.
def lengths : Hashing Nat where
  text := String.length
  flag := Bool.toNat
  changeType _ := 0
  repository r := r.name.length
  payload p := p.ref.length
  clock t := t.hour
  instant := Int.natAbs
  row := List.sum

theorem same_identifies_noon :
    let al : Aliases := [("api.github.com", "github.com"), ("ghe.example.com", "one.example.com")]
    let d := tagged noon al
    let e := tagged afternoon al.reverse
    d.received.Valid ∧ e.received.Valid ∧ d.same e ∧ d.aliases.Interchangeable e.aliases ∧
      lengths.event d = lengths.event e ∧ Exchangeable lengths d e ∧
      (lengths.collect [d, e, d]).length = (classes [d, e, d]).card := by
  intro al d e
  obtain ⟨-, pairs, sets⟩ := same_identifies lengths
  have hd : d.received.Valid := by decide
  have he : e.received.Valid := by decide
  have equal : d.same e := by decide +kernel
  have unambiguous : al.Unambiguous := by
    unfold Aliases.Unambiguous
    decide +kernel
  have tables : d.aliases.Interchangeable e.aliases := .inr ⟨(reverse_perm al).symm, unambiguous⟩
  obtain ⟨-, hash, exchangeable⟩ := pairs d e hd he
  have valid : ∀ c ∈ [d, e, d], c.received.Valid := by
    simp only [mem_cons, not_mem_nil, or_false, forall_eq_or_imp, forall_eq]
    exact ⟨hd, he, hd⟩
  exact ⟨hd, he, equal, tables, hash equal, exchangeable equal tables, (sets _ valid).left⟩

-- A table that is read from either end, and a rule that looks at how a time is written.
theorem told_apart :
    let s : Source :=
      { owner := "acme", repository := "widgets", wantTags := true
        api := some "https://ghe.example.com/api/v3" }
    let utc : Prefilter.Rule :=
      { handle := 0, answer := fun | _, .tag _ t _ => .ok (t.offset == some 0) | _, .branch _ => .ok false }
    let d := tagged noon Aliases.twice
    let e := tagged noon Aliases.twice.reverse
    let f := tagged afternoon Aliases.twice
    (d.same e ∧ d.aliases.Perm e.aliases ∧ (d.aliases.map (·.1)).Nodup ∧
      d.isFor (.source s) = .ok true ∧ e.isFor (.source s) = .ok false) ∧
      d.same f ∧ d.aliases = f.aliases ∧ d.heads { s with prefilters := [.external utc] } = .ok [] ∧
        f.heads { s with prefilters := [.external utc] } =
          .ok [⟨.tag "v1" afternoon true, .unresolved (.tag "v1" afternoon true)⟩] := by
  intro s utc d e f
  have perm : d.aliases.Perm e.aliases := (reverse_perm Aliases.twice).symm
  exact ⟨⟨by decide +kernel, perm, by decide, by decide +kernel, by decide +kernel⟩, by decide +kernel, rfl,
    by decide +kernel, by decide +kernel⟩

end HeadEvent

end RefWatch
