import RefWatch.Proofs.Consultation
import RefWatch.Proofs.Resolution

namespace RefWatch

namespace Source

def appended (s : Source) (ps : List Prefilter) : Source := { s with prefilters := s.prefilters ++ ps }

-- The rules that a source has answer about a head as before once prefilters are appended. They are shown
-- the longer chain as well, and they may look at it.
def Steady (s : Source) (ps : List Prefilter) (h : Head) : Prop :=
  ∀ r, .external r ∈ s.prefilters → r.answer (s.appended ps).view h = r.answer s.view h

theorem Steady.excludes {s : Source} {ps : List Prefilter} {h : Head} (steady : s.Steady ps h) {p : Prefilter}
    (hp : p ∈ s.prefilters) : p.excludes (s.appended ps).view h = p.excludes s.view h := by
  cases p
  case external r => exact congrArg (Except.mapError Prefilter.Failure.unanswered) (steady r hp)
  all_goals rfl

end Source

namespace Resolution

open Prefilter

variable {v : View} {ps qs : List Prefilter} {rep : Report} {x : Except Refusal Report}
variable {p : Payload} {r : Repository} {t : Timestamp} {s : Source} {al : Aliases}

-- A report that passes through a chain of prefilters.
def sift (v : View) (ps : List Prefilter) (rep : Report) : Except Refusal Report :=
  match chainExcludes ps v rep.head with
  | .error f => .error (.filterFailed rep.head f)
  | .ok true => .error (.excluded rep.head)
  | .ok false => .ok rep

theorem sift_eq_ok_iff {q : Report} :
    sift v ps rep = .ok q ↔ rep = q ∧ chainExcludes ps v rep.head = .ok false := by
  unfold sift
  match chainExcludes ps v rep.head with
  | .ok false | .ok true | .error _ => simp

theorem sift_fails_iff {g : Failure} :
    Fails (sift v ps rep) g ↔ ∃ f, chainExcludes ps v rep.head = .error f ∧ g = .filterFailed f := by
  unfold sift
  match chainExcludes ps v rep.head with
  | .ok false | .ok true | .error _ => simp [Fails, Refusal.failure?, eq_comm]

-- Chains in a row are sieves in a row.
theorem sift_append (v : View) (ps qs : List Prefilter) (rep : Report) :
    sift v (ps ++ qs) rep = sift v ps rep >>= sift v qs := by
  unfold sift
  rw [chainExcludes_append]
  match chainExcludes ps v rep.head with
  | .ok false | .ok true | .error _ => rfl

theorem allow_bind_eq (s : Source) (rep : Report) :
    (allow s rep.head >>= fun _ => .ok rep) =
      if s.wants rep.head.kind then sift s.view s.prefilters rep else .error (.unwanted rep.head) := by
  unfold allow sift
  cases s.wants rep.head.kind
  case false => rfl
  case true =>
    match chainExcludes s.prefilters s.view rep.head with
    | .ok false | .ok true | .error _ => rfl

theorem allow_eq_sift (s : Source) (rep : Report) :
    (allow s rep.head >>= fun _ => .ok rep) =
      (allow { s with prefilters := [] } rep.head >>= fun _ => .ok rep) >>= sift s.view s.prefilters := by
  have wants : { s with prefilters := [] }.wants rep.head.kind = s.wants rep.head.kind := rfl
  rw [allow_bind_eq, allow_bind_eq, wants]
  cases s.wants rep.head.kind <;> rfl

theorem resolve_eq_sift (p : Payload) (r : Repository) (t : Timestamp) (s : Source) (al : Aliases) :
    p.resolve r t s al = p.resolve r t { s with prefilters := [] } al >>= sift s.view s.prefilters := by
  have screened : screen p.subject r { s with prefilters := [] } al = screen p.subject r s al := rfl
  rw [resolve_eq, resolve_eq, screened]
  simp only [bind_assoc]
  refine bind_congr fun _ => bind_congr fun commit => bind_congr fun ref => ?_
  split_ifs
  case pos => rfl
  case neg => exact allow_eq_sift s ⟨Head.ofRef ref t, revisionOf (Head.ofRef ref t) commit⟩

theorem bind_congr_of_ok {f g : Report → Except Refusal Report} (h : ∀ rep, x = .ok rep → f rep = g rep) :
    x >>= f = x >>= g := by
  cases x
  case error => rfl
  case ok rep => exact h rep rfl

theorem sift_congr (answers : ∀ p ∈ ps, p.excludes v rep.head = p.excludes s.view rep.head) :
    sift v ps rep = sift s.view ps rep := by
  unfold sift
  rw [chainExcludes_congr answers]

-- Whether a head is a candidate is decided without the prefilters.
theorem candidate_of_bare {rep : Report}
    (reported : p.resolve r t { s with prefilters := [] } al = .ok rep) :
    Candidate p r t s al rep.head := by
  obtain ⟨c, -, -⟩ := resolve_eq_ok_iff.mp reported
  exact { c with }

theorem resolve_appended (steady : ∀ h, Candidate p r t s al h → s.Steady ps h) :
    p.resolve r t (s.appended ps) al = p.resolve r t s al >>= sift (s.appended ps).view ps := by
  have longer : p.resolve r t (s.appended ps) al =
      p.resolve r t { s with prefilters := [] } al >>= sift (s.appended ps).view (s.prefilters ++ ps) :=
    resolve_eq_sift p r t (s.appended ps) al
  rw [longer, resolve_eq_sift p r t s al, bind_assoc]
  refine bind_congr_of_ok fun rep reported => ?_
  have kept := steady rep.head (candidate_of_bare reported)
  calc
    sift (s.appended ps).view (s.prefilters ++ ps) rep
    _ = sift (s.appended ps).view s.prefilters rep >>= sift (s.appended ps).view ps := sift_append ..
    _ = sift s.view s.prefilters rep >>= sift (s.appended ps).view ps := by
      rw [sift_congr fun p hp => kept.excludes hp]

theorem heads_bind_sift_eq_ok_iff {rs : List Report} :
    heads (x >>= sift v ps) = .ok (rep :: rs) ↔
      rs = [] ∧ heads x = .ok [rep] ∧ chainExcludes ps v rep.head = .ok false := by
  simp only [heads_eq_ok_iff, bind_eq_ok_iff, sift_eq_ok_iff, and_true]
  constructor
  case mp =>
    rintro ⟨⟨_, reported, rfl, pass⟩, single⟩
    exact ⟨single, reported, pass⟩
  case mpr =>
    rintro ⟨single, reported, pass⟩
    exact ⟨⟨rep, reported, rfl, pass⟩, single⟩

theorem heads_bind_sift_eq_error_iff {g : Failure} :
    heads (x >>= sift v ps) = .error g ↔
      heads x = .error g ∨
        ∃ rep f, heads x = .ok [rep] ∧ chainExcludes ps v rep.head = .error f ∧ g = .filterFailed f := by
  simp only [heads_eq_error_iff, fails_bind_iff, sift_fails_iff, heads_eq_ok_iff, and_true,
    exists_and_left]

-- The first prefilter that does not let a head pass decides, and none behind it is asked; without failures
-- only the members of a chain count. Those appended to the chain of a source only take away what it was told
-- without them, or fail over it, as long as the rules that it has do not answer otherwise for that.
theorem chain_sifts_in_order (s : Source) (v : View) (h : Head) :
    (∀ ps qs, chainExcludes (ps ++ qs) v h =
      if chainExcludes ps v h = .ok false then chainExcludes qs v h else chainExcludes ps v h) ∧
    (∀ ps, chainExcludes ps v h = ps.anyM (·.excludes v h) ∧ (consult ps v h).1 = chainExcludes ps v h ∧
      ((∀ p ∈ ps, p.excludes v h = .ok false) → consult ps v h = (.ok false, ps))) ∧
    (∀ ps p qs, (∀ q ∈ ps, q.excludes v h = .ok false) → p.excludes v h ≠ .ok false →
      consult (ps ++ p :: qs) v h = (p.excludes v h, ps ++ [p])) ∧
    (∀ ps qs, (∀ p, p ∈ ps ↔ p ∈ qs) → (∀ p ∈ ps, ∃ b, p.excludes v h = .ok b) →
      chainExcludes ps v h = chainExcludes qs v h) ∧
    (∀ (p : Payload) (r : Repository) (t : Timestamp) (al : Aliases) (ps : List Prefilter),
      (∀ h, Candidate p r t s al h → s.Steady ps h) →
      let before := heads (p.resolve r t s al)
      let after := heads (p.resolve r t (s.appended ps) al)
      (∀ rep rs, after = .ok (rep :: rs) ↔
        rs = [] ∧ before = .ok [rep] ∧ chainExcludes ps (s.appended ps).view rep.head = .ok false) ∧
      ∀ g, after = .error g ↔ before = .error g ∨
        ∃ rep f, before = .ok [rep] ∧ chainExcludes ps (s.appended ps).view rep.head = .error f ∧
          g = .filterFailed f) ∧
    ∀ typeName (subject : Payload.Subject) (r : Repository) (al : Aliases) (ps : List Prefilter),
      unsupported typeName subject r (s.appended ps) al = unsupported typeName subject r s al := by
  refine ⟨fun ps qs => chainExcludes_append ps qs v h,
    fun ps => ⟨chainExcludes_eq_anyM ps v h, fst_consult ps v h, consult_of_pass⟩,
    fun ps p qs pass stop => consult_append_cons_of_stop pass stop qs,
    fun ps qs => chainExcludes_eq_of_mem_iff, fun p r t al ps steady => ?_, fun _ _ _ _ _ => rfl⟩
  intro before after
  have sifted : after = heads (p.resolve r t s al >>= sift (s.appended ps).view ps) :=
    congrArg heads (resolve_appended steady)
  rw [sifted]
  exact ⟨fun rep rs => heads_bind_sift_eq_ok_iff, fun g => heads_bind_sift_eq_error_iff⟩

-- A prefilter that fails stands between one that lets all releases pass and one that excludes them. The
-- source has a rule that looks at its owner, and that stays the same.
theorem chain_sifts_in_order_outage :
    let h : Head := .branch "release-1.0"
    let calm : Prefilter := .wildcard "*" "wip-*"
    let down : Prefilter := .failing "down"
    let strict : Prefilter := .wildcard "main" ""
    let foreign : Prefilter := .external { handle := 0, answer := fun v _ => .ok (v.owner != "acme") }
    let p : Payload :=
      { ref := "refs/heads/release-1.0", change := .delete
        subject := { name := some "widgets", owner := { login := some "acme" } } }
    let r : Repository := { host := "github.com", owner := "acme", name := "widgets" }
    let t := Timestamp.ofInstant 0
    let s : Source := { owner := "acme", repository := "widgets", prefilters := [foreign, calm] }
    ((∀ q ∈ [foreign, calm], q.excludes s.view h = .ok false) ∧ down.excludes s.view h ≠ .ok false ∧
      consult ([foreign, calm] ++ down :: [strict]) s.view h =
        (.error (.unanswered "down"), [foreign, calm, down])) ∧
    ((∀ q, q ∈ [calm, strict] ↔ q ∈ [strict, calm, strict]) ∧
      (∀ q ∈ [calm, strict], ∃ b, q.excludes s.view h = .ok b) ∧
      chainExcludes [calm, strict] s.view h = chainExcludes [strict, calm, strict] s.view h) ∧
    (∀ h, Candidate p r t s Aliases.standard h → s.Steady [down, strict] h) ∧
      heads (p.resolve r t s Aliases.standard) = .ok [⟨h, .unresolved h⟩] ∧
      heads (p.resolve r t (s.appended [down, strict]) Aliases.standard) =
        .error (.filterFailed (.unanswered "down")) := by
  intro h calm down strict foreign p r t s
  obtain ⟨-, -, first, unordered, resolved, -⟩ := chain_sifts_in_order s s.view h
  have steady : ∀ h, s.Steady [down, strict] h := by
    intro h r hr
    simp only [s, calm, foreign, List.mem_cons, List.not_mem_nil, reduceCtorEq, or_false,
      external.injEq] at hr
    rw [hr]
    rfl
  obtain ⟨-, failed⟩ := resolved p r t Aliases.standard [down, strict] fun h _ => steady h
  have pass : ∀ q ∈ [foreign, calm], q.excludes s.view h = .ok false := by
    simp only [List.mem_cons, List.not_mem_nil, or_false, forall_eq_or_imp, forall_eq]
    exact ⟨by decide +kernel, by decide +kernel⟩
  have stop : down.excludes s.view h ≠ .ok false := nofun
  have members : ∀ q, q ∈ [calm, strict] ↔ q ∈ [strict, calm, strict] := by simp [or_comm]
  have answers : ∀ q ∈ [calm, strict], ∃ b, q.excludes s.view h = .ok b := by
    simp only [List.mem_cons, List.not_mem_nil, or_false, forall_eq_or_imp, forall_eq]
    exact ⟨⟨_, rfl⟩, ⟨_, rfl⟩⟩
  have told : heads (p.resolve r t s Aliases.standard) = .ok [⟨h, .unresolved h⟩] := by decide +kernel
  exact ⟨⟨pass, stop, first [foreign, calm] down [strict] pass stop⟩,
    ⟨members, answers, unordered _ _ members answers⟩, fun h _ => steady h, told,
    (failed _).mpr (.inr ⟨_, _, told, rfl, rfl⟩)⟩

-- A rule that excludes everything as long as it stands alone.
theorem appended_reports_more :
    let h : Head := .branch "main"
    let alone : Prefilter := .external { handle := 0, answer := fun v _ => .ok (v.prefilters.length == 1) }
    let p : Payload :=
      { ref := "refs/heads/main", change := .delete
        subject := { name := some "widgets", owner := { login := some "acme" } } }
    let r : Repository := { host := "github.com", owner := "acme", name := "widgets" }
    let t := Timestamp.ofInstant 0
    let s : Source := { owner := "acme", repository := "widgets", prefilters := [alone] }
    heads (p.resolve r t s Aliases.standard) = .ok [] ∧
      heads (p.resolve r t (s.appended [.wildcard "*" ""]) Aliases.standard) =
        .ok [⟨h, .unresolved h⟩] := by
  decide +kernel

end Resolution

end RefWatch
