import RefWatch.Proofs.Prefilter
import RefWatch.Resolution

namespace RefWatch.Resolution

section

variable {ε α β : Type} {x : Except ε α} {f : α → Except ε β}

theorem bind_eq_ok_iff {b : β} : (x >>= f) = .ok b ↔ ∃ a, x = .ok a ∧ f a = .ok b := by
  cases x <;> simp [bind, Except.bind]

theorem bind_eq_error_iff {e : ε} :
    (x >>= f) = .error e ↔ x = .error e ∨ ∃ a, x = .ok a ∧ f a = .error e := by
  cases x <;> simp [bind, Except.bind]

end

variable {p : Payload} {r : Repository} {t : Timestamp} {s : Source} {al : Aliases}

-- The kind and name that a change prescribes: told beside the ref, or read off it.
inductive Prescribes : Payload.Change → String → Ref → Prop
  | create (k : RefKind) (ref : String) : Prescribes (.create (some k.name)) ref ⟨k, k.short ref⟩
  | delete (ref : String) : Prescribes .delete ref (Ref.classify ref)
  | push (after head : Option String) (created deleted : Bool) (ref : String) :
    Prescribes (.push after head created deleted) ref (Ref.classify ref)

-- The revision that goes with a head: a push pins it to a commit id, nothing else pins it.
inductive Marks : Payload.Change → Head → Revision → Prop
  | pinned {after head : Option String} {created deleted : Bool} {commit : String} (h : Head)
    (told : firstFilled after head = some commit) (length : commit.toList.length = 40)
    (digits : ∀ c ∈ commit.toList, Text.isHexDigit c) :
    Marks (.push after head created deleted) h (.pinned h commit)
  | unresolved {change : Payload.Change} (h : Head) (kind : change.kind ≠ .push) :
    Marks change h (.unresolved h)

-- What makes a head one that a payload may report to a source, its prefilters apart.
structure Candidate (p : Payload) (r : Repository) (t : Timestamp) (s : Source) (al : Aliases)
    (h : Head) : Prop where
  watched    : s.watches r al = .ok true
  repository : ∃ name, p.subject.name = some name ∧ Name.isRepository name
  owner      : ∃ name, p.subject.ownerName = some name ∧ Name.isAccount name
  commit     : ∃ m, Marks p.change h m
  prescribed : Prescribes p.change p.ref ⟨h.kind, h.name⟩
  named      : h.name ≠ ""
  time       : ∀ name time approximate, h = .tag name time approximate → time = t ∧ approximate
  wanted     : s.wants h.kind

theorem Marks.head_eq {change : Payload.Change} {h : Head} {m : Revision} (k : Marks change h m) :
    m.head = h := by
  cases k <;> rfl

theorem Marks.eq_revisionOf {change : Payload.Change} {h : Head} {m : Revision}
    (k : Marks change h m) : ∃ commit, m = revisionOf h commit := by
  cases k
  case pinned commit _ _ _ => exact ⟨some commit, rfl⟩
  case unresolved => exact ⟨none, rfl⟩

theorem isCommit_iff {c : String} :
    Name.isCommit c ↔ c.toList.length = 40 ∧ ∀ x ∈ c.toList, Text.isHexDigit x := by
  rw [Name.isCommit, Name.commitLength, Bool.and_eq_true, decide_eq_true_iff, List.all_eq_true]

theorem hasForm_iff {form : String → Bool} {s : Option String} :
    hasForm form s ↔ ∃ name, s = some name ∧ form name := by
  cases s <;> simp [hasForm]

def Refusal.failure? : Refusal → Option Failure
  | badHost f => some (.badHost f)
  | filterFailed _ f => some (.filterFailed f)
  | _ => none

def Fails {α : Type} (x : Except Refusal α) (g : Failure) : Prop :=
  ∃ e, x = .error e ∧ e.failure? = some g

theorem heads_eq_error_iff {x : Except Refusal Report} {g : Failure} :
    heads x = .error g ↔ Fails x g := by
  cases x
  case ok => simp [heads, Fails]
  case error e => cases e <;> simp [heads, Fails, Refusal.failure?]

theorem heads_eq_ok_iff {x : Except Refusal Report} {rep : Report} {rs : List Report} :
    heads x = .ok (rep :: rs) ↔ x = .ok rep ∧ rs = [] := by
  cases x
  case ok => simp [heads, eq_comm]
  case error e => cases e <;> simp [heads]

theorem length_le_of_heads_eq {x : Except Refusal Report} {rs : List Report}
    (h : heads x = .ok rs) : rs.length ≤ 1 := by
  cases rs
  case nil => simp
  case cons rep rs => simp [(heads_eq_ok_iff.mp h).right]

section

variable {α β : Type} {g : Failure}

theorem not_fails_ok {a : α} : ¬Fails (.ok a) g := by
  simp [Fails]

theorem fails_error_iff {e : Refusal} : Fails (.error e : Except Refusal α) g ↔ e.failure? = some g := by
  simp [Fails]

theorem fails_bind_iff {x : Except Refusal α} {f : α → Except Refusal β} :
    Fails (x >>= f) g ↔ Fails x g ∨ ∃ a, x = .ok a ∧ Fails (f a) g := by
  cases x <;> simp [Fails, bind, Except.bind]

end

-- All that screening a payload can come to.
theorem screen_cases (s : Source) (r : Repository) (al : Aliases) (subject : Payload.Subject) :
    (∃ f, s.watches r al = .error f ∧ screen subject r s al = .error (.badHost f)) ∨
    (s.watches r al = .ok true ∧ hasForm Name.isRepository subject.name ∧
      hasForm Name.isAccount subject.ownerName ∧ screen subject r s al = .ok ()) ∨
    (¬(s.watches r al = .ok true ∧ hasForm Name.isRepository subject.name ∧
      hasForm Name.isAccount subject.ownerName) ∧ (∀ f, s.watches r al ≠ .error f) ∧
      ∃ e, screen subject r s al = .error e ∧ e.failure? = none) := by
  unfold screen
  match s.watches r al with
  | .error f => exact .inl ⟨f, rfl, rfl⟩
  | .ok false => exact .inr (.inr ⟨by simp, by simp, .notWatched, rfl, rfl⟩)
  | .ok true =>
    cases hasForm Name.isRepository subject.name
    case false => exact .inr (.inr ⟨by simp, by simp, .badRepositoryName _, rfl, rfl⟩)
    case true =>
      cases hasForm Name.isAccount subject.ownerName
      case false => exact .inr (.inr ⟨by simp, by simp, .badOwnerName _, rfl, rfl⟩)
      case true => exact .inr (.inl ⟨rfl, rfl, rfl, rfl⟩)

theorem screen_eq_ok_iff {subject : Payload.Subject} {u : Unit} :
    screen subject r s al = .ok u ↔
      s.watches r al = .ok true ∧ hasForm Name.isRepository subject.name ∧
        hasForm Name.isAccount subject.ownerName := by
  obtain ⟨f, hw, e⟩ | ⟨hw, hr, ho, e⟩ | ⟨hn, -, _, e, -⟩ := screen_cases s r al subject
  case inl => simp [hw, e]
  case inr.inl => simp [hw, hr, ho, e]
  case inr.inr => simp [hn, e]

theorem screen_fails_iff {subject : Payload.Subject} {g : Failure} :
    Fails (screen subject r s al) g ↔ ∃ f, g = .badHost f ∧ s.watches r al = .error f := by
  obtain ⟨f, hw, e⟩ | ⟨hw, -, -, e⟩ | ⟨-, hw, _, e, he⟩ := screen_cases s r al subject
  case inl => simp [hw, e, fails_error_iff, Refusal.failure?, eq_comm]
  case inr.inl => simp [hw, e, not_fails_ok]
  case inr.inr => simp [hw, e, he, fails_error_iff]

-- The address of the source alone decides whether its host can be compared.
theorem watches_eq_error_iff {f : Url.Fault} :
    s.watches r al = .error f ↔ Host.ofApi s.api al = .error f := by
  simp [Source.watches, bind_eq_error_iff, pure, Except.pure]

theorem commitOf_eq_ok_iff {change : Payload.Change} {c : Option String} (h : Head) :
    commitOf change = .ok c ↔ Marks change h (revisionOf h c) := by
  constructor
  case mp =>
    intro e
    unfold commitOf at e
    split at e
    case h_1 after head _ _ =>
      split at e <;> try split at e
      case h_1.isTrue c hc hv =>
        cases e
        have ⟨length, digits⟩ := isCommit_iff.mp hv
        exact .pinned h hc length digits
      all_goals cases e
    case h_2 hp =>
      cases e
      refine .unresolved h fun hk => ?_
      cases change
      case push => exact hp _ _ _ _ rfl
      all_goals cases hk
  case mpr =>
    intro m
    cases c
    case none =>
      cases m
      case unresolved kind =>
        cases change
        case push => exact absurd rfl kind
        all_goals rfl
    case some c =>
      cases m
      case pinned told length digits =>
        have hv : Name.isCommit c := isCommit_iff.mpr ⟨length, digits⟩
        simp [commitOf, Payload.Change.commit, told, hv]

theorem not_commitOf_fails {change : Payload.Change} {g : Failure} : ¬Fails (commitOf change) g := by
  unfold commitOf
  split
  case h_1 =>
    split
    case h_1 => split <;> simp [Fails, Refusal.failure?]
    case h_2 => simp [Fails, Refusal.failure?]
  case h_2 => simp [Fails]

theorem refOf_eq_ok_iff {ref : Ref} : refOf p = .ok ref ↔ Prescribes p.change p.ref ref := by
  obtain ⟨text, subject, change⟩ := p
  cases change
  case create refType =>
    constructor
    case mp =>
      intro e
      simp only [refOf] at e
      split at e
      case h_1 k hk =>
        obtain ⟨name, rfl, hk⟩ := Option.bind_eq_some_iff.mp hk
        cases RefKind.ofName?_eq_some_iff.mp hk
        cases e
        exact .create k text
      case h_2 => cases e
    case mpr =>
      intro m
      cases m
      case create k => simp [refOf, RefKind.ofName?_name]
  case delete =>
    refine ⟨fun e => ?_, fun m => ?_⟩
    · cases e; exact .delete text
    · cases m; rfl
  case push =>
    refine ⟨fun e => ?_, fun m => ?_⟩
    · cases e; exact .push _ _ _ _ text
    · cases m; rfl

theorem not_refOf_fails {g : Failure} : ¬Fails (refOf p) g := by
  unfold refOf
  split
  case h_1 => split <;> simp [Fails, Refusal.failure?]
  all_goals simp [Fails]

theorem allow_eq_ok_iff {h : Head} {u : Unit} :
    allow s h = .ok u ↔ s.wants h.kind ∧ Prefilter.chainExcludes s.prefilters s.view h = .ok false := by
  unfold allow
  cases s.wants h.kind
  case false => simp [throw, throwThe, MonadExceptOf.throw, bind, Except.bind]
  case true =>
    match Prefilter.chainExcludes s.prefilters s.view h with
    | .ok false | .ok true | .error _ => simp [throw, throwThe, MonadExceptOf.throw, pure, Except.pure]

theorem allow_fails_iff {h : Head} {g : Failure} :
    Fails (allow s h) g ↔
      ∃ f, g = .filterFailed f ∧ s.wants h.kind ∧ Prefilter.chainExcludes s.prefilters s.view h = .error f := by
  unfold allow
  cases s.wants h.kind
  case false =>
    simp [throw, throwThe, MonadExceptOf.throw, bind, Except.bind, Fails, Refusal.failure?]
  case true =>
    match Prefilter.chainExcludes s.prefilters s.view h with
    | .ok false | .ok true | .error _ =>
      simp [throw, throwThe, MonadExceptOf.throw, pure, Except.pure, Fails, Refusal.failure?, eq_comm]

theorem resolve_eq :
    p.resolve r t s al =
      (do
        screen p.subject r s al
        let commit ← commitOf p.change
        let ref ← refOf p
        if ref.name = "" then .error .noName
        else
          allow s (Head.ofRef ref t)
          .ok ⟨Head.ofRef ref t, revisionOf (Head.ofRef ref t) commit⟩) := by
  unfold Payload.resolve
  cases screen p.subject r s al <;> cases commitOf p.change <;> cases refOf p <;> rfl

-- The head that comes of a ref, told by its parts.
theorem eq_ofRef_iff {h : Head} {ref : Ref} :
    h = Head.ofRef ref t ↔ ref = ⟨h.kind, h.name⟩ ∧
      ∀ name time approximate, h = .tag name time approximate → time = t ∧ approximate := by
  obtain ⟨k, n⟩ := ref
  cases k <;> cases h <;> simp [Head.ofRef, Head.kind, Head.name, eq_comm]

theorem candidate_iff {h : Head} :
    Candidate p r t s al h ↔
      screen p.subject r s al = .ok () ∧ (∃ commit, commitOf p.change = .ok commit) ∧
        ∃ ref, refOf p = .ok ref ∧ ref.name ≠ "" ∧ h = Head.ofRef ref t ∧ s.wants h.kind := by
  constructor
  case mp =>
    intro c
    refine ⟨?_, ?_, ⟨h.kind, h.name⟩, refOf_eq_ok_iff.mpr c.prescribed, c.named, ?_, c.wanted⟩
    · exact screen_eq_ok_iff.mpr ⟨c.watched, hasForm_iff.mpr c.repository, hasForm_iff.mpr c.owner⟩
    · obtain ⟨m, k⟩ := c.commit
      have ⟨commit, e⟩ := k.eq_revisionOf
      exact ⟨commit, (commitOf_eq_ok_iff h).mpr (e ▸ k)⟩
    · exact eq_ofRef_iff.mpr ⟨rfl, c.time⟩
  case mpr =>
    rintro ⟨hs, ⟨commit, hc⟩, ref, hr, hn, rfl, hw⟩
    have ⟨watched, repository, owner⟩ := screen_eq_ok_iff.mp hs
    have ⟨he, time⟩ := eq_ofRef_iff.mp (rfl : Head.ofRef ref t = _)
    exact {
      watched, time
      repository := hasForm_iff.mp repository
      owner := hasForm_iff.mp owner
      commit := ⟨_, (commitOf_eq_ok_iff _).mp hc⟩
      prescribed := refOf_eq_ok_iff.mp (he ▸ hr)
      named := (Head.name_ofRef ref t).symm ▸ hn
      wanted := hw }

theorem resolve_eq_ok_iff {h : Head} {m : Revision} :
    p.resolve r t s al = .ok ⟨h, m⟩ ↔
      Candidate p r t s al h ∧ Marks p.change h m ∧
        Prefilter.chainExcludes s.prefilters s.view h = .ok false := by
  simp only [resolve_eq, bind_eq_ok_iff, candidate_iff]
  constructor
  case mp =>
    rintro ⟨_, hs, commit, hc, ref, hr, e⟩
    split at e
    case isTrue => cases e
    case isFalse hn =>
      obtain ⟨_, ha, e⟩ := bind_eq_ok_iff.mp e
      have ⟨hw, hp⟩ := allow_eq_ok_iff.mp ha
      cases e
      exact ⟨⟨hs, ⟨commit, hc⟩, ref, hr, hn, rfl, hw⟩, (commitOf_eq_ok_iff _).mp hc, hp⟩
  case mpr =>
    rintro ⟨⟨hs, -, ref, hr, hn, rfl, hw⟩, k, hp⟩
    obtain ⟨commit, rfl⟩ := k.eq_revisionOf
    refine ⟨(), hs, commit, (commitOf_eq_ok_iff _).mpr k, ref, hr, ?_⟩
    rw [if_neg hn]
    exact bind_eq_ok_iff.mpr ⟨(), allow_eq_ok_iff.mpr ⟨hw, hp⟩, rfl⟩

theorem resolve_fails_iff {g : Failure} :
    Fails (p.resolve r t s al) g ↔
      (∃ f, g = .badHost f ∧ Host.ofApi s.api al = .error f) ∨
      ∃ f h, g = .filterFailed f ∧ Candidate p r t s al h ∧
        Prefilter.chainExcludes s.prefilters s.view h = .error f := by
  simp only [resolve_eq, fails_bind_iff, screen_fails_iff, watches_eq_error_iff, not_commitOf_fails,
    not_refOf_fails, false_or, candidate_iff]
  apply or_congr_right
  constructor
  case mp =>
    rintro ⟨_, hs, commit, hc, ref, hr, hf⟩
    split at hf
    case isTrue => simp [fails_error_iff, Refusal.failure?] at hf
    case isFalse hn =>
      simp only [fails_bind_iff, not_fails_ok, and_false, exists_false, or_false] at hf
      have ⟨f, hg, hw, hp⟩ := allow_fails_iff.mp hf
      exact ⟨f, _, hg, ⟨hs, ⟨commit, hc⟩, ref, hr, hn, rfl, hw⟩, hp⟩
  case mpr =>
    rintro ⟨f, _, hg, ⟨hs, ⟨commit, hc⟩, ref, hr, hn, rfl, hw⟩, hp⟩
    refine ⟨(), hs, commit, hc, ref, hr, ?_⟩
    rw [if_neg hn]
    exact fails_bind_iff.mpr (.inl (allow_fails_iff.mpr ⟨f, hg, hw, hp⟩))

-- At most one head is reported: the candidate, with the revision that goes with it, if no prefilter
-- excludes it and none that is asked fails. The call fails only over the address of the source, or
-- over a prefilter that is asked about a candidate.
theorem heads_resolve_iff (p : Payload) (r : Repository) (t : Timestamp) (s : Source) (al : Aliases) :
    (∀ rs, heads (p.resolve r t s al) = .ok rs → rs.length ≤ 1) ∧
    (∀ h m, heads (p.resolve r t s al) = .ok [⟨h, m⟩] ↔
      Candidate p r t s al h ∧ Marks p.change h m ∧ m.head = h ∧
        (∀ f ∈ s.prefilters, f.excludes s.view h ≠ .ok true) ∧
        ∀ f, Prefilter.Asked s.prefilters s.view h f → ∀ e, f.excludes s.view h ≠ .error e) ∧
    (∀ g, heads (p.resolve r t s al) = .error g ↔
      (∃ f, g = .badHost f ∧ Host.ofApi s.api al = .error f) ∨
      ∃ e h f, g = .filterFailed e ∧ Candidate p r t s al h ∧ Prefilter.Asked s.prefilters s.view h f ∧
        f.excludes s.view h = .error e) := by
  refine ⟨fun _ => length_le_of_heads_eq, fun h m => ?_, fun g => ?_⟩
  · rw [heads_eq_ok_iff, resolve_eq_ok_iff, Prefilter.chainExcludes_eq_ok_false_iff_asked]
    constructor
    case mp => exact fun ⟨⟨c, k, hf, ha⟩, _⟩ => ⟨c, k, k.head_eq, hf, ha⟩
    case mpr => exact fun ⟨c, k, _, hf, ha⟩ => ⟨⟨c, k, hf, ha⟩, rfl⟩
  · rw [heads_eq_error_iff, resolve_fails_iff]
    simp only [Prefilter.chainExcludes_eq_error_iff, exists_and_left]

end RefWatch.Resolution
