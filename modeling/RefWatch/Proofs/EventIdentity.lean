import Mathlib.Data.Finset.Card
import RefWatch.HeadEvent
import RefWatch.Proofs.Calendar

namespace RefWatch

open List

namespace Timestamp

variable {s t : Timestamp}

-- The same reading of a clock without an offset, or the same instant.
inductive Equal : Timestamp → Timestamp → Prop
  | naive {t : Timestamp} (offset : t.offset = none) : Equal t t
  | aware {s t : Timestamp} (left : s.isAware) (right : t.isAware) (instant : s.instant = t.instant) :
    Equal s t

theorem same_iff_equal (hs : s.Valid) (ht : t.Valid) : s.same t ↔ Equal s t := by
  rw [same, Bool.and_eq_true, beq_iff_eq, beq_iff_eq]
  constructor
  case mp =>
    rintro ⟨known, instant⟩
    cases so : s.offset
    case none =>
      have so' : t.offset = none := by simpa [isAware, so] using known.symm
      have walls : s.wall = t.wall := by simpa [Timestamp.instant, so, so'] using instant
      rw [eq_of_wall_eq hs ht (so.trans so'.symm) walls]
      exact .naive so'
    case some =>
      have left : s.isAware := by rw [isAware, so]; rfl
      exact .aware left (known ▸ left) instant
  case mpr =>
    intro equal
    cases equal
    case naive => exact ⟨rfl, rfl⟩
    case aware left right instant => exact ⟨left.trans right.symm, instant⟩

end Timestamp

-- What values of each kind are hashed with. Nothing is known of it but that it looks at the values only.
structure Hashing (κ : Type) where
  text : String → κ
  flag : Bool → κ
  changeType : ChangeType → κ
  repository : Repository → κ
  payload : Payload → κ
  -- What a clock without an offset shows.
  clock : Timestamp → κ
  instant : Int → κ
  row : List κ → κ

namespace Hashing

variable {κ : Type} (H : Hashing κ)

def time (t : Timestamp) : κ := if t.isAware then H.instant t.instant else H.clock t

def head : Head → κ
  | .branch n => H.row [H.text n]
  | .tag n t a => H.row [H.text n, H.time t, H.flag a]

def event (e : HeadEvent) : κ :=
  H.row [H.changeType e.changeType, H.time e.received, H.text e.origin, H.repository e.repository,
    H.payload e.payload]

theorem time_eq_of_same {s t : Timestamp} (hs : s.Valid) (ht : t.Valid) (h : s.same t) :
    H.time s = H.time t := by
  cases (Timestamp.same_iff_equal hs ht).mp h
  case naive => rfl
  case aware left right instant => rw [time, time, if_pos left, if_pos right, instant]

-- Adds an event to a set, unless it equals one in it with the same hash.
def add [DecidableEq κ] (es : List HeadEvent) (e : HeadEvent) : List HeadEvent :=
  if es.any fun d => H.event d == H.event e && d.same e then es else es ++ [e]

def collect [DecidableEq κ] (es : List HeadEvent) : List HeadEvent := es.foldl H.add []

end Hashing

namespace HeadEvent

variable {c d e : HeadEvent} {es fs : List HeadEvent}

theorem same_iff : d.same e ↔ d.changeType = e.changeType ∧ d.payload = e.payload ∧
    d.repository = e.repository ∧ d.origin = e.origin ∧ d.received.same e.received := by
  simp [same, and_assoc]

theorem same_trans (h : c.same d) (h' : d.same e) : c.same e := by
  rw [same_iff] at h h' ⊢
  obtain ⟨changeType, payload, repository, origin, time⟩ := h
  obtain ⟨changeType', payload', repository', origin', time'⟩ := h'
  exact ⟨changeType.trans changeType', payload.trans payload', repository.trans repository',
    origin.trans origin', Timestamp.same_trans time time'⟩

theorem equivalence_same : Equivalence fun d e : HeadEvent => (d.same e : Prop) where
  refl := same_refl
  symm {d e} h := same_comm d e ▸ h
  trans := same_trans

instance setoid : Setoid HeadEvent := ⟨fun d e => d.same e, equivalence_same⟩

instance : DecidableRel fun d e : HeadEvent => d ≈ e := fun d e =>
  inferInstanceAs (Decidable (d.same e = true))

-- The classes of equal events among some events.
def classes (es : List HeadEvent) : Finset (Quotient setoid) := (es.map (Quotient.mk setoid)).toFinset

theorem mk_eq_iff : Quotient.mk setoid d = Quotient.mk setoid e ↔ d.same e := Quotient.eq

theorem mem_of_mem_distinct (h : e ∈ distinct es) : e ∈ es := by
  induction es
  case nil => cases h
  case cons d ds hi =>
    rcases mem_cons.mp h with rfl | later
    · exact mem_cons_self
    · exact mem_cons_of_mem _ (hi (mem_filter.mp later).left)

theorem exists_same_mem_distinct (h : e ∈ es) : ∃ d ∈ distinct es, d.same e := by
  induction es
  case nil => cases h
  case cons c cs hi =>
    by_cases first : c.same e
    case pos => exact ⟨c, mem_cons_self, first⟩
    case neg =>
      have later : e ∈ cs := (mem_cons.mp h).resolve_left fun eq => first (eq ▸ same_refl e)
      obtain ⟨d, hd, same⟩ := hi later
      have apart : !c.same d := by
        rw [Bool.not_eq_true', Bool.eq_false_iff]
        exact fun equal => first (same_trans equal same)
      exact ⟨d, mem_cons_of_mem _ (mem_filter.mpr ⟨hd, apart⟩), same⟩

theorem pairwise_distinct (es : List HeadEvent) : (distinct es).Pairwise fun d e => ¬d.same e := by
  induction es
  case nil => exact .nil
  case cons e es hi =>
    refine pairwise_cons.mpr ⟨fun d hd => ?_, hi.filter _⟩
    simpa using (mem_filter.mp hd).right

theorem length_distinct (es : List HeadEvent) : (distinct es).length = (classes es).card := by
  have apart : ((distinct es).map (Quotient.mk setoid)).Nodup :=
    pairwise_map.mpr ((pairwise_distinct es).imp fun apart equal => apart (mk_eq_iff.mp equal))
  have same : classes es = classes (distinct es) := by
    ext q
    simp only [classes, mem_toFinset, mem_map]
    constructor
    case mp =>
      rintro ⟨e, he, rfl⟩
      obtain ⟨d, hd, equal⟩ := exists_same_mem_distinct he
      exact ⟨d, hd, mk_eq_iff.mpr equal⟩
    case mpr => exact fun ⟨e, he, eq⟩ => ⟨e, mem_of_mem_distinct he, eq⟩
  rw [same, classes, toFinset_card_of_nodup apart, length_map]

-- Neither the order of the events nor how often each is among them counts.
theorem classes_congr (h : ∀ e, e ∈ es ↔ e ∈ fs) : classes es = classes fs := by
  ext q
  simp only [classes, mem_toFinset, mem_map, h]

end HeadEvent

namespace Hashing

open HeadEvent

variable {κ : Type} (H : Hashing κ) {d e : HeadEvent} {es fs : List HeadEvent}

theorem event_eq_of_same (hd : d.received.Valid) (he : e.received.Valid) (h : d.same e) :
    H.event d = H.event e := by
  obtain ⟨changeType, payload, repository, origin, time⟩ := same_iff.mp h
  rw [event, event, changeType, payload, repository, origin, H.time_eq_of_same hd he time]

variable [DecidableEq κ]

-- An event that equals another is found by its hash.
theorem add_eq (valid : ∀ e ∈ es, e.received.Valid) (hd : d.received.Valid) :
    H.add es d = if es.any (·.same d) then es else es ++ [d] := by
  have found : (es.any fun c => H.event c == H.event d && c.same d) = es.any (·.same d) := by
    rw [Bool.eq_iff_iff, any_eq_true, any_eq_true]
    refine exists_congr fun c => and_congr_right fun hc => ?_
    rw [Bool.and_eq_true, beq_iff_eq]
    exact and_iff_right_of_imp (H.event_eq_of_same (valid c hc) hd)
  rw [add, found]

theorem foldl_add (valid : ∀ e ∈ es ++ fs, e.received.Valid) :
    fs.foldl H.add es = es ++ (distinct fs).filter fun e => !es.any (·.same e) := by
  induction fs generalizing es
  case nil => simp [distinct]
  case cons f fs hi =>
    have front : ∀ e ∈ es, e.received.Valid := fun e he => valid e (mem_append_left _ he)
    have here : f.received.Valid := valid f (mem_append_right _ mem_cons_self)
    have back : ∀ e ∈ fs, e.received.Valid := fun e he => valid e (mem_append_right _ (mem_cons_of_mem _ he))
    rw [foldl_cons, H.add_eq front here, distinct]
    by_cases known : es.any (·.same f)
    case pos =>
      have ⟨d, hd, equal⟩ := any_eq_true.mp known
      have implied (e : HeadEvent) : (!es.any (·.same e) && !f.same e) = !es.any (·.same e) := by
        by_cases again : f.same e
        case pos =>
          have : es.any (·.same e) := any_eq_true.mpr ⟨d, hd, same_trans equal again⟩
          rw [this]
          rfl
        case neg => rw [Bool.eq_false_iff.mpr again, Bool.not_false, Bool.and_true]
      rw [if_pos known, hi fun e he => (mem_append.mp he).elim (front e) (back e), filter_cons_of_neg,
        filter_filter, filter_congr fun e _ => implied e]
      simp [known]
    case neg =>
      have fresh : ∀ e ∈ es ++ [f] ++ fs, e.received.Valid := by simpa using valid
      rw [if_neg known, hi fresh, filter_cons_of_pos, filter_filter, append_assoc, singleton_append]
      · simp only [any_append, any_cons, any_nil, Bool.or_false, Bool.not_or]
      · simp [known]

theorem collect_eq_distinct (valid : ∀ e ∈ es, e.received.Valid) : H.collect es = distinct es := by
  rw [collect, H.foldl_add (by simpa using valid)]
  simp

end Hashing

end RefWatch
