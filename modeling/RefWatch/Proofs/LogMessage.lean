import Mathlib.Data.List.Basic
import RefWatch.Dispatcher
import RefWatch.Log.Line

namespace RefWatch

open List

namespace Log

open Template

inductive Piece
  | literal (s : String)
  -- A value that is written as it is.
  | plain (v : Json)
  | count (n : Nat)

namespace Piece

def chars : Piece → List Char
  | literal s => s.toList
  | plain _ => ['%', 's']
  | count _ => ['%', 'd']

def values : Piece → List Json
  | literal _ => []
  | plain v => [v]
  | count n => [.ofWhole n]

def written : Piece → String
  | literal s => s
  | plain v => v.plain
  | count n => toString n

-- No value begins in a text that stands for itself, and no value is looked up by name.
def Clean : Piece → Prop
  | literal s => '%' ∉ s.toList
  | plain (.object _) => False
  | plain _ | count _ => True

theorem clean_literal {s : String} : (literal s).Clean ↔ '%' ∉ s.toList := Iff.rfl

theorem clean_text {s : String} : (plain (.text s)).Clean ↔ True := Iff.rfl

theorem clean_count {n : Nat} : (count n).Clean ↔ True := Iff.rfl

def template (ps : List Piece) : String := String.ofList (ps.flatMap chars)

def message (ps : List Piece) : String := String.ofList (ps.flatMap (·.written.toList))

variable {c form : Char} {s r : List Char} {vs : Values} {v : Json} {n fuel length : Nat} {ps : List Piece}

theorem read_plain (length : Nat) (vs : Values) (r : List Char) :
    Place.read length vs ('s' :: r) = .ok ({ form := 's', index := length - (r.length + 1) }, vs, r) := by
  rfl

theorem read_count (length : Nat) (vs : Values) (r : List Char) :
    Place.read length vs ('d' :: r) = .ok ({ form := 'd', index := length - (r.length + 1) }, vs, r) := by
  rfl

theorem write_plain (index : Nat) (v : Json) :
    Place.write { form := 's', index } v = .ok v.plain := by
  simp [Place.write, Place.textual, Place.pad, Place.has]

theorem whole_count (index n : Nat) : Place.whole { form := 'd', index } 10 "" (n : Int) = toString n := by
  have positive : ¬(n : Int) < 0 := by omega
  simp [Place.whole, Place.pad, Place.has, Place.signText, Decimal.zeros, positive,
    Nat.repr_eq_ofList_toDigits]

theorem write_count (index n : Nat) :
    Place.write { form := 'd', index } (.ofWhole n) = .ok (toString n) := by
  rw [← whole_count index n]
  rfl

theorem fillFrom_literal (h : '%' ∉ s) : fillFrom length (s.length + fuel) vs (s ++ r) =
    (fillFrom length fuel vs r).map (s ++ ·) := by
  induction s
  case nil =>
    rw [length_nil, Nat.zero_add, nil_append]
    cases fillFrom length fuel vs r <;> rfl
  case cons c s hi =>
    have ordinary : c ≠ '%' := fun eq => h (eq ▸ mem_cons_self)
    have step : fillFrom length (s.length + fuel + 1) vs (c :: (s ++ r)) =
        (fillFrom length (s.length + fuel) vs (s ++ r)).map (c :: ·) := by
      rw [fillFrom]
      all_goals simp [ordinary]
    rw [length_cons, Nat.add_right_comm, cons_append, step, hi fun later => h (mem_cons_of_mem _ later)]
    cases fillFrom length fuel vs r <;> rfl

-- A place takes the next value and leaves the others.
theorem fillFrom_place {index : Nat} {written : String} (left : List Json) (table : Option Json)
    (read : Place.read length ⟨v :: left, table⟩ (form :: r) =
      .ok ({ form, index }, ⟨v :: left, table⟩, r))
    (other : form ≠ '%') (write : Place.write { form, index } v = .ok written) :
    fillFrom length (fuel + 1) ⟨v :: left, table⟩ ('%' :: form :: r) =
      (fillFrom length fuel ⟨left, table⟩ r).map (written.toList ++ ·) := by
  have single : ∀ s, form :: r = '%' :: s → False := fun _ eq => other (cons.inj eq).left
  have narrow : ¬(0 : Nat) > Place.memoryLimit := Nat.not_lt_zero _
  rw [fillFrom]
  · simp only [read, write, bind, Except.bind, Values.next, if_neg narrow]
    cases fillFrom length fuel ⟨left, table⟩ r <;> rfl
  · exact single

-- Every piece is filled on its own, and what is left of the fuel is enough for the others.
theorem fillFrom_piece {p : Piece} (clean : p.Clean) (length fuel : Nat) (left : List Json) (r : List Char) :
    ∃ more ≥ fuel, fillFrom length (p.chars.length + fuel) ⟨p.values ++ left, none⟩ (p.chars ++ r) =
      (fillFrom length more ⟨left, none⟩ r).map (p.written.toList ++ ·) := by
  have place : 2 + fuel = fuel + 1 + 1 := by omega
  cases p
  case literal s => exact ⟨fuel, Nat.le_refl _, fillFrom_literal clean⟩
  case plain v =>
    refine ⟨fuel + 1, Nat.le_succ _, ?_⟩
    show fillFrom length (2 + fuel) _ _ = _
    rw [place]
    exact fillFrom_place left none (read_plain ..) (by decide) (write_plain _ v)
  case count n =>
    refine ⟨fuel + 1, Nat.le_succ _, ?_⟩
    show fillFrom length (2 + fuel) _ _ = _
    rw [place]
    exact fillFrom_place left none (read_count ..) (by decide) (write_count _ n)

theorem fillFrom_pieces (clean : ∀ p ∈ ps, p.Clean) (enough : (ps.flatMap chars).length < fuel) :
    fillFrom length fuel ⟨ps.flatMap values, none⟩ (ps.flatMap chars) =
      .ok (ps.flatMap (·.written.toList)) := by
  induction ps generalizing fuel
  case nil =>
    cases fuel
    case zero => exact absurd enough (Nat.not_lt_zero _)
    case succ => rfl
  case cons p ps hi =>
    simp only [flatMap_cons, length_append] at enough ⊢
    obtain ⟨fuel, rfl⟩ : ∃ k, fuel = p.chars.length + k := Nat.exists_eq_add_of_le (by omega)
    obtain ⟨more, _, step⟩ :=
      fillFrom_piece (clean p mem_cons_self) length fuel (ps.flatMap values) (ps.flatMap chars)
    rw [step, hi (fun q hq => clean q (mem_cons_of_mem _ hq)) (by omega)]
    rfl

theorem ofList_values (clean : ∀ p ∈ ps, p.Clean) :
    Values.ofList (ps.flatMap values) = ⟨ps.flatMap values, none⟩ := by
  unfold Values.ofList
  split
  case h_1 m ms only =>
    have object : Json.object (m :: ms) ∈ ps.flatMap values := only ▸ mem_singleton_self _
    obtain ⟨p, hp, hv⟩ := mem_flatMap.mp object
    have own := clean p hp
    cases p
    case literal => cases hv
    case plain v =>
      cases mem_singleton.mp hv
      exact own.elim
    case count => cases mem_singleton.mp hv
  case h_2 => rfl

theorem fill_pieces (clean : ∀ p ∈ ps, p.Clean) :
    fill (template ps) (Values.ofList (ps.flatMap values)) = .ok (message ps) := by
  rw [ofList_values clean]
  by_cases none : ps.flatMap values = []
  case pos =>
    -- A template without places is taken as it is.
    have literal : ∀ p ∈ ps, p.chars = p.written.toList := by
      intro p hp
      have empty : p.values = [] := flatMap_eq_nil_iff.mp none p hp
      cases p
      case literal => rfl
      all_goals cases empty
    rw [none, fill_nil, template, message, flatMap_congr literal]
  case neg =>
    have filled : (ps.flatMap values).isEmpty = false := by simpa using none
    simp only [fill, filled, template, String.toList_ofList, Bool.false_eq_true, if_false,
      fillFrom_pieces clean (Nat.lt_succ_self _)]
    rfl

end Piece

-- What is written with the fields of an event: alone, with those of a listener that failed, or with the
-- names of heads.
inductive Context (e : HeadEvent) : Json.Members → Prop
  | alone : Context e e.fields
  | failure (listener error : String) : Context e (Listener.failureFields listener error e)
  | heads (names : List String) : Context e (e.fields ++ [("heads", .list (names.map Json.text))])

-- The records about an event, with the pieces that their messages are made of.
inductive Logged (e : HeadEvent) : Record → List Piece → Prop
  | scheduled {given : Json} {delay : Delay} (delayed : Delay.ofJson? given = some delay) :
    Logged e (Dispatch.scheduledRecord e delay)
      [.literal "Scheduled ", .plain (.text e.description), .literal " for delivery in ", .plain given,
        .literal "s"]
  | undelivered :
    Logged e (Scheduler.failureRecord e)
      [.literal "Delivery of ", .plain (.text e.kind.name), .literal " event for ",
        .plain (.text e.repository.fullName), .literal " failed"]
  | listenerFailed (l : Listener) (error : String) :
    Logged e (Delivery.listenerFailure l e error)
      [.literal "Listener ", .plain (.text l.name), .literal " failed for ", .plain (.text e.description),
        .literal ": ", .plain (.text error)]
  | navigatorFailed (n : Navigator) (child error : String) :
    Logged e (Listener.childFailure e (.navigator n) child error)
      [.literal "Listener ", .plain (.text child), .literal " failed for navigator ", .plain (.text n.owner),
        .literal ": ", .plain (.text error)]
  | sourceFailed (s : Source) (heads : List Report) (child error : String) :
    Logged e (Listener.childFailure e (.source s heads) child error)
      [.literal "Listener ", .plain (.text child), .literal " failed for ", .plain (.text s.fullName),
        .literal ": ", .plain (.text error)]
  | navigatorTold (logger : Logger) (n : Navigator) :
    Logged e (Observer.deliveryRecord logger e (.navigator n))
      [.plain (.text (e.descriptionFor (.navigator n))), .literal " (navigator ", .plain (.text n.owner),
        .literal ")"]
  | sourceTold (logger : Logger) (s : Source) (heads : List Report) :
    Logged e (Observer.deliveryRecord logger e (.source s heads))
      [.plain (.text (e.descriptionFor (.source s))), .literal ": ", .count heads.length,
        .literal " head(s) for ", .plain (.text s.fullName)]

namespace Logged

variable {e : HeadEvent} {r : Record} {ps : List Piece}

theorem context (h : Logged e r ps) : Context e r.extra := by
  cases h
  case scheduled | undelivered | navigatorTold => exact .alone
  case listenerFailed | navigatorFailed | sourceFailed => exact .failure ..
  case sourceTold => exact .heads _

theorem plain_of_delay {given : Json} {delay : Delay} (h : Delay.ofJson? given = some delay) :
    given.plain = delay.text := by
  cases given <;> cases h <;> rfl

theorem plain_text (s : String) : (Json.text s).plain = s := rfl

theorem message_eq (h : Logged e r ps) : Piece.message ps = r.message := by
  rw [← String.toList_inj, Piece.message, String.toList_ofList]
  cases h
  case scheduled delayed =>
    simp [Piece.written, plain_text, plain_of_delay delayed, Dispatch.scheduledRecord, Dispatch.note]
  case undelivered =>
    simp [Piece.written, plain_text, Scheduler.failureRecord, Scheduler.note, Scheduler.eventText]
  case listenerFailed => simp [Piece.written, plain_text, Delivery.listenerFailure]
  case navigatorFailed | sourceFailed => simp [Piece.written, plain_text, Listener.childFailure]
  case navigatorTold | sourceTold => simp [Piece.written, plain_text, Observer.deliveryRecord]

theorem clean (h : Logged e r ps) : ∀ p ∈ ps, p.Clean := by
  cases h
  case scheduled given delay delayed =>
    have own : (Piece.plain given).Clean := by cases given <;> trivial
    simp only [forall_mem_cons, not_mem_nil, false_implies, implies_true, and_true, Piece.clean_literal,
      Piece.clean_text, own, true_and]
    decide
  all_goals
    simp only [forall_mem_cons, not_mem_nil, false_implies, implies_true, and_true, Piece.clean_literal,
      Piece.clean_text, Piece.clean_count, true_and]
    decide

theorem fill_eq (h : Logged e r ps) :
    fill (Piece.template ps) (Values.ofList (ps.flatMap Piece.values)) = .ok r.message := by
  rw [Piece.fill_pieces h.clean, h.message_eq]

end Logged

end Log

end RefWatch
