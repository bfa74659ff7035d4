import RefWatch.Proofs.Matcher

namespace RefWatch.Pattern

-- The place of a mark, if it has one.
def placeAt (ms : Marks) (i : Nat) : Option Nat := ms[i]?.join

theorem placeAt_take {ms : Marks} {i n : Nat} :
    placeAt (ms.take n) i = if i < n then placeAt ms i else none := by
  rw [placeAt, List.getElem?_take]
  split <;> rfl

theorem placeAt_mark (m : Memory) (i pos j : Nat) :
    placeAt (m.mark i pos).marks j = if j = i then some pos else placeAt m.marks j := by
  unfold Memory.mark placeAt
  split
  case isTrue inside =>
    rw [List.getElem?_set]
    split
    case isTrue same => simp [← same]
    case isFalse other => rw [if_neg (Ne.symm other)]
  case isFalse outside =>
    have filled : (m.marks ++ List.replicate (i - m.marks.length) none).length = i := by
      simp only [List.length_append, List.length_replicate]
      omega
    rw [List.getElem?_append, filled]
    split
    case isTrue before =>
      rw [if_neg (Nat.ne_of_lt before), List.getElem?_append]
      split
      case isTrue => rfl
      case isFalse new =>
        rw [List.getElem?_eq_none (Nat.le_of_not_lt new), List.getElem?_replicate]
        split <;> rfl
    case isFalse notBefore =>
      have unset : m.marks[j]? = none := List.getElem?_eq_none (by omega)
      have last : j - i = 0 ↔ j = i := by omega
      simp only [unset, List.getElem?_singleton, last]
      split <;> rfl

-- Marks that keep their places.
def Holding (spots : List Nat) (ms ns : Marks) : Prop :=
  ∀ i ∈ spots, ∀ pos, placeAt ms i = some pos → placeAt ns i = some pos

-- A mark that stays without a place.
def Unset (i : Nat) (ms ns : Marks) : Prop :=
  placeAt ms i = none → placeAt ns i = none

theorem persists_holding (spots : List Nat) : Persists (Holding spots) where
  refl _ _ _ _ := id
  trans first second i hi pos h := second i hi pos (first i hi pos h)
  cut {ms ns} kept i hi pos h := by
    have inside : i < ms.length := by
      apply Nat.lt_of_not_le
      intro outside
      simp [placeAt, List.getElem?_eq_none outside] at h
    rw [placeAt_take, if_pos inside]
    exact kept i hi pos h

theorem persists_unset (i : Nat) : Persists (Unset i) where
  refl _ := id
  trans first second h := second (first h)
  cut kept h := by
    rw [placeAt_take]
    split
    case isTrue => exact kept h
    case isFalse => rfl

theorem allows_holding {spots : List Nat} {i : Nat} (h : i ∉ spots) : Allows (Holding spots) i := by
  intro m pos j hj place held
  have other : j ≠ i := fun same => h (same ▸ hj)
  rw [placeAt_mark, if_neg other]
  exact held

theorem allows_unset {i j : Nat} (h : j ≠ i) : Allows (Unset j) i := by
  intro m pos unset
  rw [placeAt_mark, if_neg h]
  exact unset

-- Where a group opened and closed, as its marks say.
structure Marked (g a b : Nat) (ms : Marks) : Prop where
  opened : placeAt ms (2 * (g - 1)) = some a
  closed : placeAt ms (2 * (g - 1) + 1) = some b

theorem Marked.kept {g a b : Nat} {ms ns : Marks} (h : Marked g a b ms)
    (kept : Holding (spotsOf g) ms ns) : Marked g a b ns where
  opened := kept _ (by simp [spotsOf]) a h.opened
  closed := kept _ (by simp [spotsOf]) b h.closed

theorem ends?_eq_some_iff {m : Memory} {g a b : Nat} :
    m.ends? g = some (a, b) ↔ Marked g a b m.marks := by
  unfold Memory.ends?
  constructor
  case mp =>
    intro h
    split at h
    case h_1 opened closed =>
      cases h
      exact ⟨opened, closed⟩
    case h_2 => cases h
  case mpr =>
    rintro ⟨opened, closed⟩
    unfold placeAt at opened closed
    rw [opened, closed]

namespace Node

-- Whether the group is an item of the sequence, or stands in such an item that is a group itself.
def holds (g : Nat) : Node → Bool
  | seq x y => x.holds g || y.holds g
  | group index _ _ b => index = some g || b.holds g
  | _ => false

-- Whether all groups are such items.
def isRow : Node → Bool
  | seq x y => x.isRow && y.isRow
  | group _ _ _ b => b.isRow
  | n => n.spots = []

section

variable (text : Array Char)

-- The stretch from `i` to `j` is one that the part stands for; in it the group takes that from `a` to `b`.
def Spans (g : Nat) : Node → Flags → (i j a b : Nat) → Prop
  | seq x y, f, i, j, a, b =>
    ∃ k, x.Spans g f i k a b ∧ y.Takes text f k j ∨ x.Takes text f i k ∧ y.Spans g f k j a b
  | group index on off x, f, i, j, a, b =>
    if index = some g then x.Takes text (f.switch on off) i j ∧ a = i ∧ b = j
    else x.Spans g (f.switch on off) i j a b
  | _, _, _, _, _, _ => False

end

variable {text : Array Char} {g : Nat} {f : Flags} {i j a b : Nat}

theorem spans_group {on off : Flags} {x : Node} :
    (group (some g) on off x).Spans text g f i j a b ↔
      (group (some g) on off x).Takes text f i j ∧ a = i ∧ b = j := by
  rw [Spans, if_pos rfl]
  rfl

theorem spans_le {n : Node} (h : n.Spans text g f i j a b) : a ≤ b := by
  induction n generalizing f i j
  case seq x y hx hy =>
    obtain ⟨k, ⟨first, second⟩ | ⟨first, second⟩⟩ := h
    · exact hx first
    · exact hy second
  case group index on off x hx =>
    unfold Spans at h
    split at h
    case isTrue =>
      obtain ⟨taken, rfl, rfl⟩ := h
      exact le_of_takes taken
    case isFalse => exact hx h
  all_goals cases h

theorem holds_of_spans {n : Node} (h : n.Spans text g f i j a b) : n.holds g := by
  induction n generalizing f i j
  case seq x y hx hy =>
    obtain ⟨k, ⟨first, -⟩ | ⟨-, second⟩⟩ := h
    · simp [holds, hx first]
    · simp [holds, hy second]
  case group index on off x hx =>
    unfold Spans at h
    split at h
    case isTrue same => simp [holds, same]
    case isFalse => simp [holds, hx h]
  all_goals cases h

-- A group that stands behind other parts in a row.
theorem spans_foldr {ns : List Node} {rest : Node} (apart : ∀ n ∈ ns, n.holds g = false) :
    (ns.foldr seq rest).Spans text g f i j a b ↔
      ∃ k, (ns.foldr seq empty).Takes text f i k ∧ rest.Spans text g f k j a b := by
  induction ns generalizing i
  case nil => exact ⟨fun spans => ⟨i, rfl, spans⟩, fun ⟨_, here, spans⟩ => here ▸ spans⟩
  case cons n ns hi =>
    obtain ⟨not, apart⟩ := List.forall_mem_cons.mp apart
    constructor
    case mp =>
      rintro ⟨e, ⟨spans, -⟩ | ⟨first, spans⟩⟩
      · rw [holds_of_spans spans] at not
        cases not
      · obtain ⟨k, others, spans⟩ := (hi apart).mp spans
        exact ⟨k, ⟨e, first, others⟩, spans⟩
    case mpr =>
      rintro ⟨k, ⟨e, first, others⟩, spans⟩
      exact ⟨e, .inr ⟨first, (hi apart).mpr ⟨k, others, spans⟩⟩⟩

theorem spotsOf_subset {n : Node} (h : n.holds g) : spotsOf g ⊆ n.spots := by
  induction n
  case seq x y hx hy =>
    rcases Bool.or_eq_true_iff.mp h with h | h
    · exact List.subset_append_of_subset_left _ (hx h)
    · exact List.subset_append_of_subset_right _ (hy h)
  case group index on off x hx =>
    cases index
    case none => exact hx (by simpa [holds] using h)
    case some k =>
      rcases Bool.or_eq_true_iff.mp h with h | h
      · cases of_decide_eq_true h
        exact List.subset_append_left _ _
      · exact List.subset_append_of_subset_right _ (hx h)
  all_goals cases h

theorem exists_holds {n : Node} (row : n.isRow) (h : i ∈ n.spots) : ∃ g, n.holds g ∧ i ∈ spotsOf g := by
  induction n
  case seq x y hx hy =>
    obtain ⟨row_x, row_y⟩ := Bool.and_eq_true_iff.mp row
    rcases List.mem_append.mp h with h | h
    · obtain ⟨g, held, mem⟩ := hx row_x h
      exact ⟨g, by simp [holds, held], mem⟩
    · obtain ⟨g, held, mem⟩ := hy row_y h
      exact ⟨g, by simp [holds, held], mem⟩
  case group index on off x hx =>
    cases index
    case none =>
      obtain ⟨g, held, mem⟩ := hx row h
      exact ⟨g, by simp [holds, held], mem⟩
    case some k =>
      rcases List.mem_append.mp h with h | h
      · exact ⟨k, by simp [holds], h⟩
      · obtain ⟨g, held, mem⟩ := hx row h
        exact ⟨g, by simp [holds, held], mem⟩
  all_goals
    have none : spots _ = [] := of_decide_eq_true row
    rw [none] at h
    cases h

-- The part in a group keeps the place where the group opened; where it closes is marked after that.
theorem exists_marked {x : Node} {rest : Attempt} {within : Bool} {pos : Nat} {m found : Memory}
    (plain : x.isPlain) (apart : ∀ i ∈ spotsOf g, ∀ j ∈ x.spots, i ≠ j)
    (keeps : Keeps (Holding (spotsOf g)) rest)
    (h : x.way text f within .unknown (fun pos m => rest pos (m.close g pos)) pos (m.open g pos) =
      .found found) :
    ∃ e k, x.Takes text f pos e ∧ Marked g pos e (Memory.marks k) ∧ rest e k = .found found := by
  have closing : Keeps (Holding [2 * (g - 1)]) (fun pos m => rest pos (m.close g pos)) := by
    intro pos m
    have closed : Holding [2 * (g - 1)] m.marks (m.close g pos).marks := allows_holding (by simp) m pos
    exact (persists_holding _).trans closed fun i hi => keeps pos _ i (by simp_all [spotsOf])
  have allowed : ∀ i ∈ x.spots, Allows (Holding [2 * (g - 1)]) i := fun i hi =>
    allows_holding fun mem => apart i (by simp_all [spotsOf]) i hi rfl
  obtain ⟨e, k, taken, kept, onward⟩ := exists_takes (persists_holding _) plain allowed closing h
  have opened : placeAt (m.open g pos).marks (2 * (g - 1)) = some pos := by
    simp [Memory.open, placeAt_mark]
  refine ⟨e, k.close g e, taken, ⟨?_, ?_⟩, onward⟩
  case refine_1 => simp [Memory.close, placeAt_mark, kept _ (by simp) pos opened]
  case refine_2 => simp [Memory.close, placeAt_mark]

-- A group in a row is passed once, and its marks are kept from there on.
theorem exists_spans {n : Node} {rest : Attempt} {within : Bool} {next : Lead} {pos : Nat}
    {m found : Memory} (plain : n.isPlain) (once : n.spots.Nodup) (held : n.holds g)
    (keeps : Keeps (Holding (spotsOf g)) rest)
    (h : n.way text f within next rest pos m = .found found) :
    ∃ a b e k, n.Spans text g f pos e a b ∧ Marked g a b k.marks ∧ rest e k = .found found := by
  have others {spots : List Nat} (apart : ∀ i ∈ spotsOf g, ∀ j ∈ spots, i ≠ j) :
      ∀ i ∈ spots, Allows (Holding (spotsOf g)) i :=
    fun i hi => allows_holding fun mem => apart i mem i hi rfl
  induction n generalizing rest f within next pos m
  case seq x y hx hy =>
    obtain ⟨plain_x, plain_y⟩ := Bool.and_eq_true_iff.mp plain
    obtain ⟨once_x, once_y, apart⟩ := List.nodup_append.mp once
    rcases Bool.or_eq_true_iff.mp held with held | held
    case inl =>
      have allowed := others fun i hi => apart i (spotsOf_subset held hi)
      obtain ⟨a, b, e, k, spans, marked, onward⟩ :=
        hx plain_x once_x held (keeps_way (persists_holding _) plain_y allowed keeps f within next) h
      obtain ⟨j, l, taken, kept, onward⟩ :=
        exists_takes (persists_holding _) plain_y allowed keeps onward
      exact ⟨a, b, j, l, ⟨e, .inl ⟨spans, taken⟩⟩, marked.kept kept, onward⟩
    case inr =>
      obtain ⟨e, k, taken, -, onward⟩ :=
        exists_takes persists_any plain_x (fun _ _ _ _ => trivial) (fun _ _ => trivial) h
      obtain ⟨a, b, j, l, spans, marked, onward⟩ := hy plain_y once_y held keeps onward
      exact ⟨a, b, j, l, ⟨e, .inr ⟨taken, spans⟩⟩, marked, onward⟩
  case group index on off x hx =>
    cases index
    case none =>
      obtain ⟨a, b, e, k, spans, marked, onward⟩ := hx plain once (by simpa [holds] using held) keeps h
      exact ⟨a, b, e, k, by simpa [Spans] using spans, marked, onward⟩
    case some i =>
      obtain ⟨-, once_x, apart⟩ := List.nodup_append.mp once
      by_cases same : i = g
      case pos =>
        cases same
        have plain_x : x.isPlain := plain
        obtain ⟨e, k, taken, marked, onward⟩ := exists_marked plain_x apart keeps h
        exact ⟨pos, e, e, k, by simpa [Spans] using taken, marked, onward⟩
      case neg =>
        have held : x.holds g := by simpa [holds, same] using held
        have closed : Allows (Holding (spotsOf g)) (2 * (i - 1) + 1) := allows_holding fun mem =>
          apart _ (by simp [spotsOf]) _ (spotsOf_subset held mem) rfl
        have closing : Keeps (Holding (spotsOf g)) (fun pos m => rest pos (m.close i pos)) :=
          fun pos m => (persists_holding _).trans (closed m pos) (keeps pos _)
        obtain ⟨a, b, e, k, spans, marked, onward⟩ := hx plain once_x held closing h
        exact ⟨a, b, e, k.close i e, by simpa [Spans, same] using spans, marked.kept (closed k e), onward⟩
  all_goals cases held

end Node

-- A pattern whose groups stand in a row, each of them once.
structure InRow (p : Pattern) : Prop where
  plain : p.root.isPlain
  row   : p.root.isRow
  once  : p.root.spots.Nodup

theorem ofString_eq_ok {p : Pattern} (h : (ofString p.text).toOption = some p) :
    ofString p.text = .ok p := by
  cases read : ofString p.text <;> rw [read] at h
  case error => cases h
  case ok =>
    cases h
    rfl

def atEnd (size : Nat) : Attempt := fun pos m => if pos = size then done pos m else .failed m

-- The whole text is a stretch that the pattern stands for.
def StandsFor (p : Pattern) (s : String) : Prop :=
  p.root.Takes s.toList.toArray p.flags 0 s.toList.length

-- In the whole text, the group takes the stretch from `a` to `b`.
def FindsIn (p : Pattern) (g : Nat) (s : String) (a b : Nat) : Prop :=
  p.root.Spans s.toList.toArray g p.flags 0 s.toList.length a b

-- The match of a pattern with a whole text, if there is one.
def whole? (p : Pattern) (s : String) : Option Memory :=
  let cs := s.toList.toArray
  if cs.size < p.root.width.min then none
  else
    match p.root.way cs p.flags false .unknown (atEnd cs.size) 0 {} with
    | .found m => some m
    | .failed _ => none

-- What a group of the pattern took of a text that the pattern takes as a whole.
def groupIn? (p : Pattern) (g : Nat) (s : String) : Except Misfit (Option String) :=
  match p.whole? s with
  | none => .ok none
  | some m =>
    m.checkGroups.map fun _ =>
      (m.span? g).map fun e => String.ofList ((s.toList.drop e.1).take (e.2 - e.1))

section

variable {p : Pattern} {s : String} {g : Nat} {m : Memory}

theorem keeps_atEnd {r : Marks → Marks → Prop} (h : Persists r) (size : Nat) :
    Keeps r (atEnd size) := by
  intro pos m
  unfold atEnd
  split
  case isTrue => exact h.refl _
  case isFalse => exact h.refl _

theorem atEnd_eq_found {size pos : Nat} {m found : Memory} (h : atEnd size pos m = .found found) :
    pos = size ∧ found.marks = m.marks := by
  unfold atEnd at h
  split at h
  case isTrue last =>
    cases h
    exact ⟨last, rfl⟩
  case isFalse => cases h

theorem accepts_eq (p : Pattern) (s : String) :
    p.accepts s = match p.whole? s with
      | none => .ok false
      | some m => m.checkGroups.map fun _ => true := by
  unfold accepts whole? atEnd
  simp only
  split
  case isTrue => rfl
  case isFalse => split <;> simp only [*]

theorem way_of_whole? (h : p.whole? s = some m) :
    p.root.way s.toList.toArray p.flags false .unknown (atEnd s.toList.toArray.size) 0 {} = .found m := by
  simp only [whole?] at h
  split at h
  case isTrue => cases h
  case isFalse =>
    split at h
    case h_1 found =>
      cases h
      exact found
    case h_2 => cases h

theorem whole?_isSome_iff (h : p.InRow) : (p.whole? s).isSome ↔ p.StandsFor s := by
  constructor
  case mp =>
    intro some
    obtain ⟨m, found⟩ := Option.isSome_iff_exists.mp some
    have allowed : ∀ i ∈ p.root.spots, Allows (fun _ _ => True) i := fun _ _ _ _ => trivial
    obtain ⟨e, k, taken, -, ended⟩ :=
      Node.exists_takes persists_any h.plain allowed (keeps_atEnd persists_any _) (way_of_whole? found)
    obtain ⟨rfl, -⟩ := atEnd_eq_found ended
    exact taken
  case mpr =>
    intro taken
    have wide := Node.width_le taken
    have size : s.toList.toArray.size = s.toList.length := rfl
    have last (k : Memory) : (atEnd s.toList.length s.toList.length k).isFound := by
      rw [atEnd, if_pos rfl]
      rfl
    have found := Node.isFound_way h.plain taken false (Node.admits_unknown _) last {}
    obtain ⟨m, outcome⟩ := Outcome.isFound_iff.mp found
    simp only [whole?, size]
    rw [if_neg (by omega), outcome]
    rfl

theorem spans_of_whole? (h : p.InRow) (held : p.root.holds g) (found : p.whole? s = some m) :
    ∃ a b, p.FindsIn g s a b ∧ m.ends? g = some (a, b) := by
  obtain ⟨a, b, e, k, spans, marked, ended⟩ :=
    Node.exists_spans h.plain h.once held (keeps_atEnd (persists_holding _) _) (way_of_whole? found)
  obtain ⟨rfl, same⟩ := atEnd_eq_found ended
  exact ⟨a, b, spans, ends?_eq_some_iff.mpr (same ▸ marked)⟩

-- No group has closed before it opened: either the pattern has it, or nothing has marked it.
theorem le_of_ends? (h : p.InRow) (found : p.whole? s = some m) {a b : Nat}
    (ends : m.ends? g = some (a, b)) : a ≤ b := by
  have opened := (ends?_eq_some_iff.mp ends).opened
  have passed : 2 * (g - 1) ∈ p.root.spots := by
    apply Decidable.of_not_not
    intro absent
    have allowed : ∀ i ∈ p.root.spots, Allows (Unset (2 * (g - 1))) i :=
      fun i hi => allows_unset fun same => absent (same ▸ hi)
    obtain ⟨e, k, -, unset, ended⟩ := Node.exists_takes (persists_unset _) h.plain allowed
      (keeps_atEnd (persists_unset _) _) (way_of_whole? found)
    rw [(atEnd_eq_found ended).right, unset rfl] at opened
    cases opened
  obtain ⟨g', held, mem⟩ := Node.exists_holds h.row passed
  obtain ⟨a', b', spans, ends'⟩ := spans_of_whole? h held found
  have same : g - 1 = g' - 1 := by
    simp only [spotsOf, List.mem_cons, List.not_mem_nil, or_false] at mem
    omega
  have alike : m.ends? g = m.ends? g' := by simp only [Memory.ends?, same]
  rw [alike, ends'] at ends
  cases ends
  exact Node.spans_le spans

theorem checkGroups_of_whole? (h : p.InRow) (found : p.whole? s = some m) : m.checkGroups = .ok () := by
  unfold Memory.checkGroups
  rw [if_neg]
  simp only [List.any_eq_true, not_exists, not_and, Bool.not_eq_true]
  intro i _
  cases ends : m.ends? (i + 1)
  case none => rfl
  case some e => simpa using le_of_ends? h found ends

theorem accepts_eq_ok_iff (h : p.InRow) (s : String) (b : Bool) :
    p.accepts s = .ok b ↔ (b ↔ p.StandsFor s) := by
  rw [← whole?_isSome_iff h, accepts_eq]
  cases found : p.whole? s
  case none => cases b <;> simp
  case some m =>
    simp only [checkGroups_of_whole? h found]
    cases b <;> simp [Except.map]

theorem groupIn?_of_not_standsFor (h : p.InRow) (not : ¬p.StandsFor s) (g : Nat) :
    p.groupIn? g s = .ok none := by
  rw [← whole?_isSome_iff h, Option.not_isSome_iff_eq_none] at not
  rw [groupIn?, not]

theorem groupIn?_of_standsFor (h : p.InRow) (held : p.root.holds g) (taken : p.StandsFor s) :
    ∃ a b, p.FindsIn g s a b ∧
      p.groupIn? g s = .ok (some (String.ofList ((s.toList.drop a).take (b - a)))) := by
  obtain ⟨m, found⟩ := Option.isSome_iff_exists.mp ((whole?_isSome_iff h).mpr taken)
  obtain ⟨a, b, spans, ends⟩ := spans_of_whole? h held found
  refine ⟨a, b, spans, ?_⟩
  simp only [groupIn?, found, checkGroups_of_whole? h found, Memory.span?, ends]
  simp [Except.map, Option.filter, Node.spans_le spans]

end

end RefWatch.Pattern
