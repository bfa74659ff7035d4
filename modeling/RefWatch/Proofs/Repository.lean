import RefWatch.Repository

namespace RefWatch

namespace Text

variable {sep : Char} {s f : List Char} {fs : List (List Char)}

theorem fields_cons_self (sep : Char) (cs : List Char) :
    fields sep (sep :: cs) = [] :: fields sep cs :=
  if_pos rfl

theorem fields_cons_of_ne {c : Char} (hc : c ≠ sep) (h : fields sep s = f :: fs) :
    fields sep (c :: s) = (c :: f) :: fs := by
  have : fields sep (c :: s) = fieldStep sep c (fields sep s) := rfl
  rw [this, h, fieldStep, if_neg hc]

theorem exists_fields_eq_cons (sep : Char) (s : List Char) : ∃ f fs, fields sep s = f :: fs := by
  induction s
  case nil => exact ⟨[], [], rfl⟩
  case cons c cs hi =>
    obtain ⟨f, fs, h⟩ := hi
    by_cases hc : c = sep
    case pos => exact ⟨[], fields sep cs, hc ▸ fields_cons_self sep cs⟩
    case neg => exact ⟨c :: f, fs, fields_cons_of_ne hc h⟩

theorem fields_append (h : sep ∉ s) (t : List Char) :
    fields sep (s ++ sep :: t) = s :: fields sep t := by
  induction s
  case nil => exact fields_cons_self sep t
  case cons c cs hi =>
    have hc : c ≠ sep := fun e => h (e ▸ List.mem_cons_self)
    exact fields_cons_of_ne hc (hi fun m => h (List.mem_cons_of_mem _ m))

-- The first field ends where the text does, or at a separator that the other fields follow.
theorem fields_eq_cons_iff :
    fields sep s = f :: fs ↔
      sep ∉ f ∧ (fs = [] ∧ s = f ∨ ∃ t, s = f ++ sep :: t ∧ fields sep t = fs) := by
  constructor
  case mp =>
    intro h
    induction s generalizing f
    case nil =>
      cases h
      exact ⟨by simp, .inl ⟨rfl, rfl⟩⟩
    case cons c cs hi =>
      by_cases hc : c = sep
      case pos =>
        rw [hc, fields_cons_self] at h
        cases h
        exact ⟨by simp, .inr ⟨cs, by simp [hc], rfl⟩⟩
      case neg =>
        obtain ⟨g, gs, hg⟩ := exists_fields_eq_cons sep cs
        rw [fields_cons_of_ne hc hg] at h
        cases h
        have ⟨free, rest⟩ := hi hg
        refine ⟨by simp [free, Ne.symm hc], ?_⟩
        rcases rest with ⟨rfl, rfl⟩ | ⟨t, rfl, ht⟩
        · exact .inl ⟨rfl, rfl⟩
        · exact .inr ⟨t, rfl, ht⟩
  case mpr =>
    rintro ⟨free, ⟨rfl, rfl⟩ | ⟨t, rfl, rfl⟩⟩
    · exact fields_of_not_mem free
    · exact fields_append free t

theorem after?_eq_some_iff {front rest : List Char} :
    after? front s = some rest ↔ s = front ++ rest := by
  constructor
  case mp => exact eq_append_of_after?
  case mpr =>
    rintro rfl
    exact after?_append front rest

end Text

namespace Repository

-- What may stand between two slashes of an address.
def IsSegment (s : String) : Prop := s ≠ "" ∧ '/' ∉ s.toList

structure Located (url host owner name : String) : Prop where
  form  : ∃ scheme, (scheme = "http" ∨ scheme = "https") ∧
    url = scheme ++ "://" ++ host ++ "/" ++ owner ++ "/" ++ name
  host  : IsSegment host
  owner : IsSegment owner
  name  : IsSegment name

theorem afterScheme?_eq_some_iff {url rest : List Char} :
    afterScheme? url = some rest ↔
      url = "http://".toList ++ rest ∨ url = "https://".toList ++ rest := by
  unfold afterScheme?
  constructor
  case mp =>
    intro h
    rcases Option.or_eq_some_iff.mp h with h | ⟨_, h⟩
    · exact .inl (Text.after?_eq_some_iff.mp h)
    · exact .inr (Text.after?_eq_some_iff.mp h)
  case mpr =>
    rintro (rfl | rfl)
    case inl => rw [Text.after?_append, Option.some_or]
    case inr =>
      have other : Text.after? "http://".toList ("https://".toList ++ rest) = none := by rfl
      rw [other, Text.after?_append, Option.none_or]

-- The three segments after the scheme, as characters.
theorem fields_eq_three_iff {rest h o n : List Char} :
    Text.fields '/' rest = [h, o, n] ↔
      ('/' ∉ h ∧ '/' ∉ o ∧ '/' ∉ n) ∧ rest = h ++ '/' :: (o ++ '/' :: n) := by
  constructor
  case mp =>
    intro first
    obtain ⟨hh, ⟨nil, -⟩ | ⟨s, rfl, second⟩⟩ := Text.fields_eq_cons_iff.mp first
    case inl => cases nil
    obtain ⟨ho, ⟨nil, -⟩ | ⟨t, rfl, third⟩⟩ := Text.fields_eq_cons_iff.mp second
    case inl => cases nil
    obtain ⟨hn, ⟨-, rfl⟩ | ⟨u, -, none⟩⟩ := Text.fields_eq_cons_iff.mp third
    case inl => exact ⟨⟨hh, ho, hn⟩, rfl⟩
    case inr =>
      obtain ⟨f, fs, some⟩ := Text.exists_fields_eq_cons '/' u
      cases none.symm.trans some
  case mpr =>
    rintro ⟨⟨hh, ho, hn⟩, rfl⟩
    rw [Text.fields_append hh, Text.fields_append ho, Text.fields_of_not_mem hn]

theorem fields_of_located {url host owner name : String} (h : Located url host owner name) :
    ∃ rest, afterScheme? url.toList = some rest ∧
      Text.fields '/' rest = [host.toList, owner.toList, name.toList] := by
  obtain ⟨⟨scheme, hs, form⟩, ⟨-, hc⟩, ⟨-, ho⟩, ⟨-, hn⟩⟩ := h
  refine ⟨_, ?_, fields_eq_three_iff.mpr ⟨⟨hc, ho, hn⟩, rfl⟩⟩
  rw [afterScheme?_eq_some_iff, form]
  rcases hs with rfl | rfl <;> simp

theorem Located.unique {url h o n h' o' n' : String} (first : Located url h o n)
    (second : Located url h' o' n') : h = h' ∧ o = o' ∧ n = n' := by
  obtain ⟨rest, after, segments⟩ := fields_of_located first
  obtain ⟨rest', after', segments'⟩ := fields_of_located second
  cases after.symm.trans after'
  have same := segments.symm.trans segments'
  simpa [String.toList_inj] using same

theorem hostOf?_eq_some_iff {url host : String} :
    hostOf? url = some host ↔ ∃ owner name, Located url host owner name := by
  constructor
  case mp =>
    intro h
    obtain ⟨rest, hr, h⟩ := Option.bind_eq_some_iff.mp h
    split at h
    case h_2 => cases h
    case h_1 cs os ns hf =>
      obtain ⟨⟨hc, ho, hn⟩, rfl⟩ := fields_eq_three_iff.mp hf
      split at h
      case isTrue => cases h
      case isFalse filled =>
        simp only [Bool.or_eq_true, List.isEmpty_iff, not_or] at filled
        obtain ⟨⟨filledHost, filledOwner⟩, filledName⟩ := filled
        cases h
        refine ⟨String.ofList os, String.ofList ns, ?_, ⟨?_, ?_⟩, ⟨?_, ?_⟩, ⟨?_, ?_⟩⟩
        case refine_1 =>
          rcases afterScheme?_eq_some_iff.mp hr with e | e
          · exact ⟨"http", .inl rfl, String.toList_inj.mp (by simp [e])⟩
          · exact ⟨"https", .inr rfl, String.toList_inj.mp (by simp [e])⟩
        all_goals simpa
  case mpr =>
    rintro ⟨owner, name, located⟩
    obtain ⟨rest, after, segments⟩ := fields_of_located located
    refine Option.bind_eq_some_iff.mpr ⟨rest, after, ?_⟩
    simp [segments, located.host.left, located.owner.left, located.name.left]

end Repository

end RefWatch
