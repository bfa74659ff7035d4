import Mathlib.Data.List.Induction
import Mathlib.Data.List.Nodup
import RefWatch.Json

namespace RefWatch.Json

variable {α : Type} {ms : List (String × α)}

theorem find?_put (ms : List (String × α)) (name other : String) (v : α) :
    (put ms name v).find? (·.1 == other) =
      if name = other then some (name, v) else ms.find? (·.1 == other) := by
  unfold put
  split
  case isTrue known =>
    have same : (fun m : String × α => m.1 == other) ∘ (fun m => if m.1 == name then (name, v) else m) =
        (·.1 == other) := by
      funext m
      by_cases h : m.1 = name <;> simp [h]
    rw [List.find?_map, same]
    cases found : ms.find? (·.1 == other)
    case none =>
      have ne : name ≠ other := by
        rintro rfl
        have ⟨m, hm, eq⟩ := List.any_eq_true.mp known
        exact List.find?_eq_none.mp found m hm eq
      simp [ne]
    case some m =>
      have eq : m.1 = other := by simpa using List.find?_some found
      by_cases h : name = other
      case pos => simp [h, eq]
      case neg => simp [h, eq, Ne.symm h]
  case isFalse unknown =>
    rw [List.find?_append]
    by_cases h : name = other
    case pos =>
      have none : ms.find? (·.1 == other) = none :=
        List.find?_eq_none.mpr fun m hm eq => unknown (List.any_eq_true.mpr ⟨m, hm, h ▸ eq⟩)
      simp [h, none]
    case neg => simp [h]

theorem distinct_concat (ms : List (String × α)) (m : String × α) :
    distinct (ms ++ [m]) = put (distinct ms) m.1 m.2 := by
  simp [distinct]

-- Under a name stands what was given last.
theorem find?_distinct (ms : List (String × α)) (name : String) :
    (distinct ms).find? (·.1 == name) = ms.reverse.find? (·.1 == name) := by
  induction ms using List.reverseRecOn
  case nil => rfl
  case append_singleton ms m hi =>
    rw [distinct_concat, find?_put, hi, List.reverse_append, List.reverse_singleton,
      List.singleton_append, List.find?_cons]
    by_cases h : m.1 = name
    case pos => subst h; simp
    case neg => simp [h, beq_eq_false_iff_ne.mpr h]

theorem mem_of_mem_put {name : String} {v : α} {m : String × α} (h : m ∈ put ms name v) :
    m ∈ ms ∨ m = (name, v) := by
  unfold put at h
  split at h
  case isTrue =>
    have ⟨n, hn, eq⟩ := List.mem_map.mp h
    split at eq
    case isTrue => exact .inr eq.symm
    case isFalse => exact .inl (eq ▸ hn)
  case isFalse => simpa using h

theorem mem_of_mem_distinct {m : String × α} (h : m ∈ distinct ms) : m ∈ ms := by
  induction ms using List.reverseRecOn
  case nil => cases h
  case append_singleton ms n hi =>
    rw [distinct_concat] at h
    rcases mem_of_mem_put h with h | rfl
    case inl => exact List.mem_append_left _ (hi h)
    case inr => exact List.mem_append_right _ (List.mem_singleton_self _)

theorem put_of_not_mem {name : String} (h : name ∉ ms.map (·.1)) (v : α) :
    put ms name v = ms ++ [(name, v)] := by
  have fresh : ms.any (·.1 == name) = false :=
    List.any_eq_false.mpr fun m hm same => h (List.mem_map.mpr ⟨m, hm, beq_iff_eq.mp same⟩)
  rw [put, fresh]
  rfl

-- Names that come once are put behind each other.
theorem foldl_put_of_nodup {base : List (String × α)} (h : ((base ++ ms).map (·.1)).Nodup) :
    ms.foldl (fun ms m => put ms m.1 m.2) base = base ++ ms := by
  induction ms generalizing base
  case nil => rw [List.foldl_nil, List.append_nil]
  case cons m ms hi =>
    have fresh : m.1 ∉ base.map (·.1) := by
      intro old
      rw [List.map_append, List.nodup_append] at h
      exact h.2.2 m.1 old m.1 List.mem_cons_self rfl
    rw [List.append_cons] at h
    rw [List.foldl_cons, put_of_not_mem fresh, hi h, ← List.append_cons]

theorem distinct_of_nodup (h : (ms.map (·.1)).Nodup) : distinct ms = ms := foldl_put_of_nodup h

theorem map_fst_put (ms : List (String × α)) (name : String) (v : α) :
    (put ms name v).map (·.1) =
      if name ∈ ms.map (·.1) then ms.map (·.1) else ms.map (·.1) ++ [name] := by
  have known : ms.any (·.1 == name) ↔ name ∈ ms.map (·.1) := by
    simp [List.any_eq_true, List.mem_map]
  unfold put
  by_cases h : name ∈ ms.map (·.1)
  case pos =>
    rw [if_pos (known.mpr h), if_pos h, List.map_map]
    refine List.map_congr_left fun m _ => ?_
    by_cases same : m.1 = name <;> simp [same]
  case neg => rw [if_neg (mt known.mp h), if_neg h, List.map_append, List.map_singleton]

-- No name is left twice.
theorem nodup_distinct (ms : List (String × α)) : ((distinct ms).map (·.1)).Nodup := by
  induction ms using List.reverseRecOn
  case nil => exact List.nodup_nil
  case append_singleton ms m hi =>
    rw [distinct_concat, map_fst_put]
    split
    case isTrue => exact hi
    case isFalse fresh =>
      refine List.nodup_append.mpr ⟨hi, List.nodup_singleton _, fun name old _ new => ?_⟩
      rintro rfl
      exact fresh (List.mem_singleton.mp new ▸ old)

theorem get?_eq_none {ms : Members} {name : String} (h : name ∉ ms.map (·.1)) : ms.get? name = none := by
  have none : ms.reverse.find? (·.1 == name) = none :=
    List.find?_eq_none.mpr fun m hm same =>
      h (List.mem_map.mpr ⟨m, List.mem_reverse.mp hm, beq_iff_eq.mp same⟩)
  rw [Members.get?, none, Option.map_none]

-- Where no name comes twice, each stands for its own value.
theorem get?_of_mem {ms : Members} {name : String} {v : Json} (once : (ms.map (·.1)).Nodup)
    (h : (name, v) ∈ ms) : ms.get? name = some v := by
  induction ms using List.reverseRecOn
  case nil => cases h
  case append_singleton ms m hi =>
    rw [List.map_append, List.nodup_append] at once
    rw [Members.get?_concat]
    rcases List.mem_append.mp h with old | new
    case inl =>
      have apart : name ≠ m.1 := once.2.2 name (List.mem_map_of_mem old) m.1 (by simp)
      rw [if_neg (by simpa using apart.symm), hi once.1 old]
    case inr =>
      cases List.mem_singleton.mp new
      rw [if_pos (beq_self_eq_true name)]

end RefWatch.Json
