namespace RefWatch.Text

-- What stands before and after the first `sep`; the second part is none if there is no `sep`.
def cutFirst (sep : Char) : List Char → List Char × Option (List Char)
  | [] => ([], none)
  | c :: cs => if c = sep then ([], some cs) else ((c :: (cutFirst sep cs).1), (cutFirst sep cs).2)

-- What stands after the last `sep`, or all of it.
def afterLast (sep : Char) (s : List Char) : List Char := (s.reverse.takeWhile (· ≠ sep)).reverse

def fieldStep (sep c : Char) (fields : List (List Char)) : List (List Char) :=
  if c = sep then [] :: fields
  else
    match fields with
    | [] => [[c]]
    | f :: fs => (c :: f) :: fs

-- The fields between separators; there is one more of them than separators.
def fields (sep : Char) (s : List Char) : List (List Char) := s.foldr (fieldStep sep) [[]]

-- What follows a given text at the front.
def after? : (front : List Char) → List Char → Option (List Char)
  | [], s => some s
  | _ :: _, [] => none
  | t :: ts, c :: cs => if t = c then after? ts cs else none

theorem after?_append (front s : List Char) : after? front (front ++ s) = some s := by
  induction front with
  | nil => rfl
  | cons t ts ih => simpa [after?] using ih

theorem eq_append_of_after? {front s rest : List Char} (h : after? front s = some rest) :
    s = front ++ rest := by
  induction front generalizing s with
  | nil => simpa [after?] using h
  | cons t ts ih =>
    cases s with
    | nil => simp [after?] at h
    | cons c cs =>
      rw [after?] at h
      split at h
      · next e => rw [e, ih h, List.cons_append]
      · cases h

def dropFront? (front s : String) : Option String :=
  (after? front.toList s.toList).map String.ofList

theorem dropFront?_append (front s : String) : dropFront? front (front ++ s) = some s := by
  simp [dropFront?, after?_append]

theorem eq_append_of_dropFront? {front s rest : String} (h : dropFront? front s = some rest) :
    s = front ++ rest := by
  obtain ⟨r, hr, rfl⟩ := Option.map_eq_some_iff.1 h
  have := eq_append_of_after? hr
  apply String.toList_inj.1
  simp [this]

theorem cutFirst_of_not_mem {sep : Char} {s : List Char} (h : sep ∉ s) :
    cutFirst sep s = (s, none) := by
  induction s with
  | nil => rfl
  | cons c cs ih =>
    have hc : c ≠ sep := fun e => h (e ▸ .head _)
    simp [cutFirst, hc, ih fun m => h (.tail _ m)]

theorem cutFirst_append {sep : Char} {s : List Char} (h : sep ∉ s) (t : List Char) :
    cutFirst sep (s ++ sep :: t) = (s, some t) := by
  induction s with
  | nil => simp [cutFirst]
  | cons c cs ih =>
    have hc : c ≠ sep := fun e => h (e ▸ .head _)
    simp [cutFirst, hc, ih fun m => h (.tail _ m)]

theorem fields_of_not_mem {sep : Char} {s : List Char} (h : sep ∉ s) : fields sep s = [s] := by
  induction s with
  | nil => rfl
  | cons c cs ih =>
    have hc : c ≠ sep := fun e => h (e ▸ .head _)
    have := ih fun m => h (.tail _ m)
    simp only [fields, List.foldr_cons] at this ⊢
    simp [this, fieldStep, hc]

end RefWatch.Text
