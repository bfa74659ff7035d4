import RefWatch.Proofs.Making
import RefWatch.Proofs.Resolution
import RefWatch.Service
import RefWatch.Settings.Reader

namespace RefWatch

namespace Field

variable {α β : Type}

namespace Checked

-- Whether a reading has been stopped and tells no faults.
def stops : Checked α → Bool
  | wrong (.stopped _) => true
  | _ => false

@[simp]
theorem stops_ok (a : α) : (ok a).stops = false := rfl

@[simp]
theorem stops_flaw (f : Flaw) : (flaw f : Checked α).stops = false := rfl

@[simp]
theorem stops_map (f : α → β) (x : Checked α) : (f <$> x).stops = x.stops := by
  cases x
  case ok a => rfl
  case wrong p => cases p <;> rfl

-- Fields stop the reading if one of them does.
@[simp]
theorem stops_ap (f : Checked (α → β)) (x : Checked α) : (f <*> x).stops = (f.stops || x.stops) := by
  cases f <;> cases x
  case wrong.wrong p q => cases p <;> cases q <;> rfl
  case wrong.ok p a => cases p <;> rfl
  case ok.wrong g p => cases p <;> rfl
  case ok.ok g a => rfl

@[simp]
theorem stops_under (s : Step) (x : Checked α) : (x.under s).stops = x.stops := by
  cases x
  case ok a => rfl
  case wrong p => cases p <;> rfl

theorem stops_andThen_iff (x : Checked α) (f : α → Checked β) :
    (x.andThen f).stops ↔ x.stops ∨ ∃ a, x = ok a ∧ (f a).stops := by
  cases x
  case ok a => simp [andThen]
  case wrong p => cases p <;> simp [andThen, stops]

end Checked

open Checked

def Calm (r : Read α) : Prop := ∀ j, (r j).stops = false

theorem calm_text : Calm text := by
  intro j
  cases j <;> rfl

theorem Calm.andThen {r : Read α} {f : α → Checked β} (h : Calm r) (hf : ∀ a, (f a).stops = false) :
    Calm fun j => (r j).andThen f := by
  intro j
  rw [← Bool.not_eq_true, stops_andThen_iff, h j]
  rintro (first | ⟨a, -, further⟩)
  case inl => cases first
  case inr => cases (hf a).symm.trans further

theorem calm_filledText : Calm filledText :=
  calm_text.andThen fun s => by split <;> rfl

theorem stops_nullable_iff (r : Read α) (j : Json) :
    (nullable r j).stops ↔ j ≠ .null ∧ (r j).stops := by
  have same (x : Checked α) : (x.map some).stops = x.stops := stops_map some x
  cases j <;> simp [nullable, same]

theorem Calm.nullable {r : Read α} (h : Calm r) : Calm (nullable r) := by
  intro j
  rw [← Bool.not_eq_true, stops_nullable_iff, h j]
  exact nofun

theorem stops_boolOfNumber (n : Number) : (boolOfNumber n).stops = false := by
  simp [boolOfNumber, apply_ite stops]

theorem stops_boolOfWord (s : String) : (boolOfWord s).stops = false := by
  simp [boolOfWord, apply_ite stops]

theorem calm_boolean : Calm boolean := by
  intro j
  cases j
  case number n => exact stops_boolOfNumber n
  case text s => exact stops_boolOfWord s
  all_goals rfl

theorem stops_intOfFloat (x : Float) : (intOfFloat x).stops = false := by
  simp [intOfFloat, apply_ite stops]

theorem stops_intOfWord (s : List Char) : (intOfWord s).stops = false := by
  unfold intOfWord
  split
  case h_1 => rfl
  case h_2 =>
    split
    case isTrue => rfl
    case isFalse => split <;> rfl

theorem calm_integer : Calm integer := by
  intro j
  cases j
  case number n =>
    cases n
    case whole n => rfl
    all_goals exact stops_intOfFloat _
  case text s => exact stops_intOfWord s.toList
  all_goals rfl

theorem Calm.entries {r : Read α} (h : Calm r) (ms : Json.Members) : (entries r ms).stops = false := by
  induction ms
  case nil => rfl
  case cons m ms hi =>
    have first : (entry r m).stops = false := by
      unfold entry
      split <;> simp [h _]
    simp [Field.entries, first, hi]

theorem Calm.table {r : Read α} (h : Calm r) : Calm (table r) := by
  intro j
  cases j
  case object ms => exact h.entries _
  all_goals rfl

theorem stops_onlyNames (names : List String) (ms : Json.Members) : (onlyNames names ms).stops = false := by
  rw [onlyNames, apply_ite stops]
  exact ite_self _

section

variable (ms : Json.Members) (name : String) (r : Read α)

-- The reader of a member is stopped.
def Caught : Prop := ∃ j, ms.get? name = some j ∧ (r j).stops

theorem stops_required_iff : (required ms name r).stops ↔ Caught ms name r := by
  unfold required Caught
  cases ms.get? name <;> simp

theorem stops_withDefault_iff (default : α) :
    (withDefault ms name default r).stops ↔ Caught ms name r := by
  unfold withDefault Caught
  cases ms.get? name <;> simp

variable {ms name r}

theorem not_caught (h : Calm r) : ¬Caught ms name r := by
  rintro ⟨j, -, stops⟩
  cases (h j).symm.trans stops

end

theorem stops_items_iff (r : Read α) (i : Nat) (js : List Json) :
    (items r i js).stops ↔ ∃ j ∈ js, (r j).stops := by
  induction js generalizing i
  case nil => simp [items]
  case cons j js hi => simp [items, hi]

theorem stops_list_iff (r : Read α) (j : Json) :
    (list r j).stops ↔ ∃ js, j = .list js ∧ ∃ k ∈ js, (r k).stops := by
  cases j
  case list js => simp [list, stops_items_iff]
  all_goals simp [list]

theorem stops_model_iff (name : String) (read : Json.Members → Checked α) (j : Json) :
    (model name read j).stops ↔ ∃ ms, j = .object ms ∧ (read ms).stops := by
  cases j <;> simp [model]

end Field

open RefWatch.Field Checked
open Resolution (bind_eq_ok_iff bind_eq_error_iff)

-- What keeps a matcher from being made for a pattern that is not misspelt.
def outOfReach : List Pattern.Fault := [.repetitionTooLarge, .lookbehindTooLong, .tooDeep]

def Unmatchable (s : String) : Prop := ∃ f ∈ outOfReach, Pattern.ofString s = .error f

instance (s : String) : Decidable (Unmatchable s) :=
  match h : Pattern.ofString s with
  | .ok _ => isFalse fun ⟨_, _, hf⟩ => by cases h.symm.trans hf
  | .error f => decidable_of_iff (f ∈ outOfReach)
    ⟨fun hf => ⟨f, hf, h⟩, fun ⟨_, hf, same⟩ => by cases h.symm.trans same; exact hf⟩

theorem stops_patternFlaw_iff (s : String) (f : Pattern.Fault) :
    (wrong (patternFlaw s f) : Checked Pattern).stops ↔ f ∈ outOfReach := by
  cases f <;> simp [patternFlaw, stops, outOfReach]

theorem patternField_of_ok {s : String} {p : Pattern} (h : Pattern.ofString s = .ok p) :
    patternField (.text s) = .ok p := by
  simp [patternField, text, andThen, h]

theorem patternField_of_error {s : String} {f : Pattern.Fault} (h : Pattern.ofString s = .error f) :
    patternField (.text s) = .wrong (patternFlaw s f) := by
  simp [patternField, text, andThen, h]

theorem stops_patternField_iff (j : Json) :
    (patternField j).stops ↔ ∃ s, j = .text s ∧ Unmatchable s := by
  cases j
  case text s =>
    cases h : Pattern.ofString s
    case ok p => simp [Unmatchable, h, patternField_of_ok h]
    case error f => simp [Unmatchable, h, patternField_of_error h, stops_patternFlaw_iff]
  all_goals exact iff_of_false (Bool.eq_false_iff.mp rfl) nofun

-- A pattern that has been read can be made again from its text.
def Remade (p : Pattern) : Prop := Pattern.ofString p.text = .ok p

theorem text_of_ofString {s : String} {p : Pattern} (h : Pattern.ofString s = .ok p) : p.text = s := by
  unfold Pattern.ofString at h
  cases hr : Pattern.read s.toList
  case error f =>
    rw [hr] at h
    cases h
  case ok r =>
    rw [hr] at h
    cases h
    rfl

theorem remade_of_patternField {j : Json} {p : Pattern} (h : patternField j = .ok p) : Remade p := by
  cases j
  case text s =>
    cases hp : Pattern.ofString s
    case error f => cases (patternField_of_error hp).symm.trans h
    case ok q =>
      cases (patternField_of_ok hp).symm.trans h
      rw [Remade, text_of_ofString hp, hp]
  all_goals cases h

namespace SourceSettings

theorem stops_ofMembers_iff (ms : Json.Members) :
    (ofMembers ms).stops ↔ ∃ s, ms.get? "head_regex" = some (.text s) ∧ Unmatchable s := by
  have pattern : Caught ms "head_regex" (nullable patternField) ↔
      ∃ s, ms.get? "head_regex" = some (.text s) ∧ Unmatchable s := by
    simp only [Caught, stops_nullable_iff, stops_patternField_iff]
    constructor
    case mp =>
      rintro ⟨_, here, -, s, rfl, bad⟩
      exact ⟨s, here, bad⟩
    case mpr =>
      rintro ⟨s, here, bad⟩
      exact ⟨.text s, here, nofun, s, rfl, bad⟩
  simp only [ofMembers, Field.optional, stops_ap, stops_map, Bool.or_eq_true, stops_required_iff,
    stops_withDefault_iff, not_caught calm_text, not_caught calm_filledText, not_caught calm_boolean,
    not_caught calm_text.nullable, false_or, pattern]

end SourceSettings

namespace NavigatorSettings

theorem stops_ofMembers (ms : Json.Members) : (ofMembers ms).stops = false := by
  rw [← Bool.not_eq_true]
  simp only [ofMembers, stops_ap, stops_map, Bool.or_eq_true, stops_required_iff,
    stops_withDefault_iff, not_caught calm_filledText, not_caught calm_text.nullable, or_self,
    not_false_eq_true]

end NavigatorSettings

namespace Settings

theorem calm_delayField : Calm delayField :=
  calm_integer.andThen fun n => by split <;> rfl

theorem calm_aliasesField : Calm aliasesField := fun j =>
  (stops_map lowerAliases _).trans (calm_text.table j)

theorem calm_levelField : Calm levelField :=
  calm_text.andThen fun s => by split <;> rfl

theorem calm_formatField : Calm formatField :=
  calm_text.andThen fun s => by split <;> rfl

theorem calm_portField : Calm portField :=
  calm_integer.andThen fun n => by split <;> rfl

-- A source among some members has a pattern.
def Patterned (ms : Json.Members) (s : String) : Prop :=
  ∃ (js : List Json) (source : Json.Members), ms.get? "sources" = some (.list js) ∧ .object source ∈ js ∧
    source.get? "head_regex" = some (.text s)

theorem stops_ofMembers_iff (ms : Json.Members) :
    (ofMembers ms).stops ↔ ∃ s, Patterned ms s ∧ Unmatchable s := by
  have sources : Caught ms "sources" (list SourceSettings.ofJson) ↔
      ∃ s, Patterned ms s ∧ Unmatchable s := by
    simp only [Caught, stops_list_iff, SourceSettings.ofJson, stops_model_iff,
      SourceSettings.stops_ofMembers_iff]
    constructor
    case mp =>
      rintro ⟨_, here, js, rfl, _, member, source, rfl, s, pattern, bad⟩
      exact ⟨s, ⟨js, source, here, member, pattern⟩, bad⟩
    case mpr =>
      rintro ⟨s, ⟨js, source, here, member, pattern⟩, bad⟩
      exact ⟨_, here, js, rfl, _, member, source, rfl, s, pattern, bad⟩
  have navigators : ¬Caught ms "navigators" (list NavigatorSettings.ofJson) := by
    simp only [Caught, stops_list_iff, NavigatorSettings.ofJson, stops_model_iff,
      NavigatorSettings.stops_ofMembers]
    rintro ⟨_, -, js, -, _, -, source, -, stopped⟩
    cases stopped
  simp only [ofMembers, stops_ap, stops_map, Bool.or_eq_true, stops_withDefault_iff,
    not_caught calm_delayField, not_caught calm_aliasesField, not_caught calm_levelField,
    not_caught calm_formatField, not_caught calm_text, not_caught calm_portField, navigators, sources,
    stops_onlyNames, Bool.false_eq_true, false_or, or_false]

-- An environment can hold a variable.
structure Holdable (v : String × String) : Prop where
  noNul  : '\x00' ∉ v.1.toList ∧ '\x00' ∉ v.2.toList
  noSign : '=' ∉ v.1.toList
  named  : v.1 ≠ ""

section

variable {ε α β : Type}

theorem forM_eq_ok_iff (f : α → Except ε Unit) (xs : List α) :
    xs.forM f = .ok () ↔ ∀ x ∈ xs, f x = .ok () := by
  induction xs
  case nil => exact iff_of_true rfl nofun
  case cons x xs hi =>
    have cons : (x :: xs).forM f = f x >>= fun _ => xs.forM f := List.forM_cons
    rw [cons, bind_eq_ok_iff, List.forall_mem_cons, ← hi]
    exact ⟨fun ⟨_, first, rest⟩ => ⟨first, rest⟩, fun ⟨first, rest⟩ => ⟨_, first, rest⟩⟩

theorem exists_of_forM_eq_error {f : α → Except ε Unit} {xs : List α} {e : ε}
    (h : xs.forM f = .error e) : ∃ x ∈ xs, f x = .error e := by
  induction xs
  case nil => cases h
  case cons x xs hi =>
    have cons : (x :: xs).forM f = f x >>= fun _ => xs.forM f := List.forM_cons
    rw [cons, bind_eq_error_iff] at h
    rcases h with first | ⟨_, _, later⟩
    case inl => exact ⟨x, List.mem_cons_self, first⟩
    case inr =>
      obtain ⟨y, hy, fails⟩ := hi later
      exact ⟨y, List.mem_cons_of_mem x hy, fails⟩

theorem exists_of_mapM_eq_error {f : α → Except ε β} {xs : List α} {e : ε}
    (h : xs.mapM f = .error e) : ∃ x ∈ xs, f x = .error e := by
  induction xs
  case nil => cases h
  case cons x xs hi =>
    simp only [List.mapM_cons, bind_eq_error_iff, pure, Except.pure, reduceCtorEq, and_false,
      exists_false, or_false] at h
    rcases h with first | ⟨_, _, later⟩
    case inl => exact ⟨x, List.mem_cons_self, first⟩
    case inr =>
      obtain ⟨y, hy, fails⟩ := hi later
      exact ⟨y, List.mem_cons_of_mem x hy, fails⟩

theorem mapM_eq_ok_iff (f : α → Except ε β) (xs : List α) :
    (∃ ys, xs.mapM f = .ok ys) ↔ ∀ x ∈ xs, ∃ y, f x = .ok y := by
  induction xs
  case nil => exact iff_of_true ⟨[], rfl⟩ nofun
  case cons x xs hi =>
    rw [List.forall_mem_cons, ← hi]
    simp only [List.mapM_cons, bind_eq_ok_iff, pure, Except.pure]
    constructor
    case mp => exact fun ⟨_, y, first, ys, rest, _⟩ => ⟨⟨y, first⟩, ys, rest⟩
    case mpr => exact fun ⟨⟨y, first⟩, ys, rest⟩ => ⟨_, y, first, ys, rest, rfl⟩

end

theorem checkVariables_eq_ok_iff (env : List (String × String)) :
    checkVariables env = .ok () ↔ ∀ v ∈ env, Holdable v := by
  rw [checkVariables, forM_eq_ok_iff]
  refine forall₂_congr fun v _ => ?_
  simp only [String.contains_char_eq, Bool.or_eq_true, decide_eq_true_eq]
  split
  case isTrue nul => exact iff_of_false nofun fun h => nul.elim h.noNul.1 h.noNul.2
  case isFalse noNul =>
    split
    case isTrue sign => exact iff_of_false nofun fun h => h.noSign sign
    case isFalse noSign =>
      split
      case isTrue empty => exact iff_of_false nofun fun h => h.named empty
      case isFalse named => exact iff_of_true rfl ⟨not_or.mp noNul, noSign, named⟩

theorem checkVariables_ne_invalid (env : List (String × String)) (p : Field.Problem) :
    checkVariables env ≠ .error (.invalid p) := by
  intro h
  obtain ⟨v, -, fails⟩ := exists_of_forM_eq_error h
  split at fails
  case isTrue => cases fails
  case isFalse =>
    split at fails
    case isTrue => cases fails
    case isFalse => split at fails <;> cases fails

-- The variable of a field can be read as a document, if it should be one.
def Readable (env : List (String × String)) (field : String) : Prop :=
  field ∈ documentFields → ∀ v, valueFor? env field = some v → ∃ j, Json.readText .setting v = .ok j

theorem variableField_eq_ok_iff (env : List (String × String)) (field : String) :
    (∃ m, variableField env field = .ok m) ↔ Readable env field := by
  unfold variableField Readable
  cases valueFor? env field
  case none => simp
  case some v =>
    by_cases document : field ∈ documentFields
    case neg => simp [document]
    case pos =>
      simp only [List.contains_eq_mem, document, decide_true, if_true, true_implies,
        Option.some.injEq, forall_eq']
      cases Json.readText .setting v
      case ok j => cases j <;> simp
      case error f =>
        refine iff_of_false ?_ nofun
        rintro ⟨m, hm⟩
        split at hm <;> simp_all

theorem variableFields_ne_invalid (env : List (String × String)) (p : Field.Problem) :
    variableFields env ≠ .error (.invalid p) := by
  intro h
  cases hm : fieldNames.mapM (variableField env)
  case ok ms => simp [variableFields, hm, Except.map] at h
  case error problem =>
    obtain ⟨field, -, fails⟩ := exists_of_mapM_eq_error hm
    have same : problem = .invalid p := by simpa [variableFields, hm, Except.map] using h
    rw [same] at fails
    unfold variableField at fails
    repeat' split at fails
    all_goals cases fails

theorem variableFields_eq_ok_iff (env : List (String × String)) :
    (∃ ms, variableFields env = .ok ms) ↔ ∀ field ∈ fieldNames, Readable env field := by
  rw [← forall₂_congr fun field _ => variableField_eq_ok_iff env field, ← mapM_eq_ok_iff, variableFields]
  cases fieldNames.mapM (variableField env) <;> simp [Except.map]

-- What has been given, laid over what the variables give.
def laid (fromEnv given : Json.Members) : Json.Members :=
  (byField (Json.distinct given)).foldl overlay fromEnv

-- A reading ends with settings or with the faults of the fields.
inductive Told : Except Problem Settings → Prop
  | settings (s : Settings) : Told (.ok s)
  | faults (fs : List Fault) : Told (.error (.invalid (.faults fs)))

theorem told_toExcept_iff (x : Checked Settings) :
    Told (x.toExcept.mapError .invalid) ↔ x.stops = false := by
  cases x
  case ok s => exact iff_of_true (.settings s) rfl
  case wrong p =>
    cases p
    case faults fs => exact iff_of_true (.faults fs) rfl
    case stopped s => exact iff_of_false nofun nofun

-- What it takes for the reading to be told.
structure Regular (env : List (String × String)) (given : Json.Members) : Prop where
  holdable  : ∀ v ∈ env, Holdable v
  documents : ∀ field ∈ fieldNames, Readable env field
  patterns  : ∀ fromEnv, variableFields env = .ok fromEnv →
    ∀ s, Patterned (laid fromEnv given) s → ¬Unmatchable s

theorem read_of_ok {env : List (String × String)} {fromEnv : Json.Members}
    (checked : checkVariables env = .ok ()) (fields : variableFields env = .ok fromEnv)
    (given : Json.Members) :
    read env given = (ofMembers (laid fromEnv given)).toExcept.mapError .invalid := by
  rw [read, checked]
  exact congrArg (· >>= fun ms => (ofMembers (laid ms given)).toExcept.mapError .invalid) fields

theorem read_of_error {env : List (String × String)} {problem : Problem}
    (h : checkVariables env = .error problem ∨
      checkVariables env = .ok () ∧ variableFields env = .error problem) (given : Json.Members) :
    read env given = .error problem := by
  rcases h with checked | ⟨checked, fields⟩
  case inl => rw [read, checked]; rfl
  case inr => rw [read, checked, fields]; rfl

theorem told_error_iff (problem : Problem) :
    Told (.error problem) ↔ ∃ fs, problem = .invalid (.faults fs) := by
  constructor
  case mp =>
    rintro ⟨⟩
    exact ⟨_, rfl⟩
  case mpr =>
    rintro ⟨fs, rfl⟩
    exact .faults fs

theorem told_read_iff (env : List (String × String)) (given : Json.Members) :
    Told (read env given) ↔ Regular env given := by
  have held := checkVariables_eq_ok_iff env
  have readable := variableFields_eq_ok_iff env
  cases hv : checkVariables env
  case error problem =>
    rw [read_of_error (.inl hv), told_error_iff]
    refine iff_of_false ?_ fun regular => ?_
    case refine_1 =>
      rintro ⟨fs, rfl⟩
      exact checkVariables_ne_invalid env _ hv
    case refine_2 => cases hv.symm.trans (held.mpr regular.holdable)
  case ok =>
    cases hf : variableFields env
    case error problem =>
      rw [read_of_error (.inr ⟨hv, hf⟩), told_error_iff]
      refine iff_of_false ?_ fun regular => ?_
      case refine_1 =>
        rintro ⟨fs, rfl⟩
        exact variableFields_ne_invalid env _ hf
      case refine_2 =>
        obtain ⟨ms, ok⟩ := readable.mpr regular.documents
        cases hf.symm.trans ok
    case ok fromEnv =>
      rw [read_of_ok hv hf, told_toExcept_iff, ← Bool.not_eq_true, stops_ofMembers_iff]
      constructor
      case mp =>
        intro calm
        refine ⟨held.mp hv, readable.mp ⟨fromEnv, hf⟩, ?_⟩
        intro ms same s patterned bad
        cases hf.symm.trans same
        exact calm ⟨s, patterned, bad⟩
      case mpr =>
        rintro regular ⟨s, patterned, bad⟩
        exact regular.patterns fromEnv hf s patterned bad

end Settings

section

variable {α : Type} {r : Read α} {a : α}

theorem ok_of_withDefault {ms : Json.Members} {name : String} {default : α}
    (h : withDefault ms name default r = .ok a) : a = default ∨ ∃ j, r j = .ok a := by
  rw [withDefault, under_eq_ok_iff] at h
  split at h
  case h_1 j _ => exact .inr ⟨j, h⟩
  case h_2 =>
    cases h
    exact .inl rfl

theorem ok_of_nullable {j : Json} (h : nullable r j = .ok (some a)) : r j = .ok a := by
  unfold nullable at h
  split at h
  case h_1 => cases h
  case h_2 =>
    cases hr : r j
    case ok b =>
      rw [hr] at h
      cases h
      rfl
    case wrong p =>
      rw [hr] at h
      cases h

theorem ok_of_mem_items {i : Nat} {js : List Json} {as : List α} (h : items r i js = .ok as)
    (ha : a ∈ as) : ∃ j, r j = .ok a := by
  induction js generalizing i as
  case nil =>
    cases h
    cases ha
  case cons j js hi =>
    obtain ⟨f, bs, cons, rest, rfl⟩ := ap_eq_ok_iff.mp h
    obtain ⟨b, first, rfl⟩ := map_eq_ok_iff.mp cons
    rcases List.mem_cons.mp ha with rfl | later
    case inl => exact ⟨j, under_eq_ok_iff.mp first⟩
    case inr => exact hi rest later

theorem ok_of_mem_list {j : Json} {as : List α} (h : list r j = .ok as) (ha : a ∈ as) :
    ∃ j, r j = .ok a := by
  cases j
  case list js => exact ok_of_mem_items h ha
  all_goals cases h

end

namespace SourceSettings

theorem pattern_of_ofMembers {ms : Json.Members} {source : SourceSettings}
    (h : ofMembers ms = .ok source) :
    withDefault ms "head_regex" none (nullable patternField) = .ok source.pattern := by
  obtain ⟨_, pattern, h₇, read, rfl⟩ := ap_eq_ok_iff.mp h
  obtain ⟨_, excludes, h₆, -, rfl⟩ := ap_eq_ok_iff.mp h₇
  obtain ⟨_, includes, h₅, -, rfl⟩ := ap_eq_ok_iff.mp h₆
  obtain ⟨_, tags, h₄, -, rfl⟩ := ap_eq_ok_iff.mp h₅
  obtain ⟨_, branches, h₃, -, rfl⟩ := ap_eq_ok_iff.mp h₄
  obtain ⟨_, api, h₂, -, rfl⟩ := ap_eq_ok_iff.mp h₃
  obtain ⟨_, repository, h₁, -, rfl⟩ := ap_eq_ok_iff.mp h₂
  obtain ⟨owner, -, rfl⟩ := map_eq_ok_iff.mp h₁
  exact read

theorem remade_of_ofMembers {ms : Json.Members} {source : SourceSettings}
    (h : ofMembers ms = .ok source) {p : Pattern} (hp : .pattern p ∈ source.toSource.prefilters) :
    Remade p := by
  have set : source.pattern = some p := by
    cases narrow : source.narrows <;> simpa [toSource, prefilters, narrow] using hp
  have read := pattern_of_ofMembers h
  rw [set] at read
  rcases ok_of_withDefault read with none | ⟨j, read⟩
  case inl => cases none
  case inr => exact remade_of_patternField (ok_of_nullable read)

theorem exists_of_ofJson {j : Json} {source : SourceSettings} (h : ofJson j = .ok source) :
    ∃ ms, ofMembers ms = .ok source := by
  cases j
  case object ms => exact ⟨ms, h⟩
  all_goals cases h

end SourceSettings

namespace Settings

theorem sources_of_ofMembers {ms : Json.Members} {s : Settings} (h : ofMembers ms = .ok s) :
    withDefault ms "sources" [] (list SourceSettings.ofJson) = .ok s.sources := by
  obtain ⟨_, _, known, -, rfl⟩ := ap_eq_ok_iff.mp h
  obtain ⟨s, fields, rfl⟩ := map_eq_ok_iff.mp known
  obtain ⟨_, port, h₇, -, rfl⟩ := ap_eq_ok_iff.mp fields
  obtain ⟨_, host, h₆, -, rfl⟩ := ap_eq_ok_iff.mp h₇
  obtain ⟨_, format, h₅, -, rfl⟩ := ap_eq_ok_iff.mp h₆
  obtain ⟨_, level, h₄, -, rfl⟩ := ap_eq_ok_iff.mp h₅
  obtain ⟨_, navigators, h₃, -, rfl⟩ := ap_eq_ok_iff.mp h₄
  obtain ⟨_, sources, h₂, read, rfl⟩ := ap_eq_ok_iff.mp h₃
  obtain ⟨_, aliases, h₁, -, rfl⟩ := ap_eq_ok_iff.mp h₂
  obtain ⟨delay, -, rfl⟩ := map_eq_ok_iff.mp h₁
  exact read

-- Patterns are made again for the prefilters, and the delay is checked again.
structure Buildable (s : Settings) : Prop where
  patterns : ∀ source ∈ s.sources, ∀ p, .pattern p ∈ source.toSource.prefilters → Remade p
  delay    : ∀ instant, (Service.dispatcherOf s instant).ofDelay (.ofNumber (.whole s.delay)) =
    .ok (Service.dispatcherOf s instant)

theorem exists_of_read {env : List (String × String)} {given : Json.Members} {s : Settings}
    (h : read env given = .ok s) : ∃ ms, ofMembers ms = .ok s := by
  obtain ⟨_, checked, h⟩ := bind_eq_ok_iff.mp h
  obtain ⟨fromEnv, fields, h⟩ := bind_eq_ok_iff.mp h
  refine ⟨laid fromEnv given, ?_⟩
  change (ofMembers (laid fromEnv given)).toExcept.mapError Problem.invalid = .ok s at h
  cases hm : ofMembers (laid fromEnv given)
  case ok s' =>
    rw [hm] at h
    cases h
    rfl
  case wrong p =>
    rw [hm] at h
    cases h

theorem ofDelay_dispatcherOf (s : Settings) (instant : Int) :
    (Service.dispatcherOf s instant).ofDelay (.ofNumber (.whole s.delay)) =
      .ok (Service.dispatcherOf s instant) := by
  have natural : (Delay.ofNumber (.whole s.delay)).isNegative = false :=
    decide_eq_false (Int.not_lt.mpr (Int.natCast_nonneg s.delay))
  simp only [Dispatcher.ofDelay, Scheduler.checkDelay, natural]
  rfl

theorem buildable_of_read {env : List (String × String)} {given : Json.Members} {s : Settings}
    (h : read env given = .ok s) : Buildable s where
  patterns source member p hp := by
    obtain ⟨ms, fields⟩ := exists_of_read h
    rcases ok_of_withDefault (sources_of_ofMembers fields) with none | ⟨j, read⟩
    case inl =>
      rw [none] at member
      cases member
    case inr =>
      obtain ⟨j, read⟩ := ok_of_mem_list read member
      obtain ⟨ms, read⟩ := SourceSettings.exists_of_ofJson read
      exact SourceSettings.remade_of_ofMembers read hp
  delay := ofDelay_dispatcherOf s

end Settings

-- Sources and navigators that are read on their own are stopped by patterns only.
theorem readings_told (env : List (String × String)) (given ms : Json.Members) :
    (Settings.Told (Settings.read env given) ↔ Settings.Regular env given) ∧
      ((SourceSettings.ofMembers ms).stops ↔
        ∃ s, ms.get? "head_regex" = some (.text s) ∧ Unmatchable s) ∧
      (NavigatorSettings.ofMembers ms).stops = false ∧
      (∀ s, Settings.read env given = .ok s → Settings.Buildable s) ∧
      ∀ source, SourceSettings.ofMembers ms = .ok source →
        ∀ p, .pattern p ∈ source.toSource.prefilters → Remade p :=
  ⟨Settings.told_read_iff env given, SourceSettings.stops_ofMembers_iff ms,
    NavigatorSettings.stops_ofMembers ms, fun _ => Settings.buildable_of_read,
    fun _ h _ => SourceSettings.remade_of_ofMembers h⟩

-- A source that wants more repeats than can be counted.
def greedy : Json.Members :=
  [("repo_owner", .text "acme"), ("repository", .text "widgets"),
    ("head_regex", .text "a\x7b99999999999\x7d")]

theorem not_told_greedy : ¬∀ ms, (SourceSettings.ofMembers ms).stops = false := by
  intro all
  have stopped : (SourceSettings.ofMembers greedy).stops := by
    rw [SourceSettings.stops_ofMembers_iff]
    exact ⟨"a\x7b99999999999\x7d", rfl, by decide +kernel⟩
  exact Bool.false_ne_true ((all greedy).symm.trans stopped)

end RefWatch
