import RefWatch.Proofs.Captures
import RefWatch.Proofs.NameForms

namespace RefWatch.Name

open Text (isAsciiAlphanumeric isHexDigit)
open Pattern (Node Single Times setHas)

def repositoryPattern : Pattern where
  text  := "^[0-9A-Za-z._-]+$"
  root  := .seq (.anchor .lineStart) <| .seq (.rep 1 none .greedy <| .set false
    [.range 48 57, .range 65 90, .range 97 122, .char 46, .char 95, .char 45]) (.anchor .lineEnd)
  flags := {}

def letterNode : Node := .set false [.range 65 90, .range 97 122, .range 48 57]

-- A letter or digit, perhaps after a hyphen.
def roundNode : Node := .seq (.rep 0 (some 1) .greedy (.char 45)) letterNode

def accountPattern : Pattern where
  text  := "^(?=.\x7b1,39\x7d$)[A-Za-z0-9](?:-?[A-Za-z0-9])*$"
  root  := .seq (.anchor .lineStart) <|
    .seq (.look true false (.seq (.rep 1 (some 39) .greedy .any) (.anchor .lineEnd))) <|
    .seq letterNode <| .seq (.rep 0 none .greedy (.group none {} {} roundNode)) (.anchor .lineEnd)
  flags := {}

def commitPattern : Pattern where
  text  := "^[a-fA-F0-9]\x7b40\x7d$"
  root  := .seq (.anchor .lineStart) <| .seq (.rep 40 (some 40) .greedy <| .set false
    [.range 97 102, .range 65 70, .range 48 57]) (.anchor .lineEnd)
  flags := {}

theorem ofString_repositoryPattern : Pattern.ofString repositoryPattern.text = .ok repositoryPattern :=
  Pattern.ofString_eq_ok (by decide +kernel)

theorem ofString_accountPattern : Pattern.ofString accountPattern.text = .ok accountPattern :=
  Pattern.ofString_eq_ok (by decide +kernel)

theorem ofString_commitPattern : Pattern.ofString commitPattern.text = .ok commitPattern :=
  Pattern.ofString_eq_ok (by decide +kernel)

theorem inRow_repositoryPattern : repositoryPattern.InRow := ⟨by decide, by decide, by decide⟩

theorem inRow_accountPattern : accountPattern.InRow := ⟨by decide, by decide, by decide⟩

theorem inRow_commitPattern : commitPattern.InRow := ⟨by decide, by decide, by decide⟩

theorem setHas_eq_any (items : List Pattern.SetItem) (c : Char) :
    setHas {} false items c = items.any (·.has false c) := by
  simp [setHas, Pattern.setFolds]

theorem setHas_letter (c : Char) :
    setHas {} false [.range 65 90, .range 97 122, .range 48 57] c = isAsciiAlphanumeric c := by
  rw [Bool.eq_iff_iff]
  simp [setHas_eq_any, Pattern.SetItem.has, isAsciiAlphanumeric, Text.isAsciiLetter, Text.isAsciiDigit,
    char_le_iff]
  omega

theorem setHas_repositoryChar (c : Char) :
    setHas {} false [.range 48 57, .range 65 90, .range 97 122, .char 46, .char 95, .char 45] c =
      isRepositoryChar c := by
  have same (d : Char) : c = d ↔ c.toNat = d.toNat := Char.toNat_inj.symm
  rw [Bool.eq_iff_iff]
  simp [setHas_eq_any, Pattern.SetItem.has, isRepositoryChar, isAsciiAlphanumeric, Text.isAsciiLetter,
    Text.isAsciiDigit, char_le_iff, same]
  omega

theorem setHas_hexDigit (c : Char) :
    setHas {} false [.range 97 102, .range 65 70, .range 48 57] c = isHexDigit c := by
  rw [Bool.eq_iff_iff]
  simp [setHas_eq_any, Pattern.SetItem.has, isHexDigit, Text.isAsciiDigit, char_le_iff]
  omega

-- A whole text of characters of one kind, so many of them.
theorem takes_framed {l : List Char} {least : Nat} {most : Option Nat} {items : List Pattern.SetItem} :
    (Node.seq (.anchor .lineStart) (.seq (.rep least most .greedy (.set false items))
      (.anchor .lineEnd))).Takes l.toArray {} 0 l.length ↔
    least ≤ l.length ∧ most.all (l.length ≤ ·) ∧ ∀ c ∈ l, setHas {} false items c := by
  constructor
  case mp =>
    rintro ⟨j, ⟨-, rfl⟩, k, ⟨n, enough, atMost, taken⟩, -, rfl⟩
    obtain ⟨rfl, all⟩ := Pattern.times_single_whole.mp taken
    exact ⟨enough, atMost, all⟩
  case mpr =>
    rintro ⟨enough, atMost, all⟩
    have taken := Pattern.times_single_whole.mpr ⟨rfl, all⟩
    exact ⟨0, ⟨rfl, rfl⟩, l.length, ⟨l.length, enough, atMost, taken⟩, by simp [Pattern.anchored], rfl⟩

theorem takes_repositoryPattern {s : String} :
    repositoryPattern.StandsFor s ↔ isRepository s := by
  have filled : 1 ≤ s.toList.length ↔ s ≠ "" := by
    rw [Nat.one_le_iff_ne_zero, ne_eq, List.length_eq_zero_iff, String.toList_eq_nil_iff]
  rw [Pattern.StandsFor, repositoryPattern, takes_framed]
  simp [isRepository, filled, setHas_repositoryChar]

theorem takes_commitPattern {s : String} :
    commitPattern.StandsFor s ↔ isCommit s := by
  have exact : 40 ≤ s.toList.length ∧ s.toList.length ≤ 40 ↔ s.toList.length = commitLength := by
    rw [and_comm, Nat.le_antisymm_iff]
    rfl
  rw [Pattern.StandsFor, commitPattern, takes_framed, ← and_assoc]
  simp [isCommit, setHas_hexDigit, ← exact]

theorem takes_letter {l : List Char} {i j : Nat} :
    letterNode.Takes l.toArray {} i j ↔
      j = i + 1 ∧ ∃ c, isAsciiAlphanumeric c ∧ l.drop i = c :: l.drop j := by
  simp only [letterNode, Node.Takes, Pattern.single_toArray, setHas_letter]

theorem takes_round {l : List Char} {i j : Nat} :
    roundNode.Takes l.toArray {} i j ↔ letterNode.Takes l.toArray {} i j ∨
      letterNode.Takes l.toArray {} (i + 1) j ∧ l.drop i = '-' :: l.drop (i + 1) := by
  constructor
  case mp =>
    rintro ⟨k, first, ends⟩
    rcases Node.takes_optional.mp first with rfl | hyphen
    case inl => exact .inl ends
    case inr =>
      obtain ⟨rfl, here⟩ := (Node.takes_char '-' rfl).mp hyphen
      exact .inr ⟨ends, here⟩
  case mpr =>
    rintro (ends | ⟨ends, here⟩)
    case inl => exact ⟨i, Node.takes_optional.mpr (.inl rfl), ends⟩
    case inr =>
      have hyphen : (Node.char 45).Takes l.toArray {} i (i + 1) :=
        (Node.takes_char '-' rfl).mpr ⟨rfl, here⟩
      exact ⟨i + 1, Node.takes_optional.mpr (.inr hyphen), ends⟩

-- Rounds that end where the text does.
def Ends (l : List Char) (i : Nat) : Prop := ∃ n, Times (roundNode.Takes l.toArray {}) n i l.length

theorem ends_cons_iff {l cs : List Char} {c : Char} {i : Nat} (here : l.drop i = c :: cs) :
    Ends l i ↔ isAsciiAlphanumeric c ∧ Ends l (i + 1) ∨
      c = '-' ∧ ∃ d ds, cs = d :: ds ∧ isAsciiAlphanumeric d ∧ Ends l (i + 2) := by
  have rest : l.drop (i + 1) = cs := by rw [← List.drop_drop, here]; rfl
  constructor
  case mp =>
    rintro ⟨n, taken⟩
    cases n
    case zero =>
      cases taken
      simp at here
    case succ n =>
      obtain ⟨k, first, taken⟩ := taken
      rcases takes_round.mp first with first | ⟨first, hyphen⟩
      case inl =>
        obtain ⟨rfl, d, letter, first⟩ := takes_letter.mp first
        cases here.symm.trans first
        exact .inl ⟨letter, n, taken⟩
      case inr =>
        obtain ⟨rfl, d, letter, first⟩ := takes_letter.mp first
        cases here.symm.trans hyphen
        exact .inr ⟨rfl, d, _, rest.symm.trans first, letter, n, taken⟩
  case mpr =>
    rintro (⟨letter, n, taken⟩ | ⟨rfl, d, ds, rfl, letter, n, taken⟩)
    case inl =>
      have first : roundNode.Takes l.toArray {} i (i + 1) :=
        takes_round.mpr (.inl (takes_letter.mpr ⟨rfl, c, letter, by rw [here, rest]⟩))
      exact ⟨n + 1, i + 1, first, taken⟩
    case inr =>
      have after : l.drop (i + 2) = ds := by rw [← List.drop_drop, here]; rfl
      have ends := takes_letter.mpr ⟨rfl, d, letter, by rw [rest, after]⟩
      have first : roundNode.Takes l.toArray {} i (i + 2) := takes_round.mpr (.inr ⟨ends, by rw [here, rest]⟩)
      exact ⟨n + 1, i + 2, first, taken⟩

-- Rounds take what is left of the text exactly if it is the rest of an account name.
theorem ends_iff_isHyphenated {l cs : List Char} {i : Nat} (here : l.drop i = cs)
    (within : i ≤ l.length) : Ends l i ↔ isHyphenated cs := by
  have hyphen : isAsciiAlphanumeric '-' = false := by decide
  fun_induction isHyphenated cs generalizing i
  case case1 =>
    have last : i = l.length := Nat.le_antisymm within (List.drop_eq_nil_iff.mp here)
    exact ⟨fun _ => rfl, fun _ => ⟨0, last⟩⟩
  case case2 c cs hi =>
    have after : l.drop (i + 2) = cs := by rw [← List.drop_drop, here]; rfl
    have length := congrArg List.length here
    simp only [List.length_drop, List.length_cons] at length
    have further : Ends l (i + 2) ↔ isHyphenated cs := hi after (by omega)
    simp [ends_cons_iff here, hyphen, further]
  case case3 c cs not hi =>
    have rest : l.drop (i + 1) = cs := by rw [← List.drop_drop, here]; rfl
    have length := congrArg List.length here
    simp only [List.length_drop, List.length_cons] at length
    have further : Ends l (i + 1) ↔ isHyphenated cs := hi rest (by omega)
    rw [ends_cons_iff here, further, Bool.and_eq_true]
    refine or_iff_left ?_
    rintro ⟨rfl, d, ds, rfl, -⟩
    exact not d ds rfl rfl

-- The look at the start measures the text: there is no line break in it that could stand at its end.
theorem takes_short_iff {l : List Char} (lineless : '\n' ∉ l) :
    (∃ k, (Node.seq (.rep 1 (some 39) .greedy .any) (.anchor .lineEnd)).Takes l.toArray {} 0 k) ↔
      1 ≤ l.length ∧ l.length ≤ 39 := by
  constructor
  case mp =>
    rintro ⟨k, e, ⟨n, enough, atMost, taken⟩, last, rfl⟩
    have ends : e = l.length := by
      have unbroken : ¬l[e]? = some '\n' := fun h => lineless (List.mem_of_getElem? h)
      simpa [Pattern.anchored, unbroken] using last
    cases ends
    obtain ⟨rfl, -⟩ := Pattern.times_single_whole.mp taken
    exact ⟨enough, by simpa using atMost⟩
  case mpr =>
    rintro ⟨enough, atMost⟩
    have all : ∀ c ∈ l, (({} : Pattern.Flags).dotAll || c != '\n') := by
      intro c hc
      have : c ≠ '\n' := fun h => lineless (h ▸ hc)
      simp [this]
    have taken := Pattern.times_single_whole.mpr ⟨rfl, all⟩
    exact ⟨l.length, l.length, ⟨l.length, enough, by simpa using atMost, taken⟩,
      by simp [Pattern.anchored], rfl⟩

theorem lineless_of_isHyphenated {c : Char} {cs : List Char} (letter : isAsciiAlphanumeric c)
    (rest : isHyphenated cs) : '\n' ∉ c :: cs := by
  intro broken
  rcases List.mem_cons.mp broken with rfl | broken
  case inl => revert letter; decide
  case inr =>
    have := (isHyphenated_iff.mp rest).chars _ broken
    revert this
    decide

theorem takes_accountPattern {s : String} :
    accountPattern.StandsFor s ↔ isAccount s := by
  unfold isAccount Pattern.StandsFor
  constructor
  case mp =>
    rintro ⟨_, ⟨-, rfl⟩, _, ⟨short, rfl⟩, k, first, e, ⟨n, -, -, taken⟩, -, rfl⟩
    obtain ⟨rfl, c, letter, here⟩ := takes_letter.mp first
    cases text : s.toList
    case nil => simp [text] at here
    case cons d cs =>
      rw [text] at short here taken
      cases here
      have rest : isHyphenated cs := (ends_iff_isHyphenated rfl (by simp)).mp ⟨n, taken⟩
      have short := (takes_short_iff (lineless_of_isHyphenated letter rest)).mp short
      simp only [List.length_cons] at short
      have longest : longestAccount = 39 := rfl
      simp only [letter, rest, Bool.and_eq_true, true_and, decide_eq_true_eq]
      omega
  case mpr =>
    intro account
    cases text : s.toList <;> rw [text] at account
    case nil => cases account
    case cons c cs =>
      simp only [Bool.and_eq_true, decide_eq_true_eq] at account
      obtain ⟨⟨letter, rest⟩, atMost⟩ := account
      have longest : longestAccount = 39 := rfl
      have short := (takes_short_iff (lineless_of_isHyphenated letter rest)).mpr (by simp; omega)
      have first : letterNode.Takes (c :: cs).toArray {} 0 1 := takes_letter.mpr ⟨rfl, c, letter, rfl⟩
      obtain ⟨n, taken⟩ : Ends (c :: cs) 1 := (ends_iff_isHyphenated rfl (by simp)).mpr rest
      exact ⟨0, ⟨rfl, rfl⟩, 0, ⟨short, rfl⟩, 1, first, (c :: cs).length, ⟨n, by simp, rfl, taken⟩,
        by simp [Pattern.anchored], rfl⟩

-- A form of names: as it is checked, as its pattern has it, and as it is said of the characters.
structure IsForm (form : String → Bool) (pattern : String) (Is : String → Prop) : Prop where
  accepted : ∀ v, accepts form v ↔ ∃ s, v = .text s ∧ Is s
  matched  : ∃ p, Pattern.ofString pattern = .ok p ∧ ∀ s, p.accepts s = .ok (form s)
  inline   : ∀ s, accepts form (.text s) → ∀ c ∈ s.toList, c ≠ '\n' ∧ c.toNat < 0x80
  texts    : ∀ v, (∀ s, v ≠ .text s) → accepts form v = false

theorem isForm {p : Pattern} {form : String → Bool} {Is : String → Prop} (checked : ∀ {s}, form s ↔ Is s)
    (inline : ∀ {s}, Is s → ∀ c ∈ s.toList, Inline c) (read : Pattern.ofString p.text = .ok p)
    (row : p.InRow) (taken : ∀ {s}, p.StandsFor s ↔ form s) :
    IsForm form p.text Is where
  accepted v := by
    cases v
    case text s => simp [accepts_text, checked]
    all_goals simp [accepts]
  matched := ⟨p, read, fun s => (Pattern.accepts_eq_ok_iff row s (form s)).mpr taken.symm⟩
  inline s h := inline (checked.mp h)
  texts v other := by
    cases v
    case text s => cases other s rfl
    all_goals rfl

theorem forms_exact :
    IsForm isAccount "^(?=.\x7b1,39\x7d$)[A-Za-z0-9](?:-?[A-Za-z0-9])*$" IsAccountName ∧
    IsForm isRepository "^[0-9A-Za-z._-]+$" IsRepositoryName ∧
    IsForm isCommit "^[a-fA-F0-9]\x7b40\x7d$" IsCommitId where
  left := isForm isAccount_iff IsAccountName.inline ofString_accountPattern inRow_accountPattern
    takes_accountPattern
  right.left := isForm isRepository_iff IsRepositoryName.inline ofString_repositoryPattern
    inRow_repositoryPattern takes_repositoryPattern
  right.right := isForm isCommit_iff IsCommitId.inline ofString_commitPattern inRow_commitPattern
    takes_commitPattern

end RefWatch.Name
