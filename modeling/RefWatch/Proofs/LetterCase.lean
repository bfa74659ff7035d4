import RefWatch.Proofs.Aliases

namespace RefWatch

open List

namespace Text

-- The same character, or the same letter in either case.
def SameLetter (c d : Char) : Prop := c = d ∨ isAsciiLetter c ∧ isAsciiLetter d ∧ c.toLower = d.toLower

instance : DecidableRel SameLetter := fun c d =>
  inferInstanceAs (Decidable (c = d ∨ isAsciiLetter c ∧ isAsciiLetter d ∧ c.toLower = d.toLower))

def Recased (s t : String) : Prop := Forall₂ SameLetter s.toList t.toList

instance : DecidableRel Recased := fun s t =>
  decidable_of_iff
    (s.toList.length = t.toList.length ∧ ∀ x ∈ s.toList.zip t.toList, SameLetter x.1 x.2) <| by
      simp [Recased, forall₂_iff_zip]

variable {c d : Char} {s t : List Char} {b : Bool}

theorem SameLetter.toLower (h : SameLetter c d) : c.toLower = d.toLower := by
  rcases h with rfl | ⟨-, -, same⟩
  · rfl
  · exact same

theorem Recased.toLower {s t : String} (h : Recased s t) :
    s.toList.map Char.toLower = t.toList.map Char.toLower := by
  rw [← forall₂_eq_eq_eq, forall₂_map_left_iff, forall₂_map_right_iff]
  exact h.imp fun _ _ => SameLetter.toLower

theorem toLower_of_not_capital (h : ¬('A' ≤ c ∧ c ≤ 'Z')) : c.toLower = c := dif_neg h

-- What does not tell the case of ASCII letters.
theorem comp_toLower {α : Type} {f : Char → α}
    (h : ∀ n < 0x5B, 0x41 ≤ n → f (Char.ofNat n).toLower = f (Char.ofNat n)) :
    f ∘ Char.toLower = f := by
  funext c
  by_cases capital : 'A' ≤ c ∧ c ≤ 'Z'
  case pos =>
    have first : 0x41 ≤ c.toNat := UInt32.le_iff_toNat_le.mp capital.left
    have last : c.toNat ≤ 0x5A := UInt32.le_iff_toNat_le.mp capital.right
    have same := h c.toNat (Nat.lt_succ_of_le last) first
    rwa [Char.ofNat_toNat] at same
  case neg => rw [Function.comp, toLower_of_not_capital capital]

-- All that lowering a text asks about a character, but for whether it is ignored.
def traits (c : Char) : Bool × Bool × List Char := (isAsciiLetter c, isCased c, lowerChar c)

theorem traits_toLower (c : Char) : traits c.toLower = traits c :=
  congrFun (comp_toLower (f := traits) (by decide +kernel)) c

theorem isAsciiLetter_toLower (c : Char) : isAsciiLetter c.toLower = isAsciiLetter c :=
  congrArg (·.1) (traits_toLower c)

theorem isCased_toLower (c : Char) : isCased c.toLower = isCased c :=
  congrArg (·.2.1) (traits_toLower c)

theorem lowerChar_toLower (c : Char) : lowerChar c.toLower = lowerChar c :=
  congrArg (·.2.2) (traits_toLower c)

theorem toLower_of_not_letter (h : isAsciiLetter c = false) : c.toLower = c := by
  refine toLower_of_not_capital fun capital => ?_
  simp [isAsciiLetter, capital] at h

theorem toNat_of_isAsciiLetter (h : isAsciiLetter c) :
    0x61 ≤ c.toNat ∧ c.toNat ≤ 0x7A ∨ 0x41 ≤ c.toNat ∧ c.toNat ≤ 0x5A := by
  simpa [isAsciiLetter, Char.le_def, UInt32.le_iff_toNat_le] using h

-- No run meets the capital letters or the small ones.
theorem caseIgnorableRuns_avoid :
    caseIgnorableRuns.all fun r => (Nat.blt r.2 0x41 || Nat.blt 0x5A r.1) &&
      (Nat.blt r.2 0x61 || Nat.blt 0x7A r.1) := by
  decide +kernel

theorem isCaseIgnorable_of_letter (h : isAsciiLetter c) : isCaseIgnorable c = false := by
  refine Bool.eq_false_iff.mpr fun ignored => ?_
  obtain ⟨r, hr, first, last⟩ := Runs.has_iff.mp ignored
  have avoid := List.all_eq_true.mp caseIgnorableRuns_avoid r hr
  simp only [Bool.and_eq_true, Bool.or_eq_true, Nat.blt_eq] at avoid
  have letter := toNat_of_isAsciiLetter h
  omega

theorem isCaseIgnorable_toLower (c : Char) : isCaseIgnorable c.toLower = isCaseIgnorable c := by
  cases letter : isAsciiLetter c
  case false => rw [toLower_of_not_letter letter]
  case true =>
    have lower : isAsciiLetter c.toLower := (isAsciiLetter_toLower c).trans letter
    rw [isCaseIgnorable_of_letter letter, isCaseIgnorable_of_letter lower]

-- No letter becomes anything but a letter.
theorem toLower_eq_iff (h : isAsciiLetter d = false) : c.toLower = d ↔ c = d := by
  constructor
  case mp =>
    rintro rfl
    rw [isAsciiLetter_toLower] at h
    exact (toLower_of_not_letter h).symm
  case mpr =>
    rintro rfl
    exact toLower_of_not_letter h

theorem startsCased_map_toLower (s : List Char) : startsCased (s.map Char.toLower) = startsCased s := by
  have ignored : (!isCaseIgnorable ·) ∘ Char.toLower = (!isCaseIgnorable ·) :=
    funext fun c => congrArg not (isCaseIgnorable_toLower c)
  rw [startsCased, startsCased, find?_map, ignored]
  cases s.find? (!isCaseIgnorable ·)
  case none => rfl
  case some c => exact isCased_toLower c

theorem lowerFrom_map_toLower (b : Bool) (s : List Char) :
    lowerFrom b (s.map Char.toLower) = lowerFrom b s := by
  induction s generalizing b
  case nil => rfl
  case cons c cs hi =>
    have sigma : c.toLower = capitalSigma ↔ c = capitalSigma := toLower_eq_iff (by decide)
    rw [map_cons, lowerFrom, lowerFrom, hi, startsCased_map_toLower, isCaseIgnorable_toLower,
      isCased_toLower, lowerChar_toLower]
    simp only [sigma]

theorem lowerFrom_congr (h : s.map Char.toLower = t.map Char.toLower) (b : Bool) :
    lowerFrom b s = lowerFrom b t := by
  rw [← lowerFrom_map_toLower, h, lowerFrom_map_toLower]

theorem Recased.lower {s t : String} (h : Recased s t) : lower s = lower t :=
  congrArg String.ofList (lowerFrom_congr h.toLower false)

section

variable (sep : Char) (h : isAsciiLetter sep = false)
include h

theorem cutFirst_map_toLower (s : List Char) :
    cutFirst sep (s.map Char.toLower) =
      ((cutFirst sep s).1.map Char.toLower, (cutFirst sep s).2.map (·.map Char.toLower)) := by
  induction s
  case nil => rfl
  case cons c cs hi =>
    rw [map_cons, cutFirst, cutFirst, hi]
    simp only [toLower_eq_iff h]
    split <;> rfl

theorem afterLast_map_toLower (s : List Char) :
    afterLast sep (s.map Char.toLower) = (afterLast sep s).map Char.toLower := by
  have kept : (fun c => decide (c ≠ sep)) ∘ Char.toLower = fun c => decide (c ≠ sep) := by
    funext c
    simp only [Function.comp, ne_eq, toLower_eq_iff h]
  rw [afterLast, afterLast, ← map_reverse, takeWhile_map, kept, ← map_reverse]

end

end Text

namespace Url

open Text

variable {url url' : String}

-- All that taking an address apart asks about a character, but for the marks it looks for.
def traits (c : Char) : (Bool × Bool) × Bool × Bool :=
  ((decide (c.toNat ≤ 0x20), c != '\t' && c != '\r' && c != '\n'), isSchemeChar c, endsAuthority c)

theorem traits_toLower (c : Char) : traits c.toLower = traits c :=
  congrFun (comp_toLower (f := traits) (by decide +kernel)) c

theorem isSchemeChar_toLower (c : Char) : isSchemeChar c.toLower = isSchemeChar c :=
  congrArg (·.2.1) (traits_toLower c)

theorem cleaned_map_toLower (s : List Char) :
    cleaned (s.map Char.toLower) = (cleaned s).map Char.toLower := by
  have front : (fun c => decide (c.toNat ≤ 0x20)) ∘ Char.toLower = fun c => decide (c.toNat ≤ 0x20) :=
    funext fun c => congrArg (·.1.1) (traits_toLower c)
  have inside : (fun c => c != '\t' && c != '\r' && c != '\n') ∘ Char.toLower =
      fun c => c != '\t' && c != '\r' && c != '\n' :=
    funext fun c => congrArg (·.1.2) (traits_toLower c)
  rw [cleaned, cleaned, dropWhile_map, filter_map, front, inside]

theorem afterScheme_map_toLower (s : List Char) :
    afterScheme (s.map Char.toLower) = (afterScheme s).map Char.toLower := by
  have all (t : List Char) : (t.map Char.toLower).all isSchemeChar = t.all isSchemeChar := by
    rw [all_map]
    exact congrArg t.all (funext isSchemeChar_toLower)
  have starts (t : List Char) : (t.map Char.toLower).head?.any isAsciiLetter = t.head?.any isAsciiLetter := by
    cases t
    case nil => rfl
    case cons c _ => exact isAsciiLetter_toLower c
  rw [afterScheme, afterScheme, cutFirst_map_toLower ':' (by decide)]
  rcases cutFirst ':' s with ⟨scheme, _ | rest⟩
  case none => rfl
  case some =>
    simp only [Option.map_some, all, starts]
    split <;> rfl

theorem authority_map_toLower (s : List Char) :
    authority (s.map Char.toLower) = (authority s).map Char.toLower := by
  have ends : (fun c => !endsAuthority c) ∘ Char.toLower = fun c => !endsAuthority c :=
    funext fun c => congrArg not (congrArg (·.2.2) (traits_toLower c))
  rw [authority, authority, afterScheme_map_toLower]
  split
  case h_1 rest eq =>
    have ⟨c, _, first, hc, eq'⟩ := map_eq_cons_iff.mp eq
    have ⟨d, rest', second, hd, eq''⟩ := map_eq_cons_iff.mp eq'
    rw [first, second, (toLower_eq_iff (by decide)).mp hc, (toLower_eq_iff (by decide)).mp hd, ← eq'',
      takeWhile_map, ends]
    rfl
  case h_2 other =>
    split
    case h_1 rest eq => exact absurd (congrArg (map Char.toLower) eq) (other (rest.map Char.toLower))
    case h_2 => rfl

theorem hostIn_map_toLower (s : List Char) :
    hostIn (s.map Char.toLower) = (hostIn s).map Char.toLower := by
  simp only [hostIn, afterLast_map_toLower '@' (by decide),
    cutFirst_map_toLower '[' (by decide)]
  rcases cutFirst '[' (afterLast '@' s) with ⟨before, _ | bracketed⟩
  case none =>
    simp only [Option.map_none, cutFirst_map_toLower ':' (by decide)]
  case some =>
    simp only [Option.map_some, cutFirst_map_toLower ']' (by decide)]

theorem host_of_map_toLower (s : List Char) :
    hostIn (authority (cleaned (s.map Char.toLower))) =
      (hostIn (authority (cleaned s))).map Char.toLower := by
  rw [cleaned_map_toLower, authority_map_toLower, hostIn_map_toLower]

-- A zone keeps its case at first, and then loses it with the whole host.
theorem lowerFrom_lowerHost_map_toLower (b : Bool) (s : List Char) :
    lowerFrom b (lowerHost (s.map Char.toLower)) = lowerFrom b (lowerHost s) := by
  rw [lowerHost, lowerHost, cutFirst_map_toLower '%' (by decide)]
  rcases cutFirst '%' s with ⟨name, _ | zone⟩
  case none => simp only [Option.map_none, lowerFrom_map_toLower]
  case some =>
    have twice : Char.toLower ∘ Char.toLower = Char.toLower := funext Char.toLower_toLower_eq_toLower
    simp only [Option.map_some, lowerFrom_map_toLower]
    refine lowerFrom_congr ?_ b
    rw [map_append, map_append, map_cons, map_cons, map_map, twice]

-- What is read off an address that can be read.
def namedIn (url : List Char) : Option String :=
  let host := hostIn (authority (cleaned url))
  if host.isEmpty then none else some (String.ofList (lowerHost host))

theorem eq_namedIn {found : Option String} (h : host? url = .ok found) :
    found = namedIn url.toList := by
  rw [host?] at h
  cases checked : checkAuthority (authority (cleaned url.toList))
  case error f =>
    rw [checked] at h
    cases h
  case ok =>
    rw [checked] at h
    exact (Except.ok.inj h).symm

theorem lower_namedIn_map_toLower (s : List Char) :
    (namedIn (s.map Char.toLower)).map lower = (namedIn s).map lower := by
  rw [namedIn, namedIn, host_of_map_toLower]
  cases hostIn (authority (cleaned s))
  case nil => rfl
  case cons c cs =>
    have same := lowerFrom_lowerHost_map_toLower false (c :: cs)
    simpa [lower] using congrArg String.ofList same

theorem lower_host?_of_recased {found found' : Option String} (h : Recased url url')
    (read : host? url = .ok found) (read' : host? url' = .ok found') :
    found.map lower = found'.map lower := by
  rw [eq_namedIn read, eq_namedIn read', ← lower_namedIn_map_toLower, h.toLower,
    lower_namedIn_map_toLower]

end Url

namespace Aliases

def Recased (al bl : Aliases) : Prop :=
  Forall₂ (fun a b => Text.Recased a.1 b.1 ∧ Text.Recased a.2 b.2) al bl

variable {al bl : Aliases}

theorem resolve_of_recased (h : al.Recased bl) (host : String) : al.resolve host = bl.resolve host := by
  have first : (al.find? (fits host)).map (Text.lower ·.2) =
      (bl.find? (fits host)).map (Text.lower ·.2) := by
    induction h
    case nil => rfl
    case cons a b al bl same _ hi =>
      have fit : fits host a = fits host b := congrArg (· == host) same.left.lower
      rw [find?_cons, find?_cons, fit]
      cases fits host b
      case false => exact hi
      case true => exact congrArg some same.right.lower
  rw [resolve_eq, resolve_eq, first]

theorem lower_resolve {host : String} (h : Text.lower host = host) (al : Aliases) :
    Text.lower (al.resolve host) = al.resolve host := by
  rw [resolve_eq]
  cases al.find? (fits host)
  case none => exact h
  case some a => exact Text.lower_lower a.2

end Aliases

namespace Host

variable {al bl : Aliases} {api api' : Option String} {url : String} {found : Option String}

theorem ofApi_of_read (h : Url.host? url = .ok found) (al : Aliases) :
    ofApi (some url) al = .ok (((found.map Text.lower).map al.resolve).getD fallback) := by
  cases found
  case some host => exact ofApi_of_host h al
  case none =>
    unfold ofApi
    split
    case h_1 | h_2 => rfl
    case h_3 eq =>
      cases eq
      rw [h]
      rfl

theorem lower_ofApi {host : String} (h : ofApi api al = .ok host) : Text.lower host = host := by
  have known : Text.lower fallback = fallback := by decide +kernel
  unfold ofApi at h
  split at h
  case h_1 | h_2 => exact Except.ok.inj h ▸ known
  case h_3 url _ =>
    cases read : Url.host? url
    case error f =>
      rw [read] at h
      cases h
    case ok found =>
      rw [read] at h
      cases found
      case none => exact Except.ok.inj h ▸ known
      case some name => exact Except.ok.inj h ▸ Aliases.lower_resolve (Text.lower_lower name) al

-- An interface whose address, if it has one, can be read.
def Readable (api : Option String) : Prop := ∀ url, api = some url → ∃ found, Url.host? url = .ok found

theorem ofApi_of_recased (h : Option.Rel Text.Recased api api') (aliases : al.Recased bl)
    (read : Readable api) (read' : Readable api') :
    ∃ host, ofApi api al = .ok host ∧ ofApi api' bl = .ok host := by
  cases h
  case none => exact ⟨fallback, rfl, rfl⟩
  case some same =>
    obtain ⟨found, read⟩ := read _ rfl
    obtain ⟨found', read'⟩ := read' _ rfl
    have resolve : al.resolve = bl.resolve := funext (Aliases.resolve_of_recased aliases)
    refine ⟨_, ofApi_of_read read al, ?_⟩
    rw [ofApi_of_read read' bl, Url.lower_host?_of_recased same read read', resolve]

end Host

structure Repository.Recased (r q : Repository) : Prop where
  host  : Text.Recased r.host q.host
  owner : Text.Recased r.owner q.owner
  name  : Text.Recased r.name q.name

namespace Source

structure Recased (s t : Source) : Prop where
  owner      : Text.Recased s.owner t.owner
  repository : Text.Recased s.repository t.repository
  api        : Option.Rel Text.Recased s.api t.api

theorem watches_of_ofApi {s : Source} {al : Aliases} {host : String}
    (h : Host.ofApi s.api al = .ok host) (r : Repository) :
    s.watches r al = .ok (Text.lower r.host == host && Text.lower r.owner == Text.lower s.owner &&
      Text.lower r.name == Text.lower s.repository) := by
  rw [watches, h]
  rfl

-- The host of an interface may be compared as it is, for it has no other lower case. And the case of
-- letters, on either side and in the aliases, makes no difference to what is watched.
theorem watches_in_any_case :
    (∀ (s : Source) (al : Aliases) (host : String), Host.ofApi s.api al = .ok host →
      Text.lower host = host ∧ ∀ r : Repository,
        s.watches r al =
          .ok (Text.lower r.host == Text.lower host && Text.lower r.owner == Text.lower s.owner &&
            Text.lower r.name == Text.lower s.repository)) ∧
      ∀ (s t : Source) (r q : Repository) (al bl : Aliases), s.Recased t → r.Recased q →
        al.Recased bl → Host.Readable s.api → Host.Readable t.api →
          ∃ b, s.watches r al = .ok b ∧ t.watches q bl = .ok b := by
  constructor
  case left =>
    intro s al host h
    have low := Host.lower_ofApi h
    exact ⟨low, fun r => low.symm ▸ watches_of_ofApi h r⟩
  case right =>
    intro s t r q al bl source repository aliases read read'
    obtain ⟨host, h, h'⟩ := Host.ofApi_of_recased source.api aliases read read'
    refine ⟨_, watches_of_ofApi h r, ?_⟩
    rw [watches_of_ofApi h' q, repository.host.lower, repository.owner.lower, repository.name.lower,
      source.owner.lower, source.repository.lower]

-- An address in brackets, whose zone keeps its case until the aliases are asked.
theorem watches_in_any_case_zoned :
    let s : Source :=
      { owner := "Acme", repository := "Widgets", api := some "https://[FE80::1%Eth0]:8443/api/v3" }
    let t : Source :=
      { owner := "aCME", repository := "WIDGETS", api := some "HTTPS://[fe80::1%ETH0]:8443/API/v3" }
    let r : Repository := ⟨"ghe.example.com", "acme", "widgets"⟩
    let q : Repository := ⟨"GHE.Example.COM", "ACME", "wIDGETS"⟩
    let al : Aliases := [("fe80::1%eTH0", "GHE.example.com"), ("api.github.com", "github.com")]
    let bl : Aliases := [("FE80::1%eth0", "ghe.EXAMPLE.com"), ("API.github.com", "GitHub.com")]
    Host.ofApi s.api al = .ok "ghe.example.com" ∧ s.watches r al = .ok true ∧
      (Text.lower "ghe.example.com" = "ghe.example.com" ∧ ∀ r : Repository,
        s.watches r al =
          .ok (Text.lower r.host == Text.lower "ghe.example.com" &&
            Text.lower r.owner == Text.lower s.owner &&
            Text.lower r.name == Text.lower s.repository)) ∧
      s.Recased t ∧ r.Recased q ∧ al.Recased bl ∧ Host.Readable s.api ∧ Host.Readable t.api ∧
      ∃ b, s.watches r al = .ok b ∧ t.watches q bl = .ok b := by
  intro s t r q al bl
  have host : Host.ofApi s.api al = .ok "ghe.example.com" := by decide +kernel
  have source : s.Recased t :=
    ⟨by decide +kernel, by decide +kernel, .some (by decide +kernel)⟩
  have repository : r.Recased q := ⟨by decide +kernel, by decide +kernel, by decide +kernel⟩
  have aliases : al.Recased bl :=
    .cons ⟨by decide +kernel, by decide +kernel⟩ <| .cons ⟨by decide +kernel, by decide +kernel⟩ .nil
  have read : Host.Readable s.api := by
    rintro _ ⟨⟩
    exact ⟨some "fe80::1%Eth0", by decide +kernel⟩
  have read' : Host.Readable t.api := by
    rintro _ ⟨⟩
    exact ⟨some "fe80::1%ETH0", by decide +kernel⟩
  have ⟨lower, anyCase⟩ := watches_in_any_case
  exact ⟨host, by decide +kernel, lower s al _ host, source, repository, aliases, read, read',
    anyCase s t r q al bl source repository aliases read read'⟩

end Source

end RefWatch
