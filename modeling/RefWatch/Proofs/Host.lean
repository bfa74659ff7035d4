import RefWatch.Proofs.LowerCase
import RefWatch.Proofs.Repository
import RefWatch.Source
import RefWatch.Text.Letter

namespace RefWatch

namespace Host

-- Letters and digits of any script, hyphens and dots.
def isNameChar (c : Char) : Bool := Text.isLetter c || Text.isDecimal c || c == '-' || c == '.'

def IsName (h : String) : Prop := h ≠ "" ∧ ∀ c ∈ h.toList, isNameChar c

-- A host, with a port if there is one.
def server (h : String) : Option Nat → String
  | none => h
  | some p => h ++ ":" ++ toString p

def webAddress (a o n : String) : String := "https://" ++ a ++ "/" ++ o ++ "/" ++ n

def apiAddress (a : String) : String := "https://" ++ a ++ "/api/v3"

-- A source of the repository, by the server's interface.
def sourceAt (s : Source) (a o n : String) : Source :=
  { s with owner := o, repository := n, api := some (apiAddress a) }

-- Off both addresses the same host is read, and so the source watches the repository.
def Agree (s : Source) (a o n : String) (al : Aliases) : Prop :=
  ∃ host, Repository.hostOf? (webAddress a o n) = some host ∧
    ofApi (some (apiAddress a)) al = .ok (Text.lower host) ∧
    (sourceAt s a o n).watches ⟨host, o, n⟩ al = .ok true

def reserved : List Char :=
  ['\t', '\r', '\n', '/', '?', '#', '@', ':', '[', ']', '%'] ++ Url.disguises.map Char.ofNat

theorem reserved_all : reserved.all (!isNameChar ·) := by decide +kernel

variable {c d : Char} {s t : List Char}

theorem ne_of_isNameChar (hc : isNameChar c) (hd : d ∈ reserved) : c ≠ d := by
  rintro rfl
  simpa [hc] using List.all_eq_true.mp reserved_all c hd

theorem isNameChar_of_isDigit (h : c.isDigit) : isNameChar c := by
  have : Text.isAsciiDigit c := by
    simpa [Char.isDigit, Text.isAsciiDigit, Char.le_def, UInt32.le_iff_toNat_le] using h
  simp [isNameChar, Text.isDecimal, this]

theorem isNameChar_of_mem_toString (p : Nat) : ∀ c ∈ (toString p).toList, isNameChar c := by
  intro c hc
  rw [Nat.toString_eq_repr, Nat.repr_eq_ofList_toDigits, String.toList_ofList] at hc
  exact isNameChar_of_isDigit (Nat.isDigit_of_mem_toDigits (by decide) (by decide) hc)

-- What a server is written with.
def isServerChar (c : Char) : Bool := isNameChar c || c == ':'

theorem ne_of_isServerChar (hc : isServerChar c) (hd : d ∈ reserved) (colon : d ≠ ':') : c ≠ d := by
  rcases Bool.or_eq_true_iff.mp hc with hc | hc
  case inl => exact ne_of_isNameChar hc hd
  case inr => exact (beq_iff_eq.mp hc) ▸ colon.symm

theorem not_mem_of_isServerChar (hs : ∀ c ∈ s, isServerChar c) (hd : d ∈ reserved) (colon : d ≠ ':') :
    d ∉ s :=
  fun h => ne_of_isServerChar (hs d h) hd colon rfl

-- The path of the interface.
def interface : List Char := ['/', 'a', 'p', 'i', '/', 'v', '3']

def secure : List Char := ['h', 't', 't', 'p', 's', ':', '/', '/']

theorem toList_apiAddress (a : String) :
    (apiAddress a).toList = secure ++ (a.toList ++ interface) := by
  simp [apiAddress, secure, interface]

theorem afterScheme_secure (s : List Char) : Url.afterScheme (secure ++ s) = '/' :: '/' :: s := by
  have cut : Text.cutFirst ':' (secure ++ s) = (['h', 't', 't', 'p', 's'], some ('/' :: '/' :: s)) :=
    Text.cutFirst_append (s := ['h', 't', 't', 'p', 's']) (by decide) ('/' :: '/' :: s)
  rw [Url.afterScheme, cut]
  exact if_pos (by decide)

section

variable (hs : ∀ c ∈ s, isServerChar c)
include hs

theorem cleaned_apiAddress :
    Url.cleaned (secure ++ (s ++ interface)) = secure ++ (s ++ interface) := by
  have front : (secure ++ (s ++ interface)).dropWhile (fun c => decide (c.toNat ≤ 0x20)) =
      secure ++ (s ++ interface) := List.dropWhile_cons_of_neg (by simp)
  have kept : ∀ c ∈ secure ++ (s ++ interface), c ≠ '\t' ∧ c ≠ '\r' ∧ c ≠ '\n' := by
    intro c hc
    rcases List.mem_append.mp hc with hc | hc
    case inl => exact (by simp [secure] : ∀ c ∈ secure, c ≠ '\t' ∧ c ≠ '\r' ∧ c ≠ '\n') c hc
    rcases List.mem_append.mp hc with hc | hc
    case inl =>
      exact ⟨ne_of_isServerChar (hs c hc) (by decide) (by decide),
        ne_of_isServerChar (hs c hc) (by decide) (by decide),
        ne_of_isServerChar (hs c hc) (by decide) (by decide)⟩
    case inr =>
      exact (by simp [interface] : ∀ c ∈ interface, c ≠ '\t' ∧ c ≠ '\r' ∧ c ≠ '\n') c hc
  rw [Url.cleaned, front]
  exact List.filter_eq_self.mpr fun c hc => by simp [kept c hc]

theorem authority_apiAddress : Url.authority (secure ++ (s ++ interface)) = s := by
  have inside : ∀ c ∈ s, (!Url.endsAuthority c) = true := by
    intro c hc
    have slash := ne_of_isServerChar (d := '/') (hs c hc) (by decide) (by decide)
    have mark := ne_of_isServerChar (d := '?') (hs c hc) (by decide) (by decide)
    have sign := ne_of_isServerChar (d := '#') (hs c hc) (by decide) (by decide)
    simp [Url.endsAuthority, slash, mark, sign]
  rw [Url.authority, afterScheme_secure]
  simp only [List.takeWhile_append_of_pos inside]
  simp [interface, Url.endsAuthority]

theorem checkAuthority_server : Url.checkAuthority s = .ok () := by
  have opening : '[' ∉ s := not_mem_of_isServerChar hs (by decide) (by decide)
  have closing : ']' ∉ s := not_mem_of_isServerChar hs (by decide) (by decide)
  have plain : s.any (Url.disguises.contains ·.toNat) = false := by
    refine List.any_eq_false.mpr fun c hc h => ?_
    have disguised : c ∈ reserved :=
      List.mem_append_right _ (List.mem_map.mpr ⟨c.toNat, by simpa using h, Char.ofNat_toNat c⟩)
    refine ne_of_isServerChar (hs c hc) disguised ?_ rfl
    rintro rfl
    exact absurd h (by decide)
  rw [Url.checkAuthority, plain]
  simp [opening, closing, pure, Except.pure]

end

theorem afterLast_of_not_mem {sep : Char} (h : sep ∉ s) : Text.afterLast sep s = s := by
  have : s.reverse.takeWhile (· ≠ sep) = s.reverse :=
    List.takeWhile_eq_self_iff.mpr fun c hc => by
      simp only [ne_eq, decide_eq_true_eq]
      exact fun e => h (e ▸ List.mem_reverse.mp hc)
  rw [Text.afterLast, this, List.reverse_reverse]

theorem toList_server_some (h : String) (p : Nat) :
    (server h (some p)).toList = h.toList ++ ':' :: (toString p).toList := by
  have colon : ":".toList = [':'] := by simp
  rw [server, String.toList_append, String.toList_append, colon, List.append_assoc,
    List.singleton_append]

-- A port stays in lower case, and makes a host longer.
theorem lower_server_eq_iff {h : String} {port : Option Nat} :
    Text.lower (server h port) = Text.lower h ↔ port = none := by
  cases port
  case none => simp [server]
  case some p =>
    refine iff_of_false (fun e => ?_) nofun
    have same := congrArg (·.toList.length) e
    have longer := Text.length_le_length_lowerFrom false (':' :: (toString p).toList)
    simp only [Text.lower, String.toList_ofList, toList_server_some, Text.length_lowerFrom_append,
      List.length_cons] at same longer
    omega

section

variable {h : String} (hh : IsName h) (port : Option Nat)
include hh

theorem isServerChar_of_mem_server : ∀ c ∈ (server h port).toList, isServerChar c := by
  intro c hc
  cases port
  case none => simp [isServerChar, hh.right c hc]
  case some p =>
    rw [toList_server_some, List.mem_append, List.mem_cons] at hc
    rcases hc with hc | hc | hc
    · simp [isServerChar, hh.right c hc]
    · simp [isServerChar, hc]
    · simp [isServerChar, isNameChar_of_mem_toString p c hc]

theorem isSegment_server : Repository.IsSegment (server h port) := by
  constructor
  case left =>
    intro empty
    refine hh.left (String.toList_inj.mp ?_)
    have := congrArg String.toList empty
    cases port <;> simp_all [server]
  case right =>
    exact not_mem_of_isServerChar (isServerChar_of_mem_server hh port) (by decide) (by decide)

-- The port is not part of the host of an interface.
theorem hostIn_server : Url.hostIn (server h port).toList = h.toList := by
  have hs := isServerChar_of_mem_server hh port
  have userless := afterLast_of_not_mem (not_mem_of_isServerChar hs (d := '@') (by decide) (by decide))
  have bare := Text.cutFirst_of_not_mem
    (not_mem_of_isServerChar hs (d := '[') (by decide) (by decide))
  have colon : ':' ∉ h.toList := fun m => ne_of_isNameChar (hh.right _ m) (by decide) rfl
  have cut : (Text.cutFirst ':' (server h port).toList).1 = h.toList := by
    cases port
    case none => simp [server, Text.cutFirst_of_not_mem colon]
    case some p =>
      rw [toList_server_some, Text.cutFirst_append colon]
  simp only [Url.hostIn, userless, bare, cut]

theorem host?_apiAddress :
    Url.host? (apiAddress (server h port)) = .ok (some (Text.lower h)) := by
  have hs := isServerChar_of_mem_server hh port
  have zoneless : Text.cutFirst '%' h.toList = (h.toList, none) :=
    Text.cutFirst_of_not_mem fun m => ne_of_isNameChar (hh.right _ m) (by decide) rfl
  rw [Url.host?, toList_apiAddress, cleaned_apiAddress hs, authority_apiAddress hs,
    checkAuthority_server hs, hostIn_server hh]
  simp [bind, Except.bind, pure, Except.pure, hh.left, Url.lowerHost, zoneless, Text.lower]

theorem hostOf?_webAddress {o n : String} (ho : Repository.IsSegment o) (hn : Repository.IsSegment n) :
    Repository.hostOf? (webAddress (server h port) o n) = some (server h port) :=
  Repository.hostOf?_eq_some_iff.mpr
    ⟨o, n, ⟨"https", .inr rfl, rfl⟩, isSegment_server hh port, ho, hn⟩

theorem ofApi_apiAddress {al : Aliases} (hal : ∀ a ∈ al, Text.lower a.1 ≠ Text.lower h) :
    ofApi (some (apiAddress (server h port))) al = .ok (Text.lower h) := by
  have unaliased : al.resolve (Text.lower (Text.lower h)) = Text.lower h := by
    have : al.find? (fun a => Text.lower a.1 == Text.lower h) = none :=
      List.find?_eq_none.mpr fun a ha => by simpa using hal a ha
    rw [Text.lower_lower, Aliases.resolve, this]
  have filled : apiAddress (server h port) ≠ "" := by
    intro empty
    have := congrArg String.toList empty
    simp [apiAddress] at this
  rw [ofApi]
  · rw [host?_apiAddress hh port]
    exact congrArg Except.ok unaliased
  · exact filled

end

theorem agree_iff_of_read {s : Source} {a o n host api : String} {al : Aliases}
    (web : Repository.hostOf? (webAddress a o n) = some host)
    (read : ofApi (some (apiAddress a)) al = .ok api) :
    Agree s a o n al ↔ Text.lower host = api := by
  constructor
  case mp =>
    rintro ⟨host', web', read', -⟩
    obtain rfl := Option.some.inj (web.symm.trans web')
    exact Except.ok.inj (read'.symm.trans read)
  case mpr =>
    rintro rfl
    refine ⟨host, web, read, ?_⟩
    simp [Source.watches, sourceAt, read, bind, Except.bind, pure, Except.pure]

-- Each address has its host read off it, but the port goes into one of the hosts only.
theorem agree_iff (s : Source) {h o n : String} {al : Aliases} (hh : IsName h) (port : Option Nat)
    (ho : Repository.IsSegment o) (hn : Repository.IsSegment n)
    (hal : ∀ a ∈ al, Text.lower a.1 ≠ Text.lower h) :
    Repository.hostOf? (webAddress (server h port) o n) = some (server h port) ∧
      ofApi (some (apiAddress (server h port))) al = .ok (Text.lower h) ∧
      (Agree s (server h port) o n al ↔ port = none) := by
  have web := hostOf?_webAddress hh port ho hn
  have read := ofApi_apiAddress hh port hal
  exact ⟨web, read, (agree_iff_of_read web read).trans lower_server_eq_iff⟩

def enterprise : String := "ghe.example.com"

theorem isName_enterprise : IsName enterprise := by
  refine ⟨by simp [enterprise], ?_⟩
  have letters : enterprise.toList.all isNameChar := by decide +kernel
  simpa using letters

theorem isSegment_acme : Repository.IsSegment "acme" := ⟨by simp, by simp⟩

theorem isSegment_widgets : Repository.IsSegment "widgets" := ⟨by simp, by simp⟩

theorem enterprise_unaliased :
    ∀ a ∈ Aliases.standard, Text.lower a.1 ≠ Text.lower enterprise := by
  decide +kernel

theorem agree_enterprise :
    Agree { owner := "acme", repository := "widgets" } (server enterprise none) "acme" "widgets"
      Aliases.standard :=
  (agree_iff _ isName_enterprise none isSegment_acme isSegment_widgets
    enterprise_unaliased).right.right.mpr rfl

theorem not_agree_enterprise_port :
    ¬∀ (s : Source) (h o n : String) (port : Option Nat) (al : Aliases), IsName h →
      (∀ p ∈ port, 1 ≤ p ∧ p ≤ 65535) → Repository.IsSegment o → Repository.IsSegment n →
      (∀ a ∈ al, Text.lower a.1 ≠ Text.lower h) → Agree s (server h port) o n al := by
  intro all
  have agree := all { owner := "acme", repository := "widgets" } enterprise "acme" "widgets"
    (some 8443) Aliases.standard isName_enterprise (by simp) isSegment_acme isSegment_widgets
    enterprise_unaliased
  have web := hostOf?_webAddress isName_enterprise (some 8443) isSegment_acme isSegment_widgets
  have read := ofApi_apiAddress isName_enterprise (some 8443) enterprise_unaliased
  cases lower_server_eq_iff.mp ((agree_iff_of_read web read).mp agree)

end Host

end RefWatch
