import RefWatch.Proofs.Captures
import RefWatch.Proofs.Repository

namespace RefWatch.Repository

open Pattern (Node Single Times)

def wordNodes (w : String) : List Node := w.toList.map fun c => .char c.toNat

def schemeNodes : List Node := wordNodes "http" ++ .rep 0 (some 1) .greedy (.char 115) :: wordNodes "://"

-- A segment, taken by a group.
def segmentNode (g : Nat) : Node := .group (some g) {} {} (.rep 1 none .greedy (.set true [.char 47]))

def laterNode : Node := .seq (.char 47) <| .seq (segmentNode 2) <| .seq (.char 47) (segmentNode 3)

def addressPattern : Pattern where
  text  := "https?://([^/]+)/([^/]+)/([^/]+)"
  root  := schemeNodes.foldr .seq (.seq (segmentNode 1) laterNode)
  flags := {}

theorem ofString_addressPattern : Pattern.ofString addressPattern.text = .ok addressPattern :=
  Pattern.ofString_eq_ok (by decide +kernel)

theorem inRow_addressPattern : addressPattern.InRow := ⟨by decide, by decide, by decide⟩

variable {l : List Char} {g i j a b : Nat}

theorem takes_segment : (segmentNode g).Takes l.toArray {} i j ↔
    ∃ s, IsSegment s ∧ j = i + s.toList.length ∧ l.drop i = s.toList ++ l.drop j := by
  have other (c : Char) : Pattern.setHas {} true [.char 47] c ↔ c ≠ '/' := by
    have same : c.toNat = '/'.toNat ↔ c = '/' := Char.toNat_inj
    have slash : '/'.toNat = 47 := rfl
    rw [slash] at same
    simp [Pattern.setHas, Pattern.charIs_of_caseSensitive, same]
  constructor
  case mp =>
    rintro ⟨n, enough, -, taken⟩
    obtain ⟨rfl, s, rfl, all, here⟩ := Pattern.times_single_toArray.mp taken
    have filled : s ≠ [] := List.length_pos_iff.mp enough
    refine ⟨String.ofList s, ⟨by simpa, ?_⟩, by simp, by simpa using here⟩
    exact fun slash => (other _).mp (all _ (by simpa using slash)) rfl
  case mpr =>
    rintro ⟨s, ⟨filled, free⟩, rfl, here⟩
    have all : ∀ c ∈ s.toList, Pattern.setHas {} true [.char 47] c :=
      fun c hc => (other c).mpr fun slash => free (slash ▸ hc)
    have filled : 0 < s.toList.length := List.length_pos_iff.mpr (by simpa using filled)
    exact ⟨s.toList.length, filled, rfl, Pattern.times_single_toArray.mpr ⟨rfl, s.toList, rfl, all, here⟩⟩

theorem takes_later : laterNode.Takes l.toArray {} i l.length ↔
    ∃ o n, IsSegment o ∧ IsSegment n ∧ l.drop i = '/' :: (o.toList ++ '/' :: n.toList) := by
  have slash {i j : Nat} : (Node.char 47).Takes l.toArray {} i j ↔ _ := Node.takes_char '/' rfl
  constructor
  case mp =>
    rintro ⟨_, first, _, second, _, third, fourth⟩
    obtain ⟨rfl, first⟩ := slash.mp first
    obtain ⟨o, ho, rfl, second⟩ := takes_segment.mp second
    obtain ⟨rfl, third⟩ := slash.mp third
    obtain ⟨n, hn, -, fourth⟩ := takes_segment.mp fourth
    exact ⟨o, n, ho, hn, by rw [first, second, third, fourth, List.drop_length, List.append_nil]⟩
  case mpr =>
    rintro ⟨o, n, ho, hn, here⟩
    have second : l.drop (i + 1) = o.toList ++ '/' :: n.toList := by rw [← List.drop_drop, here]; rfl
    have third : l.drop (i + 1 + o.toList.length) = '/' :: n.toList := by
      rw [← List.drop_drop, second, List.drop_left]
    have fourth : l.drop (i + 1 + o.toList.length + 1) = n.toList := by rw [← List.drop_drop, third]; rfl
    have length := congrArg List.length fourth
    rw [List.length_drop] at length
    have filled : n.toList.length ≠ 0 := by simpa using hn.left
    refine ⟨i + 1, slash.mpr ⟨rfl, ?_⟩, _, takes_segment.mpr ⟨o, ho, rfl, ?_⟩, _, slash.mpr ⟨rfl, ?_⟩,
      takes_segment.mpr ⟨n, hn, by omega, ?_⟩⟩
    case refine_1 => rw [here, second]
    case refine_2 => rw [second, third]
    case refine_3 => rw [third, fourth]
    case refine_4 => rw [fourth, List.drop_length, List.append_nil]

theorem takes_word {w : String} : ((wordNodes w).foldr Node.seq .empty).Takes l.toArray {} i j ↔
    j = i + w.toList.length ∧ l.drop i = w.toList ++ l.drop j :=
  Node.takes_word rfl

theorem takes_scheme : (schemeNodes.foldr Node.seq .empty).Takes l.toArray {} 0 j ↔
    ∃ s, (s = "http" ∨ s = "https") ∧ j = (s ++ "://").toList.length ∧
      l = (s ++ "://").toList ++ l.drop j := by
  rw [schemeNodes, List.foldr_append, Node.takes_foldr]
  constructor
  case mp =>
    rintro ⟨e, http, k, secure, slashes⟩
    obtain ⟨rfl, http⟩ := takes_word.mp http
    obtain ⟨rfl, slashes⟩ := takes_word.mp slashes
    rcases Node.takes_optional.mp secure with rfl | secure
    case inl =>
      rw [List.drop_zero, slashes] at http
      exact ⟨"http", .inl rfl, by simp, by simpa using http⟩
    case inr =>
      obtain ⟨rfl, secure⟩ := (Node.takes_char 's' rfl).mp secure
      rw [List.drop_zero, secure, slashes] at http
      exact ⟨"https", .inr rfl, by simp, by simpa using http⟩
  case mpr =>
    rintro ⟨s, rfl | rfl, rfl, text⟩
    case inl =>
      have slashes : l.drop 4 = "://".toList ++ l.drop 7 := congrArg (List.drop 4) text
      have http : l.drop 0 = "http".toList ++ l.drop 4 := by rw [slashes]; exact text
      exact ⟨4, takes_word.mpr ⟨rfl, http⟩, 4, Node.takes_optional.mpr (.inl rfl),
        takes_word.mpr ⟨rfl, slashes⟩⟩
    case inr =>
      have slashes : l.drop 5 = "://".toList ++ l.drop 8 := congrArg (List.drop 5) text
      have secure : l.drop 4 = 's' :: l.drop 5 := by rw [slashes]; exact congrArg (List.drop 4) text
      have http : l.drop 0 = "http".toList ++ l.drop 4 := by rw [secure, slashes]; exact text
      have optional : (Node.char 115).Takes l.toArray {} 4 5 := (Node.takes_char 's' rfl).mpr ⟨rfl, secure⟩
      exact ⟨4, takes_word.mpr ⟨rfl, http⟩, 5, Node.takes_optional.mpr (.inr optional),
        takes_word.mpr ⟨rfl, slashes⟩⟩

variable {url host owner name : String}

theorem located_of_spans
    (h : addressPattern.FindsIn 1 url a b) :
    ∃ owner name, Located url (String.ofList ((url.toList.drop a).take (b - a))) owner name := by
  obtain ⟨k, front, spans⟩ := (Node.spans_foldr (by decide)).mp h
  obtain ⟨e, ⟨first, rest⟩ | ⟨-, behind⟩⟩ := spans
  case inr => cases Node.holds_of_spans behind
  obtain ⟨taken, rfl, rfl⟩ := Node.spans_group.mp first
  obtain ⟨s, hs, -, front⟩ := takes_scheme.mp front
  obtain ⟨host, hh, rfl, first⟩ := takes_segment.mp taken
  obtain ⟨o, n, ho, hn, rest⟩ := takes_later.mp rest
  have taken : (url.toList.drop a).take (a + host.toList.length - a) = host.toList := by
    rw [first, Nat.add_sub_cancel_left, List.take_left]
  rw [taken, String.ofList_toList]
  refine ⟨o, n, ⟨s, hs, ?_⟩, hh, ho, hn⟩
  rw [first, rest] at front
  apply String.toList_inj.mp
  simpa using front

theorem takes_of_located (h : Located url host owner name) :
    addressPattern.StandsFor url := by
  obtain ⟨⟨s, hs, form⟩, hh, ho, hn⟩ := h
  have text : url.toList =
      (s ++ "://").toList ++ (host.toList ++ '/' :: (owner.toList ++ '/' :: name.toList)) := by
    simp [form]
  have rest := congrArg (List.drop (s ++ "://").toList.length) text
  rw [List.drop_left] at rest
  have others := congrArg (List.drop host.toList.length) rest
  rw [List.drop_drop, List.drop_left] at others
  have front := takes_scheme.mpr ⟨s, hs, rfl, by rw [rest]; exact text⟩
  have first : (segmentNode 1).Takes url.toList.toArray {} _ _ :=
    takes_segment.mpr ⟨host, hh, rfl, by rw [rest, others]⟩
  have behind := takes_later.mpr ⟨owner, name, ho, hn, others⟩
  exact Node.takes_foldr.mpr ⟨_, front, _, first, behind⟩

theorem groupIn?_addressPattern (url : String) : addressPattern.groupIn? 1 url = .ok (hostOf? url) := by
  cases read : hostOf? url
  case none =>
    apply Pattern.groupIn?_of_not_standsFor inRow_addressPattern
    intro taken
    obtain ⟨a, b, spans, -⟩ := Pattern.groupIn?_of_standsFor inRow_addressPattern (g := 1) (by decide) taken
    rw [hostOf?_eq_some_iff.mpr (located_of_spans spans)] at read
    cases read
  case some host =>
    obtain ⟨owner, name, located⟩ := hostOf?_eq_some_iff.mp read
    obtain ⟨a, b, spans, found⟩ :=
      Pattern.groupIn?_of_standsFor inRow_addressPattern (g := 1) (by decide) (takes_of_located located)
    rw [found, ← hostOf?_eq_some_iff.mpr (located_of_spans spans), read]

-- Reading the host of the repository off a document.
structure ReadsHost (read : Json → Option String) : Prop where
  host    : ∀ url h, read (.text url) = some h ↔ ∃ o n, Located url h o n
  unique  : ∀ url h o n h' o' n', Located url h o n → Located url h' o' n' → h = h' ∧ o = o' ∧ n = n'
  built   : ∀ scheme h o n, (scheme = "http" ∨ scheme = "https") → IsSegment h → IsSegment o →
    IsSegment n → read (.text (scheme ++ "://" ++ h ++ "/" ++ o ++ "/" ++ n)) = some h
  nothing : ∀ v, (∀ url h o n, v = .text url → ¬Located url h o n) → read v = none
  matched : ∃ p, Pattern.ofString "https?://([^/]+)/([^/]+)/([^/]+)" = .ok p ∧
    ∀ url, p.groupIn? 1 url = .ok (read (.text url))

theorem host_read : ReadsHost hostIn? where
  host _ _ := hostOf?_eq_some_iff
  unique _ _ _ _ _ _ _ := Located.unique
  built scheme h o n hs hh ho hn := hostOf?_eq_some_iff.mpr ⟨o, n, ⟨scheme, hs, rfl⟩, hh, ho, hn⟩
  nothing v other := by
    cases v
    case text url =>
      apply Option.eq_none_iff_forall_ne_some.mpr
      intro h read
      obtain ⟨o, n, located⟩ := hostOf?_eq_some_iff.mp read
      exact other url h o n rfl located
    all_goals rfl
  matched := ⟨addressPattern, ofString_addressPattern, groupIn?_addressPattern⟩

end RefWatch.Repository
