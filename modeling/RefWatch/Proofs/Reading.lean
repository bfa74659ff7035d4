import RefWatch.Proofs.Grammar
import RefWatch.Proofs.Utf8

namespace RefWatch.Json

open List
open Text (isAsciiDigit isHexDigit natOfDigits natOfHex quotationMark)
open Text.Utf8 (encode encodeNat encode_append encode_cons encodeNat_of_ascii encode_of_ascii)

variable {d : Dialect} {c : Char} {s w ds rest : List Char}

theorem ascii_of_isBlank (h : isBlank c) : c.toNat < 0x80 := by
  simp only [isBlank, Bool.or_eq_true, beq_iff_eq] at h
  rcases h with ((rfl | rfl) | rfl) | rfl <;> decide

theorem encode_of_blanks (h : Blanks w) : encode w = w :=
  encode_of_ascii fun c hc => ascii_of_isBlank (h c hc)

theorem skipBlank_append (h : Blanks w) (s : List Char) : skipBlank (w ++ s) = skipBlank s :=
  dropWhile_append_of_pos h

theorem skipBlank_cons (h : isBlank c = false) (s : List Char) : skipBlank (c :: s) = c :: s :=
  dropWhile_cons_of_neg (by simp [h])

theorem skipBlank_blanks_append (h : Blanks w) (hc : isBlank c = false) (s : List Char) :
    skipBlank (w ++ c :: s) = c :: s := by
  rw [skipBlank_append h, skipBlank_cons hc]

theorem encode_cons_of_ascii (h : c.toNat < 0x80) (cs : List Char) : encode (c :: cs) = c :: encode cs := by
  rw [encode_cons, encodeNat_of_ascii h, singleton_append]

theorem ascii_of_le {b : Char} (hb : b.toNat < 0x80) (h : c ≤ b) : c.toNat < 0x80 :=
  Nat.lt_of_le_of_lt (UInt32.le_iff_toNat_le.mp h) hb

theorem ascii_of_isAsciiDigit (h : isAsciiDigit c) : c.toNat < 0x80 := by
  simp only [isAsciiDigit, Bool.and_eq_true, decide_eq_true_eq] at h
  exact ascii_of_le (by decide) h.2

theorem ascii_of_isHexDigit (h : isHexDigit c) : c.toNat < 0x80 := by
  simp only [isHexDigit, Bool.or_eq_true, Bool.and_eq_true, decide_eq_true_eq] at h
  rcases h with (digit | ⟨_, small⟩) | ⟨_, large⟩
  case inl.inl => exact ascii_of_isAsciiDigit digit
  case inl.inr => exact ascii_of_le (by decide) small
  case inr => exact ascii_of_le (by decide) large

theorem hexUnit_append {n : Nat} (h : HexUnit n ds) (s : List Char) : hexUnit (ds ++ s) = .ok (n, s) := by
  have front : (ds ++ s).take 4 = ds := by rw [← h.length, take_left]
  have back : (ds ++ s).drop 4 = s := by rw [← h.length, drop_left]
  have none : ds.findIdx? (!isHexDigit ·) = none := by
    simpa [findIdx?_eq_none_iff] using h.digits
  simp only [hexUnit, front, back, none, h.length, h.value, Nat.lt_irrefl, if_false]

theorem not_surrogate (c : Char) : isHighSurrogate c.toNat = false ∧ isLowSurrogate c.toNat = false := by
  have valid : c.toNat < 0xD800 ∨ 0xDFFF < c.toNat ∧ c.toNat < 0x110000 := c.valid
  simp only [isHighSurrogate, isLowSurrogate, Bool.and_eq_false_iff, decide_eq_false_iff_not]
  omega

theorem hexEscape_of_unit (h : HexUnit c.toNat ds) (s : List Char) :
    hexEscape d (ds ++ s) = .ok (c.toNat, s) := by
  have ⟨high, low⟩ := not_surrogate c
  simp only [hexEscape, hexUnit_append h, high, low, bind, Except.bind]
  rfl

theorem hexEscape_of_pair {high low : Nat} (both : Paired c high low) {es : List Char}
    (first : HexUnit high ds) (second : HexUnit low es) (s : List Char) :
    hexEscape d (ds ++ '\\' :: 'u' :: (es ++ s)) = .ok (c.toNat, s) := by
  have notLow : isLowSurrogate high = false := by
    have isHigh := both.isHigh
    simp only [isHighSurrogate, isLowSurrogate, Bool.and_eq_true, decide_eq_true_eq,
      Bool.and_eq_false_iff, decide_eq_false_iff_not] at isHigh ⊢
    omega
  simp only [hexEscape, hexUnit_append first, hexUnit_append second, notLow, both.isHigh, both.isLow,
    both.code, bind, Except.bind]
  rfl

theorem escape_of_letter {e : Char} (h : (e, c) ∈ shortEscapes) (s : List Char) :
    escape d (e :: s) = .ok (encodeNat c.toNat, s) := by
  simp only [shortEscapes, mem_cons, Prod.mk.injEq, not_mem_nil, or_false] at h
  rcases h with ⟨rfl, rfl⟩ | ⟨rfl, rfl⟩ | ⟨rfl, rfl⟩ | ⟨rfl, rfl⟩ | ⟨rfl, rfl⟩ | ⟨rfl, rfl⟩ | ⟨rfl, rfl⟩ |
    ⟨rfl, rfl⟩ <;> rfl

theorem escape_u (h : hexEscape d w = .ok (c.toNat, s)) :
    escape d ('u' :: w) = .ok (encodeNat c.toNat, s) := by
  rw [escape, h]
  rfl

theorem encode_escaped {u : Char} (h : u.toNat < 0x80) (w : List Char) :
    encode ('\\' :: u :: w) = '\\' :: u :: encode w := by
  rw [encode_cons_of_ascii (by decide), encode_cons_of_ascii h]

theorem encode_unit_append {n : Nat} (h : HexUnit n ds) (w : List Char) :
    encode (ds ++ w) = ds ++ encode w := by
  rw [encode_append, encode_of_ascii fun c hc => ascii_of_isHexDigit (h.digits c hc)]

theorem ascii_of_shortEscape {e : Char} (h : (e, c) ∈ shortEscapes) : e.toNat < 0x80 := by
  have all : ∀ p ∈ shortEscapes, p.1.toNat < 0x80 := by decide
  exact all _ h

-- Octets that stand for themselves in a text.
def Plain (o : Char) : Prop := 0x20 ≤ o.toNat ∧ o ≠ quotationMark ∧ o ≠ '\\'

instance (o : Char) : Decidable (Plain o) :=
  inferInstanceAs (Decidable (0x20 ≤ o.toNat ∧ o ≠ quotationMark ∧ o ≠ '\\'))

theorem spells_of_plain (h : ∀ c ∈ w, Plain c) : Spells w w := by
  induction w
  case nil => exact .nil
  case cons c w hi =>
    have ⟨⟨shown, inside, plain⟩, rest⟩ := forall_mem_cons.mp h
    exact .raw shown inside plain (hi rest)

theorem plain_of_mem_encodeNat (shown : 0x20 ≤ c.toNat) (inside : c ≠ quotationMark) (plain : c ≠ '\\') :
    ∀ o ∈ encodeNat c.toNat, Plain o := by
  by_cases ascii : c.toNat < 0x80
  case pos =>
    rw [encodeNat_of_ascii ascii]
    intro o ho
    cases mem_singleton.mp ho
    exact ⟨shown, inside, plain⟩
  case neg =>
    intro o ho
    have high := Text.Utf8.le_toNat_of_mem_encodeNat (Nat.not_lt.mp ascii) o ho
    refine ⟨Nat.le_trans (by decide) high, ?_, ?_⟩
    all_goals
      rintro rfl
      exact absurd high (by decide)

theorem octetsFrom_plain (plain : ∀ o ∈ w, Plain o) (fuel : Nat) (done s : List Char) :
    octetsFrom d (w.length + fuel) done (w ++ s) = octetsFrom d fuel (w.reverse ++ done) s := by
  induction w generalizing done
  case nil => simp
  case cons o w hi =>
    have ⟨⟨shown, inside, unescaped⟩, rest⟩ := forall_mem_cons.mp plain
    have step : (o :: w).length + fuel = w.length + fuel + 1 := by
      rw [length_cons]
      omega
    rw [step, cons_append, octetsFrom, if_neg inside, if_neg (Nat.not_lt.mpr shown), if_neg unescaped,
      hi rest, reverse_cons, append_assoc, singleton_append]

theorem octetsFrom_escape {e : List Char} (h : escape d w = .ok (e, s)) (fuel : Nat) (done : List Char) :
    octetsFrom d (fuel + 1) done ('\\' :: w) = octetsFrom d fuel (e.reverse ++ done) s := by
  have marks : '\\' ≠ quotationMark := by decide
  have shown : ¬('\\' : Char).toNat < 0x20 := by decide
  rw [octetsFrom, if_neg marks, if_neg shown, if_pos rfl, h]

-- An escape takes one round, and makes for fewer octets than are written.
theorem octetsFrom_escaped {u v cs : List Char} {fuel : Nat}
    (h : escape d (u ++ quotationMark :: rest) = .ok (encodeNat c.toNat, v ++ quotationMark :: rest))
    (enough : u.length + 1 < fuel) (shorter : v.length < u.length)
    (further : ∀ {fuel : Nat}, v.length < fuel → ∀ done : List Char,
      octetsFrom d fuel done (v ++ quotationMark :: rest) = .ok (done.reverse ++ encode cs, rest))
    (done : List Char) :
    octetsFrom d fuel done ('\\' :: u ++ quotationMark :: rest) =
      .ok (done.reverse ++ encode (c :: cs), rest) := by
  obtain ⟨fuel, rfl⟩ := Nat.exists_eq_add_one.mpr (Nat.zero_lt_of_lt enough)
  have left : v.length < fuel := by omega
  rw [cons_append, octetsFrom_escape h, further left, encode_cons, reverse_append, reverse_reverse,
    append_assoc]

theorem octetsFrom_of_spells {cs : List Char} (h : Spells cs w) {fuel : Nat}
    (enough : (encode w).length < fuel) (done rest : List Char) :
    octetsFrom d fuel done (encode w ++ quotationMark :: rest) =
      .ok (done.reverse ++ encode cs, rest) := by
  induction h generalizing fuel done
  case nil =>
    obtain ⟨fuel, rfl⟩ := Nat.exists_eq_add_one.mpr (Nat.zero_lt_of_lt enough)
    simp [encode, octetsFrom]
  case raw c shown inside plain cs w h hi =>
    rw [encode_cons, length_append] at enough
    obtain ⟨fuel, rfl⟩ := Nat.exists_eq_add_of_le (show (encodeNat c.toNat).length ≤ fuel by omega)
    have left : (encode w).length < fuel := by omega
    rw [encode_cons, append_assoc, octetsFrom_plain (plain_of_mem_encodeNat shown inside plain),
      hi left, encode_cons, reverse_append, reverse_reverse, append_assoc]
  case short e c letter cs w h hi =>
    rw [encode_escaped (ascii_of_shortEscape letter)] at enough ⊢
    exact octetsFrom_escaped (escape_of_letter letter _) enough (Nat.lt_succ_self _) hi done
  case hex c ds unit cs w h hi =>
    rw [encode_escaped (by decide), encode_unit_append unit] at enough ⊢
    refine octetsFrom_escaped (u := 'u' :: (ds ++ encode w)) ?_ enough ?_ hi done
    case refine_1 =>
      rw [cons_append, append_assoc]
      exact escape_u (hexEscape_of_unit unit _)
    case refine_2 =>
      simp only [length_append, length_cons]
      omega
  case pair c high low both ds es first second cs w h hi =>
    rw [encode_escaped (by decide), encode_unit_append first, encode_escaped (by decide),
      encode_unit_append second] at enough ⊢
    refine octetsFrom_escaped (u := 'u' :: (ds ++ '\\' :: 'u' :: (es ++ encode w))) ?_ enough ?_ hi done
    case refine_1 =>
      simp only [cons_append, append_assoc]
      exact escape_u (hexEscape_of_pair both first second _)
    case refine_2 =>
      simp only [length_append, length_cons]
      omega

theorem spelling_of_spells {t : String} (h : Spells t.toList w) (rest : List Char) :
    spelling d (encode w ++ quotationMark :: rest) = .ok (⟨t, false⟩, rest) := by
  have enough : (encode w).length < (encode w ++ quotationMark :: rest).length + 1 := by
    rw [length_append]
    omega
  have octets := octetsFrom_of_spells (d := d) h enough [] rest
  rw [reverse_nil, nil_append] at octets
  simp only [spelling, octets, bind, Except.bind, Text.Utf8.decode_encode, String.ofList_toList]
  rfl

-- What may follow a value.
def Ends (s : List Char) : Prop :=
  ∀ c ∈ s.head?, isBlank c ∨ c = ',' ∨ c = ']' ∨ c = '\x7d'

-- What follows cannot be taken for more of a number.
structure Stops (s : List Char) : Prop where
  digit : ∀ c ∈ s.head?, isAsciiDigit c = false
  power : ∀ c ∈ s.head?, c ≠ 'e' ∧ c ≠ 'E'
  point : ∀ c ∈ s.head?, c ≠ '.'

theorem Ends.stops (h : Ends s) : Stops s := by
  have all (c : Char) (hc : c ∈ s.head?) : isAsciiDigit c = false ∧ (c ≠ 'e' ∧ c ≠ 'E') ∧ c ≠ '.' := by
    have h := h c hc
    simp only [isBlank, Bool.or_eq_true, beq_iff_eq] at h
    rcases h with (((rfl | rfl) | rfl) | rfl) | rfl | rfl | rfl <;> decide
  exact ⟨fun c hc => (all c hc).1, fun c hc => (all c hc).2.1, fun c hc => (all c hc).2.2⟩

section

variable (ends : ∀ c ∈ s.head?, isAsciiDigit c = false)

include ends

theorem takeWhile_digits (h : ∀ c ∈ w, isAsciiDigit c) : (w ++ s).takeWhile isAsciiDigit = w := by
  rw [takeWhile_append_of_pos h]
  cases s
  case nil => simp
  case cons c s => simp [ends c rfl]

theorem dropWhile_digits (h : ∀ c ∈ w, isAsciiDigit c) : (w ++ s).dropWhile isAsciiDigit = s := by
  rw [dropWhile_append_of_pos h]
  cases s
  case nil => rfl
  case cons c s => simp [ends c rfl]

theorem someDigits_append (h : Digits w) : someDigits (w ++ s) = .ok (w, s) := by
  obtain ⟨digits, filled⟩ := h
  cases w
  case nil => exact absurd rfl filled
  case cons c w =>
    have ⟨first, rest⟩ := forall_mem_cons.mp digits
    rw [cons_append, someDigits, if_pos first, takeWhile_digits ends rest, dropWhile_digits ends rest]

theorem wholeDigits_append {longest : Nat} (h : Whole longest w) : wholeDigits (w ++ s) = .ok (w, s) := by
  obtain ⟨⟨digits, filled⟩, lead, -⟩ := h
  cases w
  case nil => exact absurd rfl filled
  case cons c w =>
    have ⟨first, rest⟩ := forall_mem_cons.mp digits
    by_cases zero : c = '0'
    case pos =>
      subst zero
      cases (cons.inj (lead rfl)).2
      cases s
      case nil => rfl
      case cons c s => simp [wholeDigits, ends c rfl]
    case neg =>
      rw [cons_append, wholeDigits, if_pos first, takeWhile_digits ends rest,
        dropWhile_digits ends rest]
      exact fun _ _ same _ => zero same

theorem signedPower_append (h : Digits w) (negative : Bool) :
    signedPower negative (w ++ s) =
      .ok (some (if negative then -(natOfDigits w : Int) else natOfDigits w), s) := by
  rw [signedPower, someDigits_append ends h]
  rfl

end

theorem fraction_append {decimals : Option (List Char)} (h : Fraction decimals w)
    (ends : ∀ c ∈ s.head?, isAsciiDigit c = false) (point : ∀ c ∈ s.head?, c ≠ '.') :
    fraction (w ++ s) = .ok (decimals, s) := by
  cases h
  case none =>
    cases s
    case nil => rfl
    case cons c s =>
      rw [nil_append, fraction]
      exact fun _ same => point c rfl (cons.inj same).1
  case some ds h =>
    rw [cons_append, fraction, someDigits_append ends h]
    rfl

theorem power_cons (h : c = 'e' ∨ c = 'E') (s : List Char) :
    power (c :: s) =
      match s with
      | '-' :: rest => signedPower true rest
      | '+' :: rest => signedPower false rest
      | _ => signedPower false s := by
  have mark : (decide (c = 'e') || decide (c = 'E')) = true := by simpa using h
  exact if_pos mark

theorem power_append {p : Option Int} (h : Power p w) (stops : Stops s) :
    power (w ++ s) = .ok (p, s) := by
  cases h
  case none =>
    cases s
    case nil => rfl
    case cons c s =>
      have ⟨small, large⟩ := stops.power c rfl
      simp [power, small, large]
  case plain e he ds h =>
    refine Eq.trans ?_ (signedPower_append stops.digit h false)
    obtain ⟨digits, filled⟩ := h
    cases ds
    case nil => exact absurd rfl filled
    case cons c ds =>
      have first : isAsciiDigit c := digits c mem_cons_self
      rw [cons_append, power_cons he]
      split
      case h_1 same =>
        cases (cons.inj same).1
        cases first
      case h_2 same =>
        cases (cons.inj same).1
        cases first
      case h_3 => rfl
  case plus e he ds h =>
    rw [cons_append, power_cons he]
    exact signedPower_append stops.digit h false
  case minus e he ds h =>
    rw [cons_append, power_cons he]
    exact signedPower_append stops.digit h true

theorem Fraction.head {decimals : Option (List Char)} (h : Fraction decimals w) :
    w = [] ∨ ∃ v, w = '.' :: v := by
  cases h
  case none => exact .inl rfl
  case some ds h => exact .inr ⟨ds, rfl⟩

theorem Power.head {p : Option Int} (h : Power p w) :
    w = [] ∨ ∃ c v, (c = 'e' ∨ c = 'E') ∧ w = c :: v := by
  cases h
  case none => exact .inl rfl
  case plain e he ds h => exact .inr ⟨e, _, he, rfl⟩
  case plus e he ds h => exact .inr ⟨e, _, he, rfl⟩
  case minus e he ds h => exact .inr ⟨e, _, he, rfl⟩

section

variable {f e : List Char} {decimals : Option (List Char)} {p : Option Int}

theorem head_power (he : Power p e) (stops : Stops s) :
    ∀ c ∈ (e ++ s).head?, isAsciiDigit c = false ∧ c ≠ '.' := by
  rcases he.head with rfl | ⟨c, v, mark, rfl⟩
  case inl => exact fun c hc => ⟨stops.digit c hc, stops.point c hc⟩
  case inr =>
    intro b hb
    cases hb
    rcases mark with rfl | rfl <;> decide

theorem head_fraction (hf : Fraction decimals f) (he : Power p e) (stops : Stops s) :
    ∀ c ∈ (f ++ (e ++ s)).head?, isAsciiDigit c = false := by
  rcases hf.head with rfl | ⟨v, rfl⟩
  case inl => exact fun c hc => (head_power he stops c hc).1
  case inr =>
    intro b hb
    cases hb
    decide

theorem isDecimal_iff (hf : Fraction decimals f) (he : Power p e) (stops : Stops s) :
    ((f ++ (e ++ s)).head?.any fun c => c == '.' || c == 'e' || c == 'E') = !(f ++ e).isEmpty := by
  rcases hf.head with rfl | ⟨v, rfl⟩
  case inr => rfl
  case inl =>
    rcases he.head with rfl | ⟨c, v, rfl | rfl, rfl⟩
    case inl =>
      cases s
      case nil => rfl
      case cons c s =>
        have ⟨small, large⟩ := stops.power c rfl
        have point := stops.point c rfl
        simp [small, large, point]
    all_goals rfl

-- A numeral without its sign.
theorem numeral_append {longest : Nat} (h : Whole longest ds) (hf : Fraction decimals f)
    (he : Power p e) (fits : longest ≤ d.longestNumeral) (stops : Stops s) (negative : Bool) :
    numeral d negative (ds ++ (f ++ (e ++ s))) =
      .ok (if (f ++ e).isEmpty then .whole (if negative then -(natOfDigits ds : Int) else natOfDigits ds)
        else .decimal negative (natOfDigits (ds ++ decimals.getD []))
          (p.getD 0 - (decimals.getD []).length), s) := by
  have afterPoint := head_power he stops
  have short : ¬ds.length > d.longestNumeral := Nat.not_lt.mpr (Nat.le_trans h.short fits)
  have fraction := fraction_append hf (fun c hc => (afterPoint c hc).1) fun c hc => (afterPoint c hc).2
  simp only [numeral, wholeDigits_append (head_fraction hf he stops) h, fraction,
    power_append he stops, isDecimal_iff hf he stops, decide_eq_false short, bind, Except.bind,
    Bool.false_and, Bool.not_not]
  cases (f ++ e).isEmpty <;> rfl

end

theorem Digits.head (h : Digits w) : ∃ c v, w = c :: v ∧ isAsciiDigit c := by
  obtain ⟨digits, filled⟩ := h
  cases w
  case nil => exact absurd rfl filled
  case cons c w => exact ⟨c, w, rfl, digits c mem_cons_self⟩

theorem word_append (w s : List Char) : word w (w ++ s) = .ok s := by
  induction w
  case nil => cases s <;> rfl
  case cons c w hi => rw [cons_append, word, if_pos rfl, hi]

theorem wordValue_append (text : String) (j : Json) (s : List Char) :
    wordValue text j (text.toList ++ s) = .ok (j, s) := by
  rw [wordValue, word_append]
  rfl

-- A digit begins no word and is no sign.
theorem scalar_digit (h : isAsciiDigit c) (s : List Char) :
    scalar d (c :: s) = (numeral d false (c :: s)).map fun (n, rest) => (.number n, rest) := by
  unfold scalar
  split
  case h_8 b r _ _ _ _ _ _ _ same =>
    cases same
    rw [if_pos h]
  case h_9 same => cases same
  all_goals
    cases ‹c :: s = _›
    cases h

theorem scalar_minus (h : isAsciiDigit c) (s : List Char) :
    scalar d ('-' :: c :: s) = (numeral d true (c :: s)).map fun (n, rest) => (.number n, rest) := by
  unfold scalar
  split
  case h_6 same =>
    cases same
    cases h
  case h_7 same =>
    cases same
    rfl
  case h_8 notMinus same =>
    cases same
    exact absurd rfl notMinus
  all_goals cases ‹_ :: c :: s = _›

theorem scalar_signed (h : isAsciiDigit c) {x : Number} (negative : Bool)
    (read : numeral d negative (c :: w ++ s) = .ok (x, s)) :
    scalar d (signed negative (c :: w) ++ s) = .ok (.number x, s) := by
  cases negative
  case false =>
    rw [signed, if_neg Bool.false_ne_true, cons_append, scalar_digit h, ← cons_append, read]
    rfl
  case true =>
    rw [signed, if_pos rfl, cons_append, cons_append, scalar_minus h, ← cons_append, read]
    rfl

theorem scalar_of_numeral {longest : Nat} {x : Number} (h : Numeral longest x w)
    (fits : longest ≤ d.longestNumeral) (stops : Stops s) : scalar d (w ++ s) = .ok (.number x, s) := by
  cases h
  case whole negative ds h =>
    have read := numeral_append h .none .none fits stops negative
    obtain ⟨c, v, rfl, digit⟩ := h.head
    exact scalar_signed digit negative read
  case decimal negative ds f e h decimals hf p he some =>
    have read := numeral_append h hf he fits stops negative
    rw [if_neg (by simpa using some), ← append_assoc f, ← append_assoc ds, ← append_assoc ds] at read
    obtain ⟨c, v, rfl, digit⟩ := h.head
    exact scalar_signed digit negative read
  case infinite negative =>
    cases negative
    case false => exact wordValue_append "nfinity" _ s
    case true => exact wordValue_append "nfinity" _ s
  case notANumber => exact wordValue_append "aN" _ s

-- An octet that may begin a value.
structure Opening (c : Char) : Prop where
  ascii : c.toNat < 0x80
  apart : c ∉ [' ', '\t', '\n', '\r', ']', '\x7d']

-- The first octet of a value that is no container and no text.
structure Scalar (c : Char) : Prop extends Opening c where
  plain : c ∉ [quotationMark, '[', '\x7b']

theorem Opening.notBlank (h : Opening c) : isBlank c = false := by
  have apart := h.apart
  simp only [mem_cons, not_or] at apart
  simp [isBlank, apart]

theorem scalar_of_digit (h : isAsciiDigit c) : Scalar c := by
  have apart {bs : List Char} (none : bs.any isAsciiDigit = false) : c ∉ bs := fun mem =>
    any_eq_false.mp none c mem h
  exact ⟨⟨ascii_of_isAsciiDigit h, apart rfl⟩, apart rfl⟩

theorem signed_head {negative : Bool} (h : Scalar c) :
    ∃ b v, signed negative (c :: w) = b :: v ∧ Scalar b := by
  cases negative
  case false => exact ⟨c, w, rfl, h⟩
  case true => exact ⟨'-', c :: w, rfl, ⟨by decide, by decide⟩, by decide⟩

theorem Numeral.head {longest : Nat} {x : Number} (h : Numeral longest x w) :
    ∃ c v, w = c :: v ∧ Scalar c := by
  cases h
  case whole negative ds h =>
    obtain ⟨c, v, rfl, digit⟩ := h.head
    exact signed_head (scalar_of_digit digit)
  case decimal negative ds f e h decimals hf p he some =>
    obtain ⟨c, v, rfl, digit⟩ := h.head
    exact signed_head (scalar_of_digit digit)
  case infinite negative => exact signed_head ⟨⟨by decide, by decide⟩, by decide⟩
  case notANumber => exact ⟨'N', _, rfl, ⟨by decide, by decide⟩, by decide⟩

def Ascii (w : List Char) : Prop := ∀ c ∈ w, c.toNat < 0x80

instance : DecidablePred Ascii := decidableBAll (Char.toNat · < 0x80)

theorem Ascii.cons (h : c.toNat < 0x80) (hw : Ascii w) : Ascii (c :: w) := forall_mem_cons.mpr ⟨h, hw⟩

theorem Ascii.append {v : List Char} (hv : Ascii v) (hw : Ascii w) : Ascii (v ++ w) :=
  forall_mem_append.mpr ⟨hv, hw⟩

theorem Digits.ascii (h : Digits w) : Ascii w := fun c hc => ascii_of_isAsciiDigit (h.digits c hc)

theorem Fraction.ascii {decimals : Option (List Char)} (h : Fraction decimals w) : Ascii w := by
  cases h
  case none => exact nofun
  case some ds h => exact h.ascii.cons (by decide)

theorem Power.ascii {p : Option Int} (h : Power p w) : Ascii w := by
  have mark {e : Char} (he : e = 'e' ∨ e = 'E') : e.toNat < 0x80 := by
    rcases he with rfl | rfl <;> decide
  cases h
  case none => exact nofun
  case plain e he ds h => exact h.ascii.cons (mark he)
  case plus e he ds h => exact (h.ascii.cons (by decide)).cons (mark he)
  case minus e he ds h => exact (h.ascii.cons (by decide)).cons (mark he)

theorem Ascii.signed (h : Ascii w) (negative : Bool) : Ascii (signed negative w) := by
  cases negative
  case false => exact h
  case true => exact h.cons (by decide)

theorem Numeral.ascii {longest : Nat} {x : Number} (h : Numeral longest x w) : Ascii w := by
  cases h
  case whole negative ds h => exact h.ascii.signed negative
  case decimal negative ds f e h decimals hf p he some =>
    exact ((h.ascii.append hf.ascii).append he.ascii).signed negative
  case infinite negative => exact Ascii.signed (by decide) negative
  case notANumber => decide

section

variable {longest n : Nat} {j : Json} {js : List Json} {ms : Members}

theorem Writes.value_head (h : Writes longest n (.value j) w) : ∃ c v, w = c :: v ∧ Opening c := by
  cases h
  case number x h =>
    obtain ⟨c, v, rfl, scalar⟩ := h.head
    exact ⟨c, v, rfl, scalar.toOpening⟩
  all_goals exact ⟨_, _, rfl, by decide, by decide⟩

theorem Writes.items_head (h : Writes longest n (.items js) w) :
    ∃ b c v, Blanks b ∧ w = b ++ c :: v ∧ Opening c := by
  cases h
  case lastItem j a b w ha hb h =>
    obtain ⟨c, v, rfl, opening⟩ := h.value_head
    exact ⟨a, c, v ++ b, ha, by simp, opening⟩
  case item j js a b w v ha hb h rest =>
    obtain ⟨c, u, rfl, opening⟩ := h.value_head
    exact ⟨a, c, u ++ b ++ ',' :: v, ha, by simp, opening⟩

theorem Writes.members_head (h : Writes longest n (.members ms) w) :
    ∃ b v, Blanks b ∧ w = b ++ quotationMark :: v := by
  cases h
  case lastMember name j a b c d k w ha hb hc hd hk h =>
    exact ⟨a, _, ha, by rw [append_assoc, append_assoc, marked, cons_append]⟩
  case member name j ms a b c d k w v ha hb hc hd hk h rest =>
    exact ⟨a, _, ha, by rw [append_assoc, append_assoc, marked, cons_append]⟩

end

section

variable (fuel depth : Nat)

theorem value_mark (s : List Char) :
    value d (fuel + 1) depth (quotationMark :: s) =
      (spelling d s).map fun (t, rest) => (ofSpelling t, rest) := by
  rw [value, if_pos rfl]

theorem value_scalar (h : Scalar c) (s : List Char) :
    value d (fuel + 1) depth (c :: s) = scalar d (c :: s) := by
  have plain := h.plain
  simp only [mem_cons, not_mem_nil, or_false, not_or] at plain
  rw [value, if_neg plain.1, if_neg plain.2.1, if_neg plain.2.2]

theorem value_emptyList (h : Blanks w) (rest : List Char) :
    value d (fuel + 1) depth ('[' :: (w ++ ']' :: rest)) = .ok (.list [], rest) := by
  have marks : '[' ≠ quotationMark := by decide
  rw [value, if_neg marks, if_pos rfl, skipBlank_blanks_append h rfl]
  rfl

theorem value_list (h : Opening c) {t : List Char} (next : skipBlank s = c :: t) :
    value d (fuel + 1) (depth + 1) ('[' :: s) =
      (items d fuel depth (c :: t)).map fun (js, rest) => (.list js, rest) := by
  have marks : '[' ≠ quotationMark := by decide
  rw [value, if_neg marks, if_pos rfl, next]
  split
  case h_1 same => cases same
  case h_2 same =>
    cases same
    exact absurd h.apart (by decide)
  case h_3 => rfl

theorem value_emptyObject (h : Blanks w) (rest : List Char) :
    value d (fuel + 1) depth ('\x7b' :: (w ++ '\x7d' :: rest)) = .ok (.object [], rest) := by
  have marks : '\x7b' ≠ quotationMark := by decide
  have noList : '\x7b' ≠ '[' := by decide
  rw [value, if_neg marks, if_neg noList, if_pos rfl, skipBlank_blanks_append h rfl]
  rfl

theorem value_object (h : Opening c) {t u : List Char} (next : skipBlank s = c :: t) {m : Spelling}
    (named : name d (c :: t) = .ok (m, u)) :
    value d (fuel + 1) (depth + 1) ('\x7b' :: s) =
      (members d fuel depth m u).map fun (ms, rest) => (.object ms, rest) := by
  have marks : '\x7b' ≠ quotationMark := by decide
  have noList : '\x7b' ≠ '[' := by decide
  rw [value, if_neg marks, if_neg noList, if_pos rfl, next]
  split
  case h_1 same => cases same
  case h_2 same =>
    cases same
    exact absurd h.apart (by decide)
  case h_3 => simp only [named]

theorem items_last {j : Json} (read : value d fuel depth w = .ok (j, s))
    (next : skipBlank s = ']' :: rest) : items d (fuel + 1) depth w = .ok ([j], rest) := by
  rw [items, read]
  simp only [next]

theorem items_cons {j : Json} (read : value d fuel depth w = .ok (j, s)) {t u : List Char}
    (next : skipBlank s = ',' :: t) (h : Opening c) (more : skipBlank t = c :: u) :
    items d (fuel + 1) depth w =
      (items d fuel depth (c :: u)).map fun (js, rest) => (j :: js, rest) := by
  rw [items, read]
  simp only [next, more]
  split
  case h_1 same =>
    cases same
    exact absurd h.apart (by decide)
  case h_2 => rfl

theorem members_last {j : Json} {m : Spelling} (read : value d fuel depth w = .ok (j, s))
    (next : skipBlank s = '\x7d' :: rest) :
    members d (fuel + 1) depth m w = .ok ([member m j], rest) := by
  rw [members, read]
  simp only [next]

theorem members_cons {j : Json} {m m' : Spelling} (read : value d fuel depth w = .ok (j, s))
    {t u v : List Char} (next : skipBlank s = ',' :: t) (h : Opening c) (more : skipBlank t = c :: u)
    (named : name d (c :: u) = .ok (m', v)) :
    members d (fuel + 1) depth m w =
      (members d fuel depth m' v).map fun (ms, rest) => (member m j :: ms, rest) := by
  rw [members, read]
  simp only [next, more]
  split
  case h_1 same =>
    cases same
    exact absurd h.apart (by decide)
  case h_2 => simp only [named]

end

-- A name, the blanks and the colon after it, up to the value.
theorem name_of_spells {t : String} {k b a v : List Char} (h : Spells t.toList k) (hb : Blanks b)
    (ha : Blanks a) (opening : Opening c) :
    name d (quotationMark :: (encode k ++ quotationMark :: (b ++ ':' :: (a ++ c :: v)))) =
      .ok (⟨t, false⟩, c :: v) := by
  have colon : skipBlank (b ++ ':' :: (a ++ c :: v)) = ':' :: (a ++ c :: v) :=
    skipBlank_blanks_append hb rfl _
  have value : skipBlank (a ++ c :: v) = c :: v := skipBlank_blanks_append ha opening.notBlank v
  simp only [name, if_true, spelling_of_spells h, bind, Except.bind, colon, value]
  rfl

theorem encode_blanks_append (h : Blanks w) (s : List Char) : encode (w ++ s) = w ++ encode s := by
  rw [encode_append, encode_of_blanks h]

theorem encode_bracketed {o : Char} (ho : o.toNat < 0x80) (hc : c.toNat < 0x80) (w rest : List Char) :
    encode (o :: (w ++ [c])) ++ rest = o :: (encode w ++ c :: rest) := by
  have close : encode [c] = [c] := encode_cons_of_ascii hc []
  rw [encode_cons_of_ascii ho, encode_append, close, cons_append, append_assoc, singleton_append]

-- What follows a value may be a blank, a comma or a closing bracket.
theorem ends_blanks_append (h : Blanks w) (ends : Ends s) : Ends (w ++ s) := by
  cases w
  case nil => exact ends
  case cons b w =>
    intro c hc
    cases hc
    exact .inl (h b mem_cons_self)

-- How each part is read, with what comes after it; `n` containers may still open.
def Reads (d : Dialect) (n : Nat) (w : List Char) : Part → Prop
  | .value j => ∀ fuel depth rest, 2 * w.length ≤ fuel → n ≤ depth → Ends rest →
    value d fuel depth (encode w ++ rest) = .ok (j, rest)
  | .items js => ∀ fuel depth rest, 2 * w.length < fuel → n ≤ depth →
    items d fuel depth (skipBlank (encode w ++ ']' :: rest)) = .ok (js, rest)
  | .members ms => ∀ fuel depth rest, 2 * w.length < fuel → n ≤ depth →
    ∃ m s, name d (skipBlank (encode w ++ '\x7d' :: rest)) = .ok (m, s) ∧
      members d fuel depth m s = .ok (ms, rest)

section

variable {n longest : Nat} {a b : List Char}

theorem reads_scalar {j : Json} (head : ∃ c v, w = c :: v ∧ Scalar c) (ascii : Ascii w)
    (read : ∀ rest, Ends rest → scalar d (w ++ rest) = .ok (j, rest)) : Reads d n w (.value j) := by
  intro fuel depth rest enough _ ends
  obtain ⟨c, v, rfl, h⟩ := head
  obtain ⟨fuel, rfl⟩ := Nat.exists_eq_add_one.mpr (Nat.lt_of_lt_of_le (by simp) enough)
  rw [encode_of_ascii ascii, cons_append, value_scalar fuel depth h, ← cons_append, read rest ends]

theorem reads_word {j : Json} (text : String) (h : Scalar c) (ascii : Ascii (c :: text.toList))
    (read : ∀ s, scalar d (c :: s) = wordValue text j s) : Reads d n (c :: text.toList) (.value j) :=
  reads_scalar ⟨c, _, rfl, h⟩ ascii fun rest _ => (read _).trans (wordValue_append text j rest)

theorem reads_text {t : String} (h : Spells t.toList w) : Reads d n (marked w) (.value (.text t)) := by
  intro fuel depth rest enough _ _
  obtain ⟨fuel, rfl⟩ := Nat.exists_eq_add_one.mpr (Nat.lt_of_lt_of_le (by simp [marked]) enough)
  rw [marked, encode_bracketed (by decide) (by decide), value_mark, spelling_of_spells h]
  rfl

theorem skipBlank_encode (hb : Blanks b) (h : Opening c) (v s : List Char) :
    skipBlank (encode (b ++ c :: v) ++ s) = c :: (encode v ++ s) := by
  rw [encode_blanks_append hb, encode_cons_of_ascii h.ascii, append_assoc, cons_append,
    skipBlank_blanks_append hb h.notBlank]

theorem opening_mark : Opening quotationMark := ⟨by decide, by decide⟩

theorem reads_emptyList (h : Blanks b) : Reads d n ('[' :: (b ++ [']'])) (.value (.list [])) := by
  intro fuel depth rest enough _ _
  obtain ⟨fuel, rfl⟩ := Nat.exists_eq_add_one.mpr (Nat.lt_of_lt_of_le (by simp) enough)
  rw [encode_bracketed (by decide) (by decide), encode_of_blanks h, value_emptyList fuel depth h]

theorem reads_list {js : List Json} (h : Writes longest n (.items js) w) (read : Reads d n w (.items js)) :
    Reads d (n + 1) ('[' :: (w ++ [']'])) (.value (.list js)) := by
  intro fuel depth rest enough deep _
  rw [length_cons, length_append, length_singleton] at enough
  obtain ⟨fuel, rfl⟩ := Nat.exists_eq_add_one.mpr (show 0 < fuel by omega)
  obtain ⟨depth, rfl⟩ := Nat.exists_eq_add_one.mpr (Nat.zero_lt_of_lt deep)
  have items := read fuel depth rest (by omega) (Nat.le_of_succ_le_succ deep)
  obtain ⟨b, c, v, hb, rfl, opening⟩ := h.items_head
  have next := skipBlank_encode hb opening v (']' :: rest)
  rw [next] at items
  rw [encode_bracketed (by decide) (by decide), value_list fuel depth opening next, items]
  rfl

theorem reads_emptyObject (h : Blanks b) :
    Reads d n ('\x7b' :: (b ++ ['\x7d'])) (.value (.object [])) := by
  intro fuel depth rest enough _ _
  obtain ⟨fuel, rfl⟩ := Nat.exists_eq_add_one.mpr (Nat.lt_of_lt_of_le (by simp) enough)
  rw [encode_bracketed (by decide) (by decide), encode_of_blanks h, value_emptyObject fuel depth h]

theorem reads_object {ms : Members} (h : Writes longest n (.members ms) w)
    (read : Reads d n w (.members ms)) :
    Reads d (n + 1) ('\x7b' :: (w ++ ['\x7d'])) (.value (.object ms)) := by
  intro fuel depth rest enough deep _
  rw [length_cons, length_append, length_singleton] at enough
  obtain ⟨fuel, rfl⟩ := Nat.exists_eq_add_one.mpr (show 0 < fuel by omega)
  obtain ⟨depth, rfl⟩ := Nat.exists_eq_add_one.mpr (Nat.zero_lt_of_lt deep)
  obtain ⟨m, s, named, members⟩ := read fuel depth rest (by omega) (Nat.le_of_succ_le_succ deep)
  obtain ⟨b, v, hb, rfl⟩ := h.members_head
  have next := skipBlank_encode hb opening_mark v ('\x7d' :: rest)
  rw [next] at named
  rw [encode_bracketed (by decide) (by decide), value_object fuel depth opening_mark next named, members]
  rfl

-- Blanks before a value are passed over, and no more.
theorem skipBlank_value {j : Json} (ha : Blanks a) (h : Writes longest n (.value j) w) (s : List Char) :
    skipBlank (a ++ (encode w ++ s)) = encode w ++ s := by
  obtain ⟨c, v, rfl, opening⟩ := h.value_head
  rw [encode_cons_of_ascii opening.ascii, cons_append, skipBlank_blanks_append ha opening.notBlank]

theorem encode_framed (ha : Blanks a) (hb : Blanks b) (w s : List Char) :
    encode (a ++ w ++ b) ++ s = a ++ (encode w ++ (b ++ s)) := by
  simp only [encode_append, encode_of_blanks ha, encode_of_blanks hb, append_assoc]

theorem encode_comma (w v s : List Char) :
    encode (w ++ ',' :: v) ++ s = encode w ++ ',' :: (encode v ++ s) := by
  rw [encode_append, encode_cons_of_ascii (by decide), append_assoc, cons_append]

theorem ends_comma (s : List Char) : Ends (',' :: s) := by
  rintro c ⟨⟩
  exact .inr (.inl rfl)

theorem ends_bracket (s : List Char) : Ends (']' :: s) := by
  rintro c ⟨⟩
  exact .inr (.inr (.inl rfl))

theorem ends_brace (s : List Char) : Ends ('\x7d' :: s) := by
  rintro c ⟨⟩
  exact .inr (.inr (.inr rfl))

theorem reads_lastItem {j : Json} (ha : Blanks a) (hb : Blanks b) (h : Writes longest n (.value j) w)
    (read : Reads d n w (.value j)) : Reads d n (a ++ w ++ b) (.items [j]) := by
  intro fuel depth rest enough deep
  simp only [length_append] at enough
  obtain ⟨fuel, rfl⟩ := Nat.exists_eq_add_one.mpr (Nat.zero_lt_of_lt enough)
  have value := read fuel depth _ (by omega) deep (ends_blanks_append hb (ends_bracket rest))
  rw [encode_framed ha hb, skipBlank_value ha h]
  exact items_last fuel depth value (skipBlank_blanks_append hb rfl rest)

theorem reads_item {j : Json} {js : List Json} {v : List Char} (ha : Blanks a) (hb : Blanks b)
    (h : Writes longest n (.value j) w) (more : Writes longest n (.items js) v)
    (read : Reads d n w (.value j)) (readMore : Reads d n v (.items js)) :
    Reads d n (a ++ w ++ b ++ ',' :: v) (.items (j :: js)) := by
  intro fuel depth rest enough deep
  simp only [length_append, length_cons] at enough
  obtain ⟨fuel, rfl⟩ := Nat.exists_eq_add_one.mpr (Nat.zero_lt_of_lt enough)
  have value := read fuel depth _ (by omega) deep
    (ends_blanks_append hb (ends_comma (encode v ++ ']' :: rest)))
  have items := readMore fuel depth rest (by omega) deep
  obtain ⟨b', c, u, hb', rfl, opening⟩ := more.items_head
  have next := skipBlank_encode hb' opening u (']' :: rest)
  rw [next] at items
  rw [encode_comma, encode_framed ha hb, skipBlank_value ha h,
    items_cons fuel depth value (skipBlank_blanks_append hb rfl _) opening next, items]
  rfl

-- The name of a member, from the mark before it up to the value.
theorem name_member {t : String} {j : Json} {k : List Char} (hk : Spells t.toList k) (hb : Blanks b)
    (ha : Blanks a) (h : Writes longest n (.value j) w) (s : List Char) :
    name d (quotationMark :: (encode k ++ quotationMark :: (b ++ ':' :: (a ++ (encode w ++ s))))) =
      .ok (⟨t, false⟩, encode w ++ s) := by
  obtain ⟨c, v, rfl, opening⟩ := h.value_head
  rw [encode_cons_of_ascii opening.ascii, cons_append]
  exact name_of_spells hk hb ha opening

theorem skipBlank_member {k t : List Char} (ha : Blanks a) (hb : Blanks b) (s : List Char) :
    skipBlank (encode (a ++ marked k ++ b ++ ':' :: t) ++ s) =
      quotationMark :: (encode k ++ quotationMark :: (b ++ ':' :: (encode t ++ s))) := by
  have colon : encode (':' :: t) = ':' :: encode t := encode_cons_of_ascii (by decide) t
  have front : encode (a ++ marked k ++ b ++ ':' :: t) ++ s =
      a ++ quotationMark :: (encode k ++ quotationMark :: (b ++ ':' :: (encode t ++ s))) := by
    rw [encode_append, append_assoc, encode_framed ha hb, colon, marked,
      encode_bracketed (by decide) (by decide)]
    rfl
  rw [front, skipBlank_blanks_append ha rfl]

theorem reads_lastMember {t : String} {j : Json} {a' b' k : List Char} (ha : Blanks a) (hb : Blanks b)
    (ha' : Blanks a') (hb' : Blanks b') (hk : Spells t.toList k) (h : Writes longest n (.value j) w)
    (read : Reads d n w (.value j)) :
    Reads d n (a ++ marked k ++ b ++ ':' :: (a' ++ w ++ b')) (.members [(t, j)]) := by
  intro fuel depth rest enough deep
  simp only [length_append, length_cons] at enough
  obtain ⟨fuel, rfl⟩ := Nat.exists_eq_add_one.mpr (Nat.zero_lt_of_lt enough)
  have value := read fuel depth _ (by omega) deep (ends_blanks_append hb' (ends_brace rest))
  rw [skipBlank_member ha hb, encode_framed ha' hb']
  exact ⟨_, _, name_member hk hb ha' h _,
    members_last fuel depth value (skipBlank_blanks_append hb' rfl rest)⟩

theorem reads_member {t : String} {j : Json} {ms : Members} {a' b' k v : List Char} (ha : Blanks a)
    (hb : Blanks b) (ha' : Blanks a') (hb' : Blanks b') (hk : Spells t.toList k)
    (h : Writes longest n (.value j) w) (more : Writes longest n (.members ms) v)
    (read : Reads d n w (.value j)) (readMore : Reads d n v (.members ms)) :
    Reads d n (a ++ marked k ++ b ++ ':' :: (a' ++ w ++ b' ++ ',' :: v)) (.members ((t, j) :: ms)) := by
  intro fuel depth rest enough deep
  simp only [length_append, length_cons] at enough
  obtain ⟨fuel, rfl⟩ := Nat.exists_eq_add_one.mpr (Nat.zero_lt_of_lt enough)
  have value := read fuel depth _ (by omega) deep
    (ends_blanks_append hb' (ends_comma (encode v ++ '\x7d' :: rest)))
  obtain ⟨m, s, named, members⟩ := readMore fuel depth rest (by omega) deep
  obtain ⟨g, u, hg, rfl⟩ := more.members_head
  have next := skipBlank_encode hg opening_mark u ('\x7d' :: rest)
  rw [next] at named
  rw [skipBlank_member ha hb, encode_comma, encode_framed ha' hb']
  refine ⟨_, _, name_member hk hb ha' h _, ?_⟩
  rw [members_cons fuel depth value (skipBlank_blanks_append hb' rfl _) opening_mark next named, members]
  rfl

end

-- Every part that is written is read as what it stands for.
theorem reads_of_writes {longest n : Nat} {part : Part} (h : Writes longest n part w)
    (fits : longest ≤ d.longestNumeral) : Reads d n w part := by
  induction h
  case null n =>
    exact reads_word (c := 'n') "ull" ⟨⟨by decide, by decide⟩, by decide⟩ (by decide) fun _ => rfl
  case true n =>
    exact reads_word (c := 't') "rue" ⟨⟨by decide, by decide⟩, by decide⟩ (by decide) fun _ => rfl
  case false n =>
    exact reads_word (c := 'f') "alse" ⟨⟨by decide, by decide⟩, by decide⟩ (by decide) fun _ => rfl
  case number n x w h =>
    exact reads_scalar h.head h.ascii fun rest ends => scalar_of_numeral h fits ends.stops
  case text n s w h => exact reads_text h
  case emptyList n b hb => exact reads_emptyList hb
  case list n js w h hi => exact reads_list h hi
  case emptyObject n b hb => exact reads_emptyObject hb
  case object n ms w h hi => exact reads_object h hi
  case lastItem n j a b w ha hb h hi => exact reads_lastItem ha hb h hi
  case item n j js a b w v ha hb h rest hi hiRest => exact reads_item ha hb h rest hi hiRest
  case lastMember n name j a b c d k w ha hb hc hd hk h hi => exact reads_lastMember ha hb hc hd hk h hi
  case member n name j ms a b c d k w v ha hb hc hd hk h rest hi hiRest =>
    exact reads_member ha hb hc hd hk h rest hi hiRest

-- A document, with blanks around it.
theorem readText_of_writes {t : String} {a b w : List Char} {longest n : Nat} {j : Json}
    (written : t.toList = a ++ w ++ b) (ha : Blanks a) (hb : Blanks b)
    (h : Writes longest n (.value j) w) (fits : longest ≤ d.longestNumeral) (deep : n ≤ d.depth) :
    readText d t = .ok j := by
  have octets : Text.Utf8.octets t.toUTF8 = a ++ (encode w ++ b) := by
    rw [Text.Utf8.octets_toUTF8, written, ← append_nil (encode _), encode_framed ha hb, append_nil]
  have enough : 2 * w.length ≤ 2 * (a ++ (encode w ++ b)).length + 2 := by
    have := Text.Utf8.length_le_encode w
    simp only [length_append]
    omega
  have ends : Ends b := by
    rw [← append_nil b]
    exact ends_blanks_append hb nofun
  have value : value d _ d.depth (encode w ++ b) = .ok (j, b) :=
    reads_of_writes h fits _ d.depth b enough deep ends
  have front : skipBlank (a ++ (encode w ++ b)) = encode w ++ b := skipBlank_value ha h b
  have back : skipBlank b = [] := by
    rw [← append_nil b, skipBlank_append hb]
    rfl
  rw [readText, octets, read, front, value]
  simp only [bind, Except.bind, back]
  rfl

end RefWatch.Json
