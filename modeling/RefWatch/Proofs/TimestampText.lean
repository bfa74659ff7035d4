import Mathlib.Data.List.Basic
import Mathlib.Data.Nat.Digits.Defs
import RefWatch.Proofs.Calendar
import RefWatch.Timestamp.Reader

namespace RefWatch

open List

namespace Text

variable {n w : Nat} {c : Char} {s : List Char}

theorem natOfDigits_eq_ofDigitChars (h : ∀ c ∈ s, isAsciiDigit c) :
    natOfDigits s = Nat.ofDigitChars 10 s 0 := by
  rw [natOfDigits, Nat.ofDigitChars_eq_foldl]
  refine foldl_ext _ _ 0 fun n c hc => ?_
  rw [digitValue, decimalValue?, if_pos (h c hc)]
  rfl

theorem isAsciiDigit_of_isDigit (h : c.isDigit) : isAsciiDigit c := by
  simpa [Char.isDigit, isAsciiDigit, Char.le_def] using h

end Text

namespace Timestamp

open Text

variable {n w : Nat} {c : Char} {s : List Char} {t : Timestamp} {o : Option Int}

theorem toList_padded (w n : Nat) : (padded w n).toList =
    replicate (w - (Nat.toDigits 10 n).length) '0' ++ Nat.toDigits 10 n := by
  rw [padded, String.toList_append, String.toList_ofList, Nat.toString_eq_ofList_toDigits,
    String.toList_ofList, String.length_ofList]

theorem isAsciiDigit_of_mem_padded (h : c ∈ (padded w n).toList) : isAsciiDigit c := by
  rw [toList_padded, mem_append] at h
  rcases h with zero | digit
  · rw [eq_of_mem_replicate zero]
    rfl
  · exact isAsciiDigit_of_isDigit (Nat.isDigit_of_mem_toDigits (by decide) (by decide) digit)

theorem natOfDigits_padded (w n : Nat) : natOfDigits (padded w n).toList = n := by
  rw [natOfDigits_eq_ofDigitChars fun _ => isAsciiDigit_of_mem_padded, toList_padded,
    Nat.ofDigitChars_append, Nat.ofDigitChars_replicate_zero, Nat.mul_zero, Nat.ofDigitChars_ten_toDigits]

theorem length_padded (hw : 0 < w) (hn : n < 10 ^ w) : (padded w n).toList.length = w := by
  have fits := (Nat.length_toDigits_le_iff (by decide) hw).mpr hn
  rw [toList_padded, length_append, length_replicate]
  omega

theorem digits?_padded (hw : 0 < w) (hn : n < 10 ^ w) (s : List Char) :
    digits? w ((padded w n).toList ++ s) = some (n, s) := by
  have size := length_padded hw hn
  have front : ((padded w n).toList ++ s).take w = (padded w n).toList := take_left' size
  have digits : (padded w n).toList.all isAsciiDigit := all_eq_true.mpr fun _ => isAsciiDigit_of_mem_padded
  rw [digits?, front, drop_left' size, natOfDigits_padded, size, digits]
  simp

def dateChars (t : Timestamp) : List Char :=
  (padded 4 t.year).toList ++ '-' :: ((padded 2 t.month).toList ++ '-' :: (padded 2 t.day).toList)

def secondChars (t : Timestamp) : List Char :=
  ':' :: ((padded 2 t.second).toList ++ (fractionText t.micros).toList)

def zoneChars (offset : Option Int) : List Char := ((offset.map offsetText).getD "").toList

theorem toList_text (t : Timestamp) :
    t.text.toList =
      dateChars t ++ 'T' :: ((padded 2 t.hour).toList ++ ':' :: ((padded 2 t.minute).toList ++
        (secondChars t ++ zoneChars t.offset))) := by
  simp [text, dateChars, secondChars, zoneChars]

-- An offset, if there is one, that a clock without seconds can show.
def WholeMinutes (offset : Option Int) : Prop := ∀ o ∈ offset, microsPerMinute ∣ o

instance (offset : Option Int) : Decidable (WholeMinutes offset) :=
  inferInstanceAs (Decidable (∀ o ∈ offset, microsPerMinute ∣ o))

theorem length_dateChars (h : t.Valid) : t.dateChars.length = 10 := by
  have year : t.year < 10 ^ 4 := by have := h.year; omega
  have month : t.month < 10 ^ 2 := by have := h.month; omega
  have day : t.day < 10 ^ 2 := by have := h.day; have := daysIn_le t.year t.month; omega
  simp only [dateChars, length_append, length_cons, length_padded (by decide) year,
    length_padded (by decide) month, length_padded (by decide) day]

theorem length_le_utf8ByteSize (s : List Char) : s.length ≤ (String.ofList s).utf8ByteSize := by
  induction s
  case nil => exact Nat.zero_le _
  case cons c cs hi =>
    have size := c.utf8Size_pos
    rw [length_cons, String.ofList_cons, String.utf8ByteSize_append, String.utf8ByteSize_singleton]
    omega

theorem readDate_dateChars (h : t.Valid) (s : List Char) :
    readDate (dateChars t ++ s) = .ok ({ year := t.year, month := t.month, day := t.day }, s) := by
  have ⟨first, last⟩ := h.month
  have ⟨first', last'⟩ := h.day
  have days := daysIn_le t.year t.month
  have long : ¬(String.ofList (dateChars t ++ s)).utf8ByteSize < 10 := by
    have size := length_le_utf8ByteSize (dateChars t ++ s)
    rw [length_append, length_dateChars h] at size
    omega
  have year (r : List Char) : digits? 4 ((padded 4 t.year).toList ++ r) = some (t.year, r) :=
    digits?_padded (by decide) (by have := h.year; omega) r
  have month (r : List Char) : digits? 2 ((padded 2 t.month).toList ++ r) = some (t.month, r) :=
    digits?_padded (by decide) (by omega) r
  have day (r : List Char) : digits? 2 ((padded 2 t.day).toList ++ r) = some (t.day, r) :=
    digits?_padded (by decide) (by omega) r
  have inYear : (decide (t.month < 1) || decide (t.month > 12)) = false := by
    simp only [Bool.or_eq_false_iff, decide_eq_false_iff_not]
    omega
  have inMonth : (decide (t.day < 1) || decide (t.day > daysIn t.year t.month)) = false := by
    simp only [Bool.or_eq_false_iff, decide_eq_false_iff_not]
    omega
  rw [readDate, if_neg long]
  simp only [dateChars, append_assoc, cons_append, year, month, day, orElse, dash, bind, Except.bind,
    pure, Except.pure, inYear, inMonth, Bool.false_eq_true, if_false]

theorem toList_fractionText (h : n ≠ 0) : (fractionText n).toList = '.' :: (padded 6 n).toList := by
  rw [fractionText, if_neg h, String.toList_append]
  rfl

-- What may follow a time of day: nothing, or the sign of an offset.
def EndsClock (s : List Char) : Prop := ∀ c ∈ s.head?, c = '+' ∨ c = '-'

theorem zoneChars_some (o : Int) : zoneChars (some o) =
    (if o < 0 then '-' else '+') :: ((padded 2 (o.natAbs / 3600000000)).toList ++
      ':' :: ((padded 2 (o.natAbs / 60000000 % 60)).toList ++
        if o.natAbs % 60000000 = 0 then [] else
          ':' :: ((padded 2 (o.natAbs / 1000000 % 60)).toList ++
            (fractionText (o.natAbs % 1000000)).toList))) := by
  simp only [zoneChars, Option.map_some, Option.getD_some, offsetText]
  split_ifs <;> simp

theorem endsClock_zoneChars (o : Option Int) : EndsClock (zoneChars o) := by
  cases o
  case none => simp [EndsClock, zoneChars]
  case some o =>
    rw [zoneChars_some]
    split_ifs <;> simp [EndsClock]

theorem seconds?_secondChars (h : t.Valid) (ends : EndsClock s) :
    seconds? (secondChars t ++ s) = some (t.second, t.micros, s) := by
  have second (r : List Char) : digits? 2 ((padded 2 t.second).toList ++ r) = some (t.second, r) :=
    digits?_padded (by decide) (by have := h.second; omega) r
  have early : ¬t.second > 59 := by have := h.second; omega
  simp only [secondChars, cons_append, append_assoc, seconds?, second, bind, Option.bind, if_neg early]
  by_cases whole : t.micros = 0
  case pos =>
    rw [fractionText, if_pos whole, whole, String.toList_empty, nil_append]
    cases s
    case nil => rfl
    case cons c s =>
      have sign : c = '+' ∨ c = '-' := ends c rfl
      rcases sign with rfl | rfl <;> rfl
  case neg =>
    have fits : t.micros < 10 ^ 6 := by have := h.micros; omega
    have size := length_padded (by decide) fits
    have stop : s.takeWhile isAsciiDigit = [] ∧ s.dropWhile isAsciiDigit = s := by
      cases s
      case nil => exact ⟨rfl, rfl⟩
      case cons c s =>
        have sign : c = '+' ∨ c = '-' := ends c rfl
        rcases sign with rfl | rfl <;> exact ⟨rfl, rfl⟩
    have digits : ∀ c ∈ (padded 6 t.micros).toList, isAsciiDigit c := fun _ => isAsciiDigit_of_mem_padded
    have front : ((padded 6 t.micros).toList ++ s).takeWhile isAsciiDigit = (padded 6 t.micros).toList := by
      rw [takeWhile_append_of_pos digits, stop.left, append_nil]
    have back : ((padded 6 t.micros).toList ++ s).dropWhile isAsciiDigit = s := by
      rw [dropWhile_append_of_pos digits, stop.right]
    have six : ((padded 6 t.micros).toList ++ replicate 6 '0').take 6 = (padded 6 t.micros).toList :=
      take_left' size
    simp only [toList_fractionText whole, cons_append, front, back]
    have value := natOfDigits_padded 6 t.micros
    cases ds : (padded 6 t.micros).toList
    case nil => simp [ds] at size
    case cons d ds' =>
      rw [ds] at six value
      simp only [six, value]
      rfl

theorem signedOffset?_minutes (negative : Bool) {m : Nat} (hm : m < 1440) (tail : List Char) :
    signedOffset? negative
        ((padded 2 (m / 60)).toList ++ ':' :: ((padded 2 (m % 60)).toList ++ tail)) =
      if tail = [] then some ((if negative then -(m : Int) else m) * microsPerMinute) else none := by
  have hours (r : List Char) : digits? 2 ((padded 2 (m / 60)).toList ++ r) = some (m / 60, r) :=
    digits?_padded (by decide) (by omega) r
  have minutes (r : List Char) : digits? 2 ((padded 2 (m % 60)).toList ++ r) = some (m % 60, r) :=
    digits?_padded (by decide) (by omega) r
  have total : ((m / 60 : Nat) : Int) * 60 + ((m % 60 : Nat) : Int) = m := by omega
  have inHour : ¬m % 60 > 59 := by omega
  have inDay : ¬(m : Int) ≥ 1440 := by omega
  simp only [signedOffset?, hours, head?_cons, drop_succ_cons, drop_zero, if_true, minutes, total, bind,
    Option.bind, inHour, inDay, decide_false, Bool.false_or]
  by_cases tail = [] <;> simp_all

theorem offset?_signed (s : List Char) : offset? ('+' :: s) = (signedOffset? false s).map some ∧
    offset? ('-' :: s) = (signedOffset? true s).map some := by
  cases s <;> exact ⟨rfl, rfl⟩

theorem wholeMinutes_some {o : Int} : WholeMinutes (some o) ↔ o.natAbs % 60000000 = 0 := by
  simp only [WholeMinutes, Option.mem_def, Option.some.injEq, forall_eq', microsPerMinute]
  omega

theorem offset?_zoneChars (h : ∀ p ∈ o, p.natAbs < microsPerDay) :
    offset? (zoneChars o) = if WholeMinutes o then some o else none := by
  cases o
  case none => simp [offset?, zoneChars, WholeMinutes]
  case some o =>
    have bound : o.natAbs < 86400000000 := h o rfl
    have hm : o.natAbs / 60000000 < 1440 := by omega
    have hours : o.natAbs / 3600000000 = o.natAbs / 60000000 / 60 := by omega
    have sign : offset? (zoneChars (some o)) =
        (signedOffset? (o < 0) (zoneChars (some o)).tail).map some := by
      rw [zoneChars_some]
      by_cases west : o < 0 <;> simp [west, offset?_signed]
    rw [sign, zoneChars_some, tail_cons, hours, signedOffset?_minutes _ hm]
    simp only [wholeMinutes_some, decide_eq_true_eq]
    by_cases whole : o.natAbs % 60000000 = 0
    case pos =>
      have value : (if o < 0 then -((o.natAbs / 60000000 : Nat) : Int) else (o.natAbs / 60000000 : Nat)) *
          microsPerMinute = o := by
        rw [microsPerMinute]
        split_ifs <;> omega
      rw [if_pos whole, if_pos rfl, if_pos whole, value]
      rfl
    case neg => simp [whole]

theorem clock?_of_valid (h : t.Valid) (date : Timestamp) :
    clock? date ((padded 2 t.hour).toList ++ ':' :: ((padded 2 t.minute).toList ++
        (secondChars t ++ zoneChars t.offset))) =
      if WholeMinutes t.offset then
        some { t with year := date.year, month := date.month, day := date.day }
      else none := by
  have hour (r : List Char) : digits? 2 ((padded 2 t.hour).toList ++ r) = some (t.hour, r) :=
    digits?_padded (by decide) (by have := h.hour; omega) r
  have minute (r : List Char) : digits? 2 ((padded 2 t.minute).toList ++ r) = some (t.minute, r) :=
    digits?_padded (by decide) (by have := h.minute; omega) r
  have inDay : (decide (t.hour > 23) || decide (t.minute > 59)) = false := by
    have := h.hour
    have := h.minute
    simp only [Bool.or_eq_false_iff, decide_eq_false_iff_not]
    omega
  simp only [clock?, hour, minute, head?_cons, drop_succ_cons, drop_zero, if_true, bind, Option.bind,
    seconds?_secondChars h (endsClock_zoneChars t.offset), offset?_zoneChars h.offset]
  by_cases whole : WholeMinutes t.offset
  case pos => simp only [if_pos whole, inDay, Bool.false_eq_true, if_false]
  case neg => simp only [if_neg whole]

theorem full?_text (h : t.Valid) : full? t.text.toList = if WholeMinutes t.offset then some t else none := by
  rw [full?, toList_text, readDate_dateChars h]
  simp only [clock?_of_valid h]
  rfl

-- A text that begins with a date is no number.
theorem numberOfText?_dateChars (h : t.Valid) (s : List Char) : numberOfText? (dateChars t ++ s) = none := by
  have digits : ∀ c ∈ (padded 4 t.year).toList, isAsciiDigit c := fun _ => isAsciiDigit_of_mem_padded
  have size : (padded 4 t.year).toList.length = 4 := length_padded (by decide) (by have := h.year; omega)
  have unsigned : ∀ c ∈ (dateChars t ++ s).head?, isAsciiDigit c := by
    intro c hc
    rw [dateChars, append_assoc, head?_append_of_ne_nil _ (ne_nil_of_length_pos (by omega))] at hc
    exact digits c (mem_of_head? hc)
  have rest : (dateChars t ++ s).dropWhile isAsciiDigit =
      '-' :: ((padded 2 t.month).toList ++ '-' :: (padded 2 t.day).toList ++ s) := by
    rw [dateChars, append_assoc, dropWhile_append_of_pos digits]
    rfl
  unfold numberOfText?
  split
  case h_1 signed =>
    split at signed
    case h_1 minus => exact absurd (unsigned '-' (minus ▸ rfl)) (by decide)
    case h_2 plus => exact absurd (unsigned '+' (plus ▸ rfl)) (by decide)
    case h_3 =>
      cases signed
      simp only [rest]
      rfl

theorem ofText_text (h : t.Valid) : ofText t.text.toList =
    if WholeMinutes t.offset then .ok t else .error .tooLong := by
  rw [ofText, full?_text h]
  split_ifs
  case pos => rfl
  case neg =>
    simp only [toList_text, numberOfText?_dateChars h, dateOnly, readDate_dateChars h]
    rfl

theorem ofJson_text (h : t.Valid) : ofJson (.text t.text) =
    if WholeMinutes t.offset then .ok t else .error (.noDate .tooLong) := by
  have year : t.year ≠ 0 := by have := h.year; omega
  simp only [ofJson, ofNumberOrText, ofText_text h]
  split_ifs
  case pos => simp [Except.mapError, bind, Except.bind, year, pure, Except.pure]
  case neg => rfl

end Timestamp

end RefWatch
