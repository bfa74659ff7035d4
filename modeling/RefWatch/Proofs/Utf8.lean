import RefWatch.Text.Utf8

namespace RefWatch.Text.Utf8

open List

variable {c : Char} {cs : List Char}

theorem toNat_lt (c : Char) : c.toNat < 0x110000 := by
  rcases c.valid with h | ⟨_, h⟩
  case inl => exact Nat.lt_trans h (by decide)
  case inr => exact h

theorem octet_ofNat {m n : Nat} (h : m < 0x100) (same : m = n) :
    octet (UInt8.ofNat m).toNat = octet n := by
  rw [UInt8.toNat_ofNat_of_lt' h, same]

theorem map_octet_utf8EncodeChar (c : Char) :
    (String.utf8EncodeChar c).map (octet ·.toNat) = encodeNat c.toNat := by
  have bound : c.val.toNat < 0x110000 := toNat_lt c
  have same : c.toNat = c.val.toNat := rfl
  rw [same]
  unfold String.utf8EncodeChar encodeNat
  simp only [Nat.lt_succ_iff]
  -- One case for each number of octets.
  split
  case isTrue => exact congrArg (List.cons · []) (octet_ofNat (by omega) rfl)
  case isFalse =>
    split
    case isTrue =>
      simp only [map_cons, map_nil, cons.injEq, and_true]
      exact ⟨octet_ofNat (by omega) (by omega), octet_ofNat (by omega) (by omega)⟩
    case isFalse =>
      split
      case isTrue =>
        simp only [map_cons, map_nil, cons.injEq, and_true]
        exact ⟨octet_ofNat (by omega) (by omega), octet_ofNat (by omega) (by omega),
          octet_ofNat (by omega) (by omega)⟩
      case isFalse =>
        simp only [map_cons, map_nil, cons.injEq, and_true]
        exact ⟨octet_ofNat (by omega) (by omega), octet_ofNat (by omega) (by omega),
          octet_ofNat (by omega) (by omega), octet_ofNat (by omega) (by omega)⟩

theorem octets_toUTF8 (s : String) : octets s.toUTF8 = encode s.toList := by
  have bytes : s.toUTF8 = s.toList.utf8Encode := by
    rw [← String.toByteArray_ofList, String.ofList_toList]
    rfl
  have data : s.toList.utf8Encode.data.toList = s.toList.flatMap String.utf8EncodeChar := by
    rw [utf8Encode, data_toByteArray]
  rw [bytes, octets, data, map_flatMap, encode]
  simp only [map_octet_utf8EncodeChar]

theorem encode_append (cs ds : List Char) : encode (cs ++ ds) = encode cs ++ encode ds :=
  flatMap_append

theorem encode_cons (c : Char) (cs : List Char) : encode (c :: cs) = encodeNat c.toNat ++ encode cs := rfl

theorem encodeNat_of_ascii (h : c.toNat < 0x80) : encodeNat c.toNat = [c] := by
  rw [encodeNat, if_pos h, octet, Char.ofNat_toNat]

theorem encode_of_ascii (h : ∀ c ∈ cs, c.toNat < 0x80) : encode cs = cs := by
  induction cs
  case nil => rfl
  case cons c cs hi =>
    have ⟨first, rest⟩ := forall_mem_cons.mp h
    rw [encode_cons, encodeNat_of_ascii first, hi rest, singleton_append]

theorem le_toNat_octet {n : Nat} (low : 0x80 ≤ n) (high : n < 0xD800) : 0x80 ≤ (octet n).toNat := by
  rw [octet_toNat high]
  exact low

theorem le_toNat_of_mem_encodeNat (h : 0x80 ≤ c.toNat) : ∀ o ∈ encodeNat c.toNat, 0x80 ≤ o.toNat := by
  have bound := toNat_lt c
  rw [encodeNat, if_neg (Nat.not_lt.mpr h)]
  split
  case isTrue =>
    simp only [forall_mem_cons]
    exact ⟨le_toNat_octet (by omega) (by omega), le_toNat_octet (by omega) (by omega), nofun⟩
  case isFalse =>
    split
    case isTrue =>
      simp only [forall_mem_cons]
      exact ⟨le_toNat_octet (by omega) (by omega), le_toNat_octet (by omega) (by omega),
        le_toNat_octet (by omega) (by omega), nofun⟩
    case isFalse =>
      simp only [forall_mem_cons]
      exact ⟨le_toNat_octet (by omega) (by omega), le_toNat_octet (by omega) (by omega),
        le_toNat_octet (by omega) (by omega), le_toNat_octet (by omega) (by omega), nofun⟩

theorem length_encodeNat_pos (n : Nat) : 0 < (encodeNat n).length := by
  unfold encodeNat
  repeat' split
  all_goals exact Nat.succ_pos _

theorem length_le_encode (cs : List Char) : cs.length ≤ (encode cs).length := by
  induction cs
  case nil => exact Nat.le_refl 0
  case cons c cs hi =>
    have := length_encodeNat_pos c.toNat
    rw [encode_cons, length_append, length_cons]
    omega

theorem decodeFrom_encode {fuel : Nat} (done : List Char) (h : cs.length ≤ fuel) :
    decodeFrom fuel done (encode cs) = (done.reverse ++ cs, []) := by
  induction cs generalizing fuel done
  case nil =>
    cases fuel
    case zero => simp [decodeFrom, encode]
    case succ fuel => simp [decodeFrom, encode, first?]
  case cons c cs hi =>
    obtain ⟨fuel, rfl⟩ : ∃ n, fuel = n + 1 := Nat.exists_eq_add_one.mpr (Nat.lt_of_lt_of_le (Nat.succ_pos _) h)
    have first : first? (encodeNat c.toNat ++ encode cs) = some (c, encode cs) := by
      rw [first?_encodeNat (n := c.toNat) c.valid, Char.ofNat_toNat]
    simp only [decodeFrom, encode_cons, first]
    rw [hi (c :: done) (Nat.le_of_succ_le_succ h), reverse_cons, append_assoc, singleton_append]

theorem decode_encode (cs : List Char) : decode (encode cs) = (cs, []) :=
  decodeFrom_encode [] (length_le_encode cs)

end RefWatch.Text.Utf8
