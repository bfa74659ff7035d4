namespace RefWatch.Text.Utf8

-- An octet stands here as the character with its number, so that readers of ASCII forms read both.
def octet (n : Nat) : Char := Char.ofNat n

def octets (b : ByteArray) : List Char := b.data.toList.map fun x => octet x.toNat

-- The octets of a code point; half of a surrogate pair has some too, though no reader takes them.
def encodeNat (n : Nat) : List Char :=
  if n < 0x80 then [octet n]
  else if n < 0x800 then [octet (0xC0 + n / 0x40), octet (0x80 + n % 0x40)]
  else if n < 0x10000 then
    [octet (0xE0 + n / 0x1000), octet (0x80 + n / 0x40 % 0x40), octet (0x80 + n % 0x40)]
  else
    [octet (0xF0 + n / 0x40000), octet (0x80 + n / 0x1000 % 0x40), octet (0x80 + n / 0x40 % 0x40),
      octet (0x80 + n % 0x40)]

def encode (s : List Char) : List Char := s.flatMap fun c => encodeNat c.toNat

-- What an octet within a character adds to it.
def tail? (c : Char) : Option Nat :=
  if 0x80 ≤ c.toNat && c.toNat < 0xC0 then some (c.toNat - 0x80) else none

-- A code point that could not have been written shorter, and is a character.
def atLeast (least n : Nat) : Option Char :=
  if least ≤ n && n.isValidChar then some (Char.ofNat n) else none

-- The first character of some octets, and the octets after it.
def first? : List Char → Option (Char × List Char)
  | [] => none
  | a :: s =>
    if a.toNat < 0x80 then some (a, s)
    else if a.toNat < 0xC0 then none
    else if a.toNat < 0xE0 then
      match s with
      | b :: s => do
        let b ← tail? b
        let c ← atLeast 0x80 ((a.toNat - 0xC0) * 0x40 + b)
        return (c, s)
      | _ => none
    else if a.toNat < 0xF0 then
      match s with
      | b :: c :: s => do
        let b ← tail? b
        let c ← tail? c
        let c ← atLeast 0x800 (((a.toNat - 0xE0) * 0x40 + b) * 0x40 + c)
        return (c, s)
      | _ => none
    else
      match s with
      | b :: c :: d :: s => do
        let b ← tail? b
        let c ← tail? c
        let d ← tail? d
        let c ← atLeast 0x10000 ((((a.toNat - 0xF0) * 0x40 + b) * 0x40 + c) * 0x40 + d)
        return (c, s)
      | _ => none

def decodeFrom : (fuel : Nat) → List Char → List Char → List Char × List Char
  | 0, done, s => (done.reverse, s)
  | fuel + 1, done, s =>
    match first? s with
    | some (c, s) => decodeFrom fuel (c :: done) s
    | none => (done.reverse, s)

-- The characters that some octets begin with, and the octets from the first that fits none.
def decode (s : List Char) : List Char × List Char := decodeFrom s.length [] s

def replacement : Char := Char.ofNat 0xFFFD

def repairFrom : (fuel : Nat) → List Char → List Char
  | 0, _ => []
  | fuel + 1, s =>
    match first? s, s with
    | some (c, s), _ => c :: repairFrom fuel s
    | none, _ :: s => replacement :: repairFrom fuel s
    | none, [] => []

-- The characters of some octets, with a mark for each octet that fits none.
def repair (s : List Char) : List Char := repairFrom s.length s

theorem octet_toNat {n : Nat} (h : n < 0xD800) : (octet n).toNat = n := by
  have : n.isValidChar := Or.inl h
  rw [octet, Char.ofNat, dif_pos this]
  rfl

theorem tail?_octet {n : Nat} (h : n < 0x40) : tail? (octet (0x80 + n)) = some n := by
  rw [tail?, octet_toNat (by omega)]
  simp
  omega

theorem atLeast_eq {least n m : Nat} (h : n.isValidChar) (hl : least ≤ n) (e : m = n) :
    atLeast least m = some (Char.ofNat n) := by
  subst e
  simp [atLeast, h, hl]

theorem first?_encodeNat {n : Nat} (h : n.isValidChar) (s : List Char) :
    first? (encodeNat n ++ s) = some (Char.ofNat n, s) := by
  have hn : n < 0x110000 := by rcases h with h | h <;> omega
  unfold encodeNat
  split
  · next h1 =>
    simp only [List.cons_append, List.nil_append, first?, octet_toNat (show n < 0xD800 by omega)]
    rw [if_pos h1, octet]
  · split
    · next h0 h1 =>
      simp only [List.cons_append, List.nil_append, first?,
        octet_toNat (show 0xC0 + n / 0x40 < 0xD800 by omega),
        tail?_octet (Nat.mod_lt n (show 0 < 0x40 by decide)),
        Option.bind_eq_bind, Option.bind_some,
        atLeast_eq h (show 0x80 ≤ n by omega)
          (show (0xC0 + n / 0x40 - 0xC0) * 0x40 + n % 0x40 = n by omega)]
      rw [if_neg (by omega), if_neg (by omega), if_pos (by omega)]
      rfl
    · split
      · next h0 h1 h2 =>
        simp only [List.cons_append, List.nil_append, first?,
          octet_toNat (show 0xE0 + n / 0x1000 < 0xD800 by omega),
          tail?_octet (Nat.mod_lt n (show 0 < 0x40 by decide)),
          tail?_octet (Nat.mod_lt (n / 0x40) (show 0 < 0x40 by decide)),
          Option.bind_eq_bind, Option.bind_some,
          atLeast_eq h (show 0x800 ≤ n by omega)
            (show ((0xE0 + n / 0x1000 - 0xE0) * 0x40 + n / 0x40 % 0x40) * 0x40 + n % 0x40 = n by
              omega)]
        rw [if_neg (by omega), if_neg (by omega), if_neg (by omega), if_pos (by omega)]
        rfl
      · next h0 h1 h2 =>
        simp only [List.cons_append, List.nil_append, first?,
          octet_toNat (show 0xF0 + n / 0x40000 < 0xD800 by omega),
          tail?_octet (Nat.mod_lt n (show 0 < 0x40 by decide)),
          tail?_octet (Nat.mod_lt (n / 0x40) (show 0 < 0x40 by decide)),
          tail?_octet (Nat.mod_lt (n / 0x1000) (show 0 < 0x40 by decide)),
          Option.bind_eq_bind, Option.bind_some,
          atLeast_eq h (show 0x10000 ≤ n by omega)
            (show (((0xF0 + n / 0x40000 - 0xF0) * 0x40 + n / 0x1000 % 0x40) * 0x40 +
              n / 0x40 % 0x40) * 0x40 + n % 0x40 = n by omega)]
        rw [if_neg (by omega), if_neg (by omega), if_neg (by omega), if_neg (by omega)]
        rfl

end RefWatch.Text.Utf8
