import RefWatch.Text.Printable

namespace RefWatch.Text

def hexDigits (n : Nat) (width : Nat) : List Char :=
  let ds := Nat.toDigits 16 n
  List.replicate (width - ds.length) '0' ++ ds

def apostrophe : Char := Char.ofNat 0x27

def quotationMark : Char := Char.ofNat 0x22

def quoteFor (s : List Char) : Char :=
  if s.contains apostrophe && !s.contains quotationMark then quotationMark else apostrophe

def escapeChar (shown : Char → Bool) (quote c : Char) : List Char :=
  if c == quote || c == '\\' then ['\\', c]
  else if c == '\t' then ['\\', 't']
  else if c == '\n' then ['\\', 'n']
  else if c == '\r' then ['\\', 'r']
  else if shown c then [c]
  else if c.toNat ≤ 0xFF then '\\' :: 'x' :: hexDigits c.toNat 2
  else if c.toNat ≤ 0xFFFF then '\\' :: 'u' :: hexDigits c.toNat 4
  else '\\' :: 'U' :: hexDigits c.toNat 8

def quoteWith (shown : Char → Bool) (s : List Char) : List Char :=
  let q := quoteFor s
  q :: s.flatMap (escapeChar shown q) ++ [q]

def quoted (s : String) : String := String.ofList (quoteWith isPrintable s.toList)

def isShownByte (c : Char) : Bool := 0x20 ≤ c.toNat && c.toNat < 0x7F

-- Bytes are quoted one by one: only plain ASCII is shown as it is.
def quotedBytes (b : ByteArray) : String :=
  String.ofList ('b' :: quoteWith isShownByte (b.data.toList.map fun x => Char.ofNat x.toNat))

def quoted? (s : Option String) : String := (s.map quoted).getD "None"

end RefWatch.Text
