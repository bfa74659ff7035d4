import RefWatch.Text.Runs

namespace RefWatch.Text

def isSpace (c : Char) : Bool :=
  Runs.has [(0x09, 0x0D), (0x20, 0x20), (0x85, 0x85), (0xA0, 0xA0), (0x1680, 0x1680),
    (0x2000, 0x200A), (0x2028, 0x2029), (0x202F, 0x202F), (0x205F, 0x205F), (0x3000, 0x3000)] c

-- The four information separators are blanks for names, patterns and levels, but not for numerals.
def isBlank (c : Char) : Bool := isSpace c || (0x1C ≤ c.toNat && c.toNat ≤ 0x1F)

-- Takes the characters of a class off both ends.
def trim (blank : Char → Bool) (s : List Char) : List Char :=
  ((s.dropWhile blank).reverse.dropWhile blank).reverse

def strip (s : String) : String := String.ofList (trim isBlank s.toList)

-- Read from the right: the word that is still open on the left, and the words closed so far.
def closeWord (w : List Char) (ws : List (List Char)) : List (List Char) :=
  if w.isEmpty then ws else w :: ws

def wordStep (c : Char) (s : List Char × List (List Char)) : List Char × List (List Char) :=
  if isBlank c then ([], closeWord s.1 s.2) else (c :: s.1, s.2)

-- The non-empty stretches between blanks, in order.
def wordsOf (s : List Char) : List (List Char) :=
  let (w, ws) := s.foldr wordStep ([], [])
  closeWord w ws

theorem wordsOf_nil : wordsOf [] = [] := rfl

theorem wordsOf_blank_cons {c : Char} (h : isBlank c) (s : List Char) :
    wordsOf (c :: s) = wordsOf s := by
  simp [wordsOf, wordStep, h, closeWord]

def words (s : String) : List String := (wordsOf s.toList).map String.ofList

end RefWatch.Text
