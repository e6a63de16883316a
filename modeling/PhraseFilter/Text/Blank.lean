/-!
# Blanks and words

A blank is a character with the property White_Space. `words` cuts a text at its blanks, `normalize`
joins the words with single spaces, and `trim` drops the blanks at both ends.
-/

namespace PhraseFilter.Text

def isBlank (c : Char) : Bool :=
  let n := c.toNat
  (0x9 ≤ n && n ≤ 0xd) || n == 0x20 || n == 0x85 || n == 0xa0 || n == 0x1680 ||
    (0x2000 ≤ n && n ≤ 0x200a) || n == 0x2028 || n == 0x2029 || n == 0x202f || n == 0x205f ||
    n == 0x3000

/-- Puts a character in front of the first word if it touches it, and starts a word if not. -/
def attach (c : Char) (touches : Bool) : List (List Char) → List (List Char)
  | [] => [[c]]
  | w :: ws => if touches then (c :: w) :: ws else [c] :: w :: ws

/-- The words of a text: its longest pieces without a blank, in order. -/
def words : List Char → List (List Char)
  | [] => []
  | c :: rest => if isBlank c then words rest else attach c (rest.head?.any (!isBlank ·)) (words rest)

/-- The words of a text joined by single spaces. -/
def normalize (s : List Char) : List Char := [' '].intercalate (words s)

/-- The text without the blanks at its two ends. -/
def trim (s : List Char) : List Char :=
  ((s.dropWhile isBlank).reverse.dropWhile isBlank).reverse

end PhraseFilter.Text
