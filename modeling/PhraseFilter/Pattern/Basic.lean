import PhraseFilter.Text.Blank
import PhraseFilter.Text.Word
import PhraseFilter.Text.Fold

/-!
# Patterns

A pattern describes stretches of a text. A letter stands for itself in any case (`Text.fold`), and the
positions of a text of `n` characters are `0` to `n`.

* `Chars`: a set of characters, `Chars.has`.
* `Place`: a condition on a position, `Place.holds`.
* `Pattern`: the patterns, and `Pattern.times` for repetition.
* `Pattern.Covers`: the relation "this pattern covers the text from `i` to `j`".
-/

namespace PhraseFilter

open Text

/-- One member of a bracketed set. -/
inductive Chars.Item
  /-- The characters from `first` to `last`, in any case. -/
  | range (first last : Char)
  /-- The characters from `first` to `last`, as they are. -/
  | span (first last : Char)
  /-- The decimal digits, or all but them. -/
  | digit (negated : Bool)
  /-- The word characters, or all but them. -/
  | word (negated : Bool)
  /-- The blanks, or all but them. -/
  | blank (negated : Bool)
  deriving Repr, DecidableEq

inductive Chars.Operation
  | union
  | intersection
  | difference
  | symmetricDifference
  deriving Repr, DecidableEq

/-- A set of characters. -/
inductive Chars
  /-- Every character but the line feed. -/
  | inLine
  /-- One character in any case. -/
  | letter (c : Char)
  /-- The members of a list of items, or all but them. -/
  | set (negated : Bool) (items : List Chars.Item)
  | combine (op : Chars.Operation) (a b : Chars)
  | complement (s : Chars)
  deriving Repr, DecidableEq

namespace Chars

/-- Is the character a member? A range has a character when it has one that differs in case only. -/
def Item.has (d : Char) : Item → Bool
  | .range first last => (foldClass d).any fun c => first ≤ c && c ≤ last
  | .span first last => first ≤ d && d ≤ last
  | .digit negated => isDigit d != negated
  | .word negated => isWord d != negated
  | .blank negated => isBlank d != negated

/-- Is something a member, given whether it is one of either set? -/
def Operation.apply : Operation → Bool → Bool → Bool
  | .union, a, b => a || b
  | .intersection, a, b => a && b
  | .difference, a, b => a && !b
  | .symmetricDifference, a, b => a != b

def has (d : Char) : Chars → Bool
  | .inLine => d != '\n'
  | .letter c => sameFold c d
  | .set negated items => items.any (·.has d) != negated
  | .combine op a b => op.apply (a.has d) (b.has d)
  | .complement s => !s.has d

end Chars

/-- A condition on whether the neighbours of a position are word characters. -/
inductive Edge
  | boundary
  | noBoundary
  /-- The start of a word. -/
  | start
  /-- The end of a word. -/
  | finish
  /-- No word character stands before the position. -/
  | startHalf
  /-- No word character stands after the position. -/
  | finishHalf
  deriving Repr, DecidableEq

def Edge.holds (before after : Bool) : Edge → Bool
  | .boundary => before != after
  | .noBoundary => before == after
  | .start => !before && after
  | .finish => before && !after
  | .startHalf => !before
  | .finishHalf => !after

/-- A condition on a position of a text. -/
inductive Place
  /-- The start of the text. -/
  | start
  /-- The end of the text. -/
  | finish
  /-- The start of a line. Lines end with a line feed, or also with a carriage return. -/
  | lineStart (returns : Bool)
  /-- The end of a line. -/
  | lineEnd (returns : Bool)
  /-- A condition on the neighbours, of which all or only the ASCII word characters count. -/
  | edge (ascii : Bool) (e : Edge)
  deriving Repr, DecidableEq

/-- Does the condition hold at position `i`? -/
def Place.holds (text : Array Char) (i : Nat) : Place → Bool
  | .start => i == 0
  | .finish => i == text.size
  | .lineStart false => (before? text i).all (· == '\n')
  | .lineStart true =>
    (before? text i).all fun c => c == '\n' || (c == '\r' && text[i]? != some '\n')
  | .lineEnd false => text[i]?.all (· == '\n')
  | .lineEnd true => text[i]?.all fun c => c == '\r' || (c == '\n' && before? text i != some '\r')
  | .edge false e => e.holds (wordBefore text i) (wordAfter text i)
  | .edge true e => e.holds ((before? text i).any isAsciiWord) (text[i]?.any isAsciiWord)

/-- A pattern. Where it can cover several stretches from one position, it prefers one to the other: a
greedy repetition prefers to go on, a lazy one to stop, and an alternative prefers its left side. -/
inductive Pattern
  /-- Covers the empty stretch. -/
  | empty
  /-- Covers one character of a set. -/
  | one (s : Chars)
  /-- Covers the empty stretch where a condition holds. -/
  | place (p : Place)
  /-- Covers a stretch of `p` and then one of `q`. -/
  | seq (p q : Pattern)
  /-- Covers a stretch of `p` or else one of `q`. -/
  | alt (p q : Pattern)
  /-- Covers a stretch of `p` or the empty one. -/
  | opt (greedy : Bool) (p : Pattern)
  /-- Covers one or more stretches of `p` in a row. -/
  | many (greedy : Bool) (p : Pattern)
  /-- Covers `least` stretches of `p` in a row, and then up to `extra` more. -/
  | counted (greedy : Bool) (least extra : Nat) (p : Pattern)
  deriving Repr, DecidableEq

namespace Pattern

def seqAll : List Pattern → Pattern
  | [] => .empty
  | [p] => p
  | p :: q :: rest => .seq p (seqAll (q :: rest))

/-- The first pattern of a list that fits; none fits nothing but the empty stretch. -/
def altAll : List Pattern → Pattern
  | [] => .empty
  | [p] => p
  | p :: q :: rest => .alt p (altAll (q :: rest))

/-- From `least` stretches of `p` in a row up to `most`, or without end. -/
def times (greedy : Bool) : (least : Nat) → (most : Option Nat) → Pattern → Pattern
  | 0, some 1, p => .opt greedy p
  | 0, none, p => .opt greedy (.many greedy p)
  | 1, none, p => .many greedy p
  | n + 2, none, p => .seq (.counted greedy (n + 1) 0 p) (.many greedy p)
  | least, some most, p => .counted greedy least (most - least) p

/-- `p.Covers text i j` says that `p` covers the text from position `i` to position `j`. -/
inductive Covers (text : Array Char) : Pattern → Nat → Nat → Prop
  | empty {i : Nat} (h : i ≤ text.size) : Covers text .empty i i
  | one {s : Chars} {i : Nat} {c : Char} (hc : text[i]? = some c) (hs : s.has c = true) :
      Covers text (.one s) i (i + 1)
  | place {p : Place} {i : Nat} (h : i ≤ text.size) (hp : p.holds text i = true) :
      Covers text (.place p) i i
  | seq {p q : Pattern} {i j k : Nat} (hp : Covers text p i j) (hq : Covers text q j k) :
      Covers text (.seq p q) i k
  | altLeft {p q : Pattern} {i j : Nat} (hp : Covers text p i j) : Covers text (.alt p q) i j
  | altRight {p q : Pattern} {i j : Nat} (hq : Covers text q i j) : Covers text (.alt p q) i j
  | optNone {greedy : Bool} {p : Pattern} {i : Nat} (h : i ≤ text.size) :
      Covers text (.opt greedy p) i i
  | optSome {greedy : Bool} {p : Pattern} {i j : Nat} (hp : Covers text p i j) :
      Covers text (.opt greedy p) i j
  | manyOne {greedy : Bool} {p : Pattern} {i j : Nat} (hp : Covers text p i j) :
      Covers text (.many greedy p) i j
  | manyMore {greedy : Bool} {p : Pattern} {i j k : Nat} (hp : Covers text p i j)
      (hm : Covers text (.many greedy p) j k) : Covers text (.many greedy p) i k
  | countedNone {greedy : Bool} {extra : Nat} {p : Pattern} {i : Nat} (h : i ≤ text.size) :
      Covers text (.counted greedy 0 extra p) i i
  | countedNext {greedy : Bool} {least extra : Nat} {p : Pattern} {i j k : Nat} (hp : Covers text p i j)
      (hm : Covers text (.counted greedy least extra p) j k) :
      Covers text (.counted greedy (least + 1) extra p) i k
  | countedMore {greedy : Bool} {extra : Nat} {p : Pattern} {i j k : Nat} (hp : Covers text p i j)
      (hm : Covers text (.counted greedy 0 extra p) j k) :
      Covers text (.counted greedy 0 (extra + 1) p) i k

end Pattern

end PhraseFilter
