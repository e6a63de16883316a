import PhraseFilter.Pattern.Search
import PhraseFilter.Pattern.Reader

/-!
# Taking phrases out of a text

`take?` removes the first stretch of a pattern from a text and leaves the words around it. A `Scan` is
the text that is left when phrases are taken out of it one after the other.
-/

namespace PhraseFilter

open Text

structure Taken where
  phrase : List Char
  rest : List Char
  deriving Repr, DecidableEq

/-- Takes the first stretch of a pattern out of a text. -/
def take? (p : Pattern) (text : List Char) : Option Taken :=
  match p.find? text.toArray with
  | some (i, j) =>
    some ⟨(text.drop i).take (j - i), normalize (text.take i ++ ' ' :: text.drop j)⟩
  | none => none

/-- A text from which phrases are taken. -/
structure Scan where
  remaining : List Char
  deriving Repr, DecidableEq

namespace Scan

def start (text : String) : Scan := ⟨normalize text.toList⟩

def isExhausted (s : Scan) : Bool := s.remaining.isEmpty

/-- Takes the first stretch of a pattern, if there is one. -/
def take (s : Scan) (p : Pattern) : Option (List Char) × Scan :=
  match take? p s.remaining with
  | some t => (some t.phrase, ⟨t.rest⟩)
  | none => (none, s)

end Scan

end PhraseFilter
