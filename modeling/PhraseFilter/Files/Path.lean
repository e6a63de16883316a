import PhraseFilter.Text.Split

/-!
# Paths

A path names a file by the directories that it lies in, with slashes between them. Empty parts and single
dots do not lead anywhere and are left out.

* `Path.read`: the parts of a path.
* `Path.parent?`: the directory that a path lies in.
* `Path.toText`: the path as text again.
-/

namespace PhraseFilter

open Text

structure Path where
  isAbsolute : Bool
  innermost : List String
  deriving Repr, DecidableEq

namespace Path

def isPart (part : List Char) : Bool := part != [] && part != ['.']

/-- Reads a path. A dot at its very start is a part, since it may be all that there is. -/
def read (s : String) : Path :=
  let parts := splitAll '/' s.toList
  let leading :=
    match parts with
    | ['.'] :: _ => ["."]
    | _ => []
  ⟨s.toList.head? == some '/', ((parts.filter isPart).map String.ofList).reverse ++ leading⟩

def parent? (p : Path) : Option Path :=
  match p.innermost with
  | [] => none
  | _ :: outer => some { p with innermost := outer }

def toText (p : Path) : String :=
  (if p.isAbsolute then "/" else "") ++ "/".intercalate p.innermost.reverse

end Path

end PhraseFilter
