import PhraseFilter.Pattern.Engine
import PhraseFilter.Pattern.Token

/-!
# Reading patterns

The tokens of a written pattern are put together on a stack of open groups.

* Letters stand for themselves; `.` is any character but the line feed, `[…]` a set, `\d`, `\w` and `\s` are
  the digits, word characters and blanks, and `\p{…}` the characters with a property.
* `^` and `$` are the two ends of the text, `\b` a word boundary, `\<` and `\>` the start and the end of
  a word.
* `( )` groups, plain, as `(?:` or with a name as `(?P<name>` or `(?<name>`; `|` separates alternatives.
* `?`, `*`, `+`, `{n}`, `{n,}` and `{n,m}` repeat what stands before them, lazily with a `?` after them.
* `(?flags)` changes how the rest of the group is read, and `(?flags:` how a group of its own is.
* `\` before a punctuation character makes it stand for itself.

`read?` refuses everything else: groups and sets that do not close, repetition of nothing, unknown
escapes and flags, a name given twice, what is not valid without Unicode, and patterns nested more than
`nestLimit` deep. `compile?` also refuses patterns that are too large to be searched for.
-/

namespace PhraseFilter.Pattern

/-! ## Sets and places -/

namespace Flags

/-- The part of a range of characters that is between two others, moved to where a third one takes the
place of the lower one. -/
def moved (first last low high target : Char) : List Chars.Item :=
  let first := max first.toNat low.toNat
  let last := min last.toNat high.toNat
  let move (n : Nat) : Char := Char.ofNat (n - low.toNat + target.toNat)
  if first ≤ last then [.span (move first) (move last)] else []

/-- The items of a range of characters. -/
def items (f : Flags) (first last : Char) : List Chars.Item :=
  if !f.caseless then [.span first last]
  else if f.unicode then [.range first last]
  else .span first last :: moved first last 'a' 'z' 'A' ++ moved first last 'A' 'Z' 'a'

def rangesSet (f : Flags) (negated : Bool) (ranges : List (Char × Char)) : Chars :=
  .set negated (ranges.flatMap fun (first, last) => f.items first last)

def charSet (f : Flags) (c : Char) : Chars :=
  if f.caseless && f.unicode then .letter c else .set false (f.items c c)

/-- The set of a kind of characters. Without Unicode it is ASCII, and not to be negated. -/
def kindSet? (f : Flags) (negated : Bool) (k : Kind) : Option Chars :=
  if f.unicode then
    some <| .set false <| match k with
      | .digit => [.digit negated]
      | .word => [.word negated]
      | .blank => [.blank negated]
  else if negated then none
  else
    some <| .set false <| match k with
      | .digit => [.span '0' '9']
      | .word => [.span '0' '9', .span 'A' 'Z', .span '_' '_', .span 'a' 'z']
      | .blank => [.span '\t' '\r', .span ' ' ' ']

def propertySet? [Engine] (f : Flags) (negated : Bool) (name : List Char) : Option Chars :=
  if f.unicode then (Engine.property? name).map (f.rangesSet negated) else none

end Flags

def join (op : Chars.Operation) (a b : Chars) : Chars :=
  match op, a, b with
  | .union, .set false xs, .set false ys => .set false (xs ++ ys)
  | op, a, b => .combine op a b

def negate : Chars → Chars
  | .set negated items => .set (!negated) items
  | s => .complement s

/-- The set that is written. Without Unicode its members are ASCII, and it is not to be negated. -/
def SetExpr.toChars? [Engine] (f : Flags) : SetExpr → Option Chars
  | .nothing => some (.set false [])
  | .range first last => if f.unicode || last.toNat < 0x80 then some (.set false (f.items first last)) else none
  | .kind k negated => f.kindSet? negated k
  | .ascii ranges negated => if f.unicode || !negated then some (f.rangesSet negated ranges) else none
  | .property name negated => f.propertySet? negated name
  | .combine op a b => (a.toChars? f).bind fun a => (b.toChars? f).map (join op a)
  | .bracket negated s =>
    if f.unicode || !negated then (s.toChars? f).map fun s => if negated then negate s else s else none

/-- The pattern of a symbol. Without Unicode a byte is an ASCII character. -/
def Symbol.toPattern? [Engine] (f : Flags) : Symbol → Option Pattern
  | .char c isByte => if f.unicode || !isByte || c.toNat < 0x80 then some (.one (f.charSet c)) else none
  | .kind k negated => (f.kindSet? negated k).map .one
  | .property name negated => (f.propertySet? negated name).map .one
  | .start => some (.place .start)
  | .finish => some (.place .finish)
  | .edge e => some (.place (.edge (!f.unicode) e))

/-! ## Groups -/

/-- A part of a pattern. -/
structure Part where
  pattern : Pattern
  /-- How deep groups, repetitions, sets and lists of parts are nested in it. -/
  depth : Nat := 0
  /-- May it be repeated? Changed flags may not. -/
  isRepeatable : Bool := true
  deriving Repr, DecidableEq

namespace Part

/-- The parts of a list as one, which is one level deeper if there are several. -/
def joined (all : List Pattern → Pattern) (ps : List Part) : Part :=
  { pattern := all (ps.map (·.pattern))
    depth := (ps.map (·.depth)).foldr max 0 + if 2 ≤ ps.length then 1 else 0 }

/-- The part in a group of its own. -/
def grouped (p : Part) : Part := { pattern := p.pattern, depth := p.depth + 1 }

def repeated (p : Part) (greedy : Bool) (least : Nat) (most : Option Nat) : Part :=
  { pattern := p.pattern.times greedy least most, depth := p.depth + 1 }

end Part

def Atom.toPart? [Engine] (f : Flags) : Atom → Option Part
  | .symbol s => (s.toPattern? f).map fun p => { pattern := p }
  | .dot =>
    if !f.unicode then none
    else if f.dotAll then some { pattern := .one (.set true []) }
    else if f.returns then some { pattern := .one (.set true [.span '\r' '\r', .span '\n' '\n']) }
    else some { pattern := .one .inLine }
  | .caret => some { pattern := .place (if f.multiLine then .lineStart f.returns else .start) }
  | .dollar => some { pattern := .place (if f.multiLine then .lineEnd f.returns else .finish) }
  | .set e depth => (e.toChars? f).map fun s => { pattern := .one s, depth }

/-- An open group: the flags at its present place, the alternatives that are complete, and the parts of the
one being read, both the latest first. -/
structure Group where
  flags : Flags := {}
  complete : List Part := []
  /-- The parts of the alternative being read, the latest first. -/
  parts : List Part := []
  deriving Repr, DecidableEq

namespace Group

def add (g : Group) (p : Part) : Group := { g with parts := p :: g.parts }

def separate (g : Group) : Group :=
  { g with complete := .joined seqAll g.parts.reverse :: g.complete, parts := [] }

/-- The latest part of the group is repeated. -/
def repeat? (g : Group) (least : Nat) (most : Option Nat) (greedy : Bool) : Option Group :=
  match g.parts with
  | p :: parts =>
    if p.isRepeatable then some { g with parts := p.repeated (greedy != g.flags.swapGreed) least most :: parts }
    else none
  | [] => none

def change (g : Group) (written : List Char) : Group :=
  { g with flags := g.flags.change written, parts := { pattern := .empty, isRepeatable := false } :: g.parts }

/-- The group when it is closed. -/
def toPart (g : Group) : Part := .joined altAll (Part.joined seqAll g.parts.reverse :: g.complete).reverse

end Group

/-! ## Reading -/

/-- A pattern that has been read in part. -/
structure Reader where
  mode : Mode := .between
  /-- The names of groups so far. -/
  names : List (List Char) := []
  /-- The open groups, the innermost first. -/
  groups : List Group := [{}]
  deriving Repr, DecidableEq

namespace Reader

def isVerbose (r : Reader) : Bool := r.groups.head?.any (·.flags.verbose)

variable [Engine]

def take? (r : Reader) (t : Token) : Option Reader :=
  match t, r.groups with
  | .opening name change, g :: outer =>
    if name.any r.names.contains then none
    else some { r with names := name.toList ++ r.names, groups := { flags := g.flags.change change } :: g :: outer }
  | .closing, g :: next :: outer => some { r with groups := next.add g.toPart.grouped :: outer }
  | .bar, g :: outer => some { r with groups := g.separate :: outer }
  | .repeating least most greedy, g :: outer =>
    (g.repeat? least most greedy).map fun g => { r with groups := g :: outer }
  | .flags change, g :: outer => some { r with groups := g.change change :: outer }
  | .atom a, g :: outer => (a.toPart? g.flags).map fun p => { r with groups := g.add p :: outer }
  | _, [] | .closing, [_] => none

def takeAll? (r : Reader) (ts : List Token) : Option Reader := ts.foldlM take? r

/-- Reads one more character. -/
def step? (r : Reader) (c : Char) : Option Reader :=
  let (mode, ts) := r.mode.next r.isVerbose c
  (r.takeAll? ts).map fun r => { r with mode }

def run? (r : Reader) (s : List Char) : Option Reader := s.foldlM step? r

/-- The pattern, when it ends and all groups but the outermost are closed. -/
def finish? (r : Reader) : Option Part :=
  (r.mode.finish?.bind r.takeAll?).bind fun r =>
    match r.groups with
    | [g] => some g.toPart
    | _ => none

end Reader

/-- The greatest depth of a pattern. -/
def nestLimit : Nat := 250

section Compile

variable [Engine]

/-- The pattern that is written, whatever its depth. -/
def parse? (s : List Char) : Option Part := (Reader.run? {} s).bind Reader.finish?

def read? (s : List Char) : Option Pattern :=
  (parse? s).bind fun p => if p.depth ≤ nestLimit then some p.pattern else none

/-- The pattern that is written, if it can be searched for. -/
def compile? (s : List Char) : Option Pattern := (read? s).filter Engine.fits

/-- Reads alternatives as a pattern that begins and ends at word boundaries. -/
def readWordBounded? (alternatives : List Char) : Option Pattern :=
  compile? ("\\b(?:".toList ++ alternatives ++ ")\\b".toList)

/-- Reads alternatives as a pattern that covers the whole of a text. -/
def readWhole? (alternatives : List Char) : Option Pattern :=
  compile? ("^(?:".toList ++ alternatives ++ ")$".toList)

end Compile

end PhraseFilter.Pattern
