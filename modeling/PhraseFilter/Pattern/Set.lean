import PhraseFilter.Pattern.Symbol

/-!
# Bracketed sets

A set in brackets has characters, ranges, kinds of characters and other sets for members, and a caret
at its start means all characters but them. Between members, `&&`, `--` and `~~` are the intersection, the
difference and the symmetric difference of what stands on their two sides, the first of them first.

* `SetExpr`: a written set.
* `readSet?`: reads a set after its opening bracket.
-/

namespace PhraseFilter.Pattern

inductive SetExpr
  | nothing
  | range (first last : Char)
  | kind (k : Kind) (negated : Bool)
  /-- ASCII characters, or all characters but them. -/
  | ascii (ranges : List (Char × Char)) (negated : Bool)
  | property (name : List Char) (negated : Bool)
  | combine (op : Chars.Operation) (a b : SetExpr)
  /-- A set in brackets. -/
  | bracket (negated : Bool) (s : SetExpr)
  deriving Repr, DecidableEq

/-- The set of one symbol. A place is no member of a set. -/
def SetExpr.ofSymbol? : Symbol → Option SetExpr
  | .char c _ => some (.range c c)
  | .kind k negated => some (.kind k negated)
  | .property name negated => some (.property name negated)
  | .start | .finish | .edge _ => none

/-- The ASCII characters of a class that is named between colons. -/
def asciiClass? (name : String) : Option (List (Char × Char)) :=
  match name with
  | "alnum" => some [('0', '9'), ('A', 'Z'), ('a', 'z')]
  | "alpha" => some [('A', 'Z'), ('a', 'z')]
  | "ascii" => some [('\x00', '\x7f')]
  | "blank" => some [('\t', '\t'), (' ', ' ')]
  | "cntrl" => some [('\x00', '\x1f'), ('\x7f', '\x7f')]
  | "digit" => some [('0', '9')]
  | "graph" => some [('!', '~')]
  | "lower" => some [('a', 'z')]
  | "print" => some [(' ', '~')]
  | "punct" => some [('!', '/'), (':', '@'), ('[', '\x60'), ('\x7b', '~')]
  | "space" => some [('\t', '\r'), (' ', ' ')]
  | "upper" => some [('A', 'Z')]
  | "word" => some [('0', '9'), ('A', 'Z'), ('_', '_'), ('a', 'z')]
  | "xdigit" => some [('0', '9'), ('A', 'F'), ('a', 'f')]
  | _ => none

/-- Reads a named ASCII class after its opening bracket. -/
def readAscii? : List Char → Option (SetExpr × List Char)
  | ':' :: s =>
    let negated := s.head? == some '^'
    let s := if negated then s.tail else s
    match s.dropWhile (· != ':') with
    | ':' :: ']' :: rest =>
      (asciiClass? (String.ofList (s.takeWhile (· != ':')))).map fun ranges => (.ascii ranges negated, rest)
    | _ => none
  | _ => none

/-! ## Members -/

/-- Reads one character or escape in a set. -/
def readMember? (verbose : Bool) : List Char → Option (Symbol × List Char)
  | [] => none
  | '\\' :: rest => readEscape? verbose rest
  | c :: rest => some (.char c false, rest)

/-- Reads one member of a set, or a range when a hyphen and another member follow. -/
def readRange? (verbose : Bool) (s : List Char) : Option (SetExpr × List Char) :=
  (readMember? verbose s).bind fun (first, rest) =>
    let rest := skip verbose rest
    match rest with
    | '-' :: more =>
      match skip verbose more with
      | ']' :: _ | '-' :: _ => (SetExpr.ofSymbol? first).map fun e => (e, rest)
      | more =>
        match first, readMember? verbose more with
        | .char c _, some (.char d _, rest) => if c ≤ d then some (.range c d, rest) else none
        | _, _ => none
    | rest => (SetExpr.ofSymbol? first).map fun e => (e, rest)

/-! ## Sets -/

/-- A set whose closing bracket has not been read. -/
structure OpenSet where
  negated : Bool
  /-- The operation that was written last, with what stands before it and the depth of that. -/
  before : Option (Chars.Operation × SetExpr × Nat) := none
  /-- The union of the members since then, their number, and the greatest of their depths. -/
  members : SetExpr := .nothing
  count : Nat := 0
  depth : Nat := 0

namespace OpenSet

def push (o : OpenSet) (e : SetExpr) (depth : Nat) : OpenSet :=
  { o with
    members := if o.count = 0 then e else .combine .union o.members e
    count := o.count + 1
    depth := max o.depth depth }

/-- What has been read of the set, with its depth. Several members are one level deeper than one. -/
def joined (o : OpenSet) : SetExpr × Nat :=
  let depth := if 2 ≤ o.count then o.depth + 1 else o.depth
  match o.before with
  | none => (o.members, depth)
  | some (op, e, d) => (.combine op e o.members, max d depth + 1)

def operate (o : OpenSet) (op : Chars.Operation) : OpenSet :=
  { negated := o.negated, before := some (op, o.joined) }

/-- The set when it is closed. -/
def closed (o : OpenSet) : SetExpr × Nat := (.bracket o.negated o.joined.1, o.joined.2 + 1)

end OpenSet

/-- Reads the hyphens at the start of a set, which stand for themselves. -/
def readHyphens (verbose : Bool) : (fuel : Nat) → OpenSet → List Char → OpenSet × List Char
  | fuel + 1, o, '-' :: rest => readHyphens verbose fuel (o.push (.range '-' '-') 0) (skip verbose rest)
  | _, o, s => (o, s)

/-- Reads the start of a set after its opening bracket. A closing bracket that comes first of all stands
for itself. -/
def readOpening (verbose : Bool) (s : List Char) : OpenSet × List Char :=
  let s := skip verbose s
  let negated := s.head? == some '^'
  let s := if negated then skip verbose s.tail else s
  match readHyphens verbose s.length { negated } s with
  | (o, ']' :: rest) => if o.count = 0 then (o.push (.range ']' ']') 0, skip verbose rest) else (o, ']' :: rest)
  | start => start

/-- Reads members and closing brackets up to that of the outermost set; `outer` are the sets around the
one being read. Each step uses a character, so `fuel` is the number of characters left. -/
def readMembers? (verbose : Bool) :
    (fuel : Nat) → OpenSet → (outer : List OpenSet) → List Char → Option ((SetExpr × Nat) × List Char)
  | 0, _, _, _ => none
  | fuel + 1, o, outer, s =>
    match skip verbose s with
    | [] => none
    | ']' :: rest =>
      match outer with
      | [] => some (o.closed, rest)
      | next :: outer => readMembers? verbose fuel (next.push o.closed.1 o.closed.2) outer rest
    | '[' :: rest =>
      match readAscii? rest with
      | some (e, rest) => readMembers? verbose fuel (o.push e 0) outer rest
      | none =>
        let (inner, rest) := readOpening verbose rest
        readMembers? verbose fuel inner (o :: outer) rest
    | '&' :: '&' :: rest => readMembers? verbose fuel (o.operate .intersection) outer rest
    | '-' :: '-' :: rest => readMembers? verbose fuel (o.operate .difference) outer rest
    | '~' :: '~' :: rest => readMembers? verbose fuel (o.operate .symmetricDifference) outer rest
    | s =>
      match readRange? verbose s with
      | some (e, rest) => readMembers? verbose fuel (o.push e 0) outer rest
      | none => none

/-- Reads a set after its opening bracket, with its depth. -/
def readSet? (verbose : Bool) (s : List Char) : Option ((SetExpr × Nat) × List Char) :=
  let (o, rest) := readOpening verbose s
  readMembers? verbose (rest.length + 1) o [] rest

end PhraseFilter.Pattern
