import PhraseFilter.Pattern.Set

/-!
# Cutting a written pattern into tokens

A pattern is read character by character. `Mode` is what reading is in the middle of, and `Mode.next` says
what one more character makes of it and which tokens it completes. Where a token ends depends on nothing
but the mode and on whether blanks and comments are passed over, so it does not depend on the groups.
-/

namespace PhraseFilter.Pattern

open Text

/-- What stands for one character or position. -/
inductive Atom
  | symbol (s : Symbol)
  /-- Any character, or any but the ends of lines. -/
  | dot
  | caret
  | dollar
  /-- A set in brackets, with its depth. -/
  | set (e : SetExpr) (depth : Nat)
  deriving Repr, DecidableEq

/-- The parts of a written pattern. -/
inductive Token
  /-- Opens a group, perhaps with a name, in which some flags are changed. -/
  | opening (name : Option (List Char)) (change : List Char)
  | closing
  | bar
  /-- Repeats what stands before it, from `least` times to `most` times or without end. -/
  | repeating (least : Nat) (most : Option Nat) (greedy : Bool)
  /-- Changes flags up to the end of the group. -/
  | flags (change : List Char)
  | atom (a : Atom)
  deriving Repr, DecidableEq

/-! ## Tokens in brackets -/

/-- The largest number of times that can be written. -/
def maxTimes : Nat := 4294967295

/-- Reads a number of times, which may have blanks around it. -/
def readTimes? (s : List Char) : Option Nat :=
  (readDecimal? (trim s)).filter (· ≤ maxTimes)

/-- Reads the numbers between braces. -/
def readBounds? (content : List Char) : Option (Nat × Option Nat) :=
  let front := content.takeWhile (· != ',')
  (readTimes? front).bind fun least =>
    match content.drop front.length with
    | [] => some (least, some least)
    | [_] => some (least, none)
    | _ :: back => (readTimes? back).bind fun most => if least ≤ most then some (least, some most) else none

/-- The condition that a word between braces makes of a word boundary. -/
def readEdge? (content : List Char) : Option Edge :=
  match String.ofList content with
  | "start" => some .start
  | "end" => some .finish
  | "start-half" => some .startHalf
  | "end-half" => some .finishHalf
  | _ => none

/-- May the character stand in a group name, at its start or later? -/
def isNameChar (first : Bool) (c : Char) : Bool :=
  if first then c == '_' || isAlphabetic c
  else c == '_' || c == '.' || c == '[' || c == ']' || isAlphanumeric c

def isName : List Char → Bool
  | [] => false
  | c :: name => isNameChar true c && name.all (isNameChar false)

/-- The token that `(?`, some characters and then `c` write. -/
def readGroup? (written : List Char) (c : Char) : Option Token :=
  match c, written with
  | '>', 'P' :: '<' :: name | '>', '<' :: name => if isName name then some (.opening (some name) []) else none
  | ':', change => if isChange change then some (.opening none change) else none
  | ')', change => if isChange change && !change.isEmpty then some (.flags change) else none
  | _, _ => none

/-! ## Modes -/

/-- What reading is in the middle of. -/
inductive Mode
  | between
  /-- After a word boundary, which a word in braces may change. -/
  | edge
  /-- After the parenthesis that opens a group. -/
  | opened
  /-- After `(?`, with the characters since. -/
  | group (written : List Char)
  /-- After a backslash, with the characters since. -/
  | escape (written : List Char)
  /-- After the bracket that opens a set, with the characters since. -/
  | set (written : List Char)
  /-- After an opening brace, with the characters since. The brace may follow a word boundary. -/
  | braces (atEdge : Bool) (written : List Char)
  /-- After a repetition, which a `?` makes lazy. After one in braces, blanks may stand before that. -/
  | repeating (least : Nat) (most : Option Nat) (spaced : Bool)
  /-- In a comment, after which reading goes on as before. -/
  | comment (back : Mode)
  deriving Repr, DecidableEq

namespace Mode

/-- The tokens that are complete when nothing follows but a new token. -/
def settled? : Mode → Option (List Token)
  | .between => some []
  | .edge => some [.atom (.symbol (.edge .boundary))]
  | .opened => some [.opening none []]
  | .repeating least most _ => some [.repeating least most true]
  | _ => none

/-- Reads the first character of a token. -/
def start (c : Char) : Mode × List Token :=
  match c with
  | '(' => (.opened, [])
  | ')' => (.between, [.closing])
  | '|' => (.between, [.bar])
  | '?' => (.repeating 0 (some 1) false, [])
  | '*' => (.repeating 0 none false, [])
  | '+' => (.repeating 1 none false, [])
  | '{' => (.braces false [], [])
  | '[' => (.set [], [])
  | '\\' => (.escape [], [])
  | '.' => (.between, [.atom .dot])
  | '^' => (.between, [.atom .caret])
  | '$' => (.between, [.atom .dollar])
  | c => (.between, [.atom (.symbol (.char c false))])

/-- May blanks and comments follow without a change? -/
def isSpaced : Mode → Bool
  | .between | .opened => true
  | .repeating _ _ spaced => spaced
  | _ => false

/-- Goes on with a character that no token in progress needs. -/
def resume (verbose : Bool) (m : Mode) (settled : List Token) (c : Char) : Mode × List Token :=
  if verbose && isBlank c then if m.isSpaced then (m, []) else (.between, settled)
  else if verbose && c == '#' then
    if m.isSpaced then (.comment m, []) else (.comment .between, settled)
  else ((start c).1, settled ++ (start c).2)

def ofEscape : Symbol → Mode × List Token
  | .edge .boundary => (.edge, [])
  | s => (.between, [.atom (.symbol s)])

/-- The token that the content of braces completes. -/
def ofBraces? (atEdge : Bool) (content : List Char) : Option (Mode × List Token) :=
  match if atEdge then readEdge? content else none, readBounds? content with
  | some e, _ => some (.between, [.atom (.symbol (.edge e))])
  | none, some (least, most) =>
    some (.repeating least most true, if atEdge then [.atom (.symbol (.edge .boundary))] else [])
  | none, none => none

/-- What one more character makes of the mode, and the tokens that it completes. -/
def next (verbose : Bool) (m : Mode) (c : Char) : Mode × List Token :=
  match m with
  | .between => m.resume verbose [] c
  | .edge =>
    if c == '{' then (.braces true [], [])
    else m.resume verbose [.atom (.symbol (.edge .boundary))] c
  | .opened => if c == '?' then (.group [], []) else m.resume verbose [.opening none []] c
  | .repeating least most _ =>
    if c == '?' then (.between, [.repeating least most false])
    else m.resume verbose [.repeating least most true] c
  | .group written =>
    match readGroup? written c with
    | some t => (.between, [t])
    | none => (.group (written ++ [c]), [])
  | .escape written =>
    match readEscape? verbose (written ++ [c]) with
    | some (s, []) => ofEscape s
    | _ => (.escape (written ++ [c]), [])
  | .set written =>
    match readSet? verbose (written ++ [c]) with
    | some ((e, depth), []) => (.between, [.atom (.set e depth)])
    | _ => (.set (written ++ [c]), [])
  | .braces atEdge written =>
    match (untilBrace? verbose false (written ++ [c])).bind fun p =>
        if p.2.isEmpty then ofBraces? atEdge p.1 else none with
    | some done => done
    | none => (.braces atEdge (written ++ [c]), [])
  | .comment back => (if c == '\n' then back else m, [])

/-- The tokens that are complete when the pattern ends. -/
def finish? : Mode → Option (List Token)
  | .comment back => back.finish?
  | m => m.settled?

end Mode

end PhraseFilter.Pattern
