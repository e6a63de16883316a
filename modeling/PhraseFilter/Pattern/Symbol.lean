import PhraseFilter.Pattern.Basic
import PhraseFilter.Text.Decimal

/-!
# What the characters of a written pattern stand for

* `Flags`: how a pattern is read where they hold; `Flags.change` sets and clears some of them.
* `skip`: passes over the blanks and comments of a pattern in the verbose mode.
* `Symbol`: what one character or escape stands for; `readEscape?` reads what follows a backslash.
-/

namespace PhraseFilter.Pattern

open Text

/-! ## Flags -/

/-- How a pattern is read. -/
structure Flags where
  /-- Letters stand for themselves in any case. -/
  caseless : Bool := true
  /-- `^` and `$` are the two ends of a line. -/
  multiLine : Bool := false
  /-- `.` is any character. -/
  dotAll : Bool := false
  /-- A repetition is lazy, and greedy with a `?` after it. -/
  swapGreed : Bool := false
  /-- Characters above ASCII have their case and count as digits, word characters and blanks. -/
  unicode : Bool := true
  /-- Lines end with carriage returns, too. -/
  returns : Bool := false
  /-- Blanks and comments between the parts of a pattern mean nothing. -/
  verbose : Bool := false
  deriving Repr, DecidableEq

/-- Are the characters flags to be set and, after a hyphen, flags to be cleared, none of them twice? -/
def isChange (written : List Char) : Bool :=
  written.all ['i', 'm', 's', 'U', 'u', 'R', 'x', '-'].contains && written.Nodup &&
    written.getLast? != some '-'

/-- Sets the flags that are written before a hyphen and clears those after it. -/
def Flags.change (f : Flags) (written : List Char) : Flags :=
  let value (flag : Char) (old : Bool) : Bool :=
    if (written.takeWhile (· != '-')).contains flag then true
    else if written.contains flag then false
    else old
  { caseless := value 'i' f.caseless
    multiLine := value 'm' f.multiLine
    dotAll := value 's' f.dotAll
    swapGreed := value 'U' f.swapGreed
    unicode := value 'u' f.unicode
    returns := value 'R' f.returns
    verbose := value 'x' f.verbose }

/-! ## Blanks and comments -/

/-- Passes over blanks and over comments, each from a number sign to the end of its line. -/
def skipBlanks (inComment : Bool) : List Char → List Char
  | [] => []
  | c :: rest =>
    if inComment then skipBlanks (c != '\n') rest
    else if isBlank c then skipBlanks false rest
    else if c == '#' then skipBlanks true rest
    else c :: rest

def skip (verbose : Bool) (s : List Char) : List Char := if verbose then skipBlanks false s else s

/-- Reads up to a closing brace, and drops blanks and comments in the verbose mode. -/
def untilBrace? (verbose inComment : Bool) : List Char → Option (List Char × List Char)
  | [] => none
  | c :: rest =>
    if inComment then untilBrace? verbose (c != '\n') rest
    else if c == '}' then some ([], rest)
    else if verbose && isBlank c then untilBrace? verbose false rest
    else if verbose && c == '#' then untilBrace? verbose true rest
    else (untilBrace? verbose false rest).map fun (content, rest) => (c :: content, rest)

/-! ## Symbols -/

/-- The kinds of characters with a letter of their own. -/
inductive Kind
  | digit
  | word
  | blank
  deriving Repr, DecidableEq

/-- What one character or escape of a written pattern stands for. -/
inductive Symbol
  /-- A character; `isByte` tells that it is written as a byte of two hexadecimal digits. -/
  | char (c : Char) (isByte : Bool)
  | kind (k : Kind) (negated : Bool)
  /-- The characters with a property, or all but them. -/
  | property (name : List Char) (negated : Bool)
  /-- The start of the text. -/
  | start
  /-- The end of the text. -/
  | finish
  | edge (e : Edge)
  deriving Repr, DecidableEq

/-- An ASCII character that is neither a letter nor a digit nor an angle bracket stands for itself after
a backslash. -/
def isEscapable (c : Char) : Bool :=
  c.toNat < 0x80 && !c.isAlphanum && c != '<' && c != '>'

/-- What a single character after a backslash stands for. -/
def symbol? (c : Char) : Option Symbol :=
  if isEscapable c then some (.char c false)
  else match c with
    | 'd' => some (.kind .digit false)
    | 'D' => some (.kind .digit true)
    | 'w' => some (.kind .word false)
    | 'W' => some (.kind .word true)
    | 's' => some (.kind .blank false)
    | 'S' => some (.kind .blank true)
    | 'a' => some (.char '\x07' false)
    | 'f' => some (.char '\x0c' false)
    | 'n' => some (.char '\n' false)
    | 'r' => some (.char '\r' false)
    | 't' => some (.char '\t' false)
    | 'v' => some (.char '\x0b' false)
    | 'A' => some .start
    | 'z' => some .finish
    | 'b' => some (.edge .boundary)
    | 'B' => some (.edge .noBoundary)
    | '<' => some (.edge .start)
    | '>' => some (.edge .finish)
    | _ => none

def hexValue? (c : Char) : Option Nat :=
  if c.isDigit then some (c.toNat - '0'.toNat)
  else if 'a' ≤ c ∧ c ≤ 'f' then some (c.toNat - 'a'.toNat + 10)
  else if 'A' ≤ c ∧ c ≤ 'F' then some (c.toNat - 'A'.toNat + 10)
  else none

/-- The character whose number hexadecimal digits write. -/
def hexChar? (digits : List Char) : Option Char :=
  (digits.mapM hexValue?).bind fun values =>
    let n := values.foldl (fun n d => n * 16 + d) 0
    if values.isEmpty || !n.isValidChar then none else some (Char.ofNat n)

/-- Takes so many characters, between which blanks and comments may stand in the verbose mode. -/
def takeChars? (verbose : Bool) : Nat → List Char → Option (List Char × List Char)
  | 0, s => some ([], s)
  | n + 1, s =>
    match skip verbose s with
    | [] => none
    | c :: rest => (takeChars? verbose n rest).map fun (taken, rest) => (c :: taken, rest)

/-- Reads a character by its number, in braces or in so many digits. -/
def readHex? (verbose : Bool) (digits : Nat) (s : List Char) : Option (Symbol × List Char) :=
  match skip verbose s with
  | '{' :: rest =>
    (untilBrace? verbose false rest).bind fun (content, rest) =>
      (hexChar? content).map fun c => (.char c false, rest)
  | s =>
    (takeChars? verbose digits s).bind fun (taken, rest) =>
      (hexChar? taken).map fun c => (.char c (digits == 2), rest)

/-- Reads the name of a property, in braces or of one character. -/
def readProperty? (verbose negated : Bool) (s : List Char) : Option (Symbol × List Char) :=
  match skip verbose s with
  | '{' :: rest => (untilBrace? verbose false rest).map fun (name, rest) => (.property name negated, rest)
  | [] | '\\' :: _ => none
  | c :: rest => some (.property [c] negated, rest)

/-- Reads what follows a backslash. -/
def readEscape? (verbose : Bool) : List Char → Option (Symbol × List Char)
  | [] => none
  | 'x' :: rest => readHex? verbose 2 rest
  | 'u' :: rest => readHex? verbose 4 rest
  | 'U' :: rest => readHex? verbose 8 rest
  | 'p' :: rest => readProperty? verbose false rest
  | 'P' :: rest => readProperty? verbose true rest
  | c :: rest => (symbol? c).map fun s => (s, rest)

end PhraseFilter.Pattern
