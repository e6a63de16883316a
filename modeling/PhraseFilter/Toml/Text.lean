import PhraseFilter.Text.Split

/-!
# Strings, keys and blanks of TOML

Each reader takes the start of a text and gives what it read and the text after it.

* `skipBlanks`, `skipTrivia?`: spaces and tabs; those with line ends and comments.
* `readString?`: a string in one of the four forms.
* `readKey?`: a key of one or more parts with dots between them.
-/

namespace PhraseFilter.Toml

open Text

abbrev Read (α : Type) := Option (α × List Char)

def isBlank (c : Char) : Bool := c == ' ' || c == '\t'

/-- The text without the spaces and tabs at its start. -/
def skipBlanks (s : List Char) : List Char := s.dropWhile isBlank

def isPlain (c : Char) : Bool := c == '\t' || (0x20 ≤ c.toNat && c.toNat != 0x7f)

/-- What follows a line end at the start of a text. -/
def dropLineEnd? : List Char → Option (List Char)
  | '\n' :: rest => some rest
  | '\r' :: '\n' :: rest => some rest
  | _ => none

/-- The text after a comment, if there is one at its start. -/
def skipComment : List Char → List Char
  | '#' :: rest => rest.dropWhile isPlain
  | s => s

/-- What follows the end of a line that may close with a comment; the end of the text will do. -/
def dropLineRest? (s : List Char) : Option (List Char) :=
  match skipComment (skipBlanks s) with
  | [] => some []
  | s => dropLineEnd? s

/-- The text without the blanks, line ends and comments at its start; `none` if a comment does not end
with its line. Each step uses a character, so `fuel` is the number of characters. -/
def skipTriviaWith? : (fuel : Nat) → List Char → Option (List Char)
  | _, [] => some []
  | 0, s => some s
  | fuel + 1, c :: rest =>
    if isBlank c then skipTriviaWith? fuel rest
    else if c == '#' then (dropLineEnd? (rest.dropWhile isPlain)).bind (skipTriviaWith? fuel)
    else match dropLineEnd? (c :: rest) with
      | some rest => skipTriviaWith? fuel rest
      | none => some (c :: rest)

def skipTrivia? (s : List Char) : Option (List Char) := skipTriviaWith? s.length s

/-! ## Strings -/

def hexValue? (digits : List Char) : Option Nat :=
  digits.foldl (fun n c => n.bind fun n =>
    if c.isDigit then some (n * 16 + (c.toNat - '0'.toNat))
    else if 'a' ≤ c ∧ c ≤ 'f' then some (n * 16 + (c.toNat - 'a'.toNat + 10))
    else if 'A' ≤ c ∧ c ≤ 'F' then some (n * 16 + (c.toNat - 'A'.toNat + 10))
    else none) (some 0)

def charOf? (n : Nat) : Option Char := if n.isValidChar then some (Char.ofNat n) else none

/-- Reads a character that is written as `width` hexadecimal digits. -/
def readHexChar? (width : Nat) (s : List Char) : Read Char :=
  if s.length < width then none
  else ((hexValue? (s.take width)).bind charOf?).map fun c => (c, s.drop width)

def readEscape? : List Char → Read Char
  | 'b' :: rest => some ('\x08', rest)
  | 'f' :: rest => some ('\x0c', rest)
  | 'n' :: rest => some ('\n', rest)
  | 'r' :: rest => some ('\r', rest)
  | 't' :: rest => some ('\t', rest)
  | '"' :: rest => some ('"', rest)
  | '\\' :: rest => some ('\\', rest)
  | 'u' :: rest => readHexChar? 4 rest
  | 'U' :: rest => readHexChar? 8 rest
  | _ => none

/-- Reads a string with escapes after its opening quote. Each step uses a character. -/
def readBasic? : (fuel : Nat) → (done : List Char) → List Char → Read String
  | 0, _, _ => none
  | fuel + 1, done, s =>
    match s with
    | [] => none
    | '"' :: rest => some (String.ofList done.reverse, rest)
    | '\\' :: rest =>
      match readEscape? rest with
      | some (c, rest) => readBasic? fuel (c :: done) rest
      | none => none
    | c :: rest => if isPlain c then readBasic? fuel (c :: done) rest else none

def readLiteral? (s : List Char) : Read String :=
  let content := s.takeWhile fun c => isPlain c && c != '\x27'
  match s.dropWhile fun c => isPlain c && c != '\x27' with
  | '\x27' :: rest => some (String.ofList content, rest)
  | _ => none

/-- What follows the line end after a backslash and the blanks and line ends after it. -/
def dropContinuation? (s : List Char) : Option (List Char) :=
  (dropLineEnd? (skipBlanks s)).map fun rest =>
    rest.dropWhile fun c => isBlank c || c == '\n' || c == '\r'

/-- The quotes at the start of a text that close a string of several lines, where up to two more belong
to the content: the number of those, and what follows. -/
def readClosing? (quote : Char) (s : List Char) : Read Nat :=
  let n := (s.takeWhile (· == quote)).length
  if n < 3 then none else some (min n 5 - 3, s.drop (min n 5))

/-- Reads a string of several lines after its opening quotes. Each step uses a character. -/
def readLines? (quote : Char) (escapes : Bool) :
    (fuel : Nat) → (done : List Char) → List Char → Read String
  | 0, _, _ => none
  | fuel + 1, done, s =>
    match s with
    | [] => none
    | c :: rest =>
      if c == quote then
        match readClosing? quote s with
        | some (n, rest) => some (String.ofList (done.reverse ++ List.replicate n quote), rest)
        | none => readLines? quote escapes fuel (c :: done) rest
      else if escapes && c == '\\' then
        match dropContinuation? rest, readEscape? rest with
        | some rest, _ => readLines? quote escapes fuel done rest
        | none, some (c, rest) => readLines? quote escapes fuel (c :: done) rest
        | none, none => none
      else match dropLineEnd? s with
        | some rest => readLines? quote escapes fuel ('\n' :: done) rest
        | none => if isPlain c then readLines? quote escapes fuel (c :: done) rest else none

/-- Reads a string of several lines after its opening quotes; a line end right after them does not
count. -/
def readAllLines? (quote : Char) (escapes : Bool) (s : List Char) : Read String :=
  readLines? quote escapes (s.length + 1) [] ((dropLineEnd? s).getD s)

def readShortString? : List Char → Read String
  | '"' :: rest => readBasic? (rest.length + 1) [] rest
  | '\x27' :: rest => readLiteral? rest
  | _ => none

def readString? : List Char → Read String
  | '"' :: '"' :: '"' :: rest => readAllLines? '"' true rest
  | '\x27' :: '\x27' :: '\x27' :: rest => readAllLines? '\x27' false rest
  | s => readShortString? s

/-! ## Keys -/

def isBareChar (c : Char) : Bool := c.isAlphanum || c == '_' || c == '-'

def readKeyPart? (s : List Char) : Read String :=
  match s with
  | '"' :: _ => readShortString? s
  | '\x27' :: _ => readShortString? s
  | s =>
    let part := s.takeWhile isBareChar
    if part.isEmpty then none else some (String.ofList part, s.dropWhile isBareChar)

/-- Reads up to `parts` parts of a key with dots between them. -/
def readKeyParts? : (parts : Nat) → List Char → Read (List String)
  | 0, _ => none
  | parts + 1, s =>
    match readKeyPart? (skipBlanks s) with
    | none => none
    | some (part, rest) =>
      match skipBlanks rest with
      | '.' :: rest => (readKeyParts? parts rest).map fun (more, rest) => (part :: more, rest)
      | rest => some ([part], rest)

/-- The depth of nesting that is refused, also as the number of parts of a key. -/
def maxDepth : Nat := 80

def readKey? (s : List Char) : Read (List String) := readKeyParts? (maxDepth - 1) s

end PhraseFilter.Toml
