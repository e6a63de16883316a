/-!
# The syntax of JSON

`Raw` is a JSON text as it is written: the literal of a number, a string with its escapes, the fields of
an object in their order. Reading stops at the first fault, and what a number or an escape stands for is
left open.

* `Raw.readValue?`: reads a value at the start of a text.
* `Raw.read?`: reads a text that is one value with blanks around it.
-/

namespace PhraseFilter.Json

/-- A part of a string as it is written. -/
inductive Piece
  /-- A character, or the character that a short escape stands for. -/
  | char (c : Char)
  /-- A 16-bit code unit that is written as four hexadecimal digits. -/
  | codeUnit (n : Nat)
  deriving Repr, DecidableEq

/-- The literal of a number: its sign, the digits before and after the point, and the exponent. -/
structure Literal where
  negative : Bool
  whole : List Char
  /-- The digits after the point, if there is one. -/
  fraction : Option (List Char)
  /-- The exponent, if there is one: is it negative, and its digits. -/
  exponent : Option (Bool × List Char)
  deriving Repr, DecidableEq

/-- A JSON text as it is written. -/
inductive Raw
  | null
  | bool (b : Bool)
  | number (n : Literal)
  | string (s : List Piece)
  | array (items : List Raw)
  | object (fields : List (List Piece × Raw))
  deriving Repr, Inhabited

namespace Raw

def isSpace (c : Char) : Bool := c == ' ' || c == '\n' || c == '\t' || c == '\r'

def skipSpace (s : List Char) : List Char := s.dropWhile isSpace

/-! ## Strings -/

def hexValue? (c : Char) : Option Nat :=
  if c.isDigit then some (c.toNat - '0'.toNat)
  else if 'a' ≤ c ∧ c ≤ 'f' then some (c.toNat - 'a'.toNat + 10)
  else if 'A' ≤ c ∧ c ≤ 'F' then some (c.toNat - 'A'.toNat + 10)
  else none

def codeUnit? (a b c d : Char) : Option Nat :=
  match hexValue? a, hexValue? b, hexValue? c, hexValue? d with
  | some a, some b, some c, some d => some (((a * 16 + b) * 16 + c) * 16 + d)
  | _, _, _, _ => none

def shortEscape? : Char → Option Char
  | '"' => some '"'
  | '\\' => some '\\'
  | '/' => some '/'
  | 'b' => some '\x08'
  | 'f' => some '\x0c'
  | 'n' => some '\n'
  | 'r' => some '\r'
  | 't' => some '\t'
  | _ => none

/-- Reads a string after its opening quote. Control characters have to be escaped. -/
def readString? : List Char → Option (List Piece × List Char)
  | [] => none
  | '"' :: rest => some ([], rest)
  | '\\' :: 'u' :: a :: b :: c :: d :: rest =>
    match codeUnit? a b c d, readString? rest with
    | some n, some (pieces, rest) => some (.codeUnit n :: pieces, rest)
    | _, _ => none
  | '\\' :: e :: rest =>
    match shortEscape? e, readString? rest with
    | some c, some (pieces, rest) => some (.char c :: pieces, rest)
    | _, _ => none
  | '\\' :: [] => none
  | c :: rest =>
    if c.toNat < 0x20 then none
    else match readString? rest with
      | some (pieces, rest) => some (.char c :: pieces, rest)
      | none => none

/-! ## Numbers -/

/-- Reads the digits before the point: a zero, or digits that begin with another one. -/
def readWhole? : List Char → Option (List Char × List Char)
  | '0' :: rest => if rest.head?.any Char.isDigit then none else some (['0'], rest)
  | s =>
    let digits := s.takeWhile Char.isDigit
    if digits.isEmpty then none else some (digits, s.dropWhile Char.isDigit)

def readDigits? (s : List Char) : Option (List Char × List Char) :=
  let digits := s.takeWhile Char.isDigit
  if digits.isEmpty then none else some (digits, s.dropWhile Char.isDigit)

/-- Reads the point and what follows it, if there is one. -/
def readFraction? : List Char → Option (Option (List Char) × List Char)
  | '.' :: rest => (readDigits? rest).map fun (digits, rest) => (some digits, rest)
  | s => some (none, s)

def readExponentDigits? : List Char → Option ((Bool × List Char) × List Char)
  | '+' :: rest => (readDigits? rest).map fun (digits, rest) => ((false, digits), rest)
  | '-' :: rest => (readDigits? rest).map fun (digits, rest) => ((true, digits), rest)
  | s => (readDigits? s).map fun (digits, rest) => ((false, digits), rest)

def readExponent? : List Char → Option (Option (Bool × List Char) × List Char)
  | 'e' :: rest => (readExponentDigits? rest).map fun (e, rest) => (some e, rest)
  | 'E' :: rest => (readExponentDigits? rest).map fun (e, rest) => (some e, rest)
  | s => some (none, s)

def readNumber? (negative : Bool) (s : List Char) : Option (Literal × List Char) :=
  match readWhole? s with
  | none => none
  | some (digits, rest) =>
    match readFraction? rest with
    | none => none
    | some (fraction, rest) =>
      match readExponent? rest with
      | none => none
      | some (exponent, rest) => some (⟨negative, digits, fraction, exponent⟩, rest)

/-! ## Values -/

mutual

/-- Reads a value at the start of a text. A value uses at least one character, and so does each item of
an array or an object, so twice the number of characters is fuel enough. -/
def readValue? : (fuel : Nat) → List Char → Option (Raw × List Char)
  | 0, _ => none
  | fuel + 1, s =>
    match skipSpace s with
    | 'n' :: 'u' :: 'l' :: 'l' :: rest => some (.null, rest)
    | 't' :: 'r' :: 'u' :: 'e' :: rest => some (.bool true, rest)
    | 'f' :: 'a' :: 'l' :: 's' :: 'e' :: rest => some (.bool false, rest)
    | '"' :: rest => (readString? rest).map fun (s, rest) => (.string s, rest)
    | '-' :: rest => (readNumber? true rest).map fun (n, rest) => (.number n, rest)
    | '[' :: rest =>
      match skipSpace rest with
      | ']' :: rest => some (.array [], rest)
      | rest => (readItems? fuel rest).map fun (items, rest) => (.array items, rest)
    | '{' :: rest =>
      match skipSpace rest with
      | '}' :: rest => some (.object [], rest)
      | rest => (readFields? fuel rest).map fun (fields, rest) => (.object fields, rest)
    | rest => (readNumber? false rest).map fun (n, rest) => (.number n, rest)

/-- Reads the items of an array, at least one, and the bracket that closes it. -/
def readItems? : (fuel : Nat) → List Char → Option (List Raw × List Char)
  | 0, _ => none
  | fuel + 1, s =>
    match readValue? fuel s with
    | none => none
    | some (item, rest) =>
      match skipSpace rest with
      | ']' :: rest => some ([item], rest)
      | ',' :: rest =>
        match readItems? fuel rest with
        | some (items, rest) => some (item :: items, rest)
        | none => none
      | _ => none

/-- Reads the fields of an object, at least one, and the brace that closes it. -/
def readFields? : (fuel : Nat) → List Char → Option (List (List Piece × Raw) × List Char)
  | 0, _ => none
  | fuel + 1, s =>
    match skipSpace s with
    | '"' :: rest =>
      match readString? rest with
      | none => none
      | some (name, rest) =>
        match skipSpace rest with
        | ':' :: rest =>
          match readValue? fuel rest with
          | none => none
          | some (value, rest) =>
            match skipSpace rest with
            | '}' :: rest => some ([(name, value)], rest)
            | ',' :: rest =>
              match readFields? fuel rest with
              | some (fields, rest) => some ((name, value) :: fields, rest)
              | none => none
            | _ => none
        | _ => none
    | _ => none

end

/-- Reads a text that is one value with blanks around it. -/
def read? (s : List Char) : Option Raw :=
  match readValue? (2 * s.length + 2) s with
  | some (value, rest) => if (skipSpace rest).isEmpty then some value else none
  | none => none

end Raw

end PhraseFilter.Json
