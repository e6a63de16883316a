import PhraseFilter.Binary64.Basic
import PhraseFilter.Toml.Basic
import PhraseFilter.Toml.Text

/-!
# Numbers and dates of TOML

* `readNumber?`: a date, a time, a number with a fraction or an exponent, or a whole number, as the first
  characters tell. Whole numbers have to fit into a signed 64-bit number, and other numbers must not be
  too large for a floating point number. Days have to exist.
-/

namespace PhraseFilter.Toml

open Text

/-! ## Digits -/

/-- Reads digits of a kind, where single underscores may stand between them. Gives the digits. -/
def readDigits? (isDigit : Char → Bool) : List Char → Read (List Char)
  | [] => none
  | [c] => if isDigit c then some ([c], []) else none
  | c :: '_' :: rest =>
    if isDigit c then (readDigits? isDigit rest).map fun (digits, rest) => (c :: digits, rest) else none
  | c :: d :: rest =>
    if isDigit c then
      if isDigit d then
        (readDigits? isDigit (d :: rest)).map fun (digits, rest) => (c :: digits, rest)
      else some ([c], d :: rest)
    else none

/-- Reads the digits before the point: a zero alone, or digits that begin with another one. -/
def readWhole? : List Char → Read (List Char)
  | '0' :: rest => some (['0'], rest)
  | s => readDigits? Char.isDigit s

/-- Reads a sign, if there is one: is it a minus? -/
def readSign : List Char → Bool × List Char
  | '-' :: rest => (true, rest)
  | '+' :: rest => (false, rest)
  | s => (false, s)

def digitsValue (base : Nat) (digits : List Char) : Nat :=
  digits.foldl (fun n c => n * base + ((hexValue? [c]).getD 0)) 0

/-- The size of the least signed 64-bit number: 2 to the power of 63. -/
def halfWord : Nat := 9223372036854775808

/-- The value of a whole number, if it fits into a signed 64-bit number. -/
def integerOf? (negative : Bool) (n : Nat) : Option Toml :=
  if negative then (if n ≤ halfWord then some (.integer (-n)) else none)
  else if n < halfWord then some (.integer n) else none

/-- Reads a whole number that is not decimal, after its two characters for the base. -/
def readBased? (base : Nat) (s : List Char) : Read Toml :=
  match readDigits? (fun c => (hexValue? [c]).any (· < base)) s with
  | some (digits, rest) => (integerOf? false (digitsValue base digits)).map fun n => (n, rest)
  | none => none

/-! ## Numbers with a fraction or an exponent -/

/-- Reads an exponent after its letter: is it negative, and its digits. -/
def readExponent? (s : List Char) : Read (Bool × List Char) :=
  let (negative, s) := readSign s
  (readDigits? Char.isDigit s).map fun (digits, rest) => ((negative, digits), rest)

def fits (digits : List Char) (place : Int) : Bool :=
  let digits := digits.dropWhile (· == '0')
  let top : Int := digits.length + place
  if digits.isEmpty || top ≤ 300 then true
  else if 320 ≤ top then false
  else
    let n := digitsValue 10 digits
    match place with
    | .ofNat k => (Magnitude.nearest? (n * Nat.pow 10 k) 1).isSome
    | .negSucc k => (Magnitude.nearest? n (Nat.pow 10 (k + 1))).isSome

/-- Reads what follows the digits before the point: a fraction, an exponent, or both. Gives the digits
after the point and the exponent. -/
def readFloatRest? : List Char → Read (List Char × Int)
  | '.' :: s =>
    match readDigits? Char.isDigit s with
    | none => none
    | some (fraction, rest) =>
      match rest with
      | c :: s =>
        if c == 'e' || c == 'E' then
          (readExponent? s).map fun ((negative, digits), rest) =>
            let e : Int := digitsValue 10 digits
            ((fraction, if negative then -e else e), rest)
        else some ((fraction, 0), rest)
      | [] => some ((fraction, 0), [])
  | _ :: s =>
    (readExponent? s).map fun ((negative, digits), rest) =>
      let e : Int := digitsValue 10 digits
      (([], if negative then -e else e), rest)
  | [] => none

/-- Do the digits before the point end in a fraction or an exponent? -/
def isFloatRest : List Char → Bool
  | '.' :: _ => true
  | 'e' :: _ => true
  | 'E' :: _ => true
  | _ => false

def readDecimal? (s : List Char) : Read Toml :=
  let (negative, t) := readSign s
  match t with
  | 'i' :: 'n' :: 'f' :: rest => some (.float "inf", rest)
  | 'n' :: 'a' :: 'n' :: rest => some (.float "nan", rest)
  | t =>
    match readWhole? t with
    | none => none
    | some (digits, rest) =>
      if isFloatRest rest then
        match readFloatRest? rest with
        | none => none
        | some ((fraction, exponent), rest) =>
          if negative || fits (digits ++ fraction) (exponent - fraction.length) then
            some (.float (String.ofList (s.take (s.length - rest.length))), rest)
          else none
      else (integerOf? negative (digitsValue 10 digits)).map fun n => (n, rest)

/-! ## Dates and times -/

/-- Reads `width` digits as a number between two bounds. -/
def readField? (width least most : Nat) (s : List Char) : Read Nat :=
  let digits := s.take width
  let n := digitsValue 10 digits
  if digits.length = width ∧ digits.all Char.isDigit ∧ least ≤ n ∧ n ≤ most then
    some (n, s.drop width)
  else none

def daysOfMonth (year month : Nat) : Nat :=
  if month = 2 then
    if year % 4 = 0 ∧ (year % 100 ≠ 0 ∨ year % 400 = 0) then 29 else 28
  else if month = 4 ∨ month = 6 ∨ month = 9 ∨ month = 11 then 30 else 31

def dropDate? (s : List Char) : Option (List Char) :=
  match readField? 4 0 9999 s with
  | some (year, '-' :: rest) =>
    match readField? 2 1 12 rest with
    | some (month, '-' :: rest) =>
      (readField? 2 1 (daysOfMonth year month) rest).map (·.2)
    | _ => none
  | _ => none

/-- What follows the fraction of a second, if there is one. -/
def dropSecondFraction (s : List Char) : List Char :=
  match s with
  | '.' :: c :: rest => if c.isDigit then rest.dropWhile Char.isDigit else s
  | s => s

def dropTime? (s : List Char) : Option (List Char) :=
  match readField? 2 0 23 s with
  | some (_, ':' :: rest) =>
    match readField? 2 0 59 rest with
    | some (_, ':' :: rest) => (readField? 2 0 60 rest).map fun (_, rest) => dropSecondFraction rest
    | _ => none
  | _ => none

/-- What follows the offset from universal time, if there is one. -/
def dropOffset? (s : List Char) : Option (List Char) :=
  match s with
  | c :: rest =>
    if c == 'Z' || c == 'z' then some rest
    else if c == '+' || c == '-' then
      match readField? 2 0 23 rest with
      | some (_, ':' :: rest) => (readField? 2 0 59 rest).map (·.2)
      | _ => none
    else some s
  | [] => some []

def startsTime (s : List Char) : Bool :=
  match readField? 2 0 23 s with
  | some (_, ':' :: _) => true
  | _ => false

/-- What follows the time of day after a date, if there is one. -/
def dropTimeOfDate? (s : List Char) : Option (List Char) :=
  match s with
  | c :: rest =>
    if (c == 'T' || c == 't' || c == ' ') && startsTime rest then (dropTime? rest).bind dropOffset?
    else some s
  | [] => some []

def startsDate (s : List Char) : Bool :=
  match readField? 4 0 9999 s with
  | some (_, '-' :: _) => true
  | _ => false

/-- Reads a number, a date or a time. -/
def readNumber? (s : List Char) : Read Toml :=
  let datetime (rest : List Char) : Toml × List Char :=
    (.datetime (String.ofList (s.take (s.length - rest.length))), rest)
  if startsDate s then ((dropDate? s).bind dropTimeOfDate?).map datetime
  else if startsTime s then (dropTime? s).map datetime
  else match s with
    | '0' :: 'x' :: rest => readBased? 16 rest
    | '0' :: 'o' :: rest => readBased? 8 rest
    | '0' :: 'b' :: rest => readBased? 2 rest
    | s => readDecimal? s

end PhraseFilter.Toml
