import PhraseFilter.Json.Basic
import PhraseFilter.Json.Raw

/-!
# From JSON syntax to values

* `Literal.value?`: a literal without fraction or exponent that fits into 64 bits, signed or unsigned, is
  exact. Any other becomes a floating point number: the digits that fit into 64 bits, times a power of
  ten. A negative zero is a floating point number, and a number that is too large is a fault.
* `decodeString?`: two surrogates become one character; a surrogate alone is a fault.
* `ofRaw?`: the value; nesting to `maxDepth` is a fault.
* `Json.read?`: reads a text as a value.
-/

namespace PhraseFilter.Json

/-! ## Strings -/

def isHighSurrogate (n : Nat) : Bool := 0xd800 ≤ n && n < 0xdc00

def isLowSurrogate (n : Nat) : Bool := 0xdc00 ≤ n && n < 0xe000

def decodePieces? : List Piece → Option (List Char)
  | [] => some []
  | .char c :: rest => (decodePieces? rest).map (c :: ·)
  | .codeUnit high :: .codeUnit low :: rest =>
    if isHighSurrogate high then
      if isLowSurrogate low then
        (decodePieces? rest).map
          (Char.ofNat (0x10000 + (high - 0xd800) * 0x400 + (low - 0xdc00)) :: ·)
      else none
    else if isLowSurrogate high then none
    else (decodePieces? (.codeUnit low :: rest)).map (Char.ofNat high :: ·)
  | .codeUnit n :: rest =>
    if isHighSurrogate n || isLowSurrogate n then none
    else (decodePieces? rest).map (Char.ofNat n :: ·)

/-- The string that is written as the given pieces. -/
def decodeString? (s : List Piece) : Option String := (decodePieces? s).map String.ofList

/-! ## Numbers -/

/-- One more than the greatest number that fits into 64 bits. -/
def significandLimit : Nat := 18446744073709551616

def digitValue (c : Char) : Nat := c.toNat - '0'.toNat

/-- Appends digits to `n` while the result fits into 64 bits, and gives the digits that are left. -/
def accumulate (n : Nat) : List Char → Nat × List Char
  | [] => (n, [])
  | c :: rest =>
    let m := n * 10 + digitValue c
    if m < significandLimit then accumulate m rest else (n, c :: rest)

/-- The digits of a literal as a whole number of at most 64 bits and a power of ten. Digits that no
longer fit before the point raise the power, and digits that no longer fit after it are dropped. -/
def significand (n : Literal) : Nat × Int :=
  let (before, excess) := accumulate 0 n.whole
  let fraction := n.fraction.getD []
  let (digits, rest) := accumulate before fraction
  (digits, (excess.length : Int) - ((fraction.length : Int) - rest.length))

/-- The greatest exponent that is told apart from a larger one. -/
def maxExponentValue : Nat := 2147483647

/-- The value of an exponent; `none` if it is out of range. -/
def exponentValue? (digits : List Char) : Option Nat :=
  let n := digits.foldl (fun n c => if n ≤ maxExponentValue then n * 10 + digitValue c else n) 0
  if n ≤ maxExponentValue then some n else none

/-- A sum that stays within the signed 32-bit range. -/
def saturate (n : Int) : Int := max (-2147483648) (min 2147483647 n)

/-- The size of a literal as a floating point number; `none` if it is too large. -/
def magnitude? (n : Literal) : Option Magnitude :=
  let (digits, place) := significand n
  match n.exponent with
  | none => Magnitude.scaled? digits place
  | some (negative, exponent) =>
    match exponentValue? exponent with
    | some e => Magnitude.scaled? digits (saturate (if negative then place - e else place + e))
    | none => if digits ≠ 0 ∧ !negative then none else some .zero

/-- The value of a literal; `none` if it is too large. -/
def Literal.value? (n : Literal) : Option Json :=
  let real := (magnitude? n).map fun m => Json.real ⟨n.negative, m⟩
  match n.fraction, n.exponent, accumulate 0 n.whole with
  | none, none, (m, []) =>
    if n.negative then
      if m = 0 ∨ minSigned.natAbs < m then real else some (.whole (-m))
    else some (.whole m)
  | _, _, _ => real

/-! ## Values -/

/-- The depth of nesting that is refused. -/
def maxDepth : Nat := 128

mutual

/-- The value of a JSON text, where `depth` more levels of nesting are refused. -/
def ofRaw? (depth : Nat) : Raw → Option Json
  | .null => some .null
  | .bool b => some (.bool b)
  | .number n => n.value?
  | .string s => (decodeString? s).map .string
  | .array items => if depth ≤ 1 then none else (ofItems? (depth - 1) items).map .array
  | .object fields => if depth ≤ 1 then none else (ofFields? (depth - 1) fields).map .ofFields

def ofItems? (depth : Nat) : List Raw → Option (List Json)
  | [] => some []
  | item :: rest =>
    match ofRaw? depth item, ofItems? depth rest with
    | some item, some rest => some (item :: rest)
    | _, _ => none

/-- The fields of an object, in the order in which they are written. -/
def ofFields? (depth : Nat) : List (List Piece × Raw) → Option (List (String × Json))
  | [] => some []
  | (name, value) :: rest =>
    match decodeString? name, ofRaw? depth value, ofFields? depth rest with
    | some name, some value, some rest => some ((name, value) :: rest)
    | _, _, _ => none

end

def read? (s : String) : Option Json := (Raw.read? s.toList).bind (ofRaw? maxDepth)

end PhraseFilter.Json
