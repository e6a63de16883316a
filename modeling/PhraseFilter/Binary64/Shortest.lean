import PhraseFilter.Binary64.Basic

/-!
# The shortest decimal text of a floating point number

Among the decimal numbers that are nearer to a given number than to any other of the format, the text
has one with the fewest digits, and of those the nearest one.

* `Magnitude.isNearest`: does a decimal number read back as the given one?
* `Magnitude.shortest`: the digits and the place of the last one.
* `Binary64.toText`: the text. It is positional when the decimal point falls among or next to the
  digits and has an exponent otherwise.
-/

namespace PhraseFilter

/-- A decimal number, `digits * 10 ^ place`. -/
structure Decimal where
  digits : Nat
  place : Int
  deriving Repr, DecidableEq

namespace Decimal

def toFraction (d : Decimal) : Nat × Nat :=
  match d.place with
  | .ofNat k => (d.digits * Nat.pow 10 k, 1)
  | .negSucc k => (d.digits, Nat.pow 10 (k + 1))

/-- Drops up to `fuel` zeros at the end of the digits. -/
def dropZeros : (fuel : Nat) → Decimal → Decimal
  | 0, d => d
  | fuel + 1, d =>
    if d.digits % 10 = 0 then dropZeros fuel ⟨d.digits / 10, d.place + 1⟩ else d

end Decimal

namespace Magnitude

/-- The two ends of the interval of numbers that read back as `x`, in quarters of its last place. -/
def interval (x : Magnitude) : Nat × Nat :=
  let low := if x.mantissa = leastNormal ∧ minExponent < x.exponent then 1 else 2
  (4 * x.mantissa - low, 4 * x.mantissa + 2)

/-- Does the decimal number read back as `x`? The ends of the interval do when the mantissa is even. -/
def isNearest (x : Magnitude) (d : Decimal) : Bool :=
  let (a, b) := d.toFraction
  let (n, m) := unscale a b (x.exponent - 2)
  let (low, high) := x.interval
  if x.mantissa % 2 = 0 then low * m ≤ n && n ≤ high * m else low * m < n && n < high * m

/-- The distance of a decimal number from `x`, as a quotient whose denominator depends on the place of
the decimal number only. -/
def distance (x : Magnitude) (d : Decimal) : Nat :=
  let (a, b) := d.toFraction
  let (n, m) := x.toFraction
  ((a * m : Nat) - (n * b : Nat) : Int).natAbs

/-- The candidates with the last digit at `place`: the multiples of `10 ^ place` next to `x`. -/
def neighbours (x : Magnitude) (place : Int) : Decimal × Decimal :=
  let (a, b) := x.toFraction
  let below :=
    match place with
    | .ofNat k => a / (b * Nat.pow 10 k)
    | .negSucc k => a * Nat.pow 10 (k + 1) / b
  (⟨below, place⟩, ⟨below + 1, place⟩)

/-- The better one of two candidates that both read back: the nearer, and on a tie the even one. -/
def better (x : Magnitude) (below above : Decimal) : Decimal :=
  let d := x.distance below
  let e := x.distance above
  if d < e then below else if e < d then above
  else if below.digits % 2 = 0 then below else above

/-- The candidate with the last digit at `place`, if one of the two reads back. -/
def candidate? (x : Magnitude) (place : Int) : Option Decimal :=
  let (below, above) := x.neighbours place
  match x.isNearest below && below.digits != 0, x.isNearest above with
  | true, true => some (x.better below above)
  | true, false => some below
  | false, true => some above
  | false, false => none

def search (x : Magnitude) : (fuel : Nat) → (place : Int) → Decimal
  | 0, place => (x.neighbours place).1
  | fuel + 1, place =>
    match x.candidate? place with
    | some d => d
    | none => search x fuel (place - 1)

/-- A place that is at or above that of the first digit of a nonzero number. -/
def topPlace (x : Magnitude) : Int :=
  ((x.mantissa.log2 + 1 + x.exponent) * 30103).fdiv 100000 + 1

/-- The shortest decimal number that reads back as `x`, nearest to `x` among the shortest ones. -/
def shortest (x : Magnitude) : Decimal :=
  (x.search 25 x.topPlace).dropZeros 400

end Magnitude

/-- How decimal digits are laid out. -/
structure FloatLayout where
  /-- The greatest number of digits before the point of a positional text. -/
  maxWhole : Int
  /-- The greatest number of zeros between the point and the first digit of a positional text. -/
  maxZeros : Int
  deriving Repr, DecidableEq

def zeros (n : Int) : List Char := List.replicate n.toNat '0'

def FloatLayout.lay (l : FloatLayout) (digits : List Char) (place : Int) : List Char :=
  let point : Int := digits.length + place
  if 0 ≤ place ∧ point ≤ l.maxWhole then digits ++ zeros place ++ ".0".toList
  else if 0 < point ∧ point ≤ l.maxWhole then
    digits.take point.toNat ++ '.' :: digits.drop point.toNat
  else if -l.maxZeros ≤ point ∧ point ≤ 0 then "0.".toList ++ zeros (-point) ++ digits
  else
    let exponent := 'e' :: (toString (point - 1)).toList
    match digits with
    | [d] => d :: exponent
    | digits => digits.take 1 ++ '.' :: digits.drop 1 ++ exponent

/-- Numbers up to sixteen digits before the point, or with up to four zeros after it, are written out;
there is always a digit after the point or an exponent, and the exponent has no plus sign. -/
def FloatLayout.json : FloatLayout := ⟨16, 4⟩

def Binary64.toText (x : Binary64) : List Char :=
  let size :=
    if x.isZero then "0.0".toList
    else
      let d := x.magnitude.shortest
      FloatLayout.json.lay (Nat.toDigits 10 d.digits) d.place
  if x.negative then '-' :: size else size

end PhraseFilter
