/-!
# Binary floating point numbers

A finite number of the 64-bit format is a sign, a mantissa below `2 ^ 53` and an exponent, and its size
is `mantissa * 2 ^ exponent`. The mantissa is at least `2 ^ 52` unless the exponent is the least one, so
that a size has one form only. All arithmetic is on natural numbers.

* `nearest?`: the number nearest to a quotient, a tie going to the even mantissa.
* `scaled?`: a whole number times a power of ten, in one rounded product or a chain of quotients.
-/

namespace PhraseFilter

/-- The size of a finite 64-bit floating point number: `mantissa * 2 ^ exponent`. -/
structure Magnitude where
  mantissa : Nat
  exponent : Int
  deriving Repr, DecidableEq, Inhabited

/-- A finite 64-bit floating point number. The two zeros differ. -/
structure Binary64 where
  negative : Bool
  magnitude : Magnitude
  deriving Repr, DecidableEq, Inhabited

def Binary64.isZero (x : Binary64) : Bool := x.magnitude.mantissa == 0

namespace Magnitude

def minExponent : Int := -1074

def maxExponent : Int := 971

/-- The least mantissa at exponents above the least one: 2 to the power of 52. -/
def leastNormal : Nat := 4503599627370496

def zero : Magnitude := ⟨0, minExponent⟩

/-- The whole number nearest to a quotient, a tie going to the even one. -/
def roundHalfEven (num den : Nat) : Nat :=
  let q := num / den
  let r := 2 * (num % den)
  if r < den then q else if den < r then q + 1 else q + q % 2

/-- The quotient of `num / den` and `2 ^ e`, as numerator and denominator. -/
def unscale (num den : Nat) (e : Int) : Nat × Nat :=
  match e with
  | .ofNat k => (num, den * Nat.pow 2 k)
  | .negSucc k => (num * Nat.pow 2 (k + 1), den)

/-- The exponent at which a nonzero quotient has 53 binary digits, or the least exponent. -/
def exponentFor (num den : Nat) : Int :=
  let e : Int := num.log2 - den.log2 - 52
  let (n, d) := unscale num den e
  let e := if n / d < leastNormal then e - 1 else e
  max e minExponent

/-- The size nearest to `num / den`; `none` if it is too large. -/
def nearest? (num den : Nat) : Option Magnitude :=
  if num = 0 then some zero
  else
    let e := exponentFor num den
    let (n, d) := unscale num den e
    let m := roundHalfEven n d
    let (m, e) := if m = 2 * leastNormal then (leastNormal, e + 1) else (m, e)
    if maxExponent < e then none else some ⟨m, e⟩

def toFraction (x : Magnitude) : Nat × Nat :=
  match x.exponent with
  | .ofNat k => (x.mantissa * Nat.pow 2 k, 1)
  | .negSucc k => (x.mantissa, Nat.pow 2 (k + 1))

def mul? (x y : Magnitude) : Option Magnitude :=
  let (a, b) := x.toFraction
  let (c, d) := y.toFraction
  nearest? (a * c) (b * d)

def div? (x y : Magnitude) : Option Magnitude :=
  let (a, b) := x.toFraction
  let (c, d) := y.toFraction
  nearest? (a * d) (b * c)

/-- The greatest power of ten that is used in one step. -/
def maxPower : Nat := 308

/-- The size nearest to a power of ten up to `10 ^ maxPower`. -/
def tenTo? (k : Nat) : Option Magnitude := nearest? (Nat.pow 10 k) 1

/-- Divides by `10 ^ k`, as often as needed by the greatest power first. A quotient of zero stays
zero, which ends the chain early. -/
def divTenTo? (x : Magnitude) : (steps : Nat) → (k : Nat) → Option Magnitude
  | 0, k => (tenTo? k).bind x.div?
  | steps + 1, k =>
    if k ≤ maxPower then (tenTo? k).bind x.div?
    else if x.mantissa = 0 then some x
    else match (tenTo? maxPower).bind x.div? with
      | some y => divTenTo? y steps (k - maxPower)
      | none => none

/-- The whole number `n` times `10 ^ k`, each step rounded; `none` if it is too large. -/
def scaled? (n : Nat) (k : Int) : Option Magnitude :=
  match nearest? n 1, k with
  | none, _ => none
  | some x, .ofNat k =>
    if k ≤ maxPower then (tenTo? k).bind x.mul?
    else if x.mantissa = 0 then some x else none
  | some x, .negSucc k => if x.mantissa = 0 then some x else divTenTo? x (k / maxPower + 1) (k + 1)

end Magnitude

end PhraseFilter
