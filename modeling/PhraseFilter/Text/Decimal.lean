/-!
# Decimal numbers

* `decimalValue`: the number that digits stand for.
* `readDecimal?`: reads a text of one or more ASCII digits.
* `readWord64?`: reads an unsigned 64-bit number.
-/

namespace PhraseFilter.Text

/-- The number that ASCII digits stand for. -/
def decimalValue (digits : List Char) : Nat :=
  digits.foldl (fun n c => n * 10 + (c.toNat - '0'.toNat)) 0

def readDecimal? (s : List Char) : Option Nat :=
  if s.isEmpty || !s.all Char.isDigit then none else some (decimalValue s)

/-- The number that ASCII digits stand for, if there is at least one and it fits into 64 bits. -/
def readWord64? (s : List Char) : Option UInt64 :=
  (readDecimal? s).bind fun n => if n < UInt64.size then some (UInt64.ofNat n) else none

end PhraseFilter.Text
