import PhraseFilter.Filter.Error
import PhraseFilter.Pattern.Reader
import PhraseFilter.Text.Decimal
import PhraseFilter.Text.Lower

/-!
# Time spans

A time span is a phrase such as "last week", "over the past 3 months" or just "year". Its parts stand in
a fixed order, and all but the unit may be missing: "in" or "over"; "the"; "this", "last" or "past"; a
count; a unit, perhaps with an "s".

* `daysPerUnit`: the units and their days.
* `TimeSpan.pattern`: the pattern that finds a time span in a text.
* `TimeSpan.read`: the count and the days of a phrase. The count has to be written in ASCII digits, and
  count and days have to fit into a signed 64-bit number.
-/

namespace PhraseFilter

open Text

def daysPerUnit : List (String × Nat) := [("day", 1), ("week", 7), ("month", 30), ("year", 365)]

/-- The days of a unit, given in any case. -/
def unitDays? (unit : String) : Option Nat :=
  let unit := lower unit
  (daysPerUnit.find? (·.1 == unit)).map (·.2)

structure TimeSpan where
  count : Nat
  unitDays : Nat
  days : Nat
  deriving Repr, DecidableEq

namespace TimeSpan

/-- The greatest number of units or days. -/
def maxDays : Nat := 9223372036854775807

/-- The words that may open a time span, in the order in which they stand: at most one of each row. -/
def openings : List (List String) := [["in ", "over "], ["the "], ["this ", "last ", "past "]]

/-- How the phrases of a time span are written as a pattern. -/
def source : String :=
  "(?:(?:in|over) )?(?:the )?(?:(?:this|last|past) )?(?:(?P<count>\\d+) ?)?(?P<unit>" ++
    "|".intercalate (daysPerUnit.map (·.1)) ++ ")s?"

def pattern : Pattern := (Pattern.readWordBounded? source.toList).getD .empty

structure Parts where
  digits : List Char
  unit : List Char
  deriving Repr, DecidableEq

/-- What follows a word at the start of a text, the case of letters aside. -/
def dropWord? : List Char → List Char → Option (List Char)
  | [], s => some s
  | _ :: _, [] => none
  | c :: word, d :: s => if sameFold c d then dropWord? word s else none

/-- The text without the first of the given words that it starts with. -/
def dropOneOf (words : List String) (s : List Char) : List Char :=
  (words.findSome? fun w => dropWord? w.toList s).getD s

/-- The unit that is the whole of a text, as it is written, an "s" aside. -/
def readUnit? (s : List Char) : Option (List Char) :=
  daysPerUnit.findSome? fun (name, _) =>
    match dropWord? name.toList s with
    | some [] => some s
    | some [c] => if sameFold 's' c then some s.dropLast else none
    | _ => none

/-- The parts of a phrase, if it is a time span. -/
def parts? (phrase : List Char) : Option Parts :=
  let s := openings.foldl (fun s words => dropOneOf words s) phrase
  let digits := s.takeWhile isDigit
  let rest := s.dropWhile isDigit
  let rest :=
    match digits, rest with
    | _ :: _, ' ' :: rest => rest
    | _, rest => rest
  (readUnit? rest).map fun unit => ⟨digits, unit⟩

def countValue? (digits : List Char) : Option Nat :=
  (readDecimal? digits).bind fun n => if n ≤ maxDays then some n else none

def ofCount (unit : String) (unitDays count : Nat) : Except PhraseError TimeSpan :=
  if count * unitDays ≤ maxDays then .ok ⟨count, unitDays, count * unitDays⟩
  else .error (.spanTooLong (toString count) unit)

/-- The time span that a phrase of the clause `label` stands for. -/
def read (label : String) (phrase : List Char) : Except PhraseError TimeSpan :=
  let mismatch := PhraseError.noValue label (String.ofList phrase)
  match parts? phrase with
  | none => .error mismatch
  | some ⟨digits, unit⟩ =>
    let unit := String.ofList unit
    match unitDays? unit with
    | none => .error mismatch
    | some days =>
      if digits.isEmpty then ofCount (lower unit) days 1
      else match countValue? digits with
        | some count => ofCount (lower unit) days count
        | none => .error (.spanTooLong (String.ofList digits) (lower unit))

end TimeSpan

end PhraseFilter
