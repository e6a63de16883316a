import PhraseFilter.Binary64.Basic

/-!
# JSON values

A number is a whole number or a floating point number, and the two kinds stay apart. The fields of an
object are kept in the order of their names, each name once.

* `Json.insert`: puts a field into a list of fields, in place of one of the same name.
* `Json.unsigned?`, `Json.signed?`: whole numbers of the two 64-bit ranges.
* `Json.isTruthy`: a value that is neither null, false, zero nor empty.
-/

namespace PhraseFilter

inductive Json
  | null
  | bool (b : Bool)
  | whole (n : Int)
  | real (x : Binary64)
  | string (s : String)
  | array (items : List Json)
  | object (fields : List (String × Json))
  deriving Repr, Inhabited

namespace Json

def minSigned : Int := -9223372036854775808

def maxSigned : Int := 9223372036854775807

def maxUnsigned : Int := 18446744073709551615

def unsigned? : Json → Option Nat
  | .whole n => if 0 ≤ n ∧ n ≤ maxUnsigned then some n.toNat else none
  | _ => none

def signed? : Json → Option Int
  | .whole n => if minSigned ≤ n ∧ n ≤ maxSigned then some n else none
  | _ => none

def bool? : Json → Option Bool
  | .bool b => some b
  | _ => none

def string? : Json → Option String
  | .string s => some s
  | _ => none

/-- Puts a field into a list of fields that is sorted by name; a field of the same name gives way. -/
def insert (name : String) (value : Json) : List (String × Json) → List (String × Json)
  | [] => [(name, value)]
  | (key, old) :: rest =>
    if name = key then (name, value) :: rest
    else if name < key then (name, value) :: (key, old) :: rest
    else (key, old) :: insert name value rest

/-- The fields of an object given in any order; the last one of each name stays. -/
def sortFields (fields : List (String × Json)) : List (String × Json) :=
  fields.foldl (fun sorted (name, value) => insert name value sorted) []

def ofFields (fields : List (String × Json)) : Json := .object (sortFields fields)

def lookup (name : String) (fields : List (String × Json)) : Option Json :=
  (fields.find? (·.1 == name)).map (·.2)

/-- A value counts as true unless it is null, false, a zero or empty. -/
def isTruthy : Json → Bool
  | .null => false
  | .bool b => b
  | .whole n => n != 0
  | .real x => !x.isZero
  | .string s => !s.isEmpty
  | .array items => !items.isEmpty
  | .object fields => !fields.isEmpty

end Json

end PhraseFilter
