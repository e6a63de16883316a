import PhraseFilter.Json.Basic

/-!
# Clause values

A clause stands for a whole number, a truth value or a text. `Value.matchesJson` compares a value with
one field of a record: a whole number with the same whole number, a text with the same string, and a
truth value with the same truth value or with `1` and `0`.
-/

namespace PhraseFilter

inductive Value
  | int (n : Int)
  | bool (b : Bool)
  | text (s : String)
  deriving Repr, DecidableEq, Inhabited

namespace Value

def toText : Value → String
  | .int n => toString n
  | .bool true => "true"
  | .bool false => "false"
  | .text s => s

def toJson : Value → Json
  | .int n => .whole n
  | .bool b => .bool b
  | .text s => .string s

/-- The value that a JSON value stands for: a signed 64-bit number, a truth value or a string. -/
def ofJson? : Json → Option Value
  | .whole n => ((Json.whole n).signed?).map .int
  | .bool b => some (.bool b)
  | .string s => some (.text s)
  | _ => none

/-- Does a JSON value hold this value? -/
def matchesJson (v : Value) (j : Json) : Bool :=
  match v, j with
  | .int n, .whole m => (Json.whole m).signed? == some n
  | .bool b, .bool c => b == c
  | .bool b, .whole m => m == if b then 1 else 0
  | .text s, .string t => s == t
  | _, _ => false

end Value

end PhraseFilter
