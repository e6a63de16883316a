import PhraseFilter.Value

/-!
# Match records

A match comes as a JSON object whose fields are not known beforehand. Checks look at single fields.
-/

namespace PhraseFilter

/-- The fields of a match. -/
structure Record where
  fields : List (String × Json)
  deriving Repr, Inhabited

namespace Record

def get? (r : Record) (field : String) : Option Json := Json.lookup field r.fields

/-- Does the field hold a value that counts as true? A missing field does not. -/
def isTruthy (r : Record) (field : String) : Bool := (r.get? field).any Json.isTruthy

/-- Does the field hold the given value? A missing field does not. -/
def holds (r : Record) (field : String) (v : Value) : Bool := (r.get? field).any v.matchesJson

def toJson (r : Record) : Json := .object r.fields

def ofJson? : Json → Option Record
  | .object fields => some ⟨fields⟩
  | _ => none

end Record

end PhraseFilter
