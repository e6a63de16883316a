/-!
# TOML values

The values of a TOML document. Numbers with a fraction and dates are kept as they are written, since
nothing in this project looks into them.
-/

namespace PhraseFilter

inductive Toml
  | string (s : String)
  | integer (n : Int)
  /-- A number with a fraction or an exponent, infinity, or no number. -/
  | float (text : String)
  | bool (b : Bool)
  | datetime (text : String)
  | array (items : List Toml)
  | table (entries : List (String × Toml))
  deriving Repr, Inhabited

def Toml.lookup (key : String) (entries : List (String × Toml)) : Option Toml :=
  (entries.find? (·.1 == key)).map (·.2)

end PhraseFilter
