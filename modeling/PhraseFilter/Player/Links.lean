import PhraseFilter.Player.Account
import PhraseFilter.Text.Lower

/-!
# Linked accounts

Names, and users of the chat by their number, are linked to accounts. Names that agree in lower case are
one name. One reference may be set for the player who is meant when none is given.
-/

namespace PhraseFilter

structure Links where
  /-- The names in lower case, each once, with their accounts. -/
  accounts : List (String × AccountId) := []
  /-- The reference that is used when none is given. -/
  defaultPlayer : Option String := none
  deriving Repr, DecidableEq

namespace Links

/-- Sets the account of a name that is given in lower case. -/
def put (name : String) (id : AccountId) : List (String × AccountId) → List (String × AccountId)
  | [] => [(name, id)]
  | (other, old) :: rest =>
    if name = other then (name, id) :: rest else (other, old) :: put name id rest

/-- Links a name to an account, which is given by either of its numbers. -/
def link (l : Links) (name : String) (id : UInt64) : Links :=
  { l with accounts := put (Text.lower name) (.ofAny id) l.accounts }

/-- The links of a table of names and numbers, later ones replacing earlier ones. -/
def ofTable (table : List (String × UInt64)) (defaultPlayer : Option String) : Links :=
  table.foldl (fun l (name, id) => l.link name id) { defaultPlayer }

/-- The links with another reference for the player who is meant when none is given. -/
def withDefaultPlayer (l : Links) (reference : String) : Links :=
  { l with defaultPlayer := some reference }

def lookup (l : Links) (name : String) : Option AccountId :=
  let name := Text.lower name
  (l.accounts.find? (·.1 == name)).map (·.2)

def size (l : Links) : Nat := l.accounts.length

def isEmpty (l : Links) : Bool := l.accounts.isEmpty

end Links

end PhraseFilter
