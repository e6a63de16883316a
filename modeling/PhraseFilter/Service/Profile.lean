import PhraseFilter.Json.Decode
import PhraseFilter.Player.Account

/-!
# Player profiles

The service describes a player by an object whose field `profile` holds the profile or null. An object
may come as an array of its fields in order as well. Fields that are not looked at may hold anything that
is JSON, and a field that is looked at must not come twice.

* `Profile.readBody?`: the profile in the body of an answer, if the body can be read.
-/

namespace PhraseFilter

open Json

structure Profile where
  accountId : AccountId
  name : Option String
  picture : Option String
  deriving Repr, DecidableEq

namespace Profile

/-- The values of the fields with a name. -/
def fieldsNamed? (name : String) : List (List Piece × Raw) → Option (List Raw)
  | [] => some []
  | (key, value) :: rest =>
    match decodeString? key, fieldsNamed? name rest with
    | some key, some rest => some (if key = name then value :: rest else rest)
    | _, _ => none

/-- The value of a field that may be missing, but must not come twice. -/
def field? (name : String) (fields : List (List Piece × Raw)) : Option (Option Raw) :=
  match fieldsNamed? name fields with
  | some [] => some none
  | some [value] => some (some value)
  | _ => none

def readId? : Raw → Option AccountId
  | .number n => (n.value?.bind Json.unsigned?).map UInt64.ofNat
  | _ => none

def readText? : Raw → Option (Option String)
  | .null => some none
  | .string s => (decodeString? s).map some
  | _ => none

/-- Reads a text that may be missing or null. -/
def readOptional? : Option Raw → Option (Option String)
  | none => some none
  | some r => readText? r

def ofParts? (id : Raw) (name picture : Option Raw) : Option Profile :=
  match readId? id, readOptional? name, readOptional? picture with
  | some id, some name, some picture => some ⟨id, name, picture⟩
  | _, _, _ => none

def read? : Raw → Option Profile
  | .object fields =>
    match field? "account_id" fields, field? "personaname" fields, field? "avatarfull" fields with
    | some (some id), some name, some picture => ofParts? id name picture
    | _, _, _ => none
  | .array [id, name] => ofParts? id (some name) none
  | .array [id, name, picture] => ofParts? id (some name) (some picture)
  | _ => none

/-- Reads a profile that may be null. -/
def readNullable? : Raw → Option (Option Profile)
  | .null => some none
  | r => (read? r).map some

def readPlayer? : Raw → Option (Option Profile)
  | .object fields =>
    match field? "profile" fields with
    | some none => some none
    | some (some r) => readNullable? r
    | none => none
  | .array [r] => readNullable? r
  | _ => none

/-- The profile in the body of an answer. -/
def readBody? (body : String) : Option (Option Profile) := (Raw.read? body.toList).bind readPlayer?

end Profile

end PhraseFilter
