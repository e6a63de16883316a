import PhraseFilter.Service.Address
import PhraseFilter.Service.Error
import PhraseFilter.Service.Profile
import PhraseFilter.Record

/-!
# What an answer means

A request ends in an answer with a status and a body, or in no answer at all. `Reply.body` tells failure
from success by the status alone: 429 asks to slow down, any other status outside 200 to 299 is an error
whatever the body says. Only then is the body read.

What makes requests is not part of this library. It tells silence and refusal from all other failures,
and gives its own words for these.
-/

namespace PhraseFilter

/-- How a request ends. -/
inductive Reply
  | answer (status : Nat) (body : String)
  /-- An answer whose body was not received to its end. -/
  | brokenOff (status : Nat) (reason : String)
  | silence
  | refusal
  /-- Any other failure, such as that of an address for which no request can be made. -/
  | failure (reason : String)
  deriving Repr, DecidableEq

namespace Reply

/-- The body of a success, given the status and what receiving the body yields. The text of an error is
empty when its body was not received. -/
def bodyOf (status : Nat) (body : Except String String) : Except ServiceError String :=
  if status = 429 then .error .rateLimited
  else if 200 ≤ status ∧ status < 300 then body.mapError .parse
  else .error (.api status (body.toOption.getD ""))

def body : Reply → Except ServiceError String
  | .answer status body => bodyOf status (.ok body)
  | .brokenOff status reason => bodyOf status (.error reason)
  | .silence => .error .timeout
  | .refusal => .error .unavailable
  | .failure reason => .error (.request reason)

def isRateLimit : Reply → Bool
  | .answer status _ | .brokenOff status _ => status == 429
  | _ => false

def unreadable : ServiceError := .parse "error decoding response body"

def profile (r : Reply) : Except ServiceError (Option Profile) :=
  r.body.bind fun body =>
    match Profile.readBody? body with
    | some p => .ok p
    | none => .error unreadable

/-- The records in a JSON array of objects. -/
def recordsOf? : Json → Option (List Record)
  | .array items => items.mapM Record.ofJson?
  | _ => none

def records (r : Reply) : Except ServiceError (List Record) :=
  r.body.bind fun body =>
    match (Json.read? body).bind recordsOf? with
    | some records => .ok records
    | none => .error unreadable

end Reply

end PhraseFilter
