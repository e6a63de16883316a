import PhraseFilter.Filter.Basic
import PhraseFilter.Json.Writer
import PhraseFilter.Player.Reference
import PhraseFilter.Text.Quoted

/-!
# What is logged

An `Event` is something worth telling about a run. It has a level, a target, which names the part of the
program that it comes from, and fields, one of which is the message.

* `Event.ofReading`: the events of reading a phrase.
* `Event.toJson`: an event as JSON.
* `Event.toLine`: the line of an event in the log.
-/

namespace PhraseFilter

inductive Level
  | error
  | warn
  | info
  | debug
  | trace
  deriving Repr, DecidableEq

namespace Level

/-- The number of a level; less important levels have greater numbers. -/
def number : Level → Nat
  | .error => 1
  | .warn => 2
  | .info => 3
  | .debug => 4
  | .trace => 5

def name : Level → String
  | .error => "ERROR"
  | .warn => "WARN"
  | .info => "INFO"
  | .debug => "DEBUG"
  | .trace => "TRACE"

end Level

inductive LogFormat
  | json
  | pretty
  deriving Repr, DecidableEq

/-- The format with a name; every name but `json` stands for words. -/
def LogFormat.ofName (s : String) : LogFormat := if s = "json" then .json else .pretty

inductive Event
  | filterBroken (e : PhraseError)
  | clauseResolved (label : String) (phrase : List Char) (value : Value)
  /-- A text was refused for the words that are left of it. -/
  | textRejected (words : String)
  | recordsChecked (total kept : Nat)
  | playerSought (r : Reference)
  | playerFound (id : AccountId) (mention : String)
  | serviceAsked (address : String)
  | rateLimitHit
  | recordsFetched (id : AccountId) (count : Nat)
  deriving Repr, DecidableEq

namespace Event

def level : Event → Level
  | .filterBroken _ => .error
  | .playerFound _ _ => .info
  | .rateLimitHit => .warn
  | _ => .debug

/-- The part of the program that the event comes from. -/
def target : Event → String
  | .clauseResolved _ _ _ | .textRejected _ | .recordsChecked _ _ => "dotafilter::filter::matcher"
  | .playerSought _ => "dotafilter::player"
  | .filterBroken _ | .playerFound _ _ => "dotafilter"
  | .serviceAsked _ | .rateLimitHit | .recordsFetched _ _ => "dotafilter::opendota::client"

def message : Event → String
  | .filterBroken e => "Filter definition is broken: " ++ e.message
  | .clauseResolved _ _ _ => "Resolved clause"
  | .textRejected _ => "Rejected filter text"
  | .recordsChecked _ _ => "Applied post-filters"
  | .playerSought _ => "Resolving player"
  | .playerFound _ mention => "Resolved player " ++ mention
  | .serviceAsked _ => "OpenDota request"
  | .rateLimitHit => "OpenDota rate limit hit"
  | .recordsFetched _ _ => "Fetched matches"

def referenceText : Reference → String
  | .account id => "AccountId(" ++ toString id.toNat ++ ")"
  | .mention user => "Mention(" ++ toString user.toNat ++ ")"
  | .name name => "Name(" ++ Text.quoted name ++ ")"

def details : Event → List (String × Json)
  | .clauseResolved label phrase value =>
    [("clause", .string label), ("matched", .string (String.ofList (Text.trim phrase))),
      ("value", .string value.toText)]
  | .textRejected words => [("residue", .string words)]
  | .recordsChecked total kept => [("total", .whole total), ("kept", .whole kept)]
  | .playerSought r => [("player_ref", .string (referenceText r))]
  | .playerFound id _ => [("steam_id", .whole id.toNat)]
  | .serviceAsked address => [("url", .string address)]
  | .filterBroken _ | .rateLimitHit => []
  | .recordsFetched id count => [("account_id", .whole id.toNat), ("count", .whole count)]

def toJson (e : Event) : Json :=
  Json.ofFields [("level", .string e.level.name), ("target", .string e.target),
    ("fields", Json.ofFields (("message", .string e.message) :: e.details))]

/-- A field in a line for people. -/
def fieldText (name : String) : Json → String
  | .string s => name ++ "=" ++ s
  | v => name ++ "=" ++ String.ofList v.compact

def toLine (e : Event) : LogFormat → String
  | .json => String.ofList e.toJson.compact ++ "\n"
  | .pretty =>
    " ".intercalate ((e.level.name :: (e.target ++ ":") :: e.message ::
      e.details.map fun (name, value) => fieldText name value)) ++ "\n"

/-- The event of what a clause found, if it took a phrase. -/
def ofFinding? (f : Finding) : Option Event :=
  match f.phrase, f.value with
  | some phrase, some value => some (.clauseResolved f.clause.label phrase value)
  | _, _ => none

/-- The events of reading a phrase, given what the clauses found and what is left. -/
def ofReading (found : List Finding) (left : Except PhraseError Scan) : List Event :=
  found.filterMap ofFinding? ++
    match left with
    | .ok s => if s.isExhausted then [] else [.textRejected (String.ofList s.remaining)]
    | .error _ => []

end Event

end PhraseFilter
