import PhraseFilter.Player.Links
import PhraseFilter.Service.Address

/-!
# Settings

What a user can set: the player who is meant when none is given, how the service is asked, what is
logged, and the linked accounts. Everything has a default.
-/

namespace PhraseFilter

structure ServiceSettings where
  baseUrl : String := "https://api.opendota.com/api"
  apiKey : Option String := none
  /-- How long the client waits for an answer, in seconds. -/
  timeoutSecs : UInt64 := 10
  deriving Repr, DecidableEq

structure LogSettings where
  level : String := "warn"
  format : String := "pretty"
  deriving Repr, DecidableEq

structure Settings where
  /-- The reference of the player who is meant when none is given. -/
  defaultPlayer : Option String := none
  service : ServiceSettings := {}
  log : LogSettings := {}
  /-- Names and the accounts that they are linked to. -/
  accounts : List (String × UInt64) := []
  deriving Repr, DecidableEq

namespace ServiceSettings

def millisPerSecond : Nat := 1000

/-- The client's view of the service, if the time that it waits has less than 2 ^ 64 milliseconds. -/
def toService? (s : ServiceSettings) : Option Service :=
  let timeoutMs := s.timeoutSecs.toNat * millisPerSecond
  if timeoutMs < UInt64.size then some ⟨s.baseUrl, s.apiKey, timeoutMs⟩ else none

end ServiceSettings

namespace Settings

def links (s : Settings) : Links := Links.ofTable s.accounts s.defaultPlayer

end Settings

end PhraseFilter
