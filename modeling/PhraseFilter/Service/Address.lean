import PhraseFilter.Player.Account
import PhraseFilter.Text.Split

/-!
# Addresses of requests

The service is asked by address: `{base}/players/{id}` for a profile and
`{base}/players/{id}/matches?{query}` for matches, where the query holds the arguments of a filter, the
fields that records shall have, and the key of the client.

* `Percent.encode`: every byte but the ASCII letters, the digits and `-_.~` is written as a percent sign
  and two hexadecimal digits.
* `Service.playerAddress`, `Service.matchesAddress`: the two addresses.
-/

namespace PhraseFilter

open Text

namespace Percent

def isUnreserved (c : Char) : Bool :=
  c.toNat < 0x80 && (c.isAlphanum || c == '-' || c == '_' || c == '.' || c == '~')

def hexDigit (n : Nat) : Char := (Nat.digitChar (n % 16)).toUpper

/-- A byte as a percent sign and two hexadecimal digits. -/
def encodeByte (b : UInt8) : List Char := ['%', hexDigit (b.toNat / 16), hexDigit b.toNat]

def encodeChar (c : Char) : List Char :=
  if isUnreserved c then [c] else (String.utf8EncodeChar c).flatMap encodeByte

def encode (s : List Char) : List Char := s.flatMap encodeChar

end Percent

/-- What the client knows about the service. -/
structure Service where
  baseUrl : String := "https://api.opendota.com/api"
  apiKey : Option String := none
  /-- How long the client waits for an answer, in milliseconds. -/
  timeoutMs : Nat := 10000
  deriving Repr, DecidableEq

namespace Service

def projectedFields : List String :=
  ["match_id", "player_slot", "radiant_win", "duration", "game_mode", "lobby_type", "hero_id",
    "start_time", "kills", "deaths", "assists", "lane_role", "is_roaming"]

/-- The address that all others begin with, without slashes at its end. -/
def base (s : Service) : List Char :=
  (s.baseUrl.toList.reverse.dropWhile (· == '/')).reverse

/-- The part of an address that names a player. -/
def playerPath (id : AccountId) : List Char := "/players/".toList ++ (toString id.toNat).toList

/-- One argument of a filter, name and value encoded. -/
def encodeArgument (arg : List Char) : List Char :=
  match splitFirst? '=' arg with
  | some (name, value) => Percent.encode name ++ '=' :: Percent.encode value
  | none => Percent.encode arg

def keyArgument (key : String) : List Char := "api_key=".toList ++ Percent.encode key.toList

def arguments (s : Service) (query : String) : List (List Char) :=
  ((splitAll '&' query.toList).filter (!·.isEmpty)).map encodeArgument ++
    projectedFields.map (fun f => "project=".toList ++ f.toList) ++
    (s.apiKey.map keyArgument).toList

def playerAddress (s : Service) (id : AccountId) : String :=
  String.ofList (s.base ++ playerPath id ++
    match s.apiKey with
    | some key => '?' :: keyArgument key
    | none => [])

def matchesAddress (s : Service) (id : AccountId) (query : String) : String :=
  String.ofList (s.base ++ playerPath id ++ "/matches?".toList ++
    ['&'].intercalate (s.arguments query))

end Service

end PhraseFilter
