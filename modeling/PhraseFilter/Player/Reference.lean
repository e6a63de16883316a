import PhraseFilter.Player.Account
import PhraseFilter.Text.Alphabetic
import PhraseFilter.Text.Blank
import PhraseFilter.Text.Decimal
import PhraseFilter.Text.Split

/-!
# References to players

A player is pointed at in one of these ways, blanks at both ends aside:

* `86745912` or `76561198047011640`: the number of an account;
* `<@1234>` or `<@!1234>`: a mention of a user of the chat;
* `https://www.opendota.com/players/86745912`, also on `dotabuff.com`: a profile page;
* `steamcommunity.com/profiles/76561198047011640`: the same on another service;
* `@name` or `name`: the name of a linked account.

The scheme and `www.` of an address may be missing, its host may be in any case, and a path may follow
the number. `Reference.read?` reads a reference.
-/

namespace PhraseFilter

open Text

inductive Reference
  | account (id : AccountId)
  | mention (user : UInt64)
  | name (name : String)
  deriving Repr, DecidableEq

namespace Reference

/-- The digits at the start of a text as a number, and what follows them. -/
def readNumber? (s : List Char) : Option (UInt64 × List Char) :=
  (readWord64? (s.takeWhile Char.isDigit)).map fun n => (n, s.dropWhile Char.isDigit)

def readMention? (s : List Char) : Option Reference :=
  match dropPrefix? "<@".toList s with
  | none => none
  | some s =>
    let s :=
      match s with
      | '!' :: s => s
      | s => s
    match readNumber? s with
    | some (user, ['>']) => some (.mention user)
    | _ => none

/-- What follows the scheme and `www.` of an address, if they are there. -/
def dropScheme (s : List Char) : List Char :=
  let s :=
    match dropPrefixNoCase? "https://".toList s, dropPrefixNoCase? "http://".toList s with
    | some rest, _ => rest
    | none, some rest => rest
    | none, none => s
  (dropPrefixNoCase? "www.".toList s).getD s

/-- What follows the host and the path before the number of an account. -/
def dropHost? (s : List Char) : Option (List Char) :=
  match dropPrefixNoCase? "opendota.com".toList s, dropPrefixNoCase? "dotabuff.com".toList s with
  | some rest, _ => dropPrefix? "/players/".toList rest
  | none, some rest => dropPrefix? "/players/".toList rest
  | none, none => dropPrefixNoCase? "steamcommunity.com/profiles/".toList s

def readPage? (s : List Char) : Option Reference :=
  match (dropHost? (dropScheme s)).bind readNumber? with
  | some (n, []) => some (.account (.ofAny n))
  | some (n, '/' :: _) => some (.account (.ofAny n))
  | _ => none

def readAccount? (s : List Char) : Option Reference :=
  (readWord64? s).map fun n => .account (.ofAny n)

def isNameChar (c : Char) : Bool :=
  isAlphanumeric c || c == '_' || c == '-' || c == '.' || c == ' '

def readName? (s : List Char) : Option Reference :=
  let s :=
    match s with
    | '@' :: s => s
    | s => s
  if !s.isEmpty && s.all isNameChar then some (.name (String.ofList (trim s))) else none

def read? (s : String) : Option Reference :=
  let s := trim s.toList
  (readMention? s).or ((readPage? s).or ((readAccount? s).or (readName? s)))

end Reference

end PhraseFilter
