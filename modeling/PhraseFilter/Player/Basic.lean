import PhraseFilter.Player.Links
import PhraseFilter.Player.Reference
import PhraseFilter.Service.Error
import PhraseFilter.Service.Profile

/-!
# Resolving players

A reference becomes a player: an account is looked up with the service, a mention or a name among the
links. `Player.resolve` takes the reference that is given, or else the default one.
-/

namespace PhraseFilter

structure Player where
  account : AccountId
  mention : String
  isDefault : Bool
  deriving Repr, DecidableEq

inductive PlayerError
  /-- The name or user is not linked to an account; or no player was given and there is no default
  one. -/
  | notLinked (user : Option String)
  | noHistory (id : AccountId)
  | badReference (text : String)
  | service (e : ServiceError)
  deriving Repr, DecidableEq

namespace PlayerError

def message : PlayerError → String
  | .notLinked (some user) =>
    user ++ " doesn't have a steam account linked. Add them under [accounts] in your config."
  | .notLinked none =>
    "Your steam account isn't linked yet.\n" ++
      "Set \x60default_player\x60 in your config, or pass --player."
  | .noHistory id =>
    "It looks like you either haven't played dota on this account, or the matches you've played are " ++
      "hidden. If you've played matches on this account, enable the **Expose Public Match Data** " ++
      "option in dota, then go to " ++ id.profilePage ++
      " and click the button under your name that says **REFRESH**"
  | .badReference text =>
    "You have to name a linked player, @mention a linked user, or give a steam id (got \"" ++ text ++
      "\")"
  | .service e => e.message

end PlayerError

namespace Player

def profilePage (p : Player) : String := p.account.profilePage

def readReference (text : String) : Except PlayerError Reference :=
  match Reference.read? text with
  | some r => .ok r
  | none => .error (.badReference (String.ofList (Text.trim text.toList)))

def choose (given : Option String) (links : Links) : Except PlayerError Reference :=
  match given, links.defaultPlayer with
  | some text, _ => readReference text
  | none, some text => readReference text
  | none, none => .error (.notLinked none)

/-- The player of an account, given what the service says about it. -/
def ofProfile (id : AccountId) : Except ServiceError (Option Profile) → Except PlayerError Player
  | .error e => .error (.service e)
  | .ok none => .error (.noHistory id)
  | .ok (some p) =>
    let name := p.name.getD (toString id.toNat)
    .ok ⟨id, "[" ++ name ++ "](" ++ id.profilePage ++ ")", false⟩

/-- The player that a name or the number of a user is linked to. -/
def ofLink (links : Links) (key mention : String) : Except PlayerError Player :=
  match links.lookup key with
  | some id => .ok ⟨id, mention, false⟩
  | none => .error (.notLinked (some mention))

/-- The result for the default player: it says so, and does not tell who is not linked. -/
def asDefault : Except PlayerError Player → Except PlayerError Player
  | .ok p => .ok { p with isDefault := true }
  | .error (.notLinked _) => .error (.notLinked none)
  | .error e => .error e

variable {m : Type → Type} [Monad m]

/-- The player that a reference leads to, where `ask` asks the service for a profile. -/
def ofReference (links : Links) (ask : AccountId → m (Except ServiceError (Option Profile))) :
    Reference → m (Except PlayerError Player)
  | .account id => ofProfile id <$> ask id
  | .mention user =>
    let user := toString user.toNat
    pure (ofLink links user ("<@" ++ user ++ ">"))
  | .name name => pure (ofLink links name name)

/-- The player that a chosen reference leads to; `isGiven` tells whether the reference was given or is the
default one. -/
def ofChoice (isGiven : Bool) (links : Links)
    (ask : AccountId → m (Except ServiceError (Option Profile))) (r : Reference) :
    m (Except PlayerError Player) :=
  (if isGiven then id else asDefault) <$> ofReference links ask r

/-- The player that is given, or else the default one. -/
def resolve (given : Option String) (links : Links)
    (ask : AccountId → m (Except ServiceError (Option Profile))) : m (Except PlayerError Player) :=
  match choose given links with
  | .error e => pure (.error e)
  | .ok r => ofChoice given.isSome links ask r

end Player

end PhraseFilter
