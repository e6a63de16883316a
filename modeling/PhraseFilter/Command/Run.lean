import PhraseFilter.Command.Help
import PhraseFilter.Filter.Standard
import PhraseFilter.Json.Writer
import PhraseFilter.Log.Directive
import PhraseFilter.Player.Basic
import PhraseFilter.Report.Clauses
import PhraseFilter.Report.Match
import PhraseFilter.Service.Fetch
import PhraseFilter.Settings.Sources
import PhraseFilter.Settings.Template

/-!
# Running a command

A run turns arguments into an `Outcome`: an exit code and what is written to the error output. All that it
does on the way goes through a `Host`: looking at the environment and at files, asking the service,
printing, and telling what happens.

* `Command.run`: the run of the program.
* `Session.list`: the run of the command that lists matches; it asks the service at most twice, and for
  matches only once and last.
* `Failure`: why a run ends early. A command prints only after the last step that can fail.
-/

namespace PhraseFilter

/-- The world around a run. -/
structure Host (m : Type → Type) where
  env : Environment
  /-- The directory of the user's settings, if there is one. -/
  userDir : Option String
  files : Files m
  ask : String → m Reply
  /-- Writes to the standard output. -/
  print : String → m Unit
  log : LogFormat → Event → m Unit

/-- How a run ends. -/
structure Outcome where
  code : Nat
  errors : String := ""
  deriving Repr, DecidableEq

inductive Failure
  | message (text : String)
  | error (text : String) (cause : Option String)
  deriving Repr, DecidableEq

namespace Failure

def indented (s : String) : String :=
  "    " ++ String.ofList (s.toList.flatMap fun c => if c = '\n' then "\n    ".toList else [c])

def toText : Failure → String
  | .message text => text ++ "\n"
  | .error text none => "Error: " ++ text ++ "\n"
  | .error text (some cause) => "Error: " ++ text ++ "\n\nCaused by:\n" ++ indented cause ++ "\n"

end Failure

/-- A part of a run, which may fail. -/
abbrev Step (m : Type → Type) := ExceptT Failure m

namespace Step

variable {m : Type → Type} [Monad m] {ε α : Type}

/-- Ends the run with a message unless there is a result. -/
def orMessage (message : ε → String) : Except ε α → Step m α
  | .ok a => pure a
  | .error e => throw (.message (message e))

/-- Ends the run with an error unless there is a result. -/
def orError (message : ε → String) : Except ε α → Step m α
  | .ok a => pure a
  | .error e => throw (.error (message e) none)

end Step

/-- A run whose settings are known. -/
structure Session (m : Type → Type) where
  host : Host m
  settings : Settings
  directives : Directives
  format : Format

namespace Session

open Step

variable {m : Type → Type} [Monad m] (s : Session m)

/-- Tells about an event, if it is let through to the log. -/
def tell (e : Event) : m Unit :=
  if s.directives.allow e then s.host.log (LogFormat.ofName s.settings.log.format) e else pure ()

/-! ## Asking the service -/

/-- Asks the service and tells about it. -/
def ask (address : String) : m Reply := do
  s.tell (.serviceAsked address)
  let reply ← s.host.ask address
  if reply.isRateLimit then s.tell .rateLimitHit
  return reply

/-- What the service says about an account. -/
def askProfile (service : Service) (id : AccountId) : m (Except ServiceError (Option Profile)) :=
  Reply.profile <$> s.ask (service.playerAddress id)

def askRecords (service : Service) (id : AccountId) (query : String) :
    m (Except ServiceError (List Record)) := do
  let records := (← s.ask (service.matchesAddress id query)).records
  if let .ok rs := records then s.tell (.recordsFetched id rs.length)
  return records

/-! ## Commands -/

def tellAll : List Event → m Unit
  | [] => pure ()
  | e :: rest => do
    s.tell e
    tellAll rest

/-- Ends the run with what is said of a phrase that is refused. A fault of the filter is told as well. -/
def refuse (e : PhraseError) : Step m Reading := do
  if e.isInternal then
    s.tell (.filterBroken e)
    throw (.error e.message none)
  else throw (.message e.message)

def readPhrase (words : List String) : Step m Reading := do
  let filter ← orError PhraseError.message Standard.filter
  let text := " ".intercalate words
  let (found, left) := filter.attempt text
  s.tellAll (Event.ofReading found left)
  match filter.parse text with
  | .ok reading => return reading
  | .error e => s.refuse e

def parse (words : List String) : Step m Unit := do
  let reading ← s.readPhrase words
  match s.format with
  | .json => s.host.print (reading.toJson.pretty ++ "\n")
  | .table => s.host.print reading.table

/-- The reading of a phrase with the other things that are asked for. -/
def addCounts (r : Reading) (request : ListRequest) : Reading :=
  let r := (request.hero.map fun n => r.addConstant "hero_id" (.int n)).getD r
  (request.limit.map fun n => r.addConstant "limit" (.int n)).getD r

def findPlayer (service : Service) (given : Option String) : Step m Player := do
  let links := s.settings.links
  let reference ← orMessage PlayerError.message (Player.choose given links)
  s.tell (.playerSought reference)
  let player : m (Except PlayerError Player) :=
    Player.ofChoice given.isSome links (s.askProfile service) reference
  orMessage PlayerError.message (← player)

def printRecords (player : Player) (records : List Record) : m Unit :=
  match s.format with
  | .json => s.host.print ((Json.array (records.map Record.toJson)).pretty ++ "\n")
  | .table => do
    s.host.print ("Matches for " ++ player.mention ++ "\n")
    s.host.print "\n"
    s.host.print (MatchRow.table (records.filterMap MatchRow.ofRecord?))

/-- What is kept of the records that the service gives for a reading. Nothing at all for a reading that
asks for nothing means that the matches are hidden. -/
def keepRecords (player : Player) (reading : Reading) (records : List Record) :
    Step m (List Record) := do
  if records.isEmpty && reading.isUnfiltered then
    throw (.message (PlayerError.message (.noHistory player.account)))
  let kept := reading.keep records
  s.tell (.recordsChecked records.length kept.length)
  return kept

/-- Lists the matches of a player that fit a phrase. -/
def list (request : ListRequest) : Step m Unit := do
  let reading := addCounts (← s.readPhrase request.phrase) request
  match s.settings.service.toService? with
  | none => throw (.error "The request timeout is too long" none)
  | some service =>
    let player ← s.findPlayer service request.player
    s.tell (.playerFound player.account player.mention)
    let reply : m (Except ServiceError (List Record)) :=
      s.askRecords service player.account reading.query
    match ← reply with
    | .error e => throw (.error "Failed to fetch matches" (some e.message))
    | .ok records =>
      let kept ← s.keepRecords player reading records
      s.printRecords player kept

/-- Writes the settings template to a file, or else to the output. -/
def template : Option String → Step m Unit
  | none => s.host.print Settings.template
  | some path => do
    let written : m (Except FileError Unit) := s.host.files.writeWithin path Settings.template
    orError FileError.message (← written)
    s.host.print ("Config written to " ++ Text.quotedPath path ++ "\n")

def execute : Command → Step m Unit
  | .parse words => s.parse words
  | .list request => s.list request
  | .template path => s.template path

end Session

namespace Command

variable {m : Type → Type} [Monad m]

/-- The settings of a run: those of the file that is named, or else of the usual files. -/
def loadSettings (host : Host m) : Option String → m (Except SettingsError Settings)
  | some path => do
    let content ← host.files.read path
    return (Settings.ofFile path content).map (Settings.override host.env)
  | none => do
    let contents ← (Settings.usualPaths host.userDir).mapM host.files.read
    return .ok (Settings.override host.env (Settings.ofUsualFiles contents))

/-- The environment variable that goes before the level of the settings. -/
def logVariable : String := "RUST_LOG"

/-- What is let through to the log, and the directives that cannot be read. -/
def logDirectives (env : Environment) (settings : Settings) : Directives × List String :=
  match (env logVariable).bind Directives.read? with
  | some directives => (directives, [])
  | none => Directives.readSome ("dotafilter=" ++ settings.log.level)

def ignoredText (directive : String) : String :=
  "ignoring \x60" ++ directive ++ "\x60: invalid filter directive\n"

/-- The outcome of a run, after what has been written to the error output before. -/
def outcome (errors : String) : Except Failure Unit → Outcome
  | .ok () => ⟨0, errors⟩
  | .error e => ⟨1, errors ++ e.toText⟩

def stop (host : Host m) : Stop → m Outcome
  | .misuse => pure ⟨2, Topic.page .program false⟩
  | .help topic isFull => do
    host.print (topic.page isFull)
    return ⟨0, ""⟩
  | .version => do
    host.print (Topic.versionLine ++ "\n")
    return ⟨0, ""⟩

def call (host : Host m) (i : Invocation) : m Outcome := do
  match ← loadSettings host i.settingsPath with
  | .error e => return outcome "" (.error (.error e.message none))
  | .ok settings =>
    let (directives, ignored) := logDirectives host.env settings
    let session : Session m := ⟨host, settings, directives, i.format⟩
    let result ← (session.execute i.command).run
    return outcome (String.join (ignored.map ignoredText)) result

def run (host : Host m) (args : List String) : m Outcome :=
  match Invocation.read args with
  | .error reason => stop host reason
  | .ok i => call host i

end Command

end PhraseFilter
