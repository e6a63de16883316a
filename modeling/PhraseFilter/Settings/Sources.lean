import PhraseFilter.Files.Basic
import PhraseFilter.Settings.Reader
import PhraseFilter.Text.Decimal
import PhraseFilter.Text.Quoted

/-!
# Where settings come from

Settings come from one file and from the environment, which goes first.

* `Settings.override`: the settings with what the environment sets in place of what they held.
* `Settings.ofFile`: the settings of a file that the user names; it has to be there and to be readable.
* `Settings.ofUsualFiles`: the settings of the first of the usual files that can be read, or else the
  defaults.
-/

namespace PhraseFilter

abbrev Environment := String → Option String

inductive SettingsError
  | unreadable (path : String) (e : FileError)
  | malformed (path : String)
  deriving Repr, DecidableEq

def SettingsError.message : SettingsError → String
  | .unreadable path e => "Failed to read config file " ++ Text.quotedPath path ++ ": " ++ e.message
  | .malformed path =>
    "Failed to parse config file " ++ Text.quotedPath path ++ ": the text is not a table of settings"

namespace Settings

open Text

def variableNames : List String :=
  ["DOTAFILTER_DEFAULT_PLAYER", "DOTAFILTER_OPENDOTA_URL", "DOTAFILTER_API_KEY",
    "DOTAFILTER_REQUEST_TIMEOUT", "DOTAFILTER_LOG_LEVEL", "DOTAFILTER_LOG_FORMAT"]

/-- Reads a number of seconds, which may have a plus sign. -/
def readSeconds? (s : String) : Option UInt64 :=
  match s.toList with
  | '+' :: digits => readWord64? digits
  | digits => readWord64? digits

/-- The settings with what the environment sets in place of what they held. A number of seconds that
cannot be read is passed over. -/
def override (env : Environment) (s : Settings) : Settings :=
  { s with
    defaultPlayer := (env "DOTAFILTER_DEFAULT_PLAYER").or s.defaultPlayer
    service :=
      { baseUrl := (env "DOTAFILTER_OPENDOTA_URL").getD s.service.baseUrl
        apiKey := (env "DOTAFILTER_API_KEY").or s.service.apiKey
        timeoutSecs :=
          ((env "DOTAFILTER_REQUEST_TIMEOUT").bind readSeconds?).getD s.service.timeoutSecs }
    log :=
      { level := (env "DOTAFILTER_LOG_LEVEL").getD s.log.level
        format := (env "DOTAFILTER_LOG_FORMAT").getD s.log.format } }

/-- The settings of the file at a path, given what reading it yields. -/
def ofFile (path : String) (content : Except FileError String) : Except SettingsError Settings :=
  match content with
  | .error e => .error (.unreadable path e)
  | .ok text =>
    match read? text with
    | some s => .ok s
    | none => .error (.malformed path)

/-- The settings of the first file that can be read, given what reading each of them yields, or else the
defaults. -/
def ofUsualFiles (contents : List (Except FileError String)) : Settings :=
  (contents.findSome? fun content => content.toOption.bind read?).getD {}

def localPath : String := "./dotafilter.toml"

/-- The usual files, the first to be tried in front, given the directory of the user's settings. -/
def usualPaths (userDir : Option String) : List String :=
  localPath :: (userDir.map fun dir => dir ++ "/dotafilter/config.toml").toList

end Settings

end PhraseFilter
