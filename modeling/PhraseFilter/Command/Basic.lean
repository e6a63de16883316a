import PhraseFilter.Command.Flag

/-!
# Commands

The program is called with flags, the name of a command, and the flags and words of that command. Flags
that may stand on both sides of the name are taken from the right side if they stand on both.

* `Invocation.read`: reads the arguments of the program.
-/

namespace PhraseFilter

inductive CommandName
  | parse
  /-- Lists the matches of a player that fit a phrase. -/
  | list
  | template
  deriving Repr, DecidableEq

namespace CommandName

/-- All commands, each under the word that calls it. -/
def words : List (String × CommandName) :=
  [("parse", .parse), ("matches", .list), ("config", .template)]

def ofWord? (s : String) : Option CommandName := (words.find? (·.1 == s)).map (·.2)

def flags : CommandName → List Flag
  | .parse => Flag.everywhere
  | .list => [Flag.player, Flag.limit, Flag.hero] ++ Flag.everywhere
  | .template => Flag.output :: Flag.everywhere

end CommandName

inductive Topic
  | program
  | command (name : CommandName)
  | help
  deriving Repr, DecidableEq

/-- Why the arguments do not lead to a command. -/
inductive Stop
  | misuse
  | help (topic : Topic) (isFull : Bool)
  | version
  deriving Repr, DecidableEq

structure FlagValues where
  entries : List (Flag × String) := []
  deriving Repr, DecidableEq

namespace FlagValues

def get? (values : FlagValues) (f : Flag) : Option String :=
  (values.entries.find? (·.1 == f)).map (·.2)

def count? (values : FlagValues) (f : Flag) : Option Nat := (values.get? f).bind readCount?

/-- Sets the value of a flag, which must have none yet. -/
def put? (values : FlagValues) (f : Flag) (value : String) : Option FlagValues :=
  if (values.get? f).isNone && f.kind.accepts value then some ⟨values.entries ++ [(f, value)]⟩ else none

end FlagValues

/-- What to do with words among the arguments. -/
inductive WordRule
  | ending
  | kept
  | refused
  deriving Repr, DecidableEq

/-- Flags with their values, and the arguments that are not flags. -/
structure Arguments where
  values : FlagValues
  /-- The words; or the first word and all that follows it, if that ended the reading. -/
  words : List String
  deriving Repr, DecidableEq

namespace Arguments

/-- Reads arguments in order, so that of several faults the first one counts. -/
def read (topic : Topic) (flags : List Flag) (rule : WordRule) (values : FlagValues) :
    List String → Except Stop Arguments
  | [] => .ok ⟨values, []⟩
  | arg :: rest =>
    match Argument.read flags arg with
    | .unknown => .error .misuse
    | .word w =>
      match rule with
      | .ending => .ok ⟨values, w :: rest⟩
      | .kept => (read topic flags rule values rest).map fun a => { a with words := w :: a.words }
      | .refused => .error .misuse
    | .onlyWords =>
      if rule = .kept || rest.isEmpty then .ok ⟨values, rest⟩ else .error .misuse
    | .flag f attached =>
      match f.kind, attached, rest with
      | .help isFull, _, _ => .error (.help topic isFull)
      | .version, _, _ => .error .version
      | _, some value, rest =>
        match values.put? f value with
        | some values => read topic flags rule values rest
        | none => .error .misuse
      | _, none, value :: rest =>
        match values.put? f value with
        | some values =>
          if Argument.isWord value then read topic flags rule values rest else .error .misuse
        | none => .error .misuse
      | _, none, [] => .error .misuse

end Arguments

inductive Format
  | table
  | json
  deriving Repr, DecidableEq

/-- The format with a name; every name but `json` stands for a table. -/
def Format.ofName (s : String) : Format := if s = "json" then .json else .table

structure ListRequest where
  phrase : List String
  player : Option String
  limit : Option Nat
  hero : Option Nat
  deriving Repr, DecidableEq

inductive Command
  | parse (phrase : List String)
  /-- Lists the matches of a player that fit a phrase. -/
  | list (request : ListRequest)
  /-- Writes the settings template to a file, or else to the output. -/
  | template (path : Option String)
  deriving Repr, DecidableEq

namespace Command

def ofArguments (name : CommandName) (a : Arguments) : Command :=
  match name with
  | .parse => .parse a.words
  | .list =>
    .list ⟨a.words, a.values.get? Flag.player, a.values.count? Flag.limit, a.values.count? Flag.hero⟩
  | .template => .template (a.values.get? Flag.output)

end Command

structure Invocation where
  /-- The file with the settings, if it is not one of the usual ones. -/
  settingsPath : Option String
  format : Format
  command : Command
  deriving Repr, DecidableEq

namespace Invocation

def wordRule : CommandName → WordRule
  | .parse | .list => .kept
  | .template => .refused

/-- The help that is asked for by the words after `help`. -/
def helpOn : List String → Stop
  | [] => .help .program true
  | ["help"] => .help .help true
  | [w] =>
    match CommandName.ofWord? w with
    | some name => .help (.command name) true
    | none => .misuse
  | _ => .misuse

def read (args : List String) : Except Stop Invocation := do
  let outer ← Arguments.read .program (Flag.version :: Flag.everywhere) .ending {} args
  match outer.words with
  | [] => throw .misuse
  | "help" :: words => throw (helpOn words)
  | word :: rest =>
    match CommandName.ofWord? word with
    | none => throw .misuse
    | some name =>
      let inner ← Arguments.read (.command name) name.flags (wordRule name) {} rest
      let either (f : Flag) : Option String := (inner.values.get? f).or (outer.values.get? f)
      return ⟨either Flag.config, Format.ofName ((either Flag.format).getD "table"),
        .ofArguments name inner⟩

end Invocation

end PhraseFilter
