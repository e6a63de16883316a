import PhraseFilter.Text.Decimal
import PhraseFilter.Text.Split

/-!
# Flags

A flag is known by a letter, as in `-f json`, by a name, as in `--format json`, or by both. Most flags
have a value, which is the next argument or is attached: `-fjson`, `-f=json`, `--format=json`.

* `Argument.read`: what an argument is among a list of flags.
* `FlagKind.accepts`: is a text a value for a flag?
-/

namespace PhraseFilter

open Text

inductive FlagKind
  | path
  | text
  | count
  /-- No value: the flag asks for help, in full or in short. -/
  | help (isFull : Bool)
  | version
  deriving Repr, DecidableEq

def maxCount : Nat := 4294967295

/-- Reads a count, which may have a sign as long as it is not less than zero. -/
def readCount? (s : String) : Option Nat :=
  let checked (n : Nat) : Option Nat := if n ≤ maxCount then some n else none
  match s.toList with
  | '+' :: digits => (readDecimal? digits).bind checked
  | '-' :: digits => (readDecimal? digits).bind fun n => if n = 0 then some 0 else none
  | digits => (readDecimal? digits).bind checked

namespace FlagKind

def hasValue : FlagKind → Bool
  | .path | .text | .count => true
  | .help _ | .version => false

def accepts (kind : FlagKind) (value : String) : Bool :=
  match kind with
  | .path => !value.isEmpty
  | .text => true
  | .count => (readCount? value).isSome
  | .help _ | .version => false

end FlagKind

structure Flag where
  letter : Option Char
  name : Option String
  kind : FlagKind
  deriving Repr, DecidableEq

namespace Flag

def config : Flag := ⟨some 'c', some "config", .path⟩
def format : Flag := ⟨some 'f', some "format", .text⟩
def player : Flag := ⟨some 'p', some "player", .text⟩
def limit : Flag := ⟨some 'l', some "limit", .count⟩
def hero : Flag := ⟨none, some "hero-id", .count⟩
def output : Flag := ⟨some 'o', some "output", .path⟩
def help : Flag := ⟨some 'h', none, .help false⟩
def fullHelp : Flag := ⟨none, some "help", .help true⟩
def version : Flag := ⟨some 'V', some "version", .version⟩

/-- The flags that may stand before and after the name of a command. -/
def everywhere : List Flag := [config, format, help, fullHelp]

end Flag

inductive Argument
  | onlyWords
  /-- A flag, with the value that is attached to it. -/
  | flag (f : Flag) (attached : Option String)
  | unknown
  | word (s : String)
  deriving Repr, DecidableEq

namespace Argument

/-- The value that follows a letter in the same argument. -/
def attachedTo : List Char → Option String
  | [] => none
  | '=' :: value => some (String.ofList value)
  | value => some (String.ofList value)

/-- What follows one hyphen: a letter, and its value if it has one. -/
def ofLetter (flags : List Flag) (letter : Char) (rest : List Char) : Argument :=
  match flags.find? (·.letter == some letter) with
  | some f => .flag f (if f.kind.hasValue then attachedTo rest else none)
  | none => .unknown

/-- What follows two hyphens: a name, and a value after an equals sign. -/
def ofName (flags : List Flag) (s : List Char) : Argument :=
  let (name, value) :=
    match splitFirst? '=' s with
    | some (name, value) => (name, some (String.ofList value))
    | none => (s, none)
  match flags.find? (·.name == some (String.ofList name)) with
  | some f => if f.kind.hasValue || value.isNone then .flag f value else .unknown
  | none => .unknown

/-- What an argument is, among the given flags. -/
def read (flags : List Flag) (s : String) : Argument :=
  match s.toList with
  | ['-', '-'] => .onlyWords
  | '-' :: '-' :: rest => ofName flags rest
  | '-' :: letter :: rest => ofLetter flags letter rest
  | _ => .word s

/-- Does an argument look like a word, so that it can be the value of the flag before it? -/
def isWord (s : String) : Bool :=
  match s.toList with
  | '-' :: _ :: _ => false
  | _ => true

end Argument

end PhraseFilter
