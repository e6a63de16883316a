import PhraseFilter.Command.Run

/-!
# The program

The host of the program reads the environment and the files of the machine. It has no transport, so that
every request is refused.
-/

namespace PhraseFilter

namespace SystemHost

def variableNames : List String :=
  Command.logVariable :: "XDG_CONFIG_HOME" :: "HOME" :: Settings.variableNames

def errorNumber (code : UInt32) : Nat :=
  if code < 0x80000000 then code.toNat else (0 - code).toNat

def fileError : IO.Error → FileError
  | .alreadyExists _ code details | .noFileOrDirectory _ code details
  | .inappropriateType _ code details | .permissionDenied _ code details
  | .resourceExhausted _ code details | .invalidArgument _ code details
  | .noSuchThing _ code details => .ofCode (errorNumber code) details
  | .resourceBusy code details | .otherError code details | .unsatisfiedConstraints code details
  | .hardwareFault code details | .timeExpired code details | .resourceVanished code details
  | .unsupportedOperation code details | .protocolError code details
  | .illegalOperation code details => .ofCode (errorNumber code) details
  | e => ⟨e.toString, 0⟩

def attempt {α : Type} (act : IO α) : IO (Except FileError α) := do
  match ← act.toBaseIO with
  | .ok a => return .ok a
  | .error e => return .error (fileError e)

/-- The files of the machine. A directory is known by the error of reading it. -/
def files : Files IO where
  read path := attempt (IO.FS.readFile path)
  write path text := attempt (IO.FS.writeFile path text)
  makeDir path := attempt (IO.FS.createDir path)
  isDir path := do
    match ← attempt (IO.FS.readFile path) with
    | .ok _ => return false
    | .error e => return e.code == FileError.isDirectory.code

/-- The directory of the user's settings, if the environment names one. -/
def userDir? (env : Environment) : Option String :=
  match (env "XDG_CONFIG_HOME").filter (·.startsWith "/"), (env "HOME").filter (!·.isEmpty) with
  | some dir, _ => some dir
  | none, some home => some (home ++ "/.config")
  | none, none => none

def host (env : Environment) : Host IO where
  env := env
  userDir := userDir? env
  files := files
  ask _ := pure .refusal
  print := IO.print
  log format e := IO.eprint (e.toLine format)

end SystemHost

end PhraseFilter

open PhraseFilter in
def main (args : List String) : IO UInt32 := do
  let values ← SystemHost.variableNames.filterMapM fun name => do
    return (← IO.getEnv name).map fun value => (name, value)
  let env name := (values.find? (·.1 == name)).map (·.2)
  let o ← Command.run (SystemHost.host env) args
  IO.eprint o.errors
  return UInt32.ofNat o.code
