import PhraseFilter.Files.Path

/-!
# Files

`Files` is what a program may do with files, in whatever monad does it, and `FileError` is why it fails.
On top of it, `Files.makeDirs` makes a directory together with those that it lies in, and
`Files.writeWithin` writes a file and makes its directories first.
-/

namespace PhraseFilter

/-- Why an operation on files failed. -/
structure FileError where
  reason : String
  code : Nat
  deriving Repr, DecidableEq

namespace FileError

def notFound : FileError := ⟨"No such file or directory", 2⟩

def alreadyThere : FileError := ⟨"File exists", 17⟩

/-- What is not a directory is used as one. -/
def notDirectory : FileError := ⟨"Not a directory", 20⟩

/-- A directory is used as a file. -/
def isDirectory : FileError := ⟨"Is a directory", 21⟩

/-- The user may not use the file. -/
def denied : FileError := ⟨"Permission denied", 13⟩

/-- The error with a number, in the given words if the number is not one of the above. -/
def ofCode (code : Nat) (reason : String) : FileError :=
  ([notFound, alreadyThere, notDirectory, isDirectory, denied].find? (·.code == code)).getD
    ⟨reason, code⟩

/-- The error in words, with its number. -/
def message (e : FileError) : String := e.reason ++ " (os error " ++ toString e.code ++ ")"

end FileError

/-- What a program may do with files. -/
structure Files (m : Type → Type) where
  read : String → m (Except FileError String)
  /-- Puts a text into a file, in place of what is there. -/
  write : String → String → m (Except FileError Unit)
  makeDir : String → m (Except FileError Unit)
  isDir : String → m Bool

namespace Files

variable {m : Type → Type} [Monad m]

def unlessDir (files : Files m) (path : String) (e : FileError) : m (Except FileError Unit) := do
  return if ← files.isDir path then .ok () else .error e

/-- Makes a directory, given the parts of its path, the last one first. The directories that it lies in
are made if it cannot be made without them. -/
def makeParts (files : Files m) (isAbsolute : Bool) : List String → m (Except FileError Unit)
  | [] => pure (.ok ())
  | part :: outer => do
    let path := (Path.mk isAbsolute (part :: outer)).toText
    match ← files.makeDir path with
    | .ok () => return .ok ()
    | .error e =>
      if e.code = FileError.notFound.code then
        match ← makeParts files isAbsolute outer with
        | .error e => return .error e
        | .ok () =>
          match ← files.makeDir path with
          | .ok () => return .ok ()
          | .error e => files.unlessDir path e
      else files.unlessDir path e

/-- Makes a directory and the directories that it lies in. -/
def makeDirs (files : Files m) (path : Path) : m (Except FileError Unit) :=
  files.makeParts path.isAbsolute path.innermost

def writeWithin (files : Files m) (path text : String) : m (Except FileError Unit) := do
  match (Path.read path).parent? with
  | none => files.write path text
  | some parent =>
    match ← files.makeDirs parent with
    | .ok () => files.write path text
    | .error e => return .error e

end Files

end PhraseFilter
