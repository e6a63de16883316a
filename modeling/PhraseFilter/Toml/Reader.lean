import PhraseFilter.Toml.Document
import PhraseFilter.Toml.Number

/-!
# Reading TOML

`Toml.read?` reads a document: lines with a key and a value, headers, blank lines and comments. It
refuses documents that give a key twice or complete a table that is already complete.
-/

namespace PhraseFilter.Toml

open Text

/-! ## Values -/

/-- The key of an entry as path and last part. -/
def splitKey? (key : List String) : Option (List String × String) :=
  key.getLast?.map fun last => (key.dropLast, last)

mutual

/-- Reads a value, where `depth` levels of nesting lie around it. Each call uses a character or is
followed by one that does, so twice the number of characters is fuel enough. -/
def readValue? : (fuel depth : Nat) → List Char → Read Toml
  | 0, _, _ => none
  | fuel + 1, depth, s =>
    match s with
    | '"' :: _ => (readString? s).map fun (s, rest) => (.string s, rest)
    | '\x27' :: _ => (readString? s).map fun (s, rest) => (.string s, rest)
    | '[' :: rest =>
      if maxDepth ≤ depth + 1 then none
      else (readItems? fuel (depth + 1) rest).map fun (items, rest) => (.array items, rest)
    | '\x7b' :: rest =>
      if maxDepth ≤ depth + 1 then none
      else match skipBlanks rest with
        | '\x7d' :: rest => some (.table [], rest)
        | rest =>
          match readEntries? fuel (depth + 1) rest with
          | some (entries, rest) => (ofBraces? entries).map fun v => (v, rest)
          | none => none
    | 't' :: 'r' :: 'u' :: 'e' :: rest => some (.bool true, rest)
    | 'f' :: 'a' :: 'l' :: 's' :: 'e' :: rest => some (.bool false, rest)
    | s => readNumber? s

def readItems? : (fuel depth : Nat) → List Char → Read (List Toml)
  | 0, _, _ => none
  | fuel + 1, depth, s =>
    match skipTrivia? s with
    | none => none
    | some (']' :: rest) => some ([], rest)
    | some s =>
      match readValue? fuel depth s with
      | none => none
      | some (item, rest) =>
        match skipTrivia? rest with
        | some (']' :: rest) => some ([item], rest)
        | some (',' :: rest) =>
          (readItems? fuel depth rest).map fun (items, rest) => (item :: items, rest)
        | _ => none

def readEntries? : (fuel depth : Nat) → List Char → Read (List Entry)
  | 0, _, _ => none
  | fuel + 1, depth, s =>
    match readKey? s with
    | some (key, '=' :: rest) =>
      match splitKey? key, readValue? fuel depth (skipBlanks rest) with
      | some (path, last), some (value, rest) =>
        match skipBlanks rest with
        | '\x7d' :: rest => some ([⟨path, last, value⟩], rest)
        | ',' :: rest =>
          (readEntries? fuel depth rest).map fun (entries, rest) =>
            (⟨path, last, value⟩ :: entries, rest)
        | _ => none
      | _, _ => none
    | _ => none

end

/-! ## Lines -/

inductive Line
  | header (h : Header)
  | entry (e : Entry)
  deriving Repr

def readHeader? (s : List Char) : Read Header :=
  match s with
  | '[' :: rest =>
    match readKey? rest with
    | some (key, ']' :: ']' :: rest) =>
      (splitKey? key).map fun (path, last) => (.item path last, rest)
    | _ => none
  | s =>
    match readKey? s with
    | some (key, ']' :: rest) => (splitKey? key).map fun (path, last) => (.table path last, rest)
    | _ => none

/-- Reads a line that is not blank, up to its end. -/
def readLine? (s : List Char) : Read Line :=
  match s with
  | '[' :: rest =>
    match readHeader? rest with
    | some (h, rest) => (dropLineRest? rest).map fun rest => (.header h, rest)
    | none => none
  | s =>
    match readKey? s with
    | some (key, '=' :: rest) =>
      match splitKey? key, readValue? (2 * rest.length + 2) 0 (skipBlanks rest) with
      | some (path, last), some (value, rest) =>
        (dropLineRest? rest).map fun rest => (.entry ⟨path, last, value⟩, rest)
      | _, _ => none
    | _ => none

/-- Reads all lines. Each one uses a character, so `fuel` is the number of characters. -/
def readLinesWith? : (fuel : Nat) → List Char → Option (List Line)
  | 0, s => if (skipBlanks s).isEmpty then some [] else none
  | fuel + 1, s =>
    match skipBlanks s with
    | [] => some []
    | '#' :: rest => (dropLineRest? ('#' :: rest)).bind (readLinesWith? fuel)
    | '\n' :: rest => readLinesWith? fuel rest
    | '\r' :: '\n' :: rest => readLinesWith? fuel rest
    | s =>
      match readLine? s with
      | some (line, rest) => (readLinesWith? fuel rest).map (line :: ·)
      | none => none

/-- The sections of a list of lines, below a header and the entries after it so far, the latest
first. -/
def sections (header : Header) (entries : List Entry) : List Line → List Section
  | [] => [⟨header, entries.reverse⟩]
  | .header h :: rest => ⟨header, entries.reverse⟩ :: sections h [] rest
  | .entry e :: rest => sections header (e :: entries) rest

/-- The text without a byte order mark at its start. -/
def dropMark : List Char → List Char
  | '\ufeff' :: rest => rest
  | s => s

def read? (s : String) : Option (List (String × Toml)) :=
  let s := dropMark s.toList
  (readLinesWith? s.length s).bind fun lines => ofSections? (sections .none [] lines)

end PhraseFilter.Toml
