import PhraseFilter.Json.Basic
import PhraseFilter.Binary64.Shortest

/-!
# Writing JSON

* `Json.compact`: without blanks.
* `Json.pretty`: one item a line, nested items two spaces further in; empty arrays and objects stay on
  one line.

Quotes, backslashes and control characters are escaped, all other characters stand as they are.
-/

namespace PhraseFilter.Json

def hexDigit (n : Nat) : Char := Nat.digitChar (n % 16)

def escapeChar (c : Char) : List Char :=
  match c with
  | '"' => "\\\"".toList
  | '\\' => "\\\\".toList
  | '\x08' => "\\b".toList
  | '\x0c' => "\\f".toList
  | '\n' => "\\n".toList
  | '\r' => "\\r".toList
  | '\t' => "\\t".toList
  | c =>
    if c.toNat < 0x20 then "\\u00".toList ++ [hexDigit (c.toNat / 16), hexDigit c.toNat] else [c]

def quote (s : String) : List Char := '"' :: s.toList.flatMap escapeChar ++ ['"']

mutual

def compact : Json → List Char
  | .null => "null".toList
  | .bool b => (if b then "true" else "false").toList
  | .whole n => (toString n).toList
  | .real x => x.toText
  | .string s => quote s
  | .array items => '[' :: [','].intercalate (compactItems items) ++ [']']
  | .object fields => '\x7b' :: [','].intercalate (compactFields fields) ++ ['\x7d']

def compactItems : List Json → List (List Char)
  | [] => []
  | item :: rest => compact item :: compactItems rest

def compactFields : List (String × Json) → List (List Char)
  | [] => []
  | (name, value) :: rest => (quote name ++ ':' :: compact value) :: compactFields rest

end

/-- A new line, indented by `n` levels of two spaces. -/
def newLine (n : Nat) : List Char := '\n' :: List.replicate (2 * n) ' '

/-- Lays the parts of an array or an object out, one a line. -/
def layOut (level : Nat) (opening closing : Char) (parts : List (List Char)) : List Char :=
  if parts.isEmpty then [opening, closing]
  else
    opening :: newLine (level + 1) ++ (',' :: newLine (level + 1)).intercalate parts ++
      newLine level ++ [closing]

mutual

/-- A value with one part a line, at the given level of indentation. -/
def prettyAt (level : Nat) : Json → List Char
  | .array items => layOut level '[' ']' (prettyItems (level + 1) items)
  | .object fields => layOut level '\x7b' '\x7d' (prettyFields (level + 1) fields)
  | .null => "null".toList
  | .bool b => (if b then "true" else "false").toList
  | .whole n => (toString n).toList
  | .real x => x.toText
  | .string s => quote s

def prettyItems (level : Nat) : List Json → List (List Char)
  | [] => []
  | item :: rest => prettyAt level item :: prettyItems level rest

def prettyFields (level : Nat) : List (String × Json) → List (List Char)
  | [] => []
  | (name, value) :: rest =>
    (quote name ++ ": ".toList ++ prettyAt level value) :: prettyFields level rest

end

def pretty (v : Json) : String := String.ofList (prettyAt 0 v)

end PhraseFilter.Json
