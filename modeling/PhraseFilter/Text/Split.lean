/-!
# Cutting texts at a character

* `splitAll`: the pieces between all occurrences of a character; there is always at least one.
* `splitFirst?`: what stands before and after the first occurrence.
* `dropPrefix?`, `dropPrefixNoCase?`: what follows a given start, exactly or with ASCII case aside.
-/

namespace PhraseFilter.Text

/-- The pieces of a text between the occurrences of `sep`. -/
def splitAll (sep : Char) : List Char → List (List Char)
  | [] => [[]]
  | c :: rest =>
    if c = sep then [] :: splitAll sep rest
    else match splitAll sep rest with
      | [] => [[c]]
      | piece :: pieces => (c :: piece) :: pieces

/-- What stands before and after the first occurrence of `sep`, if there is one. -/
def splitFirst? (sep : Char) : List Char → Option (List Char × List Char)
  | [] => none
  | c :: rest =>
    if c = sep then some ([], rest)
    else (splitFirst? sep rest).map fun (before, after) => (c :: before, after)

/-- What follows `start` in a text that begins with it. -/
def dropPrefix? : (start : List Char) → List Char → Option (List Char)
  | [], s => some s
  | _ :: _, [] => none
  | c :: start, d :: s => if c = d then dropPrefix? start s else none

/-- What follows `start` in a text that begins with it, the case of ASCII letters aside. -/
def dropPrefixNoCase? : (start : List Char) → List Char → Option (List Char)
  | [], s => some s
  | _ :: _, [] => none
  | c :: start, d :: s => if c.toLower = d.toLower then dropPrefixNoCase? start s else none

end PhraseFilter.Text
