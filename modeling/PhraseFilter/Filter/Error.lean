/-!
# Why a phrase is refused

`PhraseError` says why a filter cannot be built or a text not be read, `PhraseError.message` puts it into
words, and `PhraseError.isInternal` tells faults of the filter from faults of the text.
-/

namespace PhraseFilter

/-- Why a filter cannot be built or a text not be read. -/
inductive PhraseError
  /-- Words are left over after every clause has taken its phrase. -/
  | leftOver (words : String)
  /-- A clause took a phrase for which it has no value. -/
  | noValue (label phrase : String)
  /-- A time span has more days than a signed 64-bit number can hold. -/
  | spanTooLong (count unit : String)
  | badPattern (label : String)
  deriving Repr, DecidableEq

namespace PhraseError

def message : PhraseError → String
  | .leftOver words => "I don't know what you mean by \"" ++ words ++ "\""
  | .noValue label phrase =>
    "Clause '" ++ label ++ "' matched \"" ++ phrase ++ "\" but has no value for it"
  | .spanTooLong count unit => "Time span of " ++ count ++ " " ++ unit ++ "s is too large"
  | .badPattern label => "Invalid pattern for clause '" ++ label ++ "'"

/-- Is the filter at fault and not the text? -/
def isInternal : PhraseError → Bool
  | .leftOver _ | .spanTooLong _ _ => false
  | .noValue _ _ | .badPattern _ => true

end PhraseError

end PhraseFilter
