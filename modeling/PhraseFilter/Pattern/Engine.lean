import PhraseFilter.Pattern.Basic

/-!
# What patterns take from elsewhere

`Engine` gives the properties of characters that a pattern may name, and says which patterns are small enough
to be searched for. The usual engine has the properties whose tables are at hand, and gives a search ten
mebibytes.
-/

namespace PhraseFilter

open Text

/-! ## Room -/

/-- An estimate of the bytes that a search for one of the characters takes. -/
def Chars.Item.room : Chars.Item → Nat
  | .range _ _ | .span _ _ => 64
  | .digit _ => 4096
  | .word _ => 32768
  | .blank _ => 512

/-- An estimate of the bytes that a search for one character of a set takes. -/
def Chars.room : Chars → Nat
  | .inLine => 512
  | .letter _ => 64
  | .set _ items => 64 + (items.map (·.room)).sum
  | .combine _ a b => a.room + b.room
  | .complement s => s.room + 512

namespace Pattern

/-- An estimate of the bytes that a search for the pattern takes. -/
def room : Pattern → Nat
  | .empty | .place _ => 32
  | .one s => s.room
  | .seq p q | .alt p q => p.room + q.room + 32
  | .opt _ p | .many _ p => p.room + 32
  | .counted _ least extra p => (least + extra) * (p.room + 32) + 32

theorem room_le_altAll {p : Pattern} {ps : List Pattern} (hp : p ∈ ps) : p.room ≤ (altAll ps).room := by
  induction ps with
  | nil => cases hp
  | cons q ps ih =>
    cases ps with
    | nil =>
      rw [List.mem_singleton.mp hp]
      exact Nat.le_refl _
    | cons r ps =>
      rw [altAll, room]
      rcases List.mem_cons.mp hp with rfl | hp
      · omega
      · have := ih hp
        omega

/-- What patterns take from elsewhere. -/
class Engine where
  /-- The ranges of the characters with a property, by the text that names it. -/
  property? : List Char → Option (List (Char × Char))
  /-- Is the pattern small enough to be searched for? -/
  fits : Pattern → Bool
  /-- Where all alternatives have room, each one has. -/
  fits_of_altAll {ps : List Pattern} {p : Pattern} {front back : Place} (hp : p ∈ ps)
    (h : fits (.seq (.place front) (.seq (altAll ps) (.place back))) = true) :
    fits (.seq (.place front) (.seq p (.place back))) = true

/-- The characters above ASCII of a table, after those of ASCII. -/
def tableRanges (ascii : List (Char × Char)) (above : List Range) : List (Char × Char) :=
  ascii ++ above.map fun (first, last) => (Char.ofNat first, Char.ofNat last)

/-- The properties whose tables are at hand. Case, blanks, hyphens and low lines in a name mean nothing. -/
def usualProperty? (name : List Char) : Option (List (Char × Char)) :=
  match String.ofList ((name.filter fun c => !isBlank c && c != '-' && c != '_').map Char.toLower) with
  | "any" => some [('\x00', Char.ofNat 0x10ffff)]
  | "ascii" => some [('\x00', '\x7f')]
  | "alphabetic" | "alpha" => some (tableRanges [('A', 'Z'), ('a', 'z')] alphabeticRanges)
  | "nd" | "decimalnumber" | "digit" => some (tableRanges [('0', '9')] digitRanges)
  | _ => none

/-- The room that the usual engine gives a search. -/
def roomLimit : Nat := 10 * 1024 * 1024

instance usualEngine : Engine where
  property? := usualProperty?
  fits p := p.room ≤ roomLimit
  fits_of_altAll hp h := by
    have hle := room_le_altAll hp
    have hall := of_decide_eq_true h
    refine decide_eq_true ?_
    simp only [room] at hall ⊢
    omega

end Pattern

end PhraseFilter
