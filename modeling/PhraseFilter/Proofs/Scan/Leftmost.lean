import PhraseFilter.Proofs.Pattern.Grouping
import PhraseFilter.Proofs.Scan.Take
import PhraseFilter.Proofs.Text.Boundary

/-!
# The first match between word boundaries

* `Text.IsEdge` : the place between two texts, with a word character on exactly one side;
* `Pattern.Matches` : a piece of a text that a pattern covers and that begins and ends at such places;
  `Pattern.matches_iff` : these are the stretches of the pattern between word boundaries;
* `Scan.take_leftmost` : **a scan takes the first match, and the words on its two sides stay apart**.
-/

namespace PhraseFilter

open Text

/-- Is exactly one of the neighbours of the place between two texts a word character? -/
def Text.IsEdge (a b : List Char) : Prop := a.getLast?.any isWord ≠ b.head?.any isWord

theorem Text.isBoundary_append_iff (a b : List Char) : isBoundary (a ++ b).toArray a.length = true ↔ IsEdge a b := by
  rw [isBoundary_append, bne_iff_ne]
  rfl

/-- The pattern covers `m` in the text `pre ++ m ++ post`, and both ends of `m` are word boundaries. -/
structure Pattern.Matches (p : Pattern) (pre m post : List Char) : Prop where
  covers : p.Covers (pre ++ m ++ post).toArray pre.length (pre.length + m.length)
  front : IsEdge pre (m ++ post)
  back : IsEdge (pre ++ m) post

section Leftmost

variable {p q : Pattern} {pre m post text : List Char} {source : List Char} {s : Scan}

theorem Pattern.matches_iff :
    p.Matches pre m post ↔ p.bounded.Covers (pre ++ m ++ post).toArray pre.length (pre.length + m.length) := by
  have hfront := isBoundary_append_iff pre (m ++ post)
  have hback := isBoundary_append_iff (pre ++ m) post
  rw [← List.append_assoc] at hfront
  rw [List.length_append] at hback
  rw [covers_bounded_iff, hfront, hback]
  constructor
  · intro h
    exact ⟨h.front, h.covers, h.back⟩
  · rintro ⟨hfront, hcovers, hback⟩
    exact ⟨hcovers, hfront, hback⟩

/-- **A scan takes the first match of a pattern between word boundaries.** Where there is no match, nothing is taken
and the text stays as it is. Else the text is cut at a match that none starts before, that match is the phrase, and
the words before it and those after it are left, joined by single spaces. -/
theorem Scan.take_leftmost [Pattern.Engine] (hp : Pattern.read? source = some p) (hq : Pattern.readWordBounded? source = some q)
    (text : List Char) :
    ((∀ pre m post, text = pre ++ m ++ post → ¬ p.Matches pre m post) ∧ Scan.take ⟨text⟩ q = (none, ⟨text⟩)) ∨
    ∃ pre m post, text = pre ++ m ++ post ∧ p.Matches pre m post ∧
      (∀ pre' m' post', text = pre' ++ m' ++ post' → p.Matches pre' m' post' → pre.length ≤ pre'.length) ∧
      ∃ rest, Scan.take ⟨text⟩ q = (some m, ⟨rest⟩) ∧ words rest = words pre ++ words post ∧
        rest = [' '].intercalate (words pre ++ words post) := by
  obtain rfl := Pattern.readWordBounded?_eq hp hq
  cases hf : p.bounded.find? text.toArray with
  | none =>
      refine Or.inl ⟨?_, Scan.take_eq_none hf⟩
      rintro pre m post rfl hm
      exact Pattern.find?_eq_none_iff.mp hf _ _ (Pattern.matches_iff.mp hm)
  | some ij =>
      obtain ⟨i, j⟩ := ij
      obtain ⟨pre, m, post, htext, rfl, -, rfl, -⟩ := (Pattern.covers_of_find? hf).exists_append
      obtain ⟨-, -, hfirst⟩ := Pattern.find?_eq_some_iff.mp hf
      have htake := take?_eq_some_iff (t := ⟨m, Text.normalize (pre ++ ' ' :: post)⟩).mpr ⟨pre, post, htext, hf, rfl⟩
      have hcut : words (pre ++ ' ' :: post) = words pre ++ words post := words_append_cons rfl
      refine Or.inr ⟨pre, m, post, htext, ?_, ?_, Text.normalize (pre ++ ' ' :: post), ?_, ?_, ?_⟩
      · rw [Pattern.matches_iff, ← htext]
        exact Pattern.covers_of_find? hf
      · intro pre' m' post' htext' hm'
        rw [Pattern.matches_iff, ← htext'] at hm'
        apply Nat.le_of_not_lt
        intro hlt
        exact hfirst _ hlt _ hm'
      · unfold Scan.take
        rw [htake]
      · rw [words_normalize, hcut]
      · unfold Text.normalize
        rw [hcut]

set_option maxRecDepth 20000 in
/-- A phrase before a hyphen, in a text that is not normalized, is taken before a later one. -/
theorem Scan.take_leftmost_mid :
    ∃ p q, Pattern.read? "mid|top".toList = some p ∧ Pattern.readWordBounded? "mid|top".toList = some q ∧
      ∃ pre post, "naïve  Mid-lane, top".toList = pre ++ "Mid".toList ++ post ∧ p.Matches pre "Mid".toList post ∧
        Scan.take ⟨"naïve  Mid-lane, top".toList⟩ q = (some "Mid".toList, ⟨"naïve -lane, top".toList⟩) ∧
        words "naïve -lane, top".toList = words pre ++ words post := by
  obtain ⟨p, hp⟩ : ∃ p, Pattern.read? "mid|top".toList = some p := ⟨_, rfl⟩
  obtain ⟨q, hq⟩ : ∃ q, Pattern.readWordBounded? "mid|top".toList = some q := ⟨_, rfl⟩
  have htake : (Pattern.readWordBounded? "mid|top".toList).map (Scan.take ⟨"naïve  Mid-lane, top".toList⟩) =
      some (some "Mid".toList, ⟨"naïve -lane, top".toList⟩) := rfl
  rw [hq, Option.map_some, Option.some.injEq] at htake
  rcases Scan.take_leftmost hp hq "naïve  Mid-lane, top".toList with ⟨-, hnone⟩ | h
  · rw [htake] at hnone
    cases hnone
  · obtain ⟨pre, m, post, htext, hm, -, rest, hrest, hwords, -⟩ := h
    have heq := htake.symm.trans hrest
    cases heq
    exact ⟨p, q, hp, hq, pre, post, htext, hm, hrest, hwords⟩

end Leftmost

end PhraseFilter
