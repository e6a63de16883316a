import PhraseFilter.Proofs.Scan.Occurrence
import PhraseFilter.Proofs.Text.Canonical

/-!
# Where a text closes over a phrase

When a phrase is taken out of a text, the words before it and those after it come to stand side by side, with a space
between. So a phrase that occurred once can occur again, but only across this seam.

* `Text.normalize_around` : what is left around a phrase;
* `Scan.not_occursAt_before`, `Scan.not_occursAt_after` : on either side of the seam a phrase that occurred once occurs
  no more;
* `Scan.occursAt_seam` : **a phrase that occurred once occurs again across the seam only**, and so never without a space;
* `Scan.takes_last_week_again` : across the seam a phrase does come back.
-/

namespace PhraseFilter

open Text

/-- What is left around a phrase: the words on one side when there are none on the other, and else a space between. -/
theorem Text.normalize_around (a b : List Char) :
    (normalize a = [] ∧ normalize (a ++ ' ' :: b) = normalize b) ∨
    (normalize b = [] ∧ normalize (a ++ ' ' :: b) = normalize a) ∨
    normalize (a ++ ' ' :: b) = normalize a ++ ' ' :: normalize b := by
  have hwords : normalize (a ++ ' ' :: b) = joined (words a ++ words b) := by
    rw [normalize_eq_joined, words_append_cons rfl]
  rcases eq_or_ne (words a) [] with ha | ha
  · exact Or.inl ⟨by rw [normalize_eq_joined, ha, joined_nil], by rw [hwords, ha, List.nil_append, normalize_eq_joined]⟩
  · rcases eq_or_ne (words b) [] with hb | hb
    · refine Or.inr (Or.inl ⟨by rw [normalize_eq_joined, hb, joined_nil], ?_⟩)
      rw [hwords, hb, List.append_nil, normalize_eq_joined]
    · refine Or.inr (Or.inr ?_)
      rw [hwords, joined_append_trail ha, trail_eq hb, normalize_eq_joined, normalize_eq_joined]

namespace Scan

section Seam

variable {m pre post around : List Char} {i : Nat}

/-- A phrase that occurs at one place only is not empty, and its ends are word boundaries. -/
theorem edges_of_occursOnlyAt (h : OccursOnlyAt m (pre ++ m ++ post) pre.length) :
    m ≠ [] ∧ IsEdge pre (m ++ post) ∧ IsEdge (pre ++ m) post := by
  have hoccurs := (h pre.length).mpr rfl
  refine ⟨?_, ?_, ?_⟩
  · rintro rfl
    obtain ⟨j, hne, hj⟩ := hoccurs.exists_ne
    exact hne ((h j).mp hj)
  · rw [← isBoundary_append_iff, ← List.append_assoc]
    exact hoccurs.front
  · rw [← isBoundary_append_iff, List.length_append]
    exact hoccurs.back

theorem not_occursAt_before (htext : IsCanonical (pre ++ m ++ post))
    (honly : OccursOnlyAt m (pre ++ m ++ post) pre.length) (haround : StartsBlank around)
    (hi : i + m.length ≤ (normalize pre).length) : ¬ OccursAt m (normalize pre ++ around) i := by
  intro h
  obtain ⟨hm, hfront, -⟩ := edges_of_occursOnlyAt honly
  have hpos := List.length_pos_iff.mpr hm
  rw [List.append_assoc] at htext honly
  have hparts := htext.eq_of_prefix
  generalize normalize pre = before at hi h hparts
  rcases hparts with rfl | rfl
  · have hagain : OccursAt m (pre ++ (m ++ post)) i := h.of_append hm hi fun _ => hfront
    have heq := (honly i).mp hagain
    omega
  · have hagain : OccursAt m (before ++ ' ' :: (m ++ post)) i := h.of_append hm hi fun hedge =>
      (isEdge_iff_of_startsBlank (startsBlank_space _)).mpr ((isEdge_iff_of_startsBlank haround).mp hedge)
    rw [List.append_cons] at hagain
    have heq := (honly i).mp hagain
    rw [List.length_append] at heq
    omega

theorem not_occursAt_after (htext : IsCanonical (pre ++ m ++ post))
    (honly : OccursOnlyAt m (pre ++ m ++ post) pre.length) (haround : EndsBlank around) :
    ¬ OccursAt m (around ++ normalize post) (around.length + i) := by
  intro h
  obtain ⟨hm, -, hback⟩ := edges_of_occursOnlyAt honly
  have hpos := List.length_pos_iff.mpr hm
  have hparts := htext.eq_of_suffix
  generalize normalize post = after at h hparts
  rcases hparts with rfl | rfl
  · have hagain : OccursAt m (pre ++ m ++ post) ((pre ++ m).length + i) := h.of_append_left hm fun _ => hback
    have heq := (honly _).mp hagain
    rw [List.length_append] at heq
    omega
  · have hagain : OccursAt m (pre ++ m ++ [' '] ++ after) ((pre ++ m ++ [' ']).length + i) :=
      h.of_append_left hm fun hedge => (isEdge_iff_of_endsBlank (endsBlank_append_singleton.mpr rfl)).mpr
        ((isEdge_iff_of_endsBlank haround).mp hedge)
    rw [← List.append_cons] at hagain
    have heq := (honly _).mp hagain
    rw [List.length_append, List.length_append] at heq
    omega

/-- A phrase that occurred once has a space where it occurs again across the seam. -/
theorem exists_space_of_occursAt (htext : IsCanonical (pre ++ m ++ post))
    (honly : OccursOnlyAt m (pre ++ m ++ post) pre.length) (h : OccursAt m (normalize (pre ++ ' ' :: post)) i) :
    ∃ j, i + j = (normalize pre).length ∧ m[j]? = some ' ' := by
  have hbefore : ∀ {around : List Char}, StartsBlank around → OccursAt m (normalize pre ++ around) i →
      (normalize pre).length < i + m.length := by
    intro around haround hi
    by_contra hle
    exact not_occursAt_before htext honly haround (Nat.le_of_not_lt hle) hi
  rcases normalize_around pre post with ⟨-, hrest⟩ | ⟨-, hrest⟩ | hrest
  · rw [hrest] at h
    refine absurd ?_ (not_occursAt_after (i := i) htext honly endsBlank_nil)
    rwa [List.nil_append, List.length_nil, Nat.zero_add]
  · rw [hrest] at h
    have hlt := hbefore startsBlank_nil (by rwa [List.append_nil])
    have hle := h.within
    omega
  · rw [hrest] at h
    have hlt := hbefore (startsBlank_space _) h
    obtain ⟨j, hj⟩ : ∃ j, i + j = (normalize pre).length := by
      refine Nat.le.dest (Nat.le_of_not_lt fun hover => ?_)
      obtain ⟨k, rfl⟩ := Nat.exists_eq_add_of_le hover
      have hends : EndsBlank (normalize pre ++ [' ']) := endsBlank_append_singleton.mpr (by decide)
      rw [List.append_cons] at h
      refine not_occursAt_after (i := k) htext honly hends ?_
      rwa [List.length_append]
    refine ⟨j, hj, ?_⟩
    have hsame := h.getElem? (j := j) (by omega)
    rw [hj, List.getElem?_append_right (Nat.le_refl _), Nat.sub_self, List.getElem?_cons_zero] at hsame
    obtain ⟨c, hc, hfold⟩ := Option.map_eq_some_iff.mp hsame.symm
    rw [hc, eq_of_fold_eq_space (hfold.trans (by decide))]

end Seam

/-- **A phrase that occurred once occurs again across the seam only.** When a phrase is taken out of a normalized text
and it occurs, between word boundaries and with case aside, nowhere else in the text, then it occurs in what is left
only where it has a space at the seam. So a phrase without a space occurs no more, and a pattern that can be read by
itself does not take it again. -/
theorem occursAt_seam [Pattern.Engine] {source text m : List Char} {q : Pattern} {s : Scan}
    (hq : Pattern.readWordBounded? source = some q) (htext : normalize text = text)
    (htake : Scan.take ⟨text⟩ q = (some m, s)) :
    ∃ pre post, text = pre ++ m ++ post ∧ q.find? text.toArray = some (pre.length, pre.length + m.length) ∧
      s.remaining = normalize (pre ++ ' ' :: post) ∧
      (OccursOnlyAt m text pre.length →
        (∀ i, OccursAt m s.remaining i → ∃ j, i + j = (normalize pre).length ∧ m[j]? = some ' ') ∧
        ∀ p, Pattern.read? source = some p → ' ' ∉ m →
          ∀ m' s', s.take q = (some m', s') → m'.map fold ≠ m.map fold) := by
  obtain ⟨pre, post, rfl, hrest, hfind⟩ := exists_of_take htake
  have hspace : OccursOnlyAt m (pre ++ m ++ post) pre.length → ∀ i, OccursAt m s.remaining i →
      ∃ j, i + j = (normalize pre).length ∧ m[j]? = some ' ' := by
    intro honly i hi
    rw [hrest] at hi
    exact exists_space_of_occursAt (isCanonical_iff.mpr htext) honly hi
  refine ⟨pre, post, rfl, hfind, hrest, fun honly => ⟨hspace honly, fun p hp hm m' s' htake' hsame => ?_⟩⟩
  obtain rfl := Pattern.readWordBounded?_eq hp hq
  obtain ⟨pre', post', hrest', -, hfind'⟩ := exists_of_take htake'
  have hmatch := Pattern.covers_of_find? hfind'
  rw [hrest', ← Pattern.matches_iff] at hmatch
  have hagain : OccursAt m s.remaining pre'.length :=
    occursAt_iff.mpr ⟨pre', m', post', hrest', rfl, hsame, hmatch.front, hmatch.back⟩
  obtain ⟨j, -, hj⟩ := hspace honly _ hagain
  exact hm (List.mem_of_getElem? hj)

set_option maxRecDepth 20000 in
/-- A phrase that is also the end of another word occurs no more. -/
theorem occursAt_seam_ranked :
    ∃ q, Pattern.readWordBounded? "ranked".toList = some q ∧
      normalize "unranked Ranked mid".toList = "unranked Ranked mid".toList ∧
      Scan.take ⟨"unranked Ranked mid".toList⟩ q = (some "Ranked".toList, ⟨"unranked mid".toList⟩) ∧
      OccursOnlyAt "Ranked".toList "unranked Ranked mid".toList 9 ∧
      ∀ i, ¬ OccursAt "Ranked".toList "unranked mid".toList i := by
  obtain ⟨q, hq⟩ : ∃ q, Pattern.readWordBounded? "ranked".toList = some q := ⟨_, rfl⟩
  have htext : normalize "unranked Ranked mid".toList = "unranked Ranked mid".toList := rfl
  have htake : (Pattern.readWordBounded? "ranked".toList).map (Scan.take ⟨"unranked Ranked mid".toList⟩) =
      some (some "Ranked".toList, ⟨"unranked mid".toList⟩) := rfl
  have hplace : (Pattern.readWordBounded? "ranked".toList).map (·.find? "unranked Ranked mid".toList.toArray) =
      some (some (9, 15)) := rfl
  have honly : OccursOnlyAt "Ranked".toList "unranked Ranked mid".toList 9 := by decide
  rw [hq, Option.map_some, Option.some.injEq] at htake hplace
  obtain ⟨pre, post, -, hfind, -, hseam⟩ := occursAt_seam hq htext htake
  rw [hplace, Option.some.injEq, Prod.mk.injEq] at hfind
  rw [← hfind.1] at hseam
  refine ⟨q, hq, htext, htake, honly, fun i hi => ?_⟩
  obtain ⟨j, -, hj⟩ := (hseam honly).1 i hi
  exact absurd (List.mem_of_getElem? hj) (by decide)

set_option maxRecDepth 20000 in
/-- Across the seam a phrase does come back: the one *last week* of this text is taken twice. -/
theorem takes_last_week_again :
    ∃ q, Pattern.readWordBounded? "last week".toList = some q ∧
      normalize "last last week week".toList = "last last week week".toList ∧
      q.find? "last last week week".toList.toArray = some (5, 14) ∧
      OccursOnlyAt "last week".toList "last last week week".toList 5 ∧
      Scan.take ⟨"last last week week".toList⟩ q = (some "last week".toList, ⟨"last week".toList⟩) ∧
      OccursAt "last week".toList "last week".toList 0 ∧
      Scan.take ⟨"last week".toList⟩ q = (some "last week".toList, ⟨[]⟩) := by
  obtain ⟨q, hq⟩ : ∃ q, Pattern.readWordBounded? "last week".toList = some q := ⟨_, rfl⟩
  have hplace : (Pattern.readWordBounded? "last week".toList).map (·.find? "last last week week".toList.toArray) =
      some (some (5, 14)) := rfl
  have htake : (Pattern.readWordBounded? "last week".toList).map (Scan.take ⟨"last last week week".toList⟩) =
      some (some "last week".toList, ⟨"last week".toList⟩) := rfl
  have hagain : (Pattern.readWordBounded? "last week".toList).map (Scan.take ⟨"last week".toList⟩) =
      some (some "last week".toList, ⟨[]⟩) := rfl
  rw [hq, Option.map_some, Option.some.injEq] at hplace htake hagain
  exact ⟨q, hq, rfl, hplace, by decide, htake, by decide, hagain⟩

end Scan

end PhraseFilter
