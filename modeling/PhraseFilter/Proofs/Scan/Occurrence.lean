import PhraseFilter.Proofs.Scan.Leftmost

/-!
# Where a phrase occurs

* `OccursAt` : a phrase at a place of a text, between word boundaries and with case aside; `OccursOnlyAt` : at that
  place and nowhere else; `occursAt_iff` : an occurrence is a piece of the text;
* `OccursAt.exists_ne` : the empty phrase never occurs at one place only;
* `OccursAt.of_append`, `OccursAt.of_append_left` : an occurrence in one part of a text depends on the other part at
  most by the end between them.
-/

namespace PhraseFilter.Text

variable {a a' b b' c m text : List Char} {i : Nat}

/-! ## Ends of pieces -/

section Edges

theorem isEdge_append_right (hb : b ≠ []) : IsEdge a (b ++ c) ↔ IsEdge a b := by
  rw [IsEdge, IsEdge, List.head?_append_of_ne_nil b hb]

theorem isEdge_append_left (hb : b ≠ []) : IsEdge (a ++ b) c ↔ IsEdge b c := by
  rw [IsEdge, IsEdge, List.getLast?_append_of_ne_nil a hb]

theorem any_isWord_of_isBlank {o : Option Char} (h : ∀ c ∈ o, isBlank c = true) : o.any isWord = false := by
  cases o with
  | none => rfl
  | some c => exact isWord_of_isBlank (h c rfl)

/-- Before a blank or the end, a word ends just where its last character is one of a word. -/
theorem isEdge_iff_of_startsBlank (hb : StartsBlank b) : IsEdge a b ↔ a.getLast?.any isWord = true := by
  rw [IsEdge, any_isWord_of_isBlank hb, ne_eq, Bool.not_eq_false]

theorem isEdge_iff_of_endsBlank (ha : EndsBlank a) : IsEdge a b ↔ b.head?.any isWord = true := by
  rw [IsEdge, any_isWord_of_isBlank ha, ne_comm, ne_eq, Bool.not_eq_false]

theorem exists_isEdge_after (a : List Char) (hb : b.head?.any isWord = true) :
    ∃ w r, b = w ++ r ∧ w ≠ [] ∧ IsEdge (a ++ w) r := by
  obtain ⟨c, b, rfl⟩ := List.exists_cons_of_ne_nil (show b ≠ [] by rintro rfl; cases hb)
  have hc : isWord c = true := hb
  have hne : (c :: b).takeWhile isWord ≠ [] := by simp [hc]
  refine ⟨_, _, List.takeWhile_append_dropWhile.symm, hne, ?_⟩
  have hlast : ((c :: b).takeWhile isWord).getLast?.any isWord = true := by
    rw [List.getLast?_eq_some_getLast hne, Option.any_some]
    exact List.mem_takeWhile_imp (List.getLast_mem hne)
  have hhead : ((c :: b).dropWhile isWord).head?.any isWord = false := by
    cases hr : ((c :: b).dropWhile isWord).head? with
    | none => rfl
    | some d =>
        have hd := List.head?_dropWhile_not isWord (c :: b)
        rw [hr] at hd
        simpa using hd
  rw [isEdge_append_left hne, IsEdge, hlast, hhead]
  exact Bool.noConfusion

theorem exists_isEdge_before (ha : a.getLast?.any isWord = true) (b : List Char) :
    ∃ r w, a = r ++ w ∧ w ≠ [] ∧ IsEdge r (w ++ b) := by
  have hreverse : a.reverse.head?.any isWord = true := by rwa [List.head?_reverse]
  obtain ⟨w, r, hwr, hne, hedge⟩ := exists_isEdge_after [] hreverse
  refine ⟨r.reverse, w.reverse, ?_, by simpa using hne, ?_⟩
  · rw [← List.reverse_append, ← hwr, List.reverse_reverse]
  · rw [isEdge_append_right (by simpa using hne), IsEdge, List.getLast?_reverse, List.head?_reverse, ne_comm]
    exact hedge

end Edges

/-! ## Occurrences -/

/-- The phrase `m` stands at place `i` of a text, case aside, and both its ends are word boundaries. -/
structure OccursAt (m text : List Char) (i : Nat) : Prop where
  within : i + m.length ≤ text.length
  same : ((text.drop i).take m.length).map fold = m.map fold
  front : isBoundary text.toArray i = true
  back : isBoundary text.toArray (i + m.length) = true

instance (m text : List Char) (i : Nat) : Decidable (OccursAt m text i) :=
  decidable_of_iff (i + m.length ≤ text.length ∧ ((text.drop i).take m.length).map fold = m.map fold ∧
      isBoundary text.toArray i = true ∧ isBoundary text.toArray (i + m.length) = true)
    ⟨fun h => ⟨h.1, h.2.1, h.2.2.1, h.2.2.2⟩, fun h => ⟨h.within, h.same, h.front, h.back⟩⟩

/-- The phrase `m` occurs at place `k` of a text and nowhere else. -/
def OccursOnlyAt (m text : List Char) (k : Nat) : Prop := ∀ i, OccursAt m text i ↔ i = k

instance (m text : List Char) (k : Nat) : Decidable (OccursOnlyAt m text k) :=
  decidable_of_iff (k ≤ text.length ∧ ∀ i ≤ text.length, OccursAt m text i ↔ i = k) <| by
    have hle : ∀ {i}, OccursAt m text i → i ≤ text.length := fun h => (Nat.le_add_right _ _).trans h.within
    constructor
    · rintro ⟨hk, hall⟩ i
      by_cases hi : i ≤ text.length
      · exact hall i hi
      · exact ⟨fun h => absurd (hle h) hi, fun h => absurd (h ▸ hk) hi⟩
    · intro h
      exact ⟨hle ((h k).mpr rfl), fun i _ => h i⟩

section Occurrences

variable {m' : List Char}

theorem length_eq_of_map_fold (h : m'.map fold = m.map fold) : m'.length = m.length := by
  rw [← List.length_map fold, h, List.length_map]

theorem ne_nil_of_map_fold (hm : m ≠ []) (h : m'.map fold = m.map fold) : m' ≠ [] := by
  rintro rfl
  exact hm (List.map_eq_nil_iff.mp h.symm)

theorem occursAt_iff : OccursAt m text i ↔
    ∃ x m' y, text = x ++ m' ++ y ∧ x.length = i ∧ m'.map fold = m.map fold ∧
      IsEdge x (m' ++ y) ∧ IsEdge (x ++ m') y := by
  constructor
  · rintro ⟨hwithin, hsame, hfront, hback⟩
    have hlength : (text.take i).length = i := by
      rw [List.length_take]
      omega
    have hlength' : ((text.drop i).take m.length).length = m.length := by
      rw [List.length_take, List.length_drop]
      omega
    have htext : text = text.take i ++ ((text.drop i).take m.length ++ (text.drop i).drop m.length) := by
      rw [List.take_append_drop, List.take_append_drop]
    refine ⟨text.take i, (text.drop i).take m.length, (text.drop i).drop m.length, ?_, hlength, hsame, ?_, ?_⟩
    · rw [List.append_assoc]
      exact htext
    · rw [← isBoundary_append_iff, ← htext, hlength]
      exact hfront
    · rw [← isBoundary_append_iff, List.append_assoc, ← htext, List.length_append, hlength, hlength']
      exact hback
  · rintro ⟨x, m', y, rfl, rfl, hsame, hfront, hback⟩
    have hlength := length_eq_of_map_fold hsame
    rw [← isBoundary_append_iff, ← List.append_assoc] at hfront
    rw [← isBoundary_append_iff, List.length_append, hlength] at hback
    refine ⟨?_, ?_, hfront, hback⟩
    · rw [List.length_append, List.length_append, hlength]
      omega
    · rw [List.append_assoc, List.drop_left, ← hlength, List.take_left, hsame]

theorem OccursAt.getElem? {j : Nat} (h : OccursAt m text i) (hj : j < m.length) :
    text[i + j]?.map fold = m[j]?.map fold := by
  have hsame := congrArg (·[j]?) h.same
  simpa only [List.getElem?_map, List.getElem?_take_of_lt hj, List.getElem?_drop] using hsame

/-- The empty phrase never occurs at one place only: where a word begins it ends somewhere else. -/
theorem OccursAt.exists_ne (h : OccursAt [] text i) : ∃ j, j ≠ i ∧ OccursAt [] text j := by
  have hempty : ∀ {x y : List Char}, IsEdge x y → OccursAt [] (x ++ y) x.length := by
    intro x y hedge
    exact occursAt_iff.mpr ⟨x, [], y, by simp, rfl, rfl, hedge, by rwa [List.append_nil]⟩
  obtain ⟨x, m', y, rfl, rfl, hm', hedge, -⟩ := occursAt_iff.mp h
  obtain rfl : m' = [] := by simpa using hm'
  rw [List.nil_append] at hedge
  rw [List.append_nil]
  by_cases hy : y.head?.any isWord = true
  · obtain ⟨w, r, rfl, hw, hafter⟩ := exists_isEdge_after x hy
    refine ⟨(x ++ w).length, ?_, by rw [← List.append_assoc]; exact hempty hafter⟩
    have hpos := List.length_pos_iff.mpr hw
    rw [List.length_append]
    omega
  · have hx : x.getLast?.any isWord = true := by
      rw [Bool.not_eq_true] at hy
      rwa [IsEdge, hy, ne_eq, Bool.not_eq_false] at hedge
    obtain ⟨r, w, rfl, hw, hbefore⟩ := exists_isEdge_before hx y
    refine ⟨r.length, ?_, by rw [List.append_assoc]; exact hempty hbefore⟩
    have hpos := List.length_pos_iff.mpr hw
    rw [List.length_append]
    omega

/-- An occurrence within the first of two texts does not depend on the second, but for a word that ends between them. -/
theorem OccursAt.of_append (hm : m ≠ []) (h : OccursAt m (a ++ b) i) (hi : i + m.length ≤ a.length)
    (hedge : IsEdge a b → IsEdge a b') : OccursAt m (a ++ b') i := by
  obtain ⟨x, m', y, htext, rfl, hsame, hfront, hback⟩ := occursAt_iff.mp h
  have hlength := length_eq_of_map_fold hsame
  have hm' := ne_nil_of_map_fold hm hsame
  have hpiece : x ++ m' <+: a ++ b := ⟨y, htext.symm⟩
  obtain ⟨t, rfl⟩ : x ++ m' <+: a := by
    refine List.prefix_of_prefix_length_le hpiece (List.prefix_append a b) ?_
    rwa [List.length_append, hlength]
  rw [List.append_assoc (x ++ m') t b, List.append_cancel_left_eq] at htext
  subst htext
  refine occursAt_iff.mpr ⟨x, m', t ++ b', by simp, rfl, hsame, ?_, ?_⟩
  · rwa [isEdge_append_right hm'] at hfront ⊢
  · rcases eq_or_ne t [] with rfl | ht
    · rw [List.append_nil] at hedge
      exact hedge hback
    · rwa [isEdge_append_right ht] at hback ⊢

theorem OccursAt.of_append_left (hm : m ≠ []) (h : OccursAt m (a ++ b) (a.length + i))
    (hedge : IsEdge a b → IsEdge a' b) : OccursAt m (a' ++ b) (a'.length + i) := by
  obtain ⟨x, m', y, htext, hx, hsame, hfront, hback⟩ := occursAt_iff.mp h
  have hlength := length_eq_of_map_fold hsame
  have hm' := ne_nil_of_map_fold hm hsame
  have hpiece : x <+: a ++ b := ⟨m' ++ y, by rw [htext, List.append_assoc]⟩
  obtain ⟨t, rfl⟩ : a <+: x := List.prefix_of_prefix_length_le (List.prefix_append a b) hpiece (by omega)
  rw [List.append_assoc, List.append_assoc, List.append_cancel_left_eq] at htext
  subst htext
  rw [List.length_append, Nat.add_left_cancel_iff] at hx
  subst hx
  refine occursAt_iff.mpr ⟨a' ++ t, m', y, by simp, by simp, hsame, ?_, ?_⟩
  · rcases eq_or_ne t [] with rfl | ht
    · rw [List.append_nil] at hfront ⊢
      exact hedge hfront
    · rwa [isEdge_append_left ht] at hfront ⊢
  · rwa [isEdge_append_left hm'] at hback ⊢

end Occurrences

end PhraseFilter.Text
