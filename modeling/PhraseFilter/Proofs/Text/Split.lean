import PhraseFilter.Text.Split

/-!
# Pieces of texts

* `splitAll_eq_splitOn` : cutting at every occurrence of a character is that of the standard library, so
  `splitAll_intercalate` : joined pieces are found again; `mem_intercalate` : nothing is added to them but the separator;
* `splitAll_append`, `filter_splitAll_intercalate` : joined texts that hold the separator are cut there as well;
* `splitFirst?_eq_some_iff`, `splitFirst?_eq_none_iff` : cutting at the first occurrence;
* `Alike` : texts that differ in the case of ASCII letters only; `dropPrefix?_eq_some_iff`, `dropPrefixNoCase?_eq_some_iff` :
  dropping a given start;
* `IsApart` : texts of which neither starts with the other; what starts with one of them does not start with the other
  (`dropPrefixNoCase?_of_isApart`).
-/

namespace PhraseFilter.Text

section Split

variable {sep : Char} {s a b : List Char} {pieces : List (List Char)}

theorem splitAll_eq_splitOn (sep : Char) (s : List Char) : splitAll sep s = s.splitOn sep := by
  induction s with
  | nil => rfl
  | cons c s ih =>
      obtain ⟨piece, pieces, hs⟩ := List.exists_cons_of_ne_nil (List.splitOn_ne_nil sep s)
      rw [splitAll, List.splitOn_cons_eq_if_modifyHead, ih, hs]
      by_cases hc : c = sep
      · simp [hc]
      · simp [hc]

theorem splitAll_ne_nil (sep : Char) (s : List Char) : splitAll sep s ≠ [] := by
  rw [splitAll_eq_splitOn]
  exact List.splitOn_ne_nil sep s

theorem splitAll_intercalate (h : ∀ p ∈ pieces, sep ∉ p) (hne : pieces ≠ []) :
    splitAll sep ([sep].intercalate pieces) = pieces := by
  rw [splitAll_eq_splitOn, List.splitOn_intercalate sep h hne]

theorem mem_intercalate {c : Char} (h : c ∈ [sep].intercalate pieces) : c = sep ∨ ∃ p ∈ pieces, c ∈ p := by
  induction pieces with
  | nil => cases h
  | cons p pieces ih =>
      cases pieces with
      | nil =>
          rw [List.intercalate_singleton] at h
          exact Or.inr ⟨p, List.mem_cons_self, h⟩
      | cons q pieces =>
          rw [List.intercalate_cons_cons, List.mem_append, List.mem_append, List.mem_singleton] at h
          rcases h with (h | h) | h
          · exact Or.inr ⟨p, List.mem_cons_self, h⟩
          · exact Or.inl h
          · rcases ih h with h | ⟨r, hr, hc⟩
            · exact Or.inl h
            · exact Or.inr ⟨r, List.mem_cons_of_mem _ hr, hc⟩

theorem splitAll_of_not_mem (h : sep ∉ s) : splitAll sep s = [s] := by
  rw [splitAll_eq_splitOn, List.splitOn_eq_singleton h]

theorem splitAll_append_cons (a b : List Char) : splitAll sep (a ++ sep :: b) = splitAll sep a ++ splitAll sep b := by
  rw [splitAll_eq_splitOn, splitAll_eq_splitOn, splitAll_eq_splitOn, List.splitOn_append_cons_self]

theorem splitAll_append (h : sep ∉ a) (s : List Char) : splitAll sep (a ++ s) = (splitAll sep s).modifyHead (a ++ ·) := by
  induction a with
  | nil =>
      rw [List.nil_append]
      cases splitAll sep s <;> rfl
  | cons c a ih =>
      rw [List.mem_cons, not_or] at h
      obtain ⟨piece, pieces, hs⟩ := List.exists_cons_of_ne_nil (splitAll_ne_nil sep s)
      rw [List.cons_append, splitAll, if_neg (Ne.symm h.1), ih h.2, hs]
      rfl

theorem not_mem_of_mem_splitAll {p : List Char} (h : p ∈ splitAll sep s) : sep ∉ p := by
  induction s generalizing p with
  | nil =>
      obtain rfl := List.mem_singleton.mp h
      exact List.not_mem_nil
  | cons c s ih =>
      obtain ⟨piece, pieces, hs⟩ := List.exists_cons_of_ne_nil (splitAll_ne_nil sep s)
      rw [splitAll] at h
      split at h
      · rcases List.mem_cons.mp h with rfl | h
        · exact List.not_mem_nil
        · exact ih h
      · next hc =>
        rw [hs] at h ih
        rcases List.mem_cons.mp h with rfl | h
        · rw [List.mem_cons, not_or]
          exact ⟨Ne.symm hc, ih List.mem_cons_self⟩
        · exact ih (List.mem_cons_of_mem _ h)

/-- Joined texts are cut at their own separators and at those between them; empty pieces aside, these are the pieces of
each. -/
theorem filter_splitAll_intercalate (texts : List (List Char)) :
    (splitAll sep ([sep].intercalate texts)).filter (!·.isEmpty) =
      texts.flatMap fun s => (splitAll sep s).filter (!·.isEmpty) := by
  induction texts with
  | nil => rfl
  | cons s texts ih =>
      cases texts with
      | nil => rw [List.intercalate_singleton, List.flatMap_singleton]
      | cons t texts =>
          rw [List.intercalate_cons_cons, List.append_assoc, List.singleton_append, splitAll_append_cons,
            List.filter_append, ih]
          rfl

theorem splitFirst?_eq_some_iff : splitFirst? sep s = some (a, b) ↔ s = a ++ sep :: b ∧ sep ∉ a := by
  induction s generalizing a with
  | nil => simp [splitFirst?]
  | cons c s ih =>
      rw [splitFirst?]
      by_cases hc : c = sep
      · subst hc
        cases a with
        | nil => simp [eq_comm]
        | cons d a =>
            simp only [↓reduceIte, Option.some.injEq, Prod.mk.injEq, List.cons_append, List.cons.injEq, List.mem_cons]
            grind
      · rw [if_neg hc]
        cases a with
        | nil => simp [hc]
        | cons d a =>
            simp only [Option.map_eq_some_iff, Prod.mk.injEq, Prod.exists, List.cons_append, List.cons.injEq, List.mem_cons]
            grind

theorem splitFirst?_eq_none_iff : splitFirst? sep s = none ↔ sep ∉ s := by
  induction s with
  | nil => simp [splitFirst?]
  | cons c s ih =>
      rw [splitFirst?]
      by_cases hc : c = sep
      · simp [hc]
      · rw [if_neg hc, Option.map_eq_none_iff, ih, List.mem_cons, not_or]
        exact ⟨fun h => ⟨Ne.symm hc, h⟩, fun h => h.2⟩

end Split

/-! ## Starts -/

/-- Do two texts differ in the case of ASCII letters only? -/
def Alike (s t : List Char) : Prop := s.map Char.toLower = t.map Char.toLower

/-- Does neither of two texts start with the other, the case of ASCII letters aside? -/
def IsApart (s t : List Char) : Prop :=
  ¬ s.map Char.toLower <+: t.map Char.toLower ∧ ¬ t.map Char.toLower <+: s.map Char.toLower

instance (s t : List Char) : Decidable (IsApart s t) :=
  inferInstanceAs (Decidable (_ ∧ _))

section Start

variable {start other s t rest : List Char}

theorem dropPrefix?_eq_some_iff : dropPrefix? start s = some rest ↔ s = start ++ rest := by
  induction start generalizing s with
  | nil => exact Option.some_inj
  | cons c start ih =>
      cases s with
      | nil => simp [dropPrefix?]
      | cons d s =>
          rw [dropPrefix?, Option.ite_none_right_eq_some, ih, List.cons_append, List.cons.injEq, eq_comm (a := c)]

theorem dropPrefix?_append (start rest : List Char) : dropPrefix? start (start ++ rest) = some rest :=
  dropPrefix?_eq_some_iff.mpr rfl

theorem dropPrefixNoCase?_append (h : Alike start s) (rest : List Char) :
    dropPrefixNoCase? start (s ++ rest) = some rest := by
  induction start generalizing s with
  | nil =>
      obtain rfl := List.map_eq_nil_iff.mp h.symm
      rfl
  | cons c start ih =>
      cases s with
      | nil => cases h
      | cons d s =>
          obtain ⟨hc, h⟩ := List.cons.inj h
          rw [List.cons_append, dropPrefixNoCase?, if_pos hc, ih h]

theorem exists_of_dropPrefixNoCase? (h : dropPrefixNoCase? start s = some rest) :
    ∃ t, Alike start t ∧ s = t ++ rest := by
  induction start generalizing s with
  | nil => exact ⟨[], rfl, Option.some.inj h⟩
  | cons c start ih =>
      cases s with
      | nil => cases h
      | cons d s =>
          obtain ⟨hc, h⟩ := Option.ite_none_right_eq_some.mp h
          obtain ⟨t, ht, rfl⟩ := ih h
          exact ⟨d :: t, List.cons_eq_cons.mpr ⟨hc, ht⟩, rfl⟩

theorem dropPrefixNoCase?_eq_some_iff : dropPrefixNoCase? start s = some rest ↔ ∃ t, Alike start t ∧ s = t ++ rest := by
  constructor
  · exact exists_of_dropPrefixNoCase?
  · rintro ⟨t, ht, rfl⟩
    exact dropPrefixNoCase?_append ht rest

theorem IsApart.append_ne (h : IsApart start other) (hs : Alike start s) (ht : Alike other t) (a b : List Char) :
    s ++ a ≠ t ++ b := by
  intro heq
  have hstart : start.map Char.toLower <+: (s ++ a).map Char.toLower := by
    rw [List.map_append, hs]
    exact List.prefix_append _ _
  have hother : other.map Char.toLower <+: (s ++ a).map Char.toLower := by
    rw [heq, List.map_append, ht]
    exact List.prefix_append _ _
  rcases List.prefix_or_prefix_of_prefix hstart hother with hle | hle
  · exact h.1 hle
  · exact h.2 hle

theorem dropPrefixNoCase?_of_isApart (h : IsApart start other) (ht : Alike other t) (rest : List Char) :
    dropPrefixNoCase? start (t ++ rest) = none := by
  rw [Option.eq_none_iff_forall_ne_some]
  intro a ha
  obtain ⟨s, hs, heq⟩ := dropPrefixNoCase?_eq_some_iff.mp ha
  exact h.append_ne hs ht a rest heq.symm

theorem dropPrefix?_of_isApart (h : IsApart start other) (ht : Alike other t) (rest : List Char) :
    dropPrefix? start (t ++ rest) = none := by
  rw [Option.eq_none_iff_forall_ne_some]
  intro a ha
  exact h.append_ne rfl ht a rest (dropPrefix?_eq_some_iff.mp ha).symm

end Start

end PhraseFilter.Text
