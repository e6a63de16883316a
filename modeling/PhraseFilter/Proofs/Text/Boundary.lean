import PhraseFilter.Proofs.Text.Letters

/-!
# Cuts at word boundaries

A stretch between word boundaries need not be made of whole words: punctuation ends a word as well as a blank does.

* `isBoundary_append` : a boundary between two texts;
* `HasStump` : some word starts or ends with a character that is not a word character;
* `Firm` : a stretch that starts and ends with word characters and has no stump, blanks before it aside;
* `Firm.words_of_cut` : **to cut out such a stretch takes whole words, or leaves a stump**.
-/

namespace PhraseFilter.Text

/-- Some word starts or ends with a character that is not a word character. -/
def HasStump (ws : List (List Char)) : Prop :=
  ∃ w ∈ ws, (∃ c ∈ w.head?, isWord c = false) ∨ ∃ c ∈ w.getLast?, isWord c = false

/-- A stretch that ends with a word character, starts with one or with a blank, and has no stump. -/
structure Firm (m : List Char) : Prop where
  head : ∀ c ∈ m.head?, isWord c = true ∨ isBlank c = true
  last : ∃ c ∈ m.getLast?, isWord c = true
  words : ¬ HasStump (words m)

section Boundaries

variable {a b m pre post s : List Char} {us ws : List (List Char)} {c : Char}

theorem wordBefore_append (a b : List Char) :
    wordBefore (a ++ b).toArray a.length = a.getLast?.any isWord := by
  rcases List.eq_nil_or_concat a with rfl | ⟨a, c, rfl⟩
  · rfl
  · simp [wordBefore]

theorem wordAfter_append (a b : List Char) : wordAfter (a ++ b).toArray a.length = b.head?.any isWord := by
  cases b <;> simp [wordAfter]

theorem isBoundary_append (a b : List Char) :
    isBoundary (a ++ b).toArray a.length = (a.getLast?.any isWord != b.head?.any isWord) := by
  rw [isBoundary, wordBefore_append, wordAfter_append]

theorem eq_nil_of_head (h : ∀ c ∈ s, isWord c = true) (hs : ∀ c ∈ s.head?, isWord c = false) : s = [] := by
  cases s with
  | nil => rfl
  | cons c s =>
      have hc := hs c rfl
      rw [h c List.mem_cons_self] at hc
      cases hc

theorem eq_nil_of_getLast (h : ∀ c ∈ s, isWord c = true) (hs : ∀ c ∈ s.getLast?, isWord c = false) : s = [] := by
  rw [← List.reverse_eq_nil_iff]
  refine eq_nil_of_head (fun c hc => h c (List.mem_reverse.mp hc)) fun c hc => hs c ?_
  rwa [List.head?_reverse] at hc

theorem hasStump_append : HasStump (us ++ ws) ↔ HasStump us ∨ HasStump ws := by
  simp only [HasStump, List.mem_append, or_and_right, exists_or]

theorem exists_word_head (h : c ∈ s.head?) (hc : isBlank c = false) : ∃ w ∈ words s, c ∈ w.head? := by
  rcases text_cases s with rfl | ⟨d, t, rfl, hd⟩ | ⟨w, t, rfl, hw, ht⟩
  · cases h
  · obtain rfl : d = c := by simpa using h
    rw [hd] at hc
    cases hc
  · refine ⟨w, by rw [words_word_append hw ht]; exact List.mem_cons_self, ?_⟩
    rwa [List.head?_append_of_ne_nil w hw.1] at h

theorem exists_word_getLast (h : c ∈ s.getLast?) (hc : isBlank c = false) : ∃ w ∈ words s, c ∈ w.getLast? := by
  induction s using text_induction with
  | nil => cases h
  | blank d t hd ih =>
      rw [words_cons_of_blank hd]
      by_cases ht : t = []
      · obtain rfl : d = c := by simpa [ht] using h
        rw [hd] at hc
        cases hc
      · rw [List.getLast?_cons_of_ne_nil ht] at h
        exact ih h
  | word w t hw ht ih =>
      rw [words_word_append hw ht]
      by_cases htn : t = []
      · refine ⟨w, List.mem_cons_self, ?_⟩
        rwa [htn, List.append_nil] at h
      · rw [List.getLast?_append_of_ne_nil w htn] at h
        obtain ⟨v, hv, hlast⟩ := ih h
        exact ⟨v, List.mem_cons_of_mem _ hv, hlast⟩

/-- Before a firm stretch stands a blank or nothing, unless the cut leaves a stump. -/
theorem Firm.before (hm : Firm m) (h : isBoundary (pre ++ (m ++ post)).toArray pre.length = true) :
    (EndsBlank pre ∨ StartsBlank (m ++ post)) ∨ HasStump (Text.words pre) := by
  obtain ⟨e, he, -⟩ := hm.last
  obtain ⟨c, m', rfl⟩ := List.exists_cons_of_ne_nil (List.ne_nil_of_mem (List.mem_of_mem_getLast? he))
  rcases hm.head c rfl with hc | hc
  · rw [isBoundary_append] at h
    cases hlast : pre.getLast? with
    | none => exact Or.inl (Or.inl (by simp [EndsBlank, hlast]))
    | some d =>
        have hd : isWord d = false := by simpa [hlast, hc] using h
        cases hblank : isBlank d with
        | true => exact Or.inl (Or.inl (by simp [EndsBlank, hlast, hblank]))
        | false =>
            obtain ⟨w, hw, hdw⟩ := exists_word_getLast hlast hblank
            exact Or.inr ⟨w, hw, Or.inr ⟨d, hdw, hd⟩⟩
  · exact Or.inl (Or.inr (by simpa using hc))

/-- After a firm stretch stands a blank or nothing, unless the cut leaves a stump. -/
theorem Firm.after (hm : Firm m) (h : isBoundary (pre ++ m ++ post).toArray (pre ++ m).length = true) :
    StartsBlank post ∨ HasStump (Text.words post) := by
  obtain ⟨c, hc, hword⟩ := hm.last
  have hne : m ≠ [] := List.ne_nil_of_mem (List.mem_of_mem_getLast? hc)
  rw [isBoundary_append, List.getLast?_append_of_ne_nil pre hne, Option.mem_def.mp hc] at h
  cases hhead : post.head? with
  | none => exact Or.inl (by simp [StartsBlank, hhead])
  | some d =>
      have hd : isWord d = false := by simpa [hhead, hword] using h
      cases hblank : isBlank d with
      | true => exact Or.inl (by simp [StartsBlank, hhead, hblank])
      | false =>
          obtain ⟨w, hw, hdw⟩ := exists_word_head hhead hblank
          exact Or.inr ⟨w, hw, Or.inl ⟨d, hdw, hd⟩⟩

/-- **To cut out a firm stretch between word boundaries takes whole words, or leaves a stump.** -/
theorem Firm.words_of_cut (hm : Firm m) (hi : isBoundary (pre ++ m ++ post).toArray pre.length = true)
    (hj : isBoundary (pre ++ m ++ post).toArray (pre.length + m.length) = true) :
    Text.words (pre ++ m ++ post) = Text.words pre ++ Text.words m ++ Text.words post ∨
      HasStump (Text.words pre ++ Text.words post) := by
  rw [List.append_assoc] at hi
  rw [← List.length_append] at hj
  rw [hasStump_append]
  rcases hm.before hi with hbefore | hstump
  · rcases hm.after hj with hafter | hstump
    · refine Or.inl ?_
      rw [List.append_assoc, words_append hbefore, words_append (Or.inr hafter), List.append_assoc]
    · exact Or.inr (Or.inr hstump)
  · exact Or.inr (Or.inl hstump)

end Boundaries

end PhraseFilter.Text
