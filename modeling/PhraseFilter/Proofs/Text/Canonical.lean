import PhraseFilter.Proofs.Text.Joined

/-!
# The canonical form of a text

* `words_eq_splitOnP` : the words of a text are its pieces between blanks, those that are not empty;
  `words_joined_eq_flatMap` : the words of texts that are joined;
* `IsCanonical` : texts that neither start nor end in a blank, and in which single spaces are the only blanks;
* `isCanonical_normalize` : joined words are such a text, `IsCanonical.joined_words` : and such a text is its joined words;
* `eq_normalize_iff` : **a text has one canonical form**, `isCanonical_iff` : which is itself just when it is canonical;
* `normalize_eq_iff` : two texts have the same canonical form just when they have the same words;
* `IsCanonical.eq_of_prefix`, `IsCanonical.eq_of_suffix` : the parts of a canonical text.
-/

namespace PhraseFilter.Text

/-- Neither end of the text is blank, it has no blanks but spaces, and no two of them stand side by side. -/
structure IsCanonical (s : List Char) : Prop where
  head : ∀ c ∈ s.head?, isBlank c = false
  last : ∀ c ∈ s.getLast?, isBlank c = false
  space : ∀ c ∈ s, isBlank c = true → c = ' '
  single : ¬ [' ', ' '] <:+: s

theorem words_eq_splitOnP (s : List Char) : words s = (s.splitOnP isBlank).filter (!·.isEmpty) := by
  induction s using text_induction with
  | nil => rfl
  | blank c t hc ih =>
      have hsplit := List.splitOnP_append_cons [] t hc
      rw [List.nil_append] at hsplit
      rw [words_cons_of_blank hc, ih, hsplit, List.filter_append]
      rfl
  | word w t hw ht ih =>
      have hpiece : w.splitOnP isBlank = [w] := List.splitOnP_eq_singleton hw.2
      have hkept : [w].filter (!·.isEmpty) = [w] := by simp [hw.1]
      rw [words_word_append hw ht, ih]
      cases t with
      | nil => rw [List.append_nil, hpiece, hkept]; rfl
      | cons c t =>
          -- The blank after the word ends it, and starts an empty piece of what follows.
          have hc : isBlank c = true := startsBlank_cons.mp ht
          have hsplit := List.splitOnP_append_cons [] t hc
          rw [List.nil_append] at hsplit
          rw [List.splitOnP_append_cons w t hc, hsplit, hpiece, List.filter_append, List.filter_append, hkept]
          rfl

theorem words_joined_eq_flatMap (texts : List (List Char)) : words (joined texts) = texts.flatMap words := by
  induction texts with
  | nil => rfl
  | cons s texts ih =>
      by_cases hne : texts = []
      · rw [hne, joined_singleton, List.flatMap_singleton]
      · rw [joined_cons s hne, words_append_cons rfl, ih, List.flatMap_cons]

section Canonical

variable {s t : List Char} {ws : List (List Char)}

/-- Joined words start and end in words, and between them stand single spaces. -/
theorem isCanonical_joined (h : ∀ w ∈ ws, IsWordText w) : IsCanonical (joined ws) := by
  have hhead : ∀ {ws : List (List Char)}, (∀ w ∈ ws, IsWordText w) → ∀ c ∈ (joined ws).head?, isBlank c = false := by
    intro ws h c hc
    cases ws with
    | nil => cases hc
    | cons w ws =>
        have hw := h w List.mem_cons_self
        rw [head?_joined hw.1] at hc
        exact hw.2 c (List.mem_of_mem_head? hc)
  refine ⟨hhead h, fun c hc => ?_, fun c hc hblank => ?_, ?_⟩
  · rcases List.eq_nil_or_concat ws with rfl | ⟨us, w, rfl⟩
    · cases hc
    · have hw := h w (by simp)
      rw [List.concat_eq_append, getLast?_joined us hw.1] at hc
      exact hw.2 c (List.mem_of_mem_getLast? hc)
  · rcases mem_joined hc with hspace | ⟨w, hw, hcw⟩
    · exact hspace
    · rw [(h w hw).2 c hcw] at hblank
      cases hblank
  · -- After a space stand words, and these do not start with another one.
    rintro ⟨a, b, hab⟩
    rw [List.append_assoc] at hab
    obtain ⟨us, us', -, -, rfl, -, hrest⟩ := exists_append_of_joined h hab.symm
    have hblank := hhead (fun w hw => h w (List.mem_append_right us hw)) ' ' (by rw [← hrest]; rfl)
    cases hblank

theorem isCanonical_normalize (s : List Char) : IsCanonical (normalize s) :=
  isCanonical_joined fun _ hw => isWordText_of_mem_words hw

theorem IsCanonical.text_cases (h : IsCanonical s) : s = [] ∨ ∃ w t, s = w ++ t ∧ IsWordText w ∧ StartsBlank t := by
  rcases Text.text_cases s with hnil | ⟨c, t, rfl, hc⟩ | hword
  · exact Or.inl hnil
  · rw [h.head c rfl] at hc
    cases hc
  · exact Or.inr hword

/-- After its first word a canonical text ends, or it goes on with a space and a canonical text. -/
theorem IsCanonical.of_append {w : List Char} (h : IsCanonical (w ++ t)) (ht : StartsBlank t) (hne : t ≠ []) :
    ∃ r, t = ' ' :: r ∧ r ≠ [] ∧ IsCanonical r := by
  obtain ⟨c, r, rfl⟩ := List.exists_cons_of_ne_nil hne
  obtain rfl : c = ' ' := h.space c (by simp) (startsBlank_cons.mp ht)
  have hlast : ∀ {d}, d ∈ (' ' :: r).getLast? → isBlank d = false := by
    intro d hd
    refine h.last d ?_
    rwa [List.getLast?_append_of_ne_nil _ hne]
  have hr : r ≠ [] := by
    rintro rfl
    have hspace := hlast (d := ' ') rfl
    cases hspace
  refine ⟨r, rfl, hr, fun d hd => ?_, fun d hd => ?_, fun d hd => ?_, fun hspaces => ?_⟩
  · obtain ⟨r, rfl⟩ := List.head?_eq_some_iff.mp hd
    by_contra hblank
    obtain rfl : d = ' ' := h.space d (by simp) ((Bool.not_eq_false _).mp hblank)
    exact h.single ⟨w, r, by simp⟩
  · refine hlast ?_
    rwa [List.getLast?_cons_of_ne_nil hr]
  · exact h.space d (by simp [hd])
  · exact h.single (hspaces.trans ⟨w ++ [' '], [], by simp⟩)

theorem IsCanonical.joined_words (h : IsCanonical s) : joined (words s) = s := by
  generalize hws : words s = ws
  induction ws generalizing s with
  | nil =>
      rcases h.text_cases with rfl | ⟨w, t, rfl, hw, ht⟩
      · rfl
      · rw [words_word_append hw ht] at hws
        cases hws
  | cons w ws ih =>
      rcases h.text_cases with rfl | ⟨w, t, rfl, hw, ht⟩
      · cases hws
      · rw [words_word_append hw ht] at hws
        obtain ⟨rfl, rfl⟩ := List.cons.inj hws
        by_cases hne : t = []
        · rw [hne, words_nil, joined_singleton, List.append_nil]
        · obtain ⟨r, rfl, hr, hrest⟩ := h.of_append ht hne
          have hwords : words (' ' :: r) = words r := words_cons_of_blank rfl
          have hjoined := ih hrest hwords.symm
          have hsome : words (' ' :: r) ≠ [] := by
            intro hnil
            rw [hnil, joined_nil] at hjoined
            exact hr hjoined.symm
          rw [joined_cons w hsome, hjoined]

/-- **A text has one canonical form**: the canonical text with the same words. -/
theorem eq_normalize_iff : t = normalize s ↔ IsCanonical t ∧ words t = words s := by
  constructor
  · rintro rfl
    exact ⟨isCanonical_normalize s, words_normalize s⟩
  · rintro ⟨hcanonical, hwords⟩
    rw [normalize_eq_joined, ← hwords, hcanonical.joined_words]

theorem isCanonical_iff : IsCanonical s ↔ normalize s = s := by
  rw [eq_comm, eq_normalize_iff, and_iff_left rfl]

theorem normalize_eq_iff : normalize s = normalize t ↔ words s = words t := by
  rw [eq_normalize_iff, words_normalize, and_iff_right (isCanonical_normalize s)]

end Canonical

/-! ## Parts of canonical texts -/

section Parts

variable {s t a b : List Char}

theorem IsCanonical.of_infix (h : IsCanonical s) (ht : t <:+: s) (hhead : ∀ c ∈ t.head?, isBlank c = false)
    (hlast : ∀ c ∈ t.getLast?, isBlank c = false) : IsCanonical t :=
  ⟨hhead, hlast, fun c hc => h.space c (ht.subset hc), fun hspaces => h.single (hspaces.trans ht)⟩

theorem IsCanonical.eq_of_prefix (h : IsCanonical (a ++ b)) : a = normalize a ∨ a = normalize a ++ [' '] := by
  have hhead : ∀ {x y : List Char}, IsCanonical (x ++ y) → ∀ c ∈ x.head?, isBlank c = false := by
    intro x y hxy c hc
    obtain ⟨x, rfl⟩ := List.head?_eq_some_iff.mp hc
    exact hxy.head c rfl
  rcases List.eq_nil_or_concat a with rfl | ⟨x, c, rfl⟩
  · exact Or.inl rfl
  · rw [List.concat_eq_append] at h ⊢
    cases hc : isBlank c with
    | false =>
        refine Or.inl (isCanonical_iff.mp (h.of_infix (List.prefix_append _ _).isInfix (hhead h) ?_)).symm
        simpa using hc
    | true =>
        obtain rfl : c = ' ' := h.space c (by simp) hc
        have hx : IsCanonical x := by
          rw [List.append_assoc] at h
          refine h.of_infix (List.prefix_append _ _).isInfix (hhead h) fun d hd => ?_
          -- Two blanks do not stand side by side.
          by_contra hblank
          obtain ⟨r, rfl⟩ := List.getLast?_eq_some_iff.mp hd
          obtain rfl : d = ' ' := h.space d (by simp) ((Bool.not_eq_false _).mp hblank)
          exact h.single ⟨r, b, by simp⟩
        refine Or.inr ?_
        rw [normalize_eq_iff.mpr ((words_append_cons rfl).trans (List.append_nil _)), isCanonical_iff.mp hx]

theorem IsCanonical.eq_of_suffix (h : IsCanonical (a ++ b)) : b = normalize b ∨ b = ' ' :: normalize b := by
  have hlast : ∀ {x y : List Char}, IsCanonical (x ++ y) → ∀ c ∈ y.getLast?, isBlank c = false := by
    intro x y hxy c hc
    obtain ⟨y, rfl⟩ := List.getLast?_eq_some_iff.mp hc
    exact hxy.last c (by simp)
  cases b with
  | nil => exact Or.inl rfl
  | cons c y =>
      cases hc : isBlank c with
      | false =>
          refine Or.inl (isCanonical_iff.mp (h.of_infix (List.suffix_append _ _).isInfix ?_ (hlast h))).symm
          simpa using hc
      | true =>
          obtain rfl : c = ' ' := h.space c (by simp) hc
          have hy : IsCanonical y := by
            rw [List.append_cons] at h
            refine h.of_infix (List.suffix_append _ _).isInfix (fun d hd => ?_) (hlast h)
            by_contra hblank
            obtain ⟨r, rfl⟩ := List.head?_eq_some_iff.mp hd
            obtain rfl : d = ' ' := h.space d (by simp) ((Bool.not_eq_false _).mp hblank)
            exact h.single ⟨a, r, by simp⟩
          refine Or.inr ?_
          rw [normalize_eq_iff.mpr (words_cons_of_blank rfl), isCanonical_iff.mp hy]

end Parts

end PhraseFilter.Text
