import PhraseFilter.Proofs.Span.Layout
import PhraseFilter.Proofs.Text.Joined

/-!
# The words of a time span

* `TimeSpan.Layout.IsSpan.exists_words` : a time span is joined from its openings, its count and its unit;
* `TimeSpan.IsSpanWord` : the words that time spans are made of;
* `TimeSpan.Closes` : a word that ends in a unit, which only the last word of a time span does;
* `TimeSpan.Layout.IsSpan.eq_of_prefix_words`, `TimeSpan.eq_nil_of_spells_append` : **no time span starts with another**.
-/

namespace PhraseFilter.TimeSpan

open Text

def openingWords : List (List Char) := ["in", "over", "the", "this", "last", "past"].map (·.toList)

def unitWords : List (List Char) :=
  ["day", "days", "week", "weeks", "month", "months", "year", "years"].map (·.toList)

/-- A word that can stand in a time span: an opening, a unit, or what starts with a digit. -/
def IsSpanWord (w : List Char) : Prop :=
  w.map fold ∈ openingWords ++ unitWords ∨ (∃ d r, w = d :: r ∧ isDigit d = true) ∧ ∀ c ∈ w, isWord c = true

/-- A word that ends in a unit. -/
def Closes (w : List Char) : Prop := ∃ u ∈ unitWords, u <:+ w.map fold

section Words

variable {l : Layout} {p u w : List Char}

theorem isWordText_of_isWord (hne : w ≠ []) (h : ∀ c ∈ w, isWord c = true) : IsWordText w :=
  ⟨hne, fun c hc => isBlank_of_isWord (h c hc)⟩

theorem isWord_of_small (h : w.map fold ∈ openingWords ++ unitWords) : w ≠ [] ∧ ∀ c ∈ w, isWord c = true := by
  have hsmall : ∀ u ∈ openingWords ++ unitWords, u ≠ [] ∧ u.all (·.isLower) = true := by decide
  obtain ⟨hne, hall⟩ := hsmall _ h
  exact ⟨by simpa using hne, fun c hc => isWord_of_map_fold (List.all_eq_true.mp hall) rfl hc⟩

theorem IsSpanWord.isWord (h : IsSpanWord w) : w ≠ [] ∧ ∀ c ∈ w, Text.isWord c = true := by
  rcases h with h | ⟨⟨d, r, rfl, -⟩, h⟩
  · exact isWord_of_small h
  · exact ⟨List.cons_ne_nil _ _, h⟩

theorem exists_lead_of_map_fold (h : p.map fold = u ++ [' ']) : ∃ w, p = lead [w] ∧ w.map fold = u := by
  obtain ⟨a, b, rfl, ha, hb⟩ := map_fold_eq_append h
  obtain ⟨d, rfl, hd⟩ := List.map_eq_singleton_iff.mp hb
  exact ⟨a, by simp [eq_of_fold_eq_space hd], ha⟩

theorem exists_lead (h : p.map fold ∈ (openingWords.map (· ++ [' '])) ++ [[]]) :
    ∃ us, p = lead us ∧ ∀ w ∈ us, w.map fold ∈ openingWords := by
  rcases List.mem_append.mp h with h | h
  · obtain ⟨u, hu, hp⟩ := List.mem_map.mp h
    obtain ⟨w, rfl, rfl⟩ := exists_lead_of_map_fold hp.symm
    exact ⟨[w], rfl, by simpa using hu⟩
  · obtain rfl : p = [] := by simpa using h
    exact ⟨[], rfl, by simp⟩

end Words

namespace Layout.IsSpan

variable {l l' : Layout}

theorem unit_ending (h : l.IsSpan) : (l.unit ++ l.ending).map fold ∈ unitWords := by
  have hall : ∀ u ∈ ["day".toList, "week".toList, "month".toList, "year".toList], ∀ s ∈ [['s'], []],
      u ++ s ∈ unitWords := by decide
  rw [List.map_append]
  exact hall _ h.unit _ h.ending

/-- **A time span is joined from its words**: openings, and then a count and a unit, which may touch. -/
theorem exists_words (h : l.IsSpan) : ∃ us vs, l.text = joined (us ++ vs) ∧
    (∀ w ∈ us, w.map fold ∈ openingWords) ∧
    ((l.digits ≠ [] ∧ vs = [l.digits, l.unit ++ l.ending]) ∨ vs = [l.digits ++ (l.unit ++ l.ending)]) := by
  have hrow : ∀ row ∈ [["in ".toList, "over ".toList, []], ["the ".toList, []],
      ["this ".toList, "last ".toList, "past ".toList, []]], ∀ p ∈ row,
      p ∈ (openingWords.map (· ++ [' '])) ++ [[]] := by decide
  obtain ⟨a, ha, haw⟩ := exists_lead (hrow _ (by simp) _ h.first)
  obtain ⟨b, hb, hbw⟩ := exists_lead (hrow _ (by simp) _ h.second)
  obtain ⟨c, hc, hcw⟩ := exists_lead (hrow _ (by simp) _ h.third)
  have hwords : ∀ w ∈ a ++ b ++ c, w.map fold ∈ openingWords := by
    intro w hw
    rcases List.mem_append.mp hw with hw | hw
    · rcases List.mem_append.mp hw with hw | hw
      · exact haw w hw
      · exact hbw w hw
    · exact hcw w hw
  have htext : ∀ vs, vs ≠ [] → joined vs = l.core → l.text = joined (a ++ b ++ c ++ vs) := by
    intro vs hvs hcore
    rw [joined_append _ hvs, lead_append, lead_append, hcore, Layout.text, ha, hb, hc]
    simp
  rcases h.gap with hg | hg
  · have hdigits : l.digits ≠ [] := by
      intro hd
      rw [h.gap_nil hd] at hg
      cases hg
    refine ⟨a ++ b ++ c, [l.digits, l.unit ++ l.ending], htext _ (by simp) ?_, hwords, Or.inl ⟨hdigits, rfl⟩⟩
    rw [joined_cons _ (by simp), joined_singleton, Layout.core, hg]
    rfl
  · refine ⟨a ++ b ++ c, [l.digits ++ (l.unit ++ l.ending)], htext _ (by simp) ?_, hwords, Or.inr rfl⟩
    rw [joined_singleton, Layout.core, hg, List.nil_append]

/-- The count with the unit is a word. -/
theorem isSpanWord_together (h : l.IsSpan) : IsSpanWord (l.digits ++ (l.unit ++ l.ending)) := by
  have hunit := isWord_of_small (List.mem_append_right openingWords h.unit_ending)
  cases hd : l.digits with
  | nil => exact Or.inl (List.mem_append_right _ h.unit_ending)
  | cons d ds =>
      have hdigits := h.digits
      rw [hd] at hdigits
      refine Or.inr ⟨⟨d, _, rfl, hdigits d List.mem_cons_self⟩, fun c hc => ?_⟩
      rcases List.mem_append.mp hc with hc | hc
      · exact isWord_of_isDigit (hdigits c hc)
      · exact hunit.2 c hc

theorem isSpanWord_digits (h : l.IsSpan) (hne : l.digits ≠ []) : IsSpanWord l.digits := by
  obtain ⟨d, ds, hd⟩ := List.exists_cons_of_ne_nil hne
  exact Or.inr ⟨⟨d, ds, hd, h.digits d (by simp [hd])⟩, fun c hc => isWord_of_isDigit (h.digits c hc)⟩

theorem isSpanWord_of_mem_parts (h : l.IsSpan) {us vs : List (List Char)} (hus : ∀ w ∈ us, w.map fold ∈ openingWords)
    (hvs : (l.digits ≠ [] ∧ vs = [l.digits, l.unit ++ l.ending]) ∨ vs = [l.digits ++ (l.unit ++ l.ending)]) :
    ∀ w ∈ us ++ vs, IsSpanWord w := by
  intro w hw
  rcases List.mem_append.mp hw with hw | hw
  · exact Or.inl (List.mem_append_left _ (hus w hw))
  · rcases hvs with ⟨hne, rfl⟩ | rfl
    · rcases List.mem_pair.mp hw with rfl | rfl
      · exact h.isSpanWord_digits hne
      · exact Or.inl (List.mem_append_right _ h.unit_ending)
    · rw [List.mem_singleton.mp hw]
      exact h.isSpanWord_together

theorem words_text (h : l.IsSpan) : ∃ us vs, words l.text = us ++ vs ∧ joined (us ++ vs) = l.text ∧
    (∀ w ∈ us ++ vs, IsSpanWord w) ∧ (∀ w ∈ us, w.map fold ∈ openingWords) ∧
    ((l.digits ≠ [] ∧ vs = [l.digits, l.unit ++ l.ending]) ∨ vs = [l.digits ++ (l.unit ++ l.ending)]) := by
  obtain ⟨us, vs, htext, hus, hvs⟩ := h.exists_words
  have hspan := h.isSpanWord_of_mem_parts hus hvs
  have hwords : words l.text = us ++ vs := by
    rw [htext]
    exact words_joined fun w hw => isWordText_of_isWord (hspan w hw).isWord.1 (hspan w hw).isWord.2
  exact ⟨us, vs, hwords, htext.symm, hspan, hus, hvs⟩

theorem isSpanWord_of_mem (h : l.IsSpan) : ∀ w ∈ words l.text, IsSpanWord w := by
  obtain ⟨us, vs, hwords, -, hspan, -⟩ := h.words_text
  rwa [hwords]

theorem joined_words (h : l.IsSpan) : joined (words l.text) = l.text := by
  obtain ⟨us, vs, hwords, hjoined, -⟩ := h.words_text
  rwa [hwords]

/-- The last word of a time span is the only one that ends in a unit. -/
theorem exists_last (h : l.IsSpan) :
    ∃ init last, words l.text = init ++ [last] ∧ Closes last ∧ ∀ w ∈ init, ¬ Closes w := by
  obtain ⟨us, vs, hwords, -, -, hus, hvs⟩ := h.words_text
  have hopening : ∀ w ∈ us, ¬ Closes w := by
    have hnone : ∀ w ∈ openingWords, ∀ u ∈ unitWords, ¬ u <:+ w := by decide
    rintro w hw ⟨u, hu, hsuffix⟩
    exact hnone _ (hus w hw) u hu hsuffix
  have hdigits : ¬ Closes l.digits := by
    rintro ⟨u, hu, hsuffix⟩
    have hsmall : ∀ u ∈ unitWords, u ≠ [] ∧ u.all (·.isLower) = true := by decide
    obtain ⟨hne, hall⟩ := hsmall u hu
    obtain ⟨c, hc⟩ := List.exists_mem_of_ne_nil u hne
    obtain ⟨d, hd, rfl⟩ := List.mem_map.mp (hsuffix.subset hc)
    have hdigit := h.digits d hd
    rw [isDigit_of_fold (List.all_eq_true.mp hall _ hc) rfl] at hdigit
    cases hdigit
  rcases hvs with ⟨-, rfl⟩ | rfl
  · refine ⟨us ++ [l.digits], l.unit ++ l.ending, by simpa using hwords, ⟨_, h.unit_ending, List.suffix_refl _⟩, ?_⟩
    intro w hw
    rcases List.mem_append.mp hw with hw | hw
    · exact hopening w hw
    · rwa [List.mem_singleton.mp hw]
  · refine ⟨us, l.digits ++ (l.unit ++ l.ending), hwords, ⟨_, h.unit_ending, ?_⟩, hopening⟩
    exact ⟨l.digits.map fold, List.map_append.symm⟩

/-- **No time span starts with the words of another.** -/
theorem eq_of_prefix_words (h : l.IsSpan) (h' : l'.IsSpan) (hstarts : words l.text <+: words l'.text) :
    l.text = l'.text := by
  obtain ⟨init, last, hwords, hlast, -⟩ := h.exists_last
  obtain ⟨init', last', hwords', -, hinit'⟩ := h'.exists_last
  have heq : words l.text = words l'.text := by
    rw [hwords, hwords'] at hstarts ⊢
    rcases List.prefix_concat_iff.mp hstarts with heq | hshort
    · exact heq
    · exact absurd hlast (hinit' last (hshort.subset (by simp)))
  rw [← h.joined_words, ← h'.joined_words, heq]

end Layout.IsSpan

/-- A time span does not go on to another after a character that is not a word character. -/
theorem eq_nil_of_spells_append {m e : List Char} (h : phrase.Spells m) (h' : phrase.Spells (m ++ e))
    (he : ∀ c ∈ e.head?, isWord c = false) : e = [] := by
  obtain ⟨l, hl, rfl⟩ := spells_phrase_iff.mp h
  obtain ⟨l', hl', htext⟩ := spells_phrase_iff.mp h'
  cases e with
  | nil => rfl
  | cons c e =>
      have hc : c ∈ joined (words l'.text) := by
        rw [hl'.joined_words, htext]
        simp
      have hspace : c = ' ' := by
        rcases mem_joined hc with hc | ⟨w, hw, hcw⟩
        · exact hc
        · have hword := (hl'.isSpanWord_of_mem w hw).isWord.2 c hcw
          rw [he c rfl] at hword
          cases hword
      have hstarts : words l.text <+: words l'.text := by
        rw [htext, hspace, words_append_cons rfl]
        exact List.prefix_append _ _
      have heq := hl.eq_of_prefix_words hl' hstarts
      rw [htext] at heq
      simp at heq

end PhraseFilter.TimeSpan
