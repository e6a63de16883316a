import PhraseFilter.Proofs.Standard.Language

/-!
# Phrases of the standard filter

* `Standard.Phrase` : words that say a topic; `Standard.valueOf?` : the value that phrases give a topic;
* `Says.known`, `Says.head` : the words of a phrase, and its first word;
* `Says.spells_spaced` : the phrases that a pattern spells with a space before them.
-/

namespace PhraseFilter.Standard

open Text Pattern

/-- Words that say a topic. -/
structure Phrase where
  topic : Topic
  words : List (List Char)
  value : Value
  spoken : Says topic words value

/-- The value of the first phrase of the topic. -/
def valueOf? (ps : List Phrase) (t : Topic) : Option Value := (ps.find? fun p => p.topic == t).map (·.value)

/-- Clauses and values of what a search found. -/
def valuesOf (found : List Finding) : List (Clause × Option Value) := found.map fun f => (f.clause, f.value)

section Values

variable {ps : List Phrase} {p : Phrase} {t : Topic}

theorem valueOf?_cons_self (ps : List Phrase) (p : Phrase) : valueOf? (p :: ps) p.topic = some p.value := by
  simp [valueOf?]

theorem valueOf?_cons_of_ne (h : p.topic ≠ t) : valueOf? (p :: ps) t = valueOf? ps t := by
  simp [valueOf?, h]

theorem valueOf?_eq_none (h : t ∉ ps.map (·.topic)) : valueOf? ps t = none := by
  simp only [valueOf?, Option.map_eq_none_iff, List.find?_eq_none, beq_iff_eq]
  exact fun p hp ht => h (List.mem_map.mpr ⟨p, hp, ht⟩)

end Values

/-! ## The words of a phrase -/

section Words

variable {t : Topic} {ws : List (List Char)} {w m v₃ : List Char} {v : Value}

theorem Says.known (h : Says t ws v) (hw : w ∈ ws) : Known t w := by
  cases h with
  | saying hx hws => exact .listed (mem_vocabulary hx (hws ▸ List.mem_map_of_mem hw))
  | span hl _ _ _ => exact known_of_isSpanWord (hl.isSpanWord_of_mem w hw)

theorem Topic.sayings_heads (t : Topic) :
    ∀ x ∈ t.sayings, ∃ w ∈ (words x.1.toList).head?, ¬ "lane".toList <+: w := by
  cases t <;> decide

theorem Says.head (h : Says t ws v) : ∃ w ∈ ws.head?, ¬ "lane".toList <+: w.map fold := by
  cases h with
  | @saying _ _ x hx hws =>
      obtain ⟨w, hw, hlane⟩ := t.sayings_heads x hx
      rw [← hws, List.head?_map] at hw
      obtain ⟨u, hu, rfl⟩ := Option.map_eq_some_iff.mp hw
      exact ⟨u, hu, hlane⟩
  | @span l name days hl _ _ _ =>
      obtain ⟨init, last, hwords, -⟩ := hl.exists_last
      obtain ⟨u, us, hu⟩ := List.exists_cons_of_ne_nil (show words l.text ≠ [] by simp [hwords])
      refine ⟨u, by rw [hu]; rfl, ?_⟩
      intro hlane
      rcases hl.isSpanWord_of_mem u (by simp [hu]) with hsmall | ⟨⟨d, r, rfl, hd⟩, -⟩
      · have hnone : ∀ w ∈ TimeSpan.openingWords ++ TimeSpan.unitWords, ¬ "lane".toList <+: w := by decide
        exact hnone _ hsmall hlane
      · have hfold : fold d = 'l' := (List.cons_prefix_cons.mp hlane).1.symm
        rw [isDigit_of_fold (by decide) hfold] at hd
        cases hd

/-- Only the side is said with a space before, and then by one word. -/
theorem Topic.sayings_spaced (t : Topic) : ∀ x ∈ t.sayings, x.1.toList.head? = some ' ' →
    t = .side ∧ x.1.toList = ' ' :: joined (words x.1.toList) ∧
      ∀ y ∈ t.sayings, (words y.1.toList).head? = (words x.1.toList).head? → words y.1.toList = words x.1.toList := by
  cases t <;> decide

/-- A phrase that starts like one with a space before can have a space before. -/
theorem Says.spells_spaced (h : Says t ws v) (hm : t.pattern.Spells (' ' :: m)) (hw : w ∈ (words m).head?)
    (hhead : w ++ v₃ ∈ ws.head?) (h₃ : ∀ c ∈ v₃.head?, isWord c = false) : t.pattern.Spells (' ' :: joined ws) := by
  have ht : t ≠ .date := by
    rintro rfl
    obtain ⟨l, hl, htext⟩ := TimeSpan.spells_phrase_iff.mp hm
    obtain ⟨w, ws, hwords⟩ := List.exists_cons_of_ne_nil (fits_of_spells hm).ne_nil
    have hword := (fits_of_spells hm).known w (by simp [hwords])
    have hjoined := hl.joined_words
    rw [htext, hwords] at hjoined
    have hspace : ' ' ∈ w.head? := by rw [← head?_joined hword.ne_nil, hjoined]; rfl
    have := hword.isWord_head hspace
    cases this
  obtain ⟨x, hx, hmx⟩ := (Topic.spells_iff ht).mp hm
  obtain ⟨rfl, hshape, hspaced⟩ := t.sayings_spaced x hx (by rw [← hmx]; rfl)
  have hletters : ∀ c ∈ w ++ v₃, isWord c = true := by
    intro c hc
    cases h.known (List.mem_of_mem_head? hhead) with
    | listed hlisted =>
        rcases (vocabulary_letters _ hlisted).2 with hall | ⟨hlobby, -⟩
        · exact isWord_of_map_fold (List.all_eq_true.mp hall) rfl hc
        · cases hlobby
  obtain rfl : v₃ = [] := eq_nil_of_head (fun c hc => hletters c (by simp [hc])) h₃
  rw [List.append_nil] at hhead
  cases h with
  | @saying _ _ y hy hws =>
      have hwords : words y.1.toList = words x.1.toList := by
        refine hspaced y hy ?_
        rw [← hws, ← hmx, words_map_fold, words_cons_of_blank rfl, List.head?_map, List.head?_map,
          Option.mem_def.mp hhead, Option.mem_def.mp hw]
      refine (Topic.spells_iff ht).mpr ⟨x, hx, ?_⟩
      rw [List.map_cons, joined_map_fold, hws, hwords]
      exact hshape.symm

end Words

end PhraseFilter.Standard
