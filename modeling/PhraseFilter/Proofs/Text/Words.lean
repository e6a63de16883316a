import Mathlib.Data.List.TakeWhile
import PhraseFilter.Text.Blank

/-!
# Words of a text

* `words_append` : where one of two texts ends or begins with a blank, their words stand side by side
  (`EndsBlank`, `StartsBlank`);
* `words_intercalate`, `words_normalize`, `normalize_normalize` : joining words and cutting them again;
* `ink` : the characters of a text that are not blank; `flatten_words`, `ink_normalize`;
* `exists_append_of_mem_words` : where a word stands; `exists_mem_words_of_infix` : a piece without
  blanks lies in a word.
-/

namespace PhraseFilter.Text

/-- The text is empty or its last character is blank. -/
def EndsBlank (s : List Char) : Prop := ∀ c ∈ s.getLast?, isBlank c = true

/-- The text is empty or its first character is blank. -/
def StartsBlank (s : List Char) : Prop := ∀ c ∈ s.head?, isBlank c = true

/-- A text of one or more characters, none of them blank. -/
def IsWordText (w : List Char) : Prop := w ≠ [] ∧ ∀ c ∈ w, isBlank c = false

/-- The characters of a text that are not blank. -/
def ink (s : List Char) : List Char := s.filter fun c => !isBlank c

section Ends

variable {a b s : List Char} {c : Char}

@[simp] theorem endsBlank_nil : EndsBlank [] := by simp [EndsBlank]

@[simp] theorem startsBlank_nil : StartsBlank [] := by simp [StartsBlank]

@[simp] theorem startsBlank_cons : StartsBlank (c :: s) ↔ isBlank c = true := by
  simp [StartsBlank]

@[simp] theorem endsBlank_append_singleton : EndsBlank (s ++ [c]) ↔ isBlank c = true := by
  simp [EndsBlank]

theorem endsBlank_append (hb : b ≠ []) : EndsBlank (a ++ b) ↔ EndsBlank b := by
  obtain ⟨b, c, rfl⟩ := List.eq_nil_or_concat b |>.resolve_left hb
  rw [List.concat_eq_append, ← List.append_assoc, endsBlank_append_singleton, endsBlank_append_singleton]

theorem endsBlank_cons (hs : s ≠ []) : EndsBlank (c :: s) ↔ EndsBlank s :=
  endsBlank_append (a := [c]) hs

end Ends

/-! ## Cutting -/

section Words

variable {a b s w : List Char} {c : Char} {ws : List (List Char)}

@[simp] theorem words_nil : words [] = [] := rfl

theorem words_cons_of_blank (h : isBlank c = true) : words (c :: s) = words s := by
  simp [words, h]

theorem words_word_append (hw : IsWordText w) (hb : StartsBlank b) : words (w ++ b) = w :: words b := by
  obtain ⟨hne, hink⟩ := hw
  induction w with
  | nil => exact absurd rfl hne
  | cons c w ih =>
      have hc := hink c List.mem_cons_self
      rw [List.cons_append, words, if_neg (by simp [hc])]
      cases w with
      | nil =>
          cases b with
          | nil => rfl
          | cons d b =>
              have hd : isBlank d = true := by simpa using hb
              have htouch : (d :: b).head?.any (!isBlank ·) = false := by simp [hd]
              rw [List.nil_append, htouch]
              cases words (d :: b) <;> rfl
      | cons d w =>
          have hd := hink d (by simp)
          rw [ih (by simp) fun e he => hink e (List.mem_cons_of_mem _ he)]
          simp [attach, hd]

theorem words_of_isWordText (hw : IsWordText w) : words w = [w] := by
  simpa using words_word_append hw startsBlank_nil

/-- A text is empty, begins with a blank, or begins with a word that a blank or nothing follows. -/
theorem text_cases (s : List Char) :
    s = [] ∨ (∃ c t, s = c :: t ∧ isBlank c = true) ∨ ∃ w t, s = w ++ t ∧ IsWordText w ∧ StartsBlank t := by
  cases s with
  | nil => exact Or.inl rfl
  | cons c t =>
      by_cases hc : isBlank c = true
      · exact Or.inr (Or.inl ⟨c, t, rfl, hc⟩)
      · refine Or.inr (Or.inr ⟨(c :: t).takeWhile (!isBlank ·), (c :: t).dropWhile (!isBlank ·),
          List.takeWhile_append_dropWhile.symm, ⟨by simp [hc], fun d hd => ?_⟩, fun d hd => ?_⟩)
        · simpa using List.mem_takeWhile_imp hd
        · have h := List.head?_dropWhile_not (!isBlank ·) (c :: t)
          rw [Option.mem_def.mp hd] at h
          simpa using h

/-- Induction on a text, a blank or a word at a time. -/
theorem text_induction {motive : List Char → Prop} (nil : motive [])
    (blank : ∀ c t, isBlank c = true → motive t → motive (c :: t))
    (word : ∀ w t, IsWordText w → StartsBlank t → motive t → motive (w ++ t)) (s : List Char) : motive s := by
  generalize hn : s.length = n
  induction n using Nat.strongRecOn generalizing s with
  | _ n ih =>
      rcases text_cases s with rfl | ⟨c, t, rfl, hc⟩ | ⟨w, t, rfl, hw, ht⟩
      · exact nil
      · exact blank c t hc (ih t.length (by simp at hn; omega) t rfl)
      · have := List.length_pos_iff.mpr hw.1
        exact word w t hw ht (ih t.length (by simp at hn; omega) t rfl)

theorem isWordText_of_mem_words (h : w ∈ words s) : IsWordText w := by
  induction s using text_induction with
  | nil => simp at h
  | blank c t hc ih => exact ih (by rwa [words_cons_of_blank hc] at h)
  | word v t hv ht ih =>
      rw [words_word_append hv ht, List.mem_cons] at h
      rcases h with rfl | h
      · exact hv
      · exact ih h

theorem words_append (h : EndsBlank a ∨ StartsBlank b) : words (a ++ b) = words a ++ words b := by
  induction a using text_induction with
  | nil => rfl
  | blank c t hc ih =>
      rw [List.cons_append, words_cons_of_blank hc, words_cons_of_blank hc]
      refine ih (h.imp_left fun he => ?_)
      rcases eq_or_ne t [] with rfl | ht
      · exact endsBlank_nil
      · exact (endsBlank_cons ht).mp he
  | word w t hw ht ih =>
      rcases eq_or_ne t [] with rfl | hne
      · have hb : StartsBlank b := by
          refine h.resolve_left fun he => ?_
          have hlast := List.getLast?_eq_some_getLast hw.1
          have hblank := he _ (by rw [List.append_nil]; exact hlast)
          rw [hw.2 _ (List.getLast_mem hw.1)] at hblank
          cases hblank
        rw [List.append_nil, words_of_isWordText hw, words_word_append hw hb]
        rfl
      · have htb : StartsBlank (t ++ b) := by
          cases t with
          | nil => exact absurd rfl hne
          | cons c t => simpa using ht
        rw [List.append_assoc, words_word_append hw htb, words_word_append hw ht,
          ih (h.imp_left (endsBlank_append hne).mp), List.cons_append]

theorem words_append_cons (hc : isBlank c = true) : words (a ++ c :: b) = words a ++ words b := by
  rw [words_append (Or.inr (by simpa using hc)), words_cons_of_blank hc]

end Words

/-! ## Joining -/

section Join

variable {a b s w : List Char} {ws : List (List Char)}

theorem intercalate_cons_cons (v w : List Char) (ws : List (List Char)) :
    [' '].intercalate (v :: w :: ws) = v ++ ' ' :: [' '].intercalate (w :: ws) := by
  simp [List.intercalate_cons_cons]

theorem words_intercalate (h : ∀ w ∈ ws, IsWordText w) : words ([' '].intercalate ws) = ws := by
  induction ws with
  | nil => rfl
  | cons v ws ih =>
      have hv := h v List.mem_cons_self
      cases ws with
      | nil => simpa using words_of_isWordText hv
      | cons w ws =>
          rw [intercalate_cons_cons, words_append_cons rfl, words_of_isWordText hv,
            ih fun u hu => h u (List.mem_cons_of_mem _ hu), List.singleton_append]

@[simp] theorem words_normalize (s : List Char) : words (normalize s) = words s :=
  words_intercalate fun _ hw => isWordText_of_mem_words hw

theorem normalize_eq_of_words (h : words a = words b) : normalize a = normalize b := by
  rw [normalize, normalize, h]

@[simp] theorem normalize_normalize (s : List Char) : normalize (normalize s) = normalize s :=
  normalize_eq_of_words (words_normalize s)

end Join

/-! ## Ink -/

section Ink

variable {a b s w : List Char} {ws : List (List Char)}

@[simp] theorem ink_append (a b : List Char) : ink (a ++ b) = ink a ++ ink b := List.filter_append ..

theorem ink_of_isWordText (hw : IsWordText w) : ink w = w :=
  List.filter_eq_self.mpr fun c hc => by simp [hw.2 c hc]

theorem flatten_words (s : List Char) : (words s).flatten = ink s := by
  induction s using text_induction with
  | nil => rfl
  | blank c t hc ih => rw [words_cons_of_blank hc, ih, ink, ink, List.filter_cons_of_neg (by simp [hc])]
  | word w t hw ht ih => rw [words_word_append hw ht, List.flatten_cons, ih, ink_append, ink_of_isWordText hw]

@[simp] theorem ink_normalize (s : List Char) : ink (normalize s) = ink s := by
  rw [← flatten_words, words_normalize, flatten_words]

end Ink

/-! ## Where words stand -/

section Pieces

variable {a b s t w : List Char}

theorem exists_append_of_mem_words (h : w ∈ words s) :
    ∃ a b, s = a ++ w ++ b ∧ EndsBlank a ∧ StartsBlank b := by
  induction s using text_induction with
  | nil => simp at h
  | blank c t hc ih =>
      rw [words_cons_of_blank hc] at h
      obtain ⟨a, b, rfl, ha, hb⟩ := ih h
      refine ⟨c :: a, b, rfl, ?_, hb⟩
      rcases eq_or_ne a [] with rfl | hne
      · simpa [EndsBlank] using hc
      · exact (endsBlank_cons hne).mpr ha
  | word v t hv ht ih =>
      rw [words_word_append hv ht, List.mem_cons] at h
      rcases h with rfl | h
      · exact ⟨[], t, by simp, endsBlank_nil, ht⟩
      · obtain ⟨a, b, rfl, ha, hb⟩ := ih h
        refine ⟨v ++ a, b, by simp, ?_, hb⟩
        have hne : a ≠ [] := by
          rintro rfl
          obtain ⟨c, w, rfl⟩ := List.exists_cons_of_ne_nil (isWordText_of_mem_words h).1
          have := (isWordText_of_mem_words h).2 c List.mem_cons_self
          simp [this] at ht
        exact (endsBlank_append hne).mpr ha

/-- A piece without blanks lies within one word. -/
theorem exists_mem_words_of_infix (hw : IsWordText w) (h : w <:+: s) : ∃ v ∈ words s, w <:+: v := by
  obtain ⟨c, u, rfl⟩ := List.exists_cons_of_ne_nil hw.1
  have hc := hw.2 c List.mem_cons_self
  induction s using text_induction with
  | nil => simp at h
  | blank d t hd ih =>
      rw [words_cons_of_blank hd]
      refine ih ((List.infix_cons_iff.mp h).resolve_left fun hp => ?_)
      rw [(List.cons_prefix_cons.mp hp).1, hd] at hc
      cases hc
  | word v t hv ht ih =>
      rw [words_word_append hv ht]
      have hsplit : c :: u <:+: v ∨ c :: u <:+: t := by
        obtain ⟨a, b, hab⟩ := h
        rw [List.append_assoc] at hab
        rcases List.append_eq_append_iff.mp hab with ⟨v', rfl, hv'⟩ | ⟨a', rfl, ht'⟩
        · rcases List.append_eq_append_iff.mp hv' with ⟨r, rfl, hr⟩ | ⟨r, hr, ht'⟩
          · exact Or.inl ⟨a, r, by simp⟩
          · cases r with
            | nil => exact Or.inl ⟨a, [], by simp [hr]⟩
            | cons d r =>
                have hd := hw.2 d (by rw [hr]; simp)
                rw [ht', List.cons_append, startsBlank_cons, hd] at ht
                cases ht
        · exact Or.inr ⟨a', b, by rw [ht', List.append_assoc]⟩
      rcases hsplit with h | h
      · exact ⟨v, List.mem_cons_self, h⟩
      · obtain ⟨x, hx, hin⟩ := ih h
        exact ⟨x, List.mem_cons_of_mem _ hx, hin⟩

end Pieces

end PhraseFilter.Text
