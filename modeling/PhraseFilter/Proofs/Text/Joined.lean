import PhraseFilter.Proofs.Text.Letters
import PhraseFilter.Proofs.Text.Split

/-!
# Words joined by single spaces

* `joined` : words with a space between neighbours; `lead`, `trail` : words with a space after each, and before each;
* `joined_append`, `joined_append_trail`, `joined_middle` : what is joined in parts;
* `exists_word_of_joined`, `exists_append_of_joined` : **a character of joined words lies in one word or is the space
  between two of them**;
* `joined_map_fold`, `exists_joined_of_map_fold` : joining and folding.
-/

namespace PhraseFilter.Text

/-- Words with a space between neighbours. -/
def joined (ws : List (List Char)) : List Char := [' '].intercalate ws

/-- Words with a space after each. -/
def lead (ws : List (List Char)) : List Char := ws.flatMap (· ++ [' '])

/-- Words with a space before each. -/
def trail (ws : List (List Char)) : List Char := ws.flatMap (' ' :: ·)

section Joining

variable {w a r : List Char} {ws us vs : List (List Char)} {c : Char}

@[simp] theorem joined_nil : joined [] = [] := rfl

@[simp] theorem joined_singleton (w : List Char) : joined [w] = w := List.intercalate_singleton

theorem joined_cons (w : List Char) (hne : ws ≠ []) : joined (w :: ws) = w ++ ' ' :: joined ws := by
  cases ws with
  | nil => exact absurd rfl hne
  | cons v ws => exact intercalate_cons_cons w v ws

@[simp] theorem lead_nil : lead [] = [] := rfl

@[simp] theorem lead_cons (w : List Char) (ws : List (List Char)) : lead (w :: ws) = w ++ ' ' :: lead ws := by
  simp [lead]

theorem lead_append (us vs : List (List Char)) : lead (us ++ vs) = lead us ++ lead vs := List.flatMap_append

theorem joined_append (us : List (List Char)) (hv : vs ≠ []) : joined (us ++ vs) = lead us ++ joined vs := by
  induction us with
  | nil => rfl
  | cons u us ih => rw [List.cons_append, joined_cons u (by simp [hv]), ih, lead_cons, List.append_assoc]; rfl

theorem lead_eq (hu : us ≠ []) : lead us = joined us ++ [' '] := by
  induction us with
  | nil => exact absurd rfl hu
  | cons u us ih =>
      by_cases hne : us = []
      · simp [hne]
      · rw [lead_cons, ih hne, joined_cons u hne]
        simp

theorem trail_cons (w : List Char) (ws : List (List Char)) : trail (w :: ws) = ' ' :: (w ++ trail ws) := rfl

theorem head?_trail (hc : c ∈ (trail ws).head?) : c = ' ' := by
  cases ws with
  | nil => cases hc
  | cons w ws =>
      rw [trail_cons, List.head?_cons, Option.mem_some_iff] at hc
      exact hc.symm

theorem trail_eq (hne : ws ≠ []) : trail ws = ' ' :: joined ws := by
  induction ws with
  | nil => exact absurd rfl hne
  | cons w ws ih =>
      by_cases hnil : ws = []
      · simp [hnil, trail]
      · rw [trail_cons, ih hnil, joined_cons w hnil]

theorem joined_append_trail (hu : us ≠ []) (vs : List (List Char)) : joined (us ++ vs) = joined us ++ trail vs := by
  by_cases hv : vs = []
  · simp [hv, trail]
  · rw [joined_append us hv, lead_eq hu, trail_eq hv, List.append_assoc]
    rfl

theorem joined_middle (us vs : List (List Char)) (hne : ws ≠ []) :
    joined (us ++ (ws ++ vs)) = lead us ++ joined ws ++ trail vs := by
  rw [← List.append_assoc, joined_append_trail (by simp [hne]), joined_append us hne]

theorem joined_middle_spaced (hu : us ≠ []) (vs : List (List Char)) (hne : ws ≠ []) :
    joined (us ++ (ws ++ vs)) = joined us ++ ' ' :: joined ws ++ trail vs := by
  rw [joined_middle us vs hne, lead_eq hu]
  simp

theorem words_joined (h : ∀ w ∈ ws, IsWordText w) : words (joined ws) = ws := words_intercalate h

theorem words_lead (h : ∀ w ∈ ws, IsWordText w) : words (lead ws) = ws := by
  by_cases hne : ws = []
  · rw [hne]
    rfl
  · rw [lead_eq hne, words_append_cons rfl, words_joined h, words_nil, List.append_nil]

theorem words_trail (h : ∀ w ∈ ws, IsWordText w) : words (trail ws) = ws := by
  by_cases hne : ws = []
  · rw [hne]
    rfl
  · rw [trail_eq hne, words_cons_of_blank rfl, words_joined h]

theorem normalize_eq_joined (s : List Char) : normalize s = joined (words s) := rfl

theorem startsBlank_space (s : List Char) : StartsBlank (' ' :: s) := by
  rw [startsBlank_cons]
  rfl

theorem head?_joined (hw : w ≠ []) : (joined (w :: ws)).head? = w.head? := by
  by_cases hne : ws = []
  · rw [hne, joined_singleton]
  · rw [joined_cons w hne, List.head?_append_of_ne_nil w hw]

theorem getLast?_joined (us : List (List Char)) (hw : w ≠ []) : (joined (us ++ [w])).getLast? = w.getLast? := by
  rw [joined_append us (List.cons_ne_nil _ _), joined_singleton, List.getLast?_append_of_ne_nil _ hw]

theorem mem_joined (h : c ∈ joined ws) : c = ' ' ∨ ∃ w ∈ ws, c ∈ w := mem_intercalate h

theorem exists_joined_cons (w : List Char) (ws : List (List Char)) :
    ∃ t, joined (w :: ws) = w ++ t ∧ StartsBlank t := by
  by_cases hne : ws = []
  · exact ⟨[], by simp [hne], startsBlank_nil⟩
  · exact ⟨' ' :: joined ws, joined_cons w hne, startsBlank_space _⟩

/-- Where words start joined words, the first word starts with the first, and goes on only where the others end. -/
theorem exists_append_of_joined_append {x b post : List Char} {xs bs : List (List Char)} (hx : IsWordText x)
    (hb : IsWordText b) (h : joined (x :: xs) ++ post = joined (b :: bs)) :
    ∃ v, b = x ++ v ∧ ∀ c ∈ v.head?, c ∈ post.head? := by
  obtain ⟨t, ht, hblank⟩ := exists_joined_cons b bs
  obtain ⟨s, hs, hblank'⟩ := exists_joined_cons x xs
  rw [ht, hs, List.append_assoc] at h
  rcases List.append_eq_append_iff.mp h with ⟨v, rfl, hv⟩ | ⟨v, rfl, hv⟩
  · refine ⟨v, rfl, fun c hc => ?_⟩
    have hc' : isBlank c = false := hb.2 c (by simp [List.mem_of_mem_head? hc])
    obtain ⟨v, rfl⟩ : ∃ r, v = c :: r := List.head?_eq_some_iff.mp hc
    cases s with
    | nil =>
        rw [List.nil_append] at hv
        rw [hv]
        rfl
    | cons d s =>
        obtain ⟨rfl, -⟩ := List.cons.inj hv
        rw [startsBlank_cons, hc'] at hblank'
        cases hblank'
  · cases v with
    | nil => exact ⟨[], by simp, by simp⟩
    | cons d v =>
        have hd := hx.2 d (by simp)
        rw [hv, List.cons_append, startsBlank_cons, hd] at hblank
        cases hblank

theorem exists_word_of_joined (hc : isBlank c = false) (h : joined ws = a ++ c :: r) :
    ∃ us v₁ v₂ us', ws = us ++ (v₁ ++ c :: v₂) :: us' ∧ a = lead us ++ v₁ ∧ c :: r = joined ((c :: v₂) :: us') := by
  induction ws generalizing a with
  | nil => simp at h
  | cons w ws ih =>
      by_cases hne : ws = []
      · subst hne
        rw [joined_singleton] at h
        exact ⟨[], a, r, [], by simp [h], by simp, by simp⟩
      · rw [joined_cons w hne] at h
        rcases List.append_eq_append_iff.mp h with ⟨x, rfl, hx⟩ | ⟨y, rfl, hy⟩
        · cases x with
          | nil =>
              obtain ⟨rfl, -⟩ := List.cons.inj hx
              cases hc
          | cons d x =>
              obtain ⟨rfl, htail⟩ := List.cons.inj hx
              obtain ⟨us, v₁, v₂, us', rfl, rfl, hr⟩ := ih htail
              exact ⟨w :: us, v₁, v₂, us', rfl, by simp, hr⟩
        · cases y with
          | nil =>
              obtain ⟨rfl, -⟩ := List.cons.inj hy
              cases hc
          | cons d y =>
              obtain ⟨rfl, rfl⟩ := List.cons.inj hy
              exact ⟨[], a, y, ws, rfl, rfl, by rw [joined_cons _ hne]; rfl⟩

theorem exists_append_of_joined (hws : ∀ w ∈ ws, IsWordText w) (h : joined ws = a ++ ' ' :: r) :
    ∃ us us', us ≠ [] ∧ us' ≠ [] ∧ ws = us ++ us' ∧ a = joined us ∧ r = joined us' := by
  have hspace : ∀ {u v : List Char}, ¬ IsWordText (u ++ ' ' :: v) := by
    intro u v hword
    have := hword.2 ' ' (by simp)
    cases this
  induction ws generalizing a with
  | nil => simp at h
  | cons w ws ih =>
      have hw := hws w List.mem_cons_self
      by_cases hne : ws = []
      · subst hne
        rw [joined_singleton] at h
        exact absurd (h ▸ hw) hspace
      · rw [joined_cons w hne] at h
        rcases List.append_eq_append_iff.mp h with ⟨x, rfl, hx⟩ | ⟨y, rfl, hy⟩
        · cases x with
          | nil =>
              obtain ⟨-, rfl⟩ := List.cons.inj hx
              exact ⟨[w], ws, by simp, hne, rfl, by simp, rfl⟩
          | cons d x =>
              obtain ⟨rfl, htail⟩ := List.cons.inj hx
              obtain ⟨us, us', hu, hu', rfl, rfl, rfl⟩ := ih (fun v hv => hws v (List.mem_cons_of_mem _ hv)) htail
              exact ⟨w :: us, us', by simp, hu', rfl, (joined_cons w hu).symm, rfl⟩
        · cases y with
          | nil =>
              obtain ⟨-, rfl⟩ := List.cons.inj hy
              exact ⟨[a], ws, by simp, hne, by simp, by simp, rfl⟩
          | cons d y =>
              obtain ⟨rfl, -⟩ := List.cons.inj hy
              exact absurd hw hspace

end Joining

/-! ## Folding -/

section Folding

variable {m : List Char} {ws us : List (List Char)}

theorem joined_map_fold (ws : List (List Char)) : (joined ws).map fold = joined (ws.map (·.map fold)) := by
  induction ws with
  | nil => rfl
  | cons w ws ih =>
      by_cases hne : ws = []
      · simp [hne]
      · rw [joined_cons w hne, List.map_append, List.map_cons, ih, List.map_cons, joined_cons _ (by simpa using hne),
          show fold ' ' = ' ' by decide]

theorem exists_joined_of_map_fold (h : m.map fold = joined us) : ∃ ws, m = joined ws ∧ ws.map (·.map fold) = us := by
  induction us generalizing m with
  | nil => exact ⟨[], by simpa using h, rfl⟩
  | cons u us ih =>
      by_cases hne : us = []
      · exact ⟨[m], by simp, by simpa [hne] using h⟩
      · rw [joined_cons u hne] at h
        obtain ⟨a, b, rfl, ha, hb⟩ := map_fold_eq_append h
        cases b with
        | nil => cases hb
        | cons d b =>
            obtain ⟨hd, hb⟩ := List.cons.inj hb
            obtain ⟨ws, rfl, rfl⟩ := ih hb
            refine ⟨a :: ws, ?_, by rw [List.map_cons, ha]⟩
            rw [joined_cons a (by simpa using hne), eq_of_fold_eq_space hd]

theorem isWordText_map_fold {w : List Char} : IsWordText (w.map fold) ↔ IsWordText w := by
  simp [IsWordText, isBlank_fold]

end Folding

end PhraseFilter.Text
