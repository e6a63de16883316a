import Mathlib.Data.List.DropRight
import PhraseFilter.Text.Blank

/-!
# Blanks at the ends of a text

* `IsPadded` : a text with blanks around it; `trim_of_isPadded` : they do not matter to what is left without them;
* `trim_append` : what follows a text without blanks loses those at its own end only, `trim_of_not_blank` : nothing is
  taken from such a text;
* `trim_eq_nil_iff` : nothing is left of blanks only, `isBlank_getLast_trim` : and what is left does not end in one.
-/

namespace PhraseFilter.Text

/-- Is `s` the text `body` with blanks in front of it and after it? -/
def IsPadded (body s : List Char) : Prop :=
  ∃ before after, (∀ c ∈ before, isBlank c = true) ∧ (∀ c ∈ after, isBlank c = true) ∧ s = before ++ (body ++ after)

section Trim

variable {body s t : List Char}

theorem trim_eq (s : List Char) : trim s = (s.dropWhile isBlank).rdropWhile isBlank := rfl

theorem isBlank_of_all (h : (s.all fun c => !isBlank c) = true) : ∀ c ∈ s, isBlank c = false := by
  intro c hc
  exact (Bool.not_eq_true' _).mp (List.all_eq_true.mp h c hc)

theorem rdropWhile_append_blank (h : ∀ c ∈ t, isBlank c = true) : (s ++ t).rdropWhile isBlank = s.rdropWhile isBlank := by
  unfold List.rdropWhile
  have hrest : t.reverse.dropWhile isBlank = [] :=
    List.dropWhile_eq_nil_iff.mpr fun c hc => h c (List.mem_reverse.mp hc)
  rw [List.reverse_append, List.dropWhile_append, hrest]
  rfl

theorem trim_of_isPadded (h : IsPadded body s) : trim s = trim body := by
  obtain ⟨before, after, hbefore, hafter, rfl⟩ := h
  rw [trim_eq, trim_eq, List.dropWhile_append, List.dropWhile_eq_nil_iff.mpr hbefore, List.isEmpty_nil, if_pos rfl,
    List.dropWhile_append]
  split
  · next hbody =>
    rw [List.dropWhile_eq_nil_iff.mpr hafter, List.isEmpty_iff.mp hbody]
  · exact rdropWhile_append_blank hafter

theorem rdropWhile_append (h : ∀ c ∈ s, isBlank c = false) (t : List Char) :
    (s ++ t).rdropWhile isBlank = s ++ t.rdropWhile isBlank := by
  induction t using List.reverseRecOn with
  | nil =>
      rw [List.rdropWhile_nil, List.append_nil, List.rdropWhile_eq_self_iff]
      intro hne
      rw [h _ (List.getLast_mem hne)]
      exact Bool.false_ne_true
  | append_singleton t c ih =>
      rw [← List.append_assoc, List.rdropWhile_concat, List.rdropWhile_concat]
      split
      · exact ih
      · exact List.append_assoc _ _ _

/-- What follows a text without blanks loses the blanks at its end, and nothing else is lost. -/
theorem trim_append (h : ∀ c ∈ s, isBlank c = false) (hne : s ≠ []) (t : List Char) :
    trim (s ++ t) = s ++ t.rdropWhile isBlank := by
  obtain ⟨c, s, rfl⟩ := List.exists_cons_of_ne_nil hne
  have hfront : (c :: s ++ t).dropWhile isBlank = c :: s ++ t := by
    refine List.dropWhile_cons_of_neg ?_
    rw [h c List.mem_cons_self]
    exact Bool.false_ne_true
  rw [trim_eq, hfront, rdropWhile_append h]

theorem rdropWhile_of_trim_eq (h : trim s = s) : s.rdropWhile isBlank = s := by
  have hidem := List.rdropWhile_idempotent isBlank (s.dropWhile isBlank)
  rwa [← trim_eq, h] at hidem

theorem trim_of_not_blank (h : ∀ c ∈ s, isBlank c = false) : trim s = s := by
  cases s with
  | nil => rfl
  | cons c s =>
      have htrim := trim_append h (List.cons_ne_nil c s) []
      rwa [List.append_nil, List.rdropWhile_nil, List.append_nil] at htrim

theorem trim_eq_nil_iff : trim s = [] ↔ ∀ c ∈ s, isBlank c = true := by
  rw [trim_eq, List.rdropWhile_eq_nil_iff]
  constructor
  · intro h
    -- A first character that is left is not a blank.
    apply List.dropWhile_eq_nil_iff.mp
    by_contra hne
    have hhead := List.head_dropWhile_not isBlank hne
    rw [h _ (List.head_mem hne)] at hhead
    cases hhead
  · intro h
    rw [List.dropWhile_eq_nil_iff.mpr h]
    exact nofun

theorem isBlank_getLast_trim {c : Char} (h : c ∈ (trim s).getLast?) : isBlank c = false := by
  obtain ⟨hne, rfl⟩ := List.mem_getLast?_eq_getLast h
  have hlast := List.rdropWhile_last_not isBlank (s.dropWhile isBlank) hne
  rwa [Bool.not_eq_true] at hlast

end Trim

end PhraseFilter.Text
