import PhraseFilter.Proofs.Pattern.Grouping

/-!
# Written patterns that break out of their group

A pattern that is written into a group can close this group and open another, as `a)|(?:b` does. Then the whole can be
read, although the pattern cannot be read by itself.

* `Pattern.BreaksOut` : up to a `)` of its own, the written pattern fills the group that it is written into;
* `Pattern.not_breaksOut_of_parse?` : a pattern that can be read by itself does not break out;
* `Pattern.settles_or_breaksOut` : any other pattern that can be read as the whole of a text does;
* `Pattern.exists_read?_iff_not_breaksOut` : **what can be read as the whole of a text can be read by itself if and only
  if it does not break out**.
-/

namespace PhraseFilter.Pattern

open Reader

variable [Engine]

/-- Does the written pattern close a group that it is written into before its end? The group with what stands before one
of its parentheses can be read. -/
def BreaksOut (s : List Char) : Prop :=
  ∃ pre post, s = pre ++ ')' :: post ∧ (parse? ("(?:".toList ++ pre ++ [')'])).isSome = true

section Nesting

variable {s pre : List Char} {a : Part} {w : Pattern}

theorem parse?_group_eq (pre : List Char) :
    parse? ("(?:".toList ++ pre ++ [')']) = ((within [] [({} : Group)] {}).run? (pre ++ [')'])).bind finish? := by
  have hopen : Reader.run? {} "(?:".toList = some (within [] [({} : Group)] {}) := rfl
  rw [parse?, List.append_assoc, run?_append, hopen, Option.bind_some]

theorem Settles.isSome_parse?_group (h : Settles pre a) : (parse? ("(?:".toList ++ pre ++ [')'])).isSome = true := by
  obtain ⟨names, hrun⟩ := h.run? {} []
  rw [parse?_group_eq, hrun]
  rfl

/-- A pattern that can be read by itself does not break out of a group. -/
theorem not_breaksOut_of_parse? (h : parse? s = some a) : ¬ BreaksOut s := by
  rintro ⟨pre, post, rfl, hgroup⟩
  obtain ⟨r', hrun, -⟩ := Option.bind_eq_some_iff.mp h
  rw [run?_append] at hrun
  obtain ⟨r, hr, hpost⟩ := Option.bind_eq_some_iff.mp hrun
  obtain ⟨r₁, hstep, -⟩ := Option.bind_eq_some_iff.mp hpost
  have hne : r.groups ≠ [] := groups_of_run? (List.cons_ne_nil _ _) hr
  obtain ⟨b, hb⟩ := Option.isSome_iff_exists.mp hgroup
  rw [parse?_group_eq, run?_append] at hb
  obtain ⟨q', hq', hfinish⟩ := Option.bind_eq_some_iff.mp hb
  obtain ⟨q, hq, hclose⟩ := Option.bind_eq_some_iff.mp hq'
  obtain rfl := eq_of_run?_within (List.cons_ne_nil _ _) hr hq
  obtain ⟨q'', hq'', heq⟩ := Option.bind_eq_some_iff.mp hclose
  cases heq
  rcases step?_of_within hne hq'' with ⟨r₂, h₂, rfl⟩ | ⟨-, r₂, g, hsettle, hg, -⟩
  · -- The parenthesis does not close the group, and nothing else does.
    rw [finish?_within (groups_of_step? hne h₂)] at hfinish
    cases hfinish
  · -- The parenthesis closes the group, but alone there is no group to close.
    rw [step?_closing_eq_none hsettle hg] at hstep
    cases hstep

/-- What can be read as the whole of a text can be read by itself or breaks out. -/
theorem settles_or_breaksOut (h : readWhole? s = some w) : (∃ a, Settles s a) ∨ BreaksOut s := by
  obtain ⟨b, hb, -⟩ := read?_eq_some_iff.mp (compile?_eq_some_iff.mp h).1
  have hfront : Reader.run? {} "^(?:".toList = some (within [] [({} : Group).add { pattern := .place .start }] {}) := rfl
  rw [List.append_assoc, parse?, run?_append, hfront, Option.bind_some, run?_append] at hb
  obtain ⟨q', hq', hfinish⟩ := Option.bind_eq_some_iff.mp hb
  obtain ⟨q, hq, hback⟩ := Option.bind_eq_some_iff.mp hq'
  rcases run?_of_within (List.cons_ne_nil _ _) hq with ⟨r, hr, rfl⟩ | ⟨pre, post, r, g, rfl, hr, hg, -⟩
  · have hne : r.groups ≠ [] := groups_of_run? (List.cons_ne_nil _ _) hr
    obtain ⟨q₁, h₁, hdollar⟩ := Option.bind_eq_some_iff.mp hback
    obtain ⟨q₂, h₂, heq⟩ := Option.bind_eq_some_iff.mp hdollar
    cases heq
    rcases step?_of_within hne h₁ with ⟨r₁, hr₁, rfl⟩ | ⟨-, r₁, g, hsettle, hg, -⟩
    · -- A parenthesis that does not close the group leaves it open to the end.
      rcases step?_of_within (groups_of_step? hne hr₁) h₂ with ⟨r₂, hr₂, rfl⟩ | ⟨hc, -⟩
      · rw [finish?_within (groups_of_step? (groups_of_step? hne hr₁) hr₂)] at hfinish
        cases hfinish
      · cases hc
    · exact Or.inl ⟨_, r, r₁, g, hr, hsettle, hg, rfl⟩
  · obtain ⟨r₁, h₁, hsettle⟩ := Option.bind_eq_some_iff.mp hr
    exact Or.inr ⟨pre, post, rfl, Settles.isSome_parse?_group ⟨r₁, r, g, h₁, hsettle, hg, rfl⟩⟩

/-- **What can be read as the whole of a text can be read by itself if and only if it does not break out.** -/
theorem exists_read?_iff_not_breaksOut (h : readWhole? s = some w) : (∃ p, read? s = some p) ↔ ¬ BreaksOut s := by
  constructor
  · rintro ⟨p, hp⟩
    obtain ⟨a, ha, -⟩ := read?_eq_some_iff.mp hp
    exact not_breaksOut_of_parse? ha
  · intro hbreaks
    obtain ⟨a, ha⟩ := (settles_or_breaksOut h).resolve_right hbreaks
    have hdepth := (ha.readWhole?_eq_some_iff.mp h).1
    exact ⟨a.pattern, read?_eq_some_iff.mpr ⟨a, ha.parse?_eq, by omega, rfl⟩⟩

end Nesting

end PhraseFilter.Pattern
