import PhraseFilter.Proofs.Clause.Choice
import PhraseFilter.Proofs.Pattern.Nesting

/-!
# Which choices are accepted

* `Clause.StandsAlone` : a written pattern that can be read by itself; `Clause.MatchesWhole` : and covers the whole of a
  text;
* `Clause.occursIn_wholePattern_iff` : one that stands alone is then found in the texts of which it covers the whole;
* `Clause.find?_of_resolve`, `Clause.exists_resolve` : a phrase has the value of the first alternative that is found;
* `Clause.choice_stands_alone` : **an alternative of a choice stands alone and is taken for what it covers, unless it
  breaks out of its group**; any other pattern that does not stand alone is a fault.
-/

namespace PhraseFilter.Clause

open Pattern

section Engine

variable [Engine]

/-- The written pattern can be read by itself. -/
def StandsAlone (source : String) : Prop := ∃ p, Pattern.read? source.toList = some p

/-- The written pattern can be read by itself, and covers the whole of the text. -/
def MatchesWhole (source : String) (t : List Char) : Prop :=
  ∃ p, Pattern.read? source.toList = some p ∧ p.Covers t.toArray 0 t.length

section Acceptance

variable {label source : String} {parameter : Option String} {given : List (String × Value)} {c : Clause} {v : Value}
  {t : List Char}

/-- A written pattern that stands alone is found between the two ends of a text if it covers the whole of the text. -/
theorem occursIn_wholePattern_iff (h : StandsAlone source) (hwhole : (readWhole? source.toList).isSome = true) :
    (wholePattern source).occursIn t.toArray = true ↔ MatchesWhole source t := by
  obtain ⟨p, hp⟩ := h
  rw [wholePattern_eq hp hwhole, occursIn_iff]
  simp only [covers_whole_iff, List.size_toArray]
  constructor
  · rintro ⟨i, j, rfl, rfl, hcovers⟩
    exact ⟨p, hp, hcovers⟩
  · rintro ⟨q, hq, hcovers⟩
    obtain rfl := Option.some.inj (hp.symm.trans hq)
    exact ⟨0, t.length, rfl, rfl, hcovers⟩

/-- A phrase has the value of the first alternative that is found. -/
theorem find?_of_resolve (h : choice label parameter given = .ok c) (hv : c.resolve t = .ok v) :
    ∃ a, given.find? (fun a => (wholePattern a.1).occursIn t.toArray) = some a ∧ a.2 = v := by
  obtain ⟨-, -, rfl⟩ := choice_eq_ok h
  rw [resolve] at hv
  dsimp only at hv
  rw [List.find?_map] at hv
  split at hv
  · next b hb =>
    obtain ⟨a, ha, rfl⟩ := Option.map_eq_some_iff.mp hb
    exact ⟨a, ha, Except.ok.inj hv⟩
  · cases hv

theorem exists_resolve (h : choice label parameter given = .ok c) (ht : ∃ a ∈ given, MatchesWhole a.1 t) :
    ∃ v, c.resolve t = .ok v := by
  obtain ⟨hwhole, -, rfl⟩ := choice_eq_ok h
  obtain ⟨a, ha, hmatches⟩ := ht
  obtain ⟨p, hp, -⟩ := id hmatches
  have hfound := (occursIn_wholePattern_iff ⟨p, hp⟩ (hwhole a ha)).mpr hmatches
  rw [resolve]
  dsimp only
  split
  · exact ⟨_, rfl⟩
  · next hnone => exact absurd hfound (List.find?_eq_none.mp hnone _ (List.mem_map_of_mem ha))

/-- **What a choice accepts.** Its only fault is a bad pattern under its own label. A written pattern that cannot be read
by itself is such a fault, unless it breaks out of the group that is written around it. So each alternative of a choice
that does not break out can be read by itself; a phrase has the value of the first alternative that is found in it, and
if this one does not break out, then it covers the whole phrase. -/
theorem choice_stands_alone (label : String) (parameter : Option String) (given : List (String × Value)) :
    (∀ e, choice label parameter given = .error e → e = .badPattern label) ∧
    ((∃ a ∈ given, ¬ StandsAlone a.1 ∧ ¬ BreaksOut a.1.toList) →
      choice label parameter given = .error (.badPattern label)) ∧
    ∀ c, choice label parameter given = .ok c →
      (∀ a ∈ given, StandsAlone a.1 ↔ ¬ BreaksOut a.1.toList) ∧
      ∀ t, ((∃ a ∈ given, MatchesWhole a.1 t) → ∃ v, c.resolve t = .ok v) ∧
        ∀ v, c.resolve t = .ok v → ∃ before a after, given = before ++ a :: after ∧ a.2 = v ∧
          (¬ BreaksOut a.1.toList → MatchesWhole a.1 t) ∧ ∀ b ∈ before, ¬ MatchesWhole b.1 t := by
  have halone : ∀ {c}, choice label parameter given = .ok c → ∀ a ∈ given, StandsAlone a.1 ↔ ¬ BreaksOut a.1.toList := by
    intro c hc a ha
    obtain ⟨w, hw⟩ := Option.isSome_iff_exists.mp ((choice_eq_ok hc).1 a ha)
    exact exists_read?_iff_not_breaksOut hw
  refine ⟨fun e => error_of_choice, ?_, fun c hc => ⟨halone hc, fun t => ⟨exists_resolve hc, fun v hv => ?_⟩⟩⟩
  · rintro ⟨a, ha, hread, hbreaks⟩
    cases hc : choice label parameter given with
    | error e => rw [error_of_choice hc]
    | ok c => exact absurd ((halone hc a ha).mpr hbreaks) hread
  · obtain ⟨a, hfind, rfl⟩ := find?_of_resolve hc hv
    obtain ⟨hfound, before, after, rfl, hbefore⟩ := List.find?_eq_some_iff_append.mp hfind
    refine ⟨before, a, after, rfl, rfl, fun hbreaks => ?_, fun b hb hmatches => ?_⟩
    · have hwhole := (choice_eq_ok hc).1 a (by simp)
      exact (occursIn_wholePattern_iff ((halone hc a (by simp)).mpr hbreaks) hwhole).mp hfound
    · obtain ⟨p, hp, -⟩ := id hmatches
      have hwhole := (choice_eq_ok hc).1 b (List.mem_append_left _ hb)
      have hmissed := hbefore b hb
      rw [(occursIn_wholePattern_iff ⟨p, hp⟩ hwhole).mpr hmatches] at hmissed
      cases hmissed

end Acceptance

end Engine

/-- A pattern that cannot be read by itself is accepted: it closes the group around it and opens another. It is then
taken for the start of a phrase. -/
theorem choice_of_unbalanced : Pattern.read? "a)|(?:b".toList = none ∧
    ∃ c, choice "c" none [("a)|(?:b", .int 1)] = .ok c ∧ c.resolve "abc".toList = .ok (.int 1) := by
  have hresolve : (choice "c" none [("a)|(?:b", .int 1)]).toOption.map (fun c => (c.resolve "abc".toList).toOption) =
      some (some (.int 1)) := by
    decide +kernel
  obtain ⟨c, hc, hv⟩ := Option.map_eq_some_iff.mp hresolve
  refine ⟨by decide +kernel, c, ?_, ?_⟩
  · revert hc
    cases choice "c" none [("a)|(?:b", .int 1)] with
    | error e => exact nofun
    | ok d => exact fun hc => congrArg Except.ok (Option.some.inj hc)
  · revert hv
    cases c.resolve "abc".toList with
    | error e => exact nofun
    | ok d => exact fun hv => congrArg Except.ok (Option.some.inj hv)

end PhraseFilter.Clause
