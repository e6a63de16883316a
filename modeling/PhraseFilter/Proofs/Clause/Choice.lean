import Mathlib.Data.List.Forall2
import PhraseFilter.Clause.Basic
import PhraseFilter.Proofs.Pattern.Grouping
import PhraseFilter.Proofs.Pattern.Spelling
import PhraseFilter.Proofs.Scan.Take

/-!
# Choices

* `Clause.IsPlain` : a written pattern that can be read by itself and sets no condition on positions;
  `Clause.spells_of_take` : what it takes out of a text it spells;
* `Clause.sourcePattern` : the pattern that a written one is read as;
* `Clause.joinSources_eq` : the alternatives of a choice as written patterns in groups;
* `Clause.choice_eq_ok`, `Clause.error_of_choice` : what a choice is made of, however its alternatives are written, and
  its only fault;
* `Clause.choice_eq` : **the clause of a choice**, each of whose alternatives can be read by itself;
* `Clause.exists_of_resolve`, `Clause.exists_value` : a phrase has a value when one of the alternatives spells it, and
  then the value of such an alternative.
-/

namespace PhraseFilter

theorem exists_ok_of_toBool {ε α : Type} {e : Except ε α} (h : e.toBool = true) : ∃ a, e = .ok a := by
  cases e with
  | ok a => exact ⟨a, rfl⟩
  | error _ => cases h

namespace Clause

open Pattern

/-! ## Values -/

def alternativesOf (given : List (String × Value)) (ps : List Pattern) : List Alternative :=
  (List.zip given ps).map fun ap => ⟨ap.1.1, ap.2.whole, ap.1.2⟩

section Values

variable {given : List (String × Value)} {ps : List Pattern} {c : Clause} {m : List Char}

theorem spells_of_take {p : Pattern} {s s' : Scan} (hp : p.isPlaceFree = true) (h : s.take p.bounded = (some m, s')) :
    p.Spells m := by
  obtain ⟨pre, post, htext, -, hf⟩ := Scan.exists_of_take h
  have hcovers := (covers_bounded_iff.mp (covers_of_find? hf)).2.1
  rw [htext] at hcovers
  exact (covers_iff_spells hp pre m post).mp hcovers

theorem joinSources_eq (sources : List String) : joinSources sources = groupsText (sources.map (·.toList)) := by
  rw [joinSources, groupsText, List.map_map]
  rfl

/-- A phrase has a value when one of the alternatives spells it, and then the value of such an alternative. -/
theorem find?_alternativesOf (given : List (String × Value)) (m : List Char) (hfree : ∀ p ∈ ps, p.isPlaceFree = true) :
    match (alternativesOf given ps).find? (·.whole.occursIn m.toArray) with
    | some a => ∃ ap ∈ List.zip given ps, ap.2.Spells m ∧ ap.1.2 = a.value
    | none => ∀ ap ∈ List.zip given ps, ¬ ap.2.Spells m := by
  have hspells : ∀ ap ∈ List.zip given ps, (ap.2.whole.occursIn m.toArray = true ↔ ap.2.Spells m) :=
    fun ap hap => occursIn_whole_iff (hfree _ (List.of_mem_zip hap).2)
  rw [alternativesOf, List.find?_map]
  cases hf : (List.zip given ps).find? ((·.whole.occursIn m.toArray) ∘ fun ap => Alternative.mk ap.1.1 ap.2.whole ap.1.2) with
  | some ap =>
      have hmem := List.mem_of_find?_eq_some hf
      have hoccurs : ap.2.whole.occursIn m.toArray = true := by
        have := List.find?_some hf
        exact this
      exact ⟨ap, hmem, (hspells ap hmem).mp hoccurs, rfl⟩
  | none =>
      intro ap hap hm
      exact List.find?_eq_none.mp hf ap hap ((hspells ap hap).mpr hm)

theorem exists_of_resolve (hfree : ∀ p ∈ ps, p.isPlaceFree = true) {scan : Option Pattern} {v : Value}
    (hc : c.grammar = .choice (alternativesOf given ps) scan) (h : c.resolve m = .ok v) :
    ∃ ap ∈ List.zip given ps, ap.2.Spells m ∧ ap.1.2 = v := by
  have hfind := find?_alternativesOf given m hfree
  rw [resolve, hc] at h
  dsimp only at h
  split at h
  · next a ha =>
    cases h
    rwa [ha] at hfind
  · cases h

theorem exists_value (hfree : ∀ p ∈ ps, p.isPlaceFree = true) {scan : Option Pattern}
    (hc : c.grammar = .choice (alternativesOf given ps) scan) (h : ∃ ap ∈ List.zip given ps, ap.2.Spells m) :
    ∃ v, c.resolve m = .ok v := by
  have hfind := find?_alternativesOf given m hfree
  rw [resolve, hc]
  dsimp only
  split
  · exact ⟨_, rfl⟩
  · next hnone =>
    rw [hnone] at hfind
    obtain ⟨ap, hap, hm⟩ := h
    exact absurd hm (hfind ap hap)

theorem exists_mem_zip {p : Pattern} (hlen : given.length = ps.length) (hp : p ∈ ps) :
    ∃ ap ∈ List.zip given ps, ap.2 = p := by
  obtain ⟨i, hi, rfl⟩ := List.mem_iff_getElem.mp hp
  refine ⟨(given[i], ps[i]), List.mem_iff_getElem.mpr ⟨i, ?_, ?_⟩, rfl⟩
  · rw [List.length_zip]
    omega
  · rw [List.getElem_zip]

end Values

/-! ## Written patterns -/

variable [Engine]

/-- The written pattern can be read by itself and sets no condition on positions. -/
def IsPlain (source : String) : Prop := ∃ p, Pattern.read? source.toList = some p ∧ p.isPlaceFree = true

/-- The pattern that a written one is read as. -/
def sourcePattern (source : String) : Pattern := (Pattern.read? source.toList).getD .empty

/-- The pattern that a written one is read as between the two ends of a text. -/
def wholePattern (source : String) : Pattern := (readWhole? source.toList).getD .empty

section Choices

variable {label : String} {parameter : Option String} {given : List (String × Value)} {ps : List Pattern}
  {read : List Alternative} {c : Clause} {m : List Char} {e : PhraseError}

theorem read?_sourcePattern {source : String} (h : ∃ p, Pattern.read? source.toList = some p) :
    Pattern.read? source.toList = some (sourcePattern source) := by
  obtain ⟨p, hp⟩ := h
  unfold sourcePattern
  rw [hp, Option.getD_some]

theorem IsPlain.isPlaceFree {source : String} (h : IsPlain source) : (sourcePattern source).isPlaceFree = true := by
  obtain ⟨p, hread, hp⟩ := h
  unfold sourcePattern
  rwa [hread, Option.getD_some]

theorem forall₂_sourcePattern (h : ∀ a ∈ given, ∃ p, Pattern.read? a.1.toList = some p) :
    List.Forall₂ (fun a p => Pattern.read? a.1.toList = some p) given (given.map fun a => sourcePattern a.1) := by
  rw [List.forall₂_map_right_iff, List.forall₂_same]
  intro a ha
  exact read?_sourcePattern (h a ha)

theorem exists_patterns (h : ∀ a ∈ given, IsPlain a.1) :
    ∃ ps, List.Forall₂ (fun a p => Pattern.read? a.1.toList = some p) given ps ∧ ∀ p ∈ ps, p.isPlaceFree = true := by
  refine ⟨_, forall₂_sourcePattern fun a ha => ?_, ?_⟩
  · obtain ⟨p, hread, -⟩ := h a ha
    exact ⟨p, hread⟩
  · intro p hp
    obtain ⟨a, ha, rfl⟩ := List.mem_map.mp hp
    exact (h a ha).isPlaceFree

theorem readAlternatives_eq_ite (label : String) (given : List (String × Value)) : readAlternatives label given =
    if given.all fun a => (readWhole? a.1.toList).isSome then .ok (given.map fun a => ⟨a.1, wholePattern a.1, a.2⟩)
    else .error (.badPattern label) := by
  induction given with
  | nil => rfl
  | cons a given ih =>
      obtain ⟨source, value⟩ := a
      cases hwhole : readWhole? source.toList with
      | none => simp [readAlternatives, hwhole]
      | some whole =>
          have hpattern : wholePattern source = whole := by rw [wholePattern, hwhole, Option.getD_some]
          rw [readAlternatives, hwhole, ih, List.all_cons, List.map_cons, hpattern, hwhole]
          cases given.all fun a => (readWhole? a.1.toList).isSome <;> rfl

/-- **What a choice is made of**, however its alternatives are written: each can be read as the whole of a text, and all
of them together between word boundaries. -/
theorem choice_eq_ok (h : choice label parameter given = .ok c) :
    (∀ a ∈ given, (readWhole? a.1.toList).isSome = true) ∧
      (given ≠ [] → (readWordBounded? (joinSources (given.map (·.1)))).isSome = true) ∧
      c = { label, parameter,
            grammar := .choice (given.map fun a => ⟨a.1, wholePattern a.1, a.2⟩)
              (if given = [] then none else readWordBounded? (joinSources (given.map (·.1)))) } := by
  rw [choice, readAlternatives_eq_ite] at h
  by_cases hall : given.all (fun a => (readWhole? a.1.toList).isSome) = true
  · rw [if_pos hall] at h
    refine ⟨fun a ha => List.all_eq_true.mp hall a ha, ?_⟩
    split at h
    · cases h
    · next hnil =>
      obtain rfl := List.map_eq_nil_iff.mp (Except.ok.inj hnil)
      cases h
      exact ⟨fun hne => absurd rfl hne, rfl⟩
    · next hne hread =>
      split at h
      · next scan hscan =>
        have hgiven : given ≠ [] := by
          rintro rfl
          exact hne (Except.ok.inj hread).symm
        rw [if_neg hgiven, hscan, Except.ok.inj hread]
        cases h
        exact ⟨fun _ => rfl, rfl⟩
      · cases h
  · rw [if_neg hall] at h
    cases h

theorem choice_isOk (hwhole : given.all (fun a => (readWhole? a.1.toList).isSome) = true)
    (hscan : (readWordBounded? (joinSources (given.map (·.1)))).isSome = true) :
    ∃ c, choice label parameter given = .ok c := by
  obtain ⟨q, hq⟩ := Option.isSome_iff_exists.mp hscan
  rw [choice, readAlternatives_eq_ite, if_pos hwhole]
  cases given with
  | nil => exact ⟨_, rfl⟩
  | cons a given =>
      simp only [List.map_cons] at hq ⊢
      exact ⟨_, by rw [hq]⟩

/-- A pattern that cannot be read is the only fault of a choice. -/
theorem error_of_choice (h : choice label parameter given = .error e) : e = .badPattern label := by
  rw [choice, readAlternatives_eq_ite] at h
  split at h
  · next e' hread =>
    split at hread
    · cases hread
    · cases hread
      cases h
      rfl
  · cases h
  · split at h
    · cases h
    · cases h
      rfl

theorem wholePattern_eq {source : String} {p : Pattern} (hp : Pattern.read? source.toList = some p)
    (hwhole : (readWhole? source.toList).isSome = true) : wholePattern source = p.whole := by
  obtain ⟨w, hw⟩ := Option.isSome_iff_exists.mp hwhole
  rw [wholePattern, hw, Option.getD_some, readWhole?_eq hp hw]

theorem map_wholePattern (h : List.Forall₂ (fun a p => Pattern.read? a.1.toList = some p) given ps)
    (hwhole : ∀ a ∈ given, (readWhole? a.1.toList).isSome = true) :
    given.map (fun a => ⟨a.1, wholePattern a.1, a.2⟩) = alternativesOf given ps := by
  induction h with
  | nil => rfl
  | @cons a p given ps ha _ ih =>
      rw [List.map_cons, ih fun b hb => hwhole b (List.mem_cons_of_mem _ hb),
        wholePattern_eq ha (hwhole a List.mem_cons_self)]
      rfl

theorem forall₂_sources (h : List.Forall₂ (fun a p => Pattern.read? a.1.toList = some p) given ps) :
    List.Forall₂ (fun s p => Pattern.read? s = some p) ((given.map (·.1)).map (·.toList)) ps := by
  rw [List.map_map, List.forall₂_map_left_iff]
  exact h

theorem forall_sources (h : ∀ a ∈ given, (readWhole? a.1.toList).isSome = true) :
    ∀ s ∈ (given.map (·.1)).map (·.toList), (readWhole? s).isSome = true := by
  rw [List.map_map, List.forall_mem_map]
  exact h

/-- **The clause of a choice**: it scans for the alternatives between word boundaries. -/
theorem choice_eq (h : List.Forall₂ (fun a p => Pattern.read? a.1.toList = some p) given ps)
    (hc : choice label parameter given = .ok c) :
    c = { label, parameter,
          grammar := .choice (alternativesOf given ps) (if given = [] then none else some (altAll ps).bounded) } := by
  obtain ⟨hwhole, hscan, rfl⟩ := choice_eq_ok hc
  rw [map_wholePattern h hwhole]
  by_cases hne : given = []
  · rw [if_pos hne, if_pos hne]
  · obtain ⟨q, hq⟩ := Option.isSome_iff_exists.mp (hscan hne)
    rw [if_neg hne, if_neg hne, hq]
    rw [joinSources_eq] at hq
    rw [readWordBounded?_groups (forall₂_sources h) (forall_sources hwhole) (by simpa using hne) hq]

end Choices

end Clause

end PhraseFilter
