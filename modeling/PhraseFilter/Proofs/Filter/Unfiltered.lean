import PhraseFilter.Proofs.Filter.Composition
import PhraseFilter.Proofs.Filter.Constants

/-!
# Texts that say nothing

* `Text.normalize_eq_nil_iff` : a text has no words just when it is blank;
* `Filter.parse_of_blank` : in a blank text the clauses find constants and nothing else, even those with a pattern that
  covers the empty text, if their alternatives leave the rest of a pattern plain;
* `Clause.eq_of_takeAll_unresolved` : clauses that all come out without a value have left the text as it was;
* `Reading.query_of_isUnfiltered`, `Reading.accepts_of_isUnfiltered` : a reading without values asks for nothing and
  accepts every record;
* `Filter.isUnfiltered_iff_blank` : **a text is read without a value just when it is blank**;
* `Filter.isFiltered_of_blank` : alternatives that turn the verbose mode on can find something in a blank text.
-/

namespace PhraseFilter

open Text

theorem Text.normalize_eq_nil_iff {s : List Char} : normalize s = [] ↔ ∀ c ∈ s, isBlank c = true := by
  have hink : normalize s = [] ↔ ink s = [] := by
    constructor
    · intro h
      rw [← ink_normalize, h]
      rfl
    · intro h
      rw [← flatten_words, List.flatten_eq_nil_iff] at h
      have hwords : words s = [] :=
        List.eq_nil_iff_forall_not_mem.mpr fun w hw => (isWordText_of_mem_words hw).1 (h w hw)
      rw [Text.normalize, hwords]
      rfl
  rw [hink, ink, List.filter_eq_nil_iff]
  simp

/-! ## Searches that come out without a value -/

section Unresolved

variable {cs : List Clause} {s left : Scan} {found : List Finding} {f : Filter} {text : String} {r : Reading}

/-- Clauses that all come out without a value have left the text as it was. -/
theorem Clause.eq_of_takeAll_unresolved (h : Clause.takeAll cs s = (found, .ok left))
    (hnone : ∀ f ∈ found, f.isResolved = false) : left = s := by
  induction cs generalizing s found with
  | nil =>
      cases h
      rfl
  | cons c cs ih =>
      rw [Clause.takeAll] at h
      cases hc : c.takeFrom s with
      | error e => simp [hc] at h
      | ok fs =>
          obtain ⟨f, s'⟩ := fs
          simp only [hc, Prod.mk.injEq] at h
          obtain ⟨rfl, hleft⟩ := h
          have hrest := ih (Prod.ext rfl hleft) fun g hg => hnone g (List.mem_cons_of_mem f hg)
          rcases (Clause.takeFrom_ok hc).2 with ⟨-, rfl, -⟩ | ⟨p, m, -, -, -, -, v, -, hv⟩
          · exact hrest
          · -- A phrase that is taken has a value.
            have hf := hnone f List.mem_cons_self
            rw [Finding.isResolved, hv] at hf
            cases hf

theorem Filter.parse_of_blank [Pattern.Engine] (hf : ∀ c ∈ f.clauses, c.Made) (h : ∀ c ∈ text.toList, isBlank c = true) :
    f.parse text = .ok ⟨f.clauses.map Clause.unread⟩ := by
  have hattempt : f.attempt text = (f.clauses.map Clause.unread, .ok ⟨[]⟩) := by
    rw [Filter.attempt, Scan.start, Text.normalize_eq_nil_iff.mpr h]
    exact Clause.takeAll_nil hf
  rw [Filter.parse_of_attempt_ok hattempt]
  rfl

theorem Filter.blank_of_isUnfiltered (h : f.parse text = .ok r) (hr : r.isUnfiltered = true) :
    ∀ c ∈ text.toList, isBlank c = true := by
  obtain ⟨left, hattempt, hleft⟩ := Filter.parse_ok h
  have hnone : ∀ g ∈ r.findings, g.isResolved = false := by
    simpa only [Reading.isUnfiltered, List.all_eq_true, Bool.not_eq_true'] using hr
  have hstart := Clause.eq_of_takeAll_unresolved hattempt hnone
  rw [← Text.normalize_eq_nil_iff]
  rw [hstart, Scan.start] at hleft
  exact hleft

end Unresolved

/-! ## Readings without a value -/

namespace Reading

variable {r : Reading}

theorem value_of_isUnfiltered (h : r.isUnfiltered = true) {f : Finding} (hf : f ∈ r.findings) : f.value = none := by
  have hnone := List.all_eq_true.mp h f hf
  rwa [Finding.isResolved, Bool.not_eq_true', Option.isSome_eq_false_iff, Option.isNone_iff_eq_none] at hnone

theorem query_of_isUnfiltered (h : r.isUnfiltered = true) : r.query = "" := by
  rw [query_eq_empty_iff, assignments, List.filterMap_eq_nil_iff]
  intro f hf
  rw [Finding.assignment?, value_of_isUnfiltered h hf]
  cases f.clause.parameter <;> rfl

/-- A reading without values accepts every record, whatever its clauses check. -/
theorem accepts_of_isUnfiltered (h : r.isUnfiltered = true) (record : Record) : r.accepts record = true := by
  rw [accepts, List.all_eq_true]
  intro f hf
  rw [Finding.accepts, value_of_isUnfiltered h hf]

end Reading

/-- **A text is read without a value just when it is blank.** Whatever the filter, a text that is read without a value is
blank, and any reading without values asks the service for nothing and accepts every record. And a filter without
constants reads a blank text without a value, also if some of its patterns cover the empty text, if the alternatives of
its choices leave the rest of a pattern plain. -/
theorem Filter.isUnfiltered_iff_blank [Pattern.Engine] (f : Filter) (text : String) :
    (∀ r, f.parse text = .ok r → r.isUnfiltered = true → ∀ c ∈ text.toList, isBlank c = true) ∧
    ((∀ c ∈ f.clauses, c.Made) → (∀ c ∈ f.clauses, c.constant? = none) →
      ((∃ r, f.parse text = .ok r ∧ r.isUnfiltered = true) ↔ ∀ c ∈ text.toList, isBlank c = true)) ∧
    ∀ r : Reading, r.isUnfiltered = true → r.query = "" ∧ ∀ record, r.accepts record = true := by
  refine ⟨fun r => Filter.blank_of_isUnfiltered, fun hf hfree => ⟨?_, fun h => ⟨_, Filter.parse_of_blank hf h, ?_⟩⟩,
    fun r hr => ⟨?_, ?_⟩⟩
  · rintro ⟨r, hparse, hr⟩
    exact Filter.blank_of_isUnfiltered hparse hr
  · rw [Reading.isUnfiltered, List.all_map, List.all_eq_true]
    intro c hc
    simp [Finding.isResolved, Clause.unread, hfree c hc]
  · exact Reading.query_of_isUnfiltered hr
  · exact Reading.accepts_of_isUnfiltered hr

/-- The one choice covers the empty text, and still finds nothing between two blanks. -/
theorem Filter.isUnfiltered_iff_blank_nullable :
    ∃ c, Clause.choice "any" (some "any") [("x*", .int 1), ("", .int 2)] = .ok c ∧
    ∃ r, Filter.parse ⟨[c, .timeSpan "date" (some "date")]⟩ "\u3000\t" = .ok r ∧ r.isUnfiltered = true := by
  have hchoice : (Clause.choice "any" (some "any") [("x*", .int 1), ("", .int 2)]).toBool = true := by decide
  obtain ⟨c, hc⟩ := exists_ok_of_toBool hchoice
  have hplain : ∀ a ∈ [("x*", Value.int 1), ("", .int 2)], Pattern.LeavesPlain a.1.toList := by
    simp only [List.forall_mem_cons, List.not_mem_nil, false_imp_iff, implies_true, and_true]
    exact ⟨⟨_, _, rfl, rfl⟩, _, _, rfl, rfl⟩
  have hmade : ∀ c' ∈ [c, .timeSpan "date" (some "date")], c'.Made := by
    simp only [List.forall_mem_cons, List.not_mem_nil, false_imp_iff, implies_true, and_true]
    exact ⟨.choice hplain hc, .timeSpan _ _⟩
  have hfree : ∀ c' ∈ [c, .timeSpan "date" (some "date")], c'.constant? = none := by
    simp only [List.forall_mem_cons, List.not_mem_nil, false_imp_iff, implies_true, and_true]
    refine ⟨?_, rfl⟩
    cases hc
    rfl
  have hblank : ∀ c ∈ "\u3000\t".toList, isBlank c = true := List.all_eq_true.mp (by decide)
  exact ⟨c, hc, ((Filter.isUnfiltered_iff_blank ⟨_⟩ "\u3000\t").2.1 hmade hfree).mpr hblank⟩

set_option maxRecDepth 20000 in
/-- Alternatives that turn the verbose mode on make a comment of the word boundaries, and the choice has a value in a
blank text. -/
theorem Filter.isFiltered_of_blank :
    ∃ c r, Clause.choice "c" none [("a)(?x)#", .int 1), ("\n)|(?x)#", .int 2)] = .ok c ∧ c.constant? = none ∧
      Filter.parse ⟨[c]⟩ " " = .ok r ∧ r.isUnfiltered = false := by
  have hchoice : (Clause.choice "c" none [("a)(?x)#", .int 1), ("\n)|(?x)#", .int 2)]).toBool = true := by
    decide +kernel
  obtain ⟨c, hc⟩ := exists_ok_of_toBool hchoice
  have hread : ∃ r, c.constant? = none ∧ Filter.parse ⟨[c]⟩ " " = .ok r ∧ r.isUnfiltered = false := by
    cases hc
    exact ⟨_, rfl, rfl, rfl⟩
  obtain ⟨r, hfree, hr, hvalue⟩ := hread
  exact ⟨c, r, hc, hfree, hr, hvalue⟩

end PhraseFilter
