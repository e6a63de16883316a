import PhraseFilter.Proofs.Filter.Search
import PhraseFilter.Proofs.Standard.Topic

/-!
# Every phrase that is taken has a value

* `Clause.Declared` : the clauses that can be declared: choices of plain patterns, time spans and constants;
* `Clause.Declared.resolve_taken` : what such a clause takes out of a text has a value, or is too long a span;
* `Standard.declared_of_mem` : the clauses of the standard filter are declared so;
* `Filter.parse_error_not_internal` : **no filter of such clauses is ever at fault itself**.
-/

namespace PhraseFilter

open Text Pattern

namespace Clause

/-- The clause is a choice between plain patterns, a time span or a constant, and perhaps has a check. -/
inductive Declared [Engine] : Clause → Prop
  | choice {label : String} {parameter : Option String} {given : List (String × Value)} {c : Clause}
      (hgiven : ∀ a ∈ given, IsPlain a.1) (hc : Clause.choice label parameter given = .ok c) : Declared c
  | timeSpan (label : String) (parameter : Option String) : Declared (.timeSpan label parameter)
  | constant (name : String) (value : Value) : Declared (.constant name value)
  | withCheck {c : Clause} (h : Declared c) (check : Check) : Declared (c.withCheck check)

section Taken

variable [Engine] {c : Clause} {p : Pattern} {s s' : Scan} {m : List Char} {given : List (String × Value)} {e : PhraseError}

/-- **What a declared clause takes out of a text has a value**, unless it is too long a time span. -/
theorem Declared.resolve_taken (hc : c.Declared) (hscan : c.scan? = some p) (ht : s.take p = (some m, s'))
    (he : c.resolve m = .error e) : ∃ count unit, e = .spanTooLong count unit := by
  induction hc with
  | @choice label parameter given c hgiven hchoice =>
      obtain ⟨ps, hps, hfree⟩ := exists_patterns hgiven
      have hgrammar : c.grammar =
          .choice (alternativesOf given ps) (if given = [] then none else some (altAll ps).bounded) := by
        rw [choice_eq hps hchoice]
      rw [scan?, hgrammar] at hscan
      dsimp only at hscan
      split at hscan
      · cases hscan
      · next hne =>
        obtain rfl := Option.some.inj hscan
        have hne' : ps ≠ [] := by
          rintro rfl
          exact hne (List.forall₂_nil_right_iff.mp hps)
        obtain ⟨q, hq, hm⟩ := (spells_altAll_iff hne').mp (spells_of_take (isPlaceFree_altAll hfree) ht)
        obtain ⟨ap, hap, rfl⟩ := exists_mem_zip hps.length_eq hq
        obtain ⟨v, hv⟩ := exists_value hfree hgrammar ⟨ap, hap, hm⟩
        rw [hv] at he
        cases he
  | timeSpan label parameter =>
      obtain rfl : TimeSpan.pattern = p := Option.some.inj hscan
      rw [TimeSpan.pattern_eq] at ht
      obtain ⟨l, hl, rfl⟩ := TimeSpan.spells_phrase_iff.mp (spells_of_take (by decide) ht)
      obtain ⟨⟨name, days⟩, hmem, hunit⟩ := hl.exists_unit
      have hread : TimeSpan.read label l.text = .error e := by
        cases hr : TimeSpan.read label l.text with
        | ok t => simp [resolve, Clause.timeSpan, hr, Except.map] at he
        | error e' => simpa [resolve, Clause.timeSpan, hr, Except.map] using he
      rw [hl.read_text hmem hunit] at hread
      split at hread
      · exact TimeSpan.ofCount_error hread
      · split at hread
        · exact TimeSpan.ofCount_error hread
        · cases hread
          exact ⟨_, _, rfl⟩
  | constant name value => cases hscan
  | withCheck _ check ih => exact ih hscan he

end Taken

end Clause

/-! ## The standard filter -/

namespace Standard

/-- The clauses of the standard filter are declared: its choices are between plain patterns. -/
theorem declared_clause (t : Topic) : t.clause.Declared := by
  by_cases ht : t = .date
  · subst ht
    exact .timeSpan _ _
  · have hplain : ∀ a ∈ t.given, (Pattern.read? a.1.toList).any isPlaceFree = true := by
      cases t <;> decide
    have hchoice : ({ t.clause with check := none } : Clause).Declared :=
      .choice (fun a ha => (Option.any_eq_true _ _).mp (hplain a ha)) (Topic.choice_eq ht)
    cases t with
    | lane => exact .withCheck hchoice laneCheck
    | roaming => exact .withCheck hchoice roamingCheck
    | date => exact absurd rfl ht
    | win | side | lobby => exact hchoice

theorem declared_of_mem {c : Clause} (hc : c ∈ Topic.all.map Topic.clause) : c.Declared := by
  obtain ⟨t, -, rfl⟩ := List.mem_map.mp hc
  exact declared_clause t

end Standard

/-! ## Filters -/

theorem TimeSpan.unit_of_take {s s' : Scan} {phrase : List Char} (h : s.take TimeSpan.pattern = (some phrase, s')) :
    ∃ parts, TimeSpan.parts? phrase = some parts ∧ ∃ nd ∈ daysPerUnit, parts.unit.map fold = nd.1.toList ∧
      lower (String.ofList parts.unit) = nd.1 ∧ unitDays? (String.ofList parts.unit) = some nd.2 := by
  rw [TimeSpan.pattern_eq] at h
  obtain ⟨l, hl, rfl⟩ := TimeSpan.spells_phrase_iff.mp (Clause.spells_of_take (by decide) h)
  obtain ⟨nd, hmem, hunit⟩ := hl.exists_unit
  obtain ⟨hlower, hdays⟩ := TimeSpan.unitDays?_of_fold hmem hunit
  exact ⟨_, hl.parts?_text, nd, hmem, hunit, hlower, hdays⟩

/-- A text that a filter of declared clauses refuses has words left over, or a time span that is too long. -/
theorem Filter.isInternal_of_parse [Engine] {f : Filter} (hf : ∀ c ∈ f.clauses, c.Declared) {text : String}
    {e : PhraseError} (he : f.parse text = .error e) : e.isInternal = false := by
  rcases Filter.parse_error he with ⟨-, -, -, -, rfl⟩ | ⟨c, hc, s, hs⟩
  · rfl
  · obtain ⟨p, m, -, hscan, ht, hresolve⟩ := Clause.takeFrom_error hs
    obtain ⟨count, unit, rfl⟩ := (hf c hc).resolve_taken hscan ht hresolve
    rfl

/-- **No filter of declared clauses is ever at fault itself**, whatever the text: what a clause takes has a value or
is a time span that is too long. The standard filter is such a filter, and each unit that the pattern of a time span
takes is in the table of units once it is in lower case. -/
theorem Filter.parse_error_not_internal [Engine] {f : Filter} (hf : ∀ c ∈ f.clauses, c.Declared) (text : String) :
    (∀ e, f.parse text = .error e → e.isInternal = false) ∧
    (∃ standard, Standard.filter = .ok standard ∧ ∀ c ∈ standard.clauses, @Clause.Declared usualEngine c) ∧
    ∀ (s s' : Scan) (phrase : List Char), s.take TimeSpan.pattern = (some phrase, s') →
      ∃ parts, TimeSpan.parts? phrase = some parts ∧ ∃ nd ∈ daysPerUnit, parts.unit.map fold = nd.1.toList ∧
        lower (String.ofList parts.unit) = nd.1 ∧ unitDays? (String.ofList parts.unit) = some nd.2 := by
  exact ⟨fun e he => isInternal_of_parse hf he, ⟨_, Standard.filter_eq, fun c hc => Standard.declared_of_mem hc⟩,
    fun s s' phrase h => TimeSpan.unit_of_take h⟩

set_option maxRecDepth 20000 in
/-- A text with a time span and a word that no clause of the filter knows. -/
theorem Filter.parse_error_not_internal_day :
    ∃ e, Filter.parse ⟨[.constant "limit" (.int 5), .timeSpan "date" none]⟩ "day break" = .error e ∧
      e.isInternal = false := by
  have hf : ∀ c ∈ [Clause.constant "limit" (.int 5), .timeSpan "date" none], c.Declared := by
    simp only [List.forall_mem_cons, List.not_mem_nil, false_imp_iff, implies_true, and_true]
    exact ⟨.constant _ _, .timeSpan _ _⟩
  have hparse : Filter.parse ⟨[.constant "limit" (.int 5), .timeSpan "date" none]⟩ "day break" =
      .error (.leftOver "break") := by rfl
  exact ⟨_, hparse, (Filter.parse_error_not_internal hf "day break").1 _ hparse⟩

end PhraseFilter
