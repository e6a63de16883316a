import PhraseFilter.Filter.Basic
import PhraseFilter.Proofs.Scan.Take

/-!
# The search of a filter

* `Clause.takeFrom_ok`, `Clause.takeFrom_error` : what one clause finds, and when it fails;
* `Clause.resolve_error` : why a phrase has no value;
* `Clause.takeAll_error`, `Filter.parse_ok`, `Filter.parse_error` : the outcomes of a search.
-/

namespace PhraseFilter

open Text

section Clauses

variable {c : Clause} {cs : List Clause} {s s' : Scan} {f : Finding} {found : List Finding} {left : Scan}
  {e : PhraseError} {text : String}

/-- What a clause finds is a constant or no phrase at all, or else what one scan takes and its value. -/
theorem Clause.takeFrom_ok (h : c.takeFrom s = .ok (f, s')) :
    f.clause = c ∧ ((f.phrase = none ∧ s' = s ∧ f.value = c.constant?) ∨
      ∃ p m, c.constant? = none ∧ c.scan? = some p ∧ s.take p = (some m, s') ∧ f.phrase = some m ∧
        ∃ v, c.resolve m = .ok v ∧ f.value = some v) := by
  unfold Clause.takeFrom at h
  split at h
  · next v p hconst =>
    cases h
    exact ⟨rfl, Or.inl ⟨rfl, rfl, hconst.symm⟩⟩
  · next hconst _ =>
    cases h
    exact ⟨rfl, Or.inl ⟨rfl, rfl, hconst.symm⟩⟩
  · next p hconst hscan =>
    split at h
    · next s'' ht =>
      cases h
      exact ⟨rfl, Or.inl ⟨rfl, (Scan.eq_of_take_none ht).1, hconst.symm⟩⟩
    · next m s'' ht =>
      split at h
      · next v hv =>
        cases h
        exact ⟨rfl, Or.inr ⟨p, m, hconst, hscan, ht, rfl, v, hv, rfl⟩⟩
      · cases h

theorem Clause.takeFrom_error (h : c.takeFrom s = .error e) :
    ∃ p m, c.constant? = none ∧ c.scan? = some p ∧ s.take p = (some m, (s.take p).2) ∧ c.resolve m = .error e := by
  unfold Clause.takeFrom at h
  split at h
  · cases h
  · cases h
  · next p hconst hscan =>
    split at h
    · cases h
    · next m s'' ht =>
      split at h
      · cases h
      · next e' hv =>
        cases h
        exact ⟨p, m, hconst, hscan, by rw [ht], hv⟩

theorem TimeSpan.ofCount_error {unit : String} {days count : Nat} (h : TimeSpan.ofCount unit days count = .error e) :
    ∃ count unit, e = .spanTooLong count unit := by
  unfold TimeSpan.ofCount at h
  split at h
  · cases h
  · cases h
    exact ⟨_, _, rfl⟩

theorem TimeSpan.read_error {label : String} {phrase : List Char} (h : TimeSpan.read label phrase = .error e) :
    e = .noValue label (String.ofList phrase) ∨ ∃ count unit, e = .spanTooLong count unit := by
  unfold TimeSpan.read at h
  dsimp only at h
  split at h
  · cases h
    exact Or.inl rfl
  · split at h
    · cases h
      exact Or.inl rfl
    · split at h
      · exact Or.inr (TimeSpan.ofCount_error h)
      · split at h
        · exact Or.inr (TimeSpan.ofCount_error h)
        · cases h
          exact Or.inr ⟨_, _, rfl⟩

theorem Clause.resolve_error {phrase : List Char} (h : c.resolve phrase = .error e) :
    e = .noValue c.label (String.ofList phrase) ∨ ∃ count unit, e = .spanTooLong count unit := by
  unfold Clause.resolve at h
  split at h
  · split at h
    · cases h
    · cases h
      exact Or.inl rfl
  · cases hr : TimeSpan.read c.label phrase with
    | ok t => simp [hr, Except.map] at h
    | error e' =>
        obtain rfl : e' = e := by simpa [hr, Except.map] using h
        exact TimeSpan.read_error hr
  · cases h

theorem Clause.takeAll_error (h : Clause.takeAll cs s = (found, .error e)) :
    ∃ c ∈ cs, ∃ s', c.takeFrom s' = .error e := by
  induction cs generalizing s found with
  | nil => cases h
  | cons c cs ih =>
      rw [Clause.takeAll] at h
      cases hc : c.takeFrom s with
      | error e' =>
          simp only [hc, Prod.mk.injEq, Except.error.injEq] at h
          exact ⟨c, List.mem_cons_self, s, by rw [hc, h.2]⟩
      | ok fs =>
          simp only [hc, Prod.mk.injEq] at h
          obtain ⟨c', hc', s', hs'⟩ := ih (Prod.ext rfl h.2)
          exact ⟨c', List.mem_cons_of_mem _ hc', s', hs'⟩

theorem Clause.takeAll_clauses (h : Clause.takeAll cs s = (found, .ok left)) : found.map (·.clause) = cs := by
  induction cs generalizing s found with
  | nil =>
      cases h
      rfl
  | cons c cs ih =>
      rw [Clause.takeAll] at h
      cases hc : c.takeFrom s with
      | error e => simp [hc] at h
      | ok fs =>
          simp only [hc, Prod.mk.injEq] at h
          obtain ⟨rfl, hleft⟩ := h
          rw [List.map_cons, (Clause.takeFrom_ok hc).1, ih (Prod.ext rfl hleft)]

end Clauses

/-! ## Outcomes -/

section Outcomes

variable {f : Filter} {text : String} {r : Reading} {e : PhraseError}

theorem Filter.parse_ok (h : f.parse text = .ok r) :
    ∃ left, f.attempt text = (r.findings, .ok left) ∧ left.remaining = [] := by
  unfold Filter.parse at h
  split at h
  · cases h
  · next found s hs =>
    split at h
    · next hempty =>
      cases h
      exact ⟨s, hs, List.isEmpty_iff.mp hempty⟩
    · cases h

/-- A text is refused for what is left of it, or because a clause has no value for a phrase. -/
theorem Filter.parse_error (h : f.parse text = .error e) :
    (∃ found left, f.attempt text = (found, .ok left) ∧ left.remaining ≠ [] ∧
      e = .leftOver (String.ofList left.remaining)) ∨ ∃ c ∈ f.clauses, ∃ s, c.takeFrom s = .error e := by
  unfold Filter.parse at h
  split at h
  · next found e' hs =>
    cases h
    exact Or.inr (Clause.takeAll_error hs)
  · next found s hs =>
    split at h
    · cases h
    · next hne =>
      cases h
      exact Or.inl ⟨found, s, hs, fun h => hne (by simp [Scan.isExhausted, h]), rfl⟩

end Outcomes

end PhraseFilter
