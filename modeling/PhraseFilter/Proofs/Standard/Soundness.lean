import Mathlib.Data.List.Perm.Basic
import PhraseFilter.Proofs.Clause.Consistency
import PhraseFilter.Proofs.Standard.Phrase

/-!
# What the standard filter accepts

* `Topic.words_of_take` : one scan takes whole words, or leaves a stump that no scan takes;
* `Standard.exists_phrases_of_takeAll` : a search takes phrases of its topics and leaves the other words, or a stump;
* `Standard.words_of_parse` : **the words of a text that is accepted are those of one phrase for each topic found**.
-/

namespace PhraseFilter.Standard

open Text Pattern

/-! ## One scan -/

section Step

variable {t : Topic} {s s' : Scan} {m : List Char}

/-- **One scan takes whole words, or leaves a stump**, and no scan takes a stump away. -/
theorem Topic.words_of_take (h : s.take t.pattern.bounded = (some m, s')) :
    ((words s.remaining).Perm (words m ++ words s'.remaining) ∨ HasStump (words s'.remaining)) ∧
      (HasStump (words s.remaining) → HasStump (words s'.remaining)) := by
  have hfirm := (fits_of_spells (Clause.spells_of_take t.isPlaceFree_pattern h)).firm
  obtain ⟨pre, post, hs, hs', hf⟩ := Scan.exists_of_take h
  obtain ⟨hi, -, hj⟩ := covers_bounded_iff.mp (covers_of_find? hf)
  rw [hs] at hi hj
  have hleft : words s'.remaining = words pre ++ words post := by rw [hs', words_normalize, words_append_cons rfl]
  rw [hs, hleft]
  rcases hfirm.words_of_cut hi hj with hwords | hstump
  · rw [hwords]
    refine ⟨Or.inl ?_, fun hstump => ?_⟩
    · rw [← List.append_assoc]
      exact List.perm_append_comm.append_right _
    · rw [hasStump_append, hasStump_append] at hstump
      rw [hasStump_append]
      rcases hstump with (hpre | hm) | hpost
      · exact Or.inl hpre
      · exact absurd hm hfirm.words
      · exact Or.inr hpost
  · exact ⟨Or.inr hstump, fun _ => hstump⟩

theorem Topic.takeFrom_ok {f : Finding} (h : t.clause.takeFrom s = .ok (f, s')) :
    f.clause = t.clause ∧ ((f.value = none ∧ s' = s) ∨ ∃ m v, s.take t.pattern.bounded = (some m, s') ∧
      f.value = some v ∧ Says t (words m) v) := by
  obtain ⟨hclause, ⟨-, hs, hvalue⟩ | ⟨p, m, -, hscan, ht, -, v, hv, hvalue⟩⟩ := Clause.takeFrom_ok h
  · exact ⟨hclause, Or.inl ⟨by rw [hvalue, t.constant?_clause], hs⟩⟩
  · obtain rfl : t.pattern.bounded = p := Option.some.inj (t.scan?_clause.symm.trans hscan)
    exact ⟨hclause, Or.inr ⟨m, v, ht, hvalue,
      Says.of_resolve (Clause.spells_of_take t.isPlaceFree_pattern ht) hv⟩⟩

end Step

/-! ## A search -/

section Search

variable {ts : List Topic} {s left : Scan} {found : List Finding}

/-- **A search takes one phrase at most for each topic**, and the other words are left, or a stump is. -/
theorem exists_phrases_of_takeAll (hts : ts.Nodup)
    (h : Clause.takeAll (ts.map Topic.clause) s = (found, .ok left)) :
    ∃ ps : List Phrase, (ps.map (·.topic)).Sublist ts ∧
      valuesOf found = ts.map (fun t => (t.clause, valueOf? ps t)) ∧
      ((words s.remaining).Perm (ps.flatMap (·.words) ++ words left.remaining) ∨ HasStump (words left.remaining)) ∧
      (HasStump (words s.remaining) → HasStump (words left.remaining)) := by
  induction ts generalizing s found with
  | nil =>
      cases h
      exact ⟨[], List.Sublist.refl _, rfl, Or.inl (List.Perm.refl _), id⟩
  | cons t ts ih =>
      obtain ⟨ht, hts⟩ := List.nodup_cons.mp hts
      rw [List.map_cons, Clause.takeAll] at h
      cases hc : t.clause.takeFrom s with
      | error e => simp [hc] at h
      | ok fs =>
          obtain ⟨f, s'⟩ := fs
          simp only [hc, Prod.mk.injEq] at h
          obtain ⟨rfl, hleft⟩ := h
          obtain ⟨ps, hsub, hvalues, hwords, hstump⟩ := ih hts (Prod.ext rfl hleft)
          have hnot : t ∉ ps.map (·.topic) := fun hmem => ht (hsub.subset hmem)
          rw [valuesOf] at hvalues ⊢
          obtain ⟨hclause, ⟨hnone, rfl⟩ | ⟨m, v, htake, hvalue, hmeans⟩⟩ := Topic.takeFrom_ok hc
          · refine ⟨ps, hsub.cons _, ?_, hwords, hstump⟩
            rw [List.map_cons, List.map_cons, hclause, hnone, hvalues, valueOf?_eq_none hnot]
          · obtain ⟨hstep, hkeep⟩ := Topic.words_of_take htake
            refine ⟨⟨t, words m, v, hmeans⟩ :: ps, by simpa using hsub, ?_, ?_, fun hs => hstump (hkeep hs)⟩
            · rw [List.map_cons, List.map_cons, hclause, hvalue, hvalues]
              refine congrArg₂ _ (Prod.ext rfl (valueOf?_cons_self ps ⟨t, words m, v, hmeans⟩).symm) ?_
              refine List.map_congr_left fun t' ht' => ?_
              have hne : t ≠ t' := by
                rintro rfl
                exact ht ht'
              rw [valueOf?_cons_of_ne (p := ⟨t, words m, v, hmeans⟩) hne]
            · rcases hstep with hstep | hs
              · rcases hwords with hwords | hs
                · refine Or.inl (hstep.trans ?_)
                  rw [List.flatMap_cons, List.append_assoc]
                  exact hwords.append_left _
                · exact Or.inr hs
              · exact Or.inr (hstump hs)

/-- **The words of a text that is accepted** are those of one phrase for each topic that has a value, each in any case
and with the value that was found for its topic. So no word is left out, cut in two or used twice. -/
theorem words_of_parse {text : String} {r : Reading} (h : parse text = .ok r) :
    ∃ ps : List Phrase, (ps.map (·.topic)).Nodup ∧
      valuesOf r.findings = Topic.all.map (fun t => (t.clause, valueOf? ps t)) ∧
      (words text.toList).Perm (ps.flatMap (·.words)) := by
  rw [parse_eq] at h
  obtain ⟨left, hattempt, hempty⟩ := Filter.parse_ok h
  obtain ⟨ps, hsub, hvalues, hwords, -⟩ := exists_phrases_of_takeAll (by decide) hattempt
  refine ⟨ps, hsub.nodup (by decide), hvalues, ?_⟩
  rw [hempty, words_nil, List.append_nil, Scan.start, words_normalize] at hwords
  refine hwords.resolve_right ?_
  rintro ⟨w, hw, -⟩
  cases hw

/-- A text with two phrases, in mixed case and with a tab between them. -/
theorem words_of_parse_won : ∃ r, parse "Won\tAS radiant" = .ok r ∧
    ∃ ps : List Phrase, (ps.map (·.topic)).Nodup ∧
      valuesOf r.findings = Topic.all.map (fun t => (t.clause, valueOf? ps t)) ∧
      (words "Won\tAS radiant".toList).Perm (ps.flatMap (·.words)) := by
  have haccepted : (parse "Won\tAS radiant").toBool = true := by decide +kernel
  obtain ⟨r, hr⟩ := exists_ok_of_toBool haccepted
  exact ⟨r, hr, words_of_parse hr⟩

end Search

end PhraseFilter.Standard
