import PhraseFilter.Proofs.Clause.Choice
import PhraseFilter.Proofs.Pattern.Plain
import PhraseFilter.Proofs.Scan.Conservation
import PhraseFilter.Proofs.Span.Layout

/-!
# Filters one after the other

* `f ++ g` : the filter with the clauses of `f` and then those of `g`; `Filter.foldl_add` : it is `f` with the clauses of
  `g` added to it;
* `Clause.Made` : a clause whose alternatives leave the rest of a pattern plain; `Clause.Made.takeFrom_nil` : such a clause
  finds nothing in a text that is used up (`Clause.unread`);
* `Clause.takeAll_append_of_ok`, `Clause.takeAll_append_of_error` : a search goes on where an earlier one has stopped,
  unless that one has failed;
* `Filter.start_of_attempt` : what a search leaves is where a new search of it starts;
* `Filter.parse_append` : **what `f ++ g` makes of a text, by what `f` makes of it and `g` of the words that `f` leaves**;
* `Filter.parse_append_verbose` : alternatives that turn the verbose mode on can find something in a text that is used up.
-/

namespace PhraseFilter

open Text

/-- The clauses of the second filter come after those of the first. -/
instance : Append Filter := ⟨fun f g => ⟨f.clauses ++ g.clauses⟩⟩

theorem Filter.foldl_add (f : Filter) (cs : List Clause) : cs.foldl Filter.add f = f ++ Filter.mk cs := by
  induction cs generalizing f with
  | nil => exact congrArg Filter.mk (List.append_nil f.clauses).symm
  | cons c cs ih =>
      rw [List.foldl_cons, ih]
      exact congrArg Filter.mk (List.append_assoc f.clauses [c] cs)

/-! ## Texts that are used up -/

theorem Pattern.find?_bounded_nil (p : Pattern) : p.bounded.find? #[] = none := by
  rw [Pattern.find?_eq_none_iff]
  intro i j h
  have hi := (Pattern.covers_bounded_iff.mp h).1
  unfold isBoundary wordAfter at hi
  cases i <;> simp [wordBefore] at hi

namespace Clause

/-- The clause is a choice whose alternatives leave the rest of a pattern plain, a time span or a constant, and perhaps
has a check. -/
inductive Made [Pattern.Engine] : Clause → Prop
  | choice {label : String} {parameter : Option String} {given : List (String × Value)} {c : Clause}
      (hplain : ∀ a ∈ given, Pattern.LeavesPlain a.1.toList) (hc : Clause.choice label parameter given = .ok c) : Made c
  | timeSpan (label : String) (parameter : Option String) : Made (.timeSpan label parameter)
  | constant (name : String) (value : Value) : Made (.constant name value)
  | withCheck {c : Clause} (h : Made c) (check : Check) : Made (c.withCheck check)

/-- What a clause finds where there is no text: the value of a constant, or nothing. -/
def unread (c : Clause) : Finding := { clause := c, value := c.constant? }

section Exhausted

variable [Pattern.Engine] {c : Clause} {cs : List Clause} {p : Pattern} {label : String} {parameter : Option String}
  {given : List (String × Value)}

theorem exists_bounded_of_choice (hplain : ∀ a ∈ given, Pattern.LeavesPlain a.1.toList)
    (hc : Clause.choice label parameter given = .ok c) (hp : c.scan? = some p) : ∃ q : Pattern, p = q.bounded := by
  obtain ⟨-, -, rfl⟩ := choice_eq_ok hc
  obtain ⟨-, hscan⟩ := Option.ite_none_left_eq_some.mp hp
  rw [joinSources_eq, List.map_map] at hscan
  refine Pattern.exists_bounded (fun s hs => ?_) hscan
  obtain ⟨a, ha, rfl⟩ := List.mem_map.mp hs
  exact hplain a ha

theorem Made.exists_bounded (h : c.Made) (hp : c.scan? = some p) : ∃ q : Pattern, p = q.bounded := by
  induction h with
  | choice hplain hc => exact exists_bounded_of_choice hplain hc hp
  | timeSpan label parameter =>
      obtain rfl : TimeSpan.pattern = p := Option.some.inj hp
      exact ⟨TimeSpan.phrase, TimeSpan.pattern_eq⟩
  | constant name value => cases hp
  | withCheck _ check ih => exact ih hp

/-- **A clause finds nothing in a text that is used up**, not even if its pattern covers the empty text. -/
theorem Made.takeFrom_nil (h : c.Made) : c.takeFrom ⟨[]⟩ = .ok (c.unread, ⟨[]⟩) := by
  unfold takeFrom unread
  cases hconst : c.constant? with
  | some v => rfl
  | none =>
      cases hp : c.scan? with
      | none => rfl
      | some p =>
          -- Even a pattern that covers the empty text wants a word boundary there, and there is none.
          obtain ⟨q, rfl⟩ := h.exists_bounded hp
          have htake : Scan.take ⟨[]⟩ q.bounded = (none, ⟨[]⟩) := by
            unfold Scan.take take?
            rw [Pattern.find?_bounded_nil]
          simp only [htake]

theorem takeAll_nil (h : ∀ c ∈ cs, c.Made) : takeAll cs ⟨[]⟩ = (cs.map unread, .ok ⟨[]⟩) := by
  induction cs with
  | nil => rfl
  | cons c cs ih =>
      rw [takeAll, (h c List.mem_cons_self).takeFrom_nil]
      simp only [ih fun d hd => h d (List.mem_cons_of_mem _ hd), List.map_cons]

end Exhausted

/-! ## Two searches -/

section Searches

variable {cs ds : List Clause} {s left : Scan} {found : List Finding} {e : PhraseError}

theorem takeAll_append_of_error (h : takeAll cs s = (found, .error e)) : takeAll (cs ++ ds) s = (found, .error e) := by
  induction cs generalizing s found with
  | nil => cases h
  | cons c cs ih =>
      rw [List.cons_append, takeAll]
      rw [takeAll] at h
      cases hc : c.takeFrom s with
      | error e' => rwa [hc] at h
      | ok fs =>
          obtain ⟨f, s'⟩ := fs
          simp only [hc, Prod.mk.injEq] at h
          obtain ⟨rfl, hleft⟩ := h
          simp only [ih (Prod.ext rfl hleft)]

/-- A search goes on with what an earlier one has left. -/
theorem takeAll_append_of_ok (h : takeAll cs s = (found, .ok left)) :
    takeAll (cs ++ ds) s = (found ++ (takeAll ds left).1, (takeAll ds left).2) := by
  induction cs generalizing s found with
  | nil =>
      cases h
      rfl
  | cons c cs ih =>
      rw [List.cons_append, takeAll]
      rw [takeAll] at h
      cases hc : c.takeFrom s with
      | error e' =>
          rw [hc] at h
          cases h
      | ok fs =>
          obtain ⟨f, s'⟩ := fs
          simp only [hc, Prod.mk.injEq] at h
          obtain ⟨rfl, hleft⟩ := h
          simp only [ih (Prod.ext rfl hleft), List.cons_append]

end Searches

end Clause

/-! ## Filters -/

namespace Filter

section Append

variable {f g : Filter} {text words : String} {found : List Finding} {left : Scan} {e : PhraseError} {r : Reading}

theorem parse_of_attempt_error (h : f.attempt text = (found, .error e)) : f.parse text = .error e := by
  unfold parse
  rw [h]

theorem parse_of_attempt_ok (h : f.attempt text = (found, .ok left)) :
    f.parse text = if left.isExhausted then .ok ⟨found⟩ else .error (.leftOver (String.ofList left.remaining)) := by
  unfold parse
  rw [h]

theorem ne_leftOver_of_attempt (h : f.attempt text = (found, .error e)) (words : String) : e ≠ .leftOver words := by
  obtain ⟨c, -, s, hc⟩ := Clause.takeAll_error h
  obtain ⟨-, m, -, -, -, hresolve⟩ := Clause.takeFrom_error hc
  rcases Clause.resolve_error hresolve with rfl | ⟨count, unit, rfl⟩ <;> exact nofun

theorem attempt_of_leftOver (h : f.parse text = .error (.leftOver words)) :
    ∃ found left, f.attempt text = (found, .ok left) ∧ left.remaining = words.toList := by
  cases hattempt : f.attempt text with
  | mk found outcome =>
      cases outcome with
      | error e =>
          rw [parse_of_attempt_error hattempt] at h
          exact absurd (Except.error.inj h) (ne_leftOver_of_attempt hattempt words)
      | ok left =>
          rw [parse_of_attempt_ok hattempt] at h
          split at h
          · cases h
          · refine ⟨found, left, rfl, ?_⟩
            rw [← PhraseError.leftOver.inj (Except.error.inj h), String.toList_ofList]

theorem attempt_of_error (h : f.parse text = .error e) (he : ∀ words, e ≠ .leftOver words) :
    ∃ found, f.attempt text = (found, .error e) := by
  unfold parse at h
  split at h
  · next found e' hattempt =>
    cases h
    exact ⟨found, hattempt⟩
  · split at h
    · cases h
    · cases h
      exact absurd rfl (he _)

/-- What a search leaves is normalized, so a search of it starts with all of it. -/
theorem start_of_attempt (h : f.attempt text = (found, .ok left)) : Scan.start (String.ofList left.remaining) = left := by
  obtain ⟨ps, hps⟩ := Clause.exists_takeEach h
  have hnormal := (Scan.accounts_takeEach text ps).normal
  rw [hps] at hnormal
  rw [Scan.start, String.toList_ofList, hnormal]

theorem attempt_append_of_error (h : f.attempt text = (found, .error e)) :
    (f ++ g).attempt text = (found, .error e) :=
  Clause.takeAll_append_of_error h

theorem attempt_append_of_ok (h : f.attempt text = (found, .ok left)) :
    (f ++ g).attempt text =
      (found ++ (g.attempt (String.ofList left.remaining)).1, (g.attempt (String.ofList left.remaining)).2) := by
  rw [attempt, attempt, start_of_attempt h]
  exact Clause.takeAll_append_of_ok h

theorem parse_of_attempt_append
    (h : (f ++ g).attempt text = (found ++ (g.attempt words).1, (g.attempt words).2)) :
    (f ++ g).parse text = (g.parse words).map fun r => ⟨found ++ r.findings⟩ := by
  cases hrest : g.attempt words with
  | mk found' outcome =>
      rw [hrest] at h
      cases outcome with
      | error e =>
          rw [parse_of_attempt_error h, parse_of_attempt_error hrest]
          rfl
      | ok left =>
          rw [parse_of_attempt_ok h, parse_of_attempt_ok hrest]
          split <;> rfl

/-- The empty text leaves nothing to clauses whose alternatives leave the rest of a pattern plain. -/
theorem parse_nil [Pattern.Engine] (hg : ∀ c ∈ g.clauses, c.Made) :
    g.parse "" = .ok ⟨g.clauses.map Clause.unread⟩ := by
  have hattempt : g.attempt "" = (g.clauses.map Clause.unread, .ok ⟨[]⟩) := Clause.takeAll_nil hg
  rw [parse_of_attempt_ok hattempt]
  rfl

theorem parse_append_of_ok (h : f.parse text = .ok r) :
    (f ++ g).parse text = (g.parse "").map fun r' => ⟨r.findings ++ r'.findings⟩ := by
  obtain ⟨left, hattempt, hnil⟩ := parse_ok h
  have hall := attempt_append_of_ok (g := g) hattempt
  rw [hnil, String.ofList_nil] at hall
  exact parse_of_attempt_append hall

/-- What the two make of a text is what the second makes of the words that the first leaves over, after what the
clauses of the first have found. -/
theorem parse_append_of_leftOver (h : f.parse text = .error (.leftOver words)) :
    ∃ found : List Finding, found.map (·.clause) = f.clauses ∧
      (f ++ g).parse text = (g.parse words).map fun r => ⟨found ++ r.findings⟩ := by
  obtain ⟨found, left, hattempt, hwords⟩ := attempt_of_leftOver h
  obtain rfl : words = String.ofList left.remaining := by rw [hwords, String.ofList_toList]
  exact ⟨found, Clause.takeAll_clauses hattempt, parse_of_attempt_append (attempt_append_of_ok hattempt)⟩

theorem clauses_of_parse (h : f.parse text = .ok r) : r.findings.map (·.clause) = f.clauses := by
  obtain ⟨left, hattempt, -⟩ := parse_ok h
  exact Clause.takeAll_clauses hattempt

end Append

/-- **Filters compose.** Adding the clauses of `g` to `f` gives `f ++ g`, and of each text `f ++ g` makes the following.
A fault of `f` is one of `f ++ g`. Where `f` accepts the text, what `g` makes of the empty text comes after what `f` has
found: the constants of `g` and nothing else, if the alternatives of its choices leave the rest of a pattern plain. And
where `f` leaves words over, `f ++ g` is refused for what `g` refuses the words, or else accepted with what `g` finds in
them at the end. -/
theorem parse_append [Pattern.Engine] (f g : Filter) (text : String) :
    g.clauses.foldl add f = f ++ g ∧
    (∀ e, f.parse text = .error e → (∀ words, e ≠ .leftOver words) → (f ++ g).parse text = .error e) ∧
    (∀ r, f.parse text = .ok r →
      (f ++ g).parse text = ((g.parse "").map fun r' => ⟨r.findings ++ r'.findings⟩) ∧
      ((∀ c ∈ g.clauses, c.Made) → (f ++ g).parse text = .ok ⟨r.findings ++ g.clauses.map Clause.unread⟩)) ∧
    ∀ words, f.parse text = .error (.leftOver words) →
      (∀ e, (f ++ g).parse text = .error e ↔ g.parse words = .error e) ∧
      ∀ r, g.parse words = .ok r → ∃ found : List Finding,
        found.map (·.clause) = f.clauses ∧ r.findings.map (·.clause) = g.clauses ∧
        (f ++ g).parse text = .ok ⟨found ++ r.findings⟩ := by
  refine ⟨foldl_add f g.clauses, fun e h he => ?_, fun r h => ⟨parse_append_of_ok h, fun hg => ?_⟩, fun words h => ?_⟩
  · obtain ⟨found, hattempt⟩ := attempt_of_error h he
    exact parse_of_attempt_error (attempt_append_of_error hattempt)
  · rw [parse_append_of_ok h, parse_nil hg]
    rfl
  · obtain ⟨found, hfound, hparse⟩ := parse_append_of_leftOver (g := g) h
    refine ⟨fun e => ?_, fun r hr => ⟨found, hfound, clauses_of_parse hr, ?_⟩⟩
    · rw [hparse]
      cases g.parse words <;> simp [Except.map]
    · rw [hparse, hr]
      rfl

set_option maxRecDepth 20000 in
/-- The span is found by the first filter, which leaves "won" to the second, and then nothing. -/
theorem parse_append_last_week : ∃ c r,
    Clause.choice "win" none [("won)|(?:lost", .int 1)] = .ok c ∧
    Filter.parse ⟨[.timeSpan "date" none]⟩ "last week won" = .error (.leftOver "won") ∧
    Filter.parse ⟨[c, .constant "limit" (.int 5)]⟩ "won" = .ok r ∧ r.value? "win" = some (.int 1) ∧
    (∃ found : List Finding, found.map (·.clause) = [.timeSpan "date" none] ∧
      Filter.parse (⟨[.timeSpan "date" none]⟩ ++ ⟨[c, .constant "limit" (.int 5)]⟩) "last week won" =
        .ok ⟨found ++ r.findings⟩) ∧
    ∃ r', Filter.parse ⟨[.timeSpan "date" none]⟩ "last week" = .ok r' ∧
      Filter.parse (⟨[.timeSpan "date" none]⟩ ++ ⟨[c, .constant "limit" (.int 5)]⟩) "last week" =
        .ok ⟨r'.findings ++ [c.unread, Clause.unread (.constant "limit" (.int 5))]⟩ := by
  have hchoice : (Clause.choice "win" none [("won)|(?:lost", .int 1)]).toBool = true := by decide +kernel
  obtain ⟨c, hc⟩ := exists_ok_of_toBool hchoice
  have hplain : ∀ a ∈ [("won)|(?:lost", Value.int 1)], Pattern.LeavesPlain a.1.toList := by
    rw [List.forall_mem_singleton]
    exact ⟨_, _, rfl, rfl⟩
  have hmade : ∀ c' ∈ [c, .constant "limit" (.int 5)], c'.Made := by
    simp only [List.forall_mem_cons, List.not_mem_nil, false_imp_iff, implies_true, and_true]
    exact ⟨.choice hplain hc, .constant _ _⟩
  have hover : Filter.parse ⟨[.timeSpan "date" none]⟩ "last week won" = .error (.leftOver "won") := by rfl
  have haccept : ∃ r', Filter.parse ⟨[.timeSpan "date" none]⟩ "last week" = .ok r' := ⟨_, rfl⟩
  have hread : ∃ r, Filter.parse ⟨[c, .constant "limit" (.int 5)]⟩ "won" = .ok r ∧ r.value? "win" = some (.int 1) := by
    cases hc
    exact ⟨_, rfl, rfl⟩
  obtain ⟨r, hr, hvalue⟩ := hread
  obtain ⟨r', hr'⟩ := haccept
  obtain ⟨found, hfound, -, hparse⟩ := ((parse_append ⟨[.timeSpan "date" none]⟩
    ⟨[c, .constant "limit" (.int 5)]⟩ "last week won").2.2.2 "won" hover).2 r hr
  have hempty := ((parse_append ⟨[.timeSpan "date" none]⟩
    ⟨[c, .constant "limit" (.int 5)]⟩ "last week").2.2.1 r' hr').2 hmade
  exact ⟨c, r, hc, hover, hr, hvalue, ⟨found, hfound, hparse⟩, r', hr', hempty⟩

set_option maxRecDepth 20000 in
/-- Alternatives that turn the verbose mode on make a comment of the word boundaries. Then the choice has a value in a
text that is used up. -/
theorem parse_append_verbose : ∃ c r,
    Clause.choice "c" none [("a)(?x)#", .int 1), ("\n)|(?x)#", .int 2)] = .ok c ∧
    Filter.parse ⟨[]⟩ "" = .ok ⟨[]⟩ ∧ Filter.parse (⟨[]⟩ ++ ⟨[c]⟩) "" = .ok r ∧ r.value? "c" = some (.int 2) := by
  have hchoice : (Clause.choice "c" none [("a)(?x)#", .int 1), ("\n)|(?x)#", .int 2)]).toBool = true := by
    decide +kernel
  obtain ⟨c, hc⟩ := exists_ok_of_toBool hchoice
  have hread : ∃ r, Filter.parse (⟨[]⟩ ++ ⟨[c]⟩) "" = .ok r ∧ r.value? "c" = some (.int 2) := by
    cases hc
    exact ⟨_, rfl, rfl⟩
  obtain ⟨r, hr, hvalue⟩ := hread
  exact ⟨c, r, hc, rfl, hr, hvalue⟩

end Filter

end PhraseFilter
