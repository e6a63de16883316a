import PhraseFilter.Proofs.Pattern.Spelling
import PhraseFilter.Span

/-!
# The parts of a time span

* `TimeSpan.phrase` : the pattern of a time span as a tree; `TimeSpan.pattern_eq` : it is the pattern that scans for
  time spans;
* `TimeSpan.Layout` : the parts of a text, `TimeSpan.Layout.IsSpan` : they are those of a time span;
* `TimeSpan.spells_phrase_iff` : **the pattern spells exactly the texts of such layouts**;
* `TimeSpan.parts?_text` : and the parts of a phrase are found again in each of them;
* `TimeSpan.unitDays?_of_fold` : a unit has its days in any case.
-/

namespace PhraseFilter

open Text Pattern

namespace TimeSpan

/-- The pattern of one text, in any case. -/
def literal (s : String) : Pattern := seqAll (s.toList.map fun c => .one (.letter c))

/-- The pattern of a time span: three rows of openings, a count, a unit and an "s". -/
def phrase : Pattern :=
  seqAll [
    .opt true (seqAll [altAll [literal "in", literal "over"], literal " "]),
    .opt true (literal "the "),
    .opt true (seqAll [altAll [literal "this", literal "last", literal "past"], literal " "]),
    .opt true (seqAll [.many true (.one (.set false [.digit false])), .opt true (literal " ")]),
    altAll [literal "day", literal "week", literal "month", literal "year"],
    .opt true (literal "s")]

set_option maxRecDepth 4000 in
theorem pattern_eq : pattern = phrase.bounded := by decide

set_option maxRecDepth 4000 in
theorem readWhole?_source : Pattern.readWhole? source.toList = some phrase.whole := by decide

/-- The parts of a text that may be a time span, in their order. -/
structure Layout where
  /-- "in" or "over", with a space. -/
  first : List Char
  /-- "the", with a space. -/
  second : List Char
  /-- "this", "last" or "past", with a space. -/
  third : List Char
  digits : List Char
  gap : List Char
  unit : List Char
  /-- The "s". -/
  ending : List Char

namespace Layout

/-- The count and what follows it. -/
def core (l : Layout) : List Char := l.digits ++ (l.gap ++ (l.unit ++ l.ending))

/-- The number of units: the value of the digits, or one if there are none. -/
def count (l : Layout) : Nat := if l.digits.isEmpty then 1 else decimalValue l.digits

def text (l : Layout) : List Char := l.first ++ (l.second ++ (l.third ++ l.core))

/-- The parts are those of a time span. -/
structure IsSpan (l : Layout) : Prop where
  first : l.first.map fold ∈ ["in ".toList, "over ".toList, []]
  second : l.second.map fold ∈ ["the ".toList, []]
  third : l.third.map fold ∈ ["this ".toList, "last ".toList, "past ".toList, []]
  digits : ∀ d ∈ l.digits, isDigit d = true
  gap : l.gap = [' '] ∨ l.gap = []
  gap_nil : l.digits = [] → l.gap = []
  unit : l.unit.map fold ∈ ["day".toList, "week".toList, "month".toList, "year".toList]
  ending : l.ending.map fold ∈ [['s'], []]

end Layout

/-! ## The language of time spans -/

theorem spells_listed {p : Pattern} {m : List Char} (ws : List (List Char)) (hp : p.isListed = true)
    (hws : p.spellings = ws) : p.Spells m ↔ m.map fold ∈ ws := by
  rw [spells_iff_mem_spellings hp, hws]

theorem spells_count_iff {m : List Char} :
    (Pattern.opt true (seqAll [.many true (.one (.set false [.digit false])), .opt true (literal " ")])).Spells m ↔
      ∃ digits gap, (∀ d ∈ digits, isDigit d = true) ∧ (gap = [' '] ∨ gap = []) ∧ (digits = [] → gap = []) ∧
        m = digits ++ gap := by
  have hgap : ∀ g, (Pattern.opt true (literal " ")).Spells g ↔ g = [' '] ∨ g = [] := by
    intro g
    rw [spells_listed [[' '], []] rfl (by decide)]
    simp only [List.mem_cons, List.not_mem_nil, or_false, List.map_eq_nil_iff, List.map_eq_singleton_iff]
    refine or_congr_left ⟨?_, ?_⟩
    · rintro ⟨d, rfl, hd⟩
      rw [eq_of_fold_eq_space hd]
    · rintro rfl
      exact ⟨' ', rfl, by decide⟩
  have hhas : ∀ d, Chars.has d (.set false [.digit false]) = isDigit d := by
    intro d
    simp [Chars.has, Chars.Item.has]
  simp only [spells_opt_iff, seqAll, spells_seq_iff, spells_many_one_iff, hgap, hhas]
  constructor
  · rintro (⟨digits, gap, ⟨hne, hdigits⟩, hg, rfl⟩ | rfl)
    · exact ⟨digits, gap, hdigits, hg, fun h => absurd h hne, rfl⟩
    · exact ⟨[], [], by simp, Or.inr rfl, fun _ => rfl, rfl⟩
  · rintro ⟨digits, gap, hdigits, hg, hnil, rfl⟩
    by_cases hne : digits = []
    · rw [hne, hnil hne]
      exact Or.inr rfl
    · exact Or.inl ⟨digits, gap, ⟨hne, hdigits⟩, hg, rfl⟩

/-- **The pattern of a time span spells the texts of its layouts.** -/
theorem spells_phrase_iff {m : List Char} : phrase.Spells m ↔ ∃ l : Layout, l.IsSpan ∧ l.text = m := by
  have hfirst : ∀ u, (Pattern.opt true (seqAll [altAll [literal "in", literal "over"], literal " "])).Spells u ↔
      u.map fold ∈ ["in ".toList, "over ".toList, []] := fun u => spells_listed _ (by decide) (by decide)
  have hsecond : ∀ u, (Pattern.opt true (literal "the ")).Spells u ↔ u.map fold ∈ ["the ".toList, []] :=
    fun u => spells_listed _ (by decide) (by decide)
  have hthird : ∀ u, (Pattern.opt true
      (seqAll [altAll [literal "this", literal "last", literal "past"], literal " "])).Spells u ↔
        u.map fold ∈ ["this ".toList, "last ".toList, "past ".toList, []] :=
    fun u => spells_listed _ (by decide) (by decide)
  have hunit : ∀ u, (altAll [literal "day", literal "week", literal "month", literal "year"]).Spells u ↔
      u.map fold ∈ ["day".toList, "week".toList, "month".toList, "year".toList] :=
    fun u => spells_listed _ (by decide) (by decide)
  have hending : ∀ u, (Pattern.opt true (literal "s")).Spells u ↔ u.map fold ∈ [['s'], []] :=
    fun u => spells_listed _ (by decide) (by decide)
  rw [phrase]
  simp only [seqAll, spells_seq_iff] at hfirst hthird ⊢
  constructor
  · rintro ⟨a, _, ha, ⟨b, _, hb, ⟨c, _, hc, ⟨n, _, hn, ⟨u, s, hu, hs, rfl⟩, rfl⟩, rfl⟩, rfl⟩, rfl⟩
    obtain ⟨digits, gap, hdigits, hg, hnil, rfl⟩ := spells_count_iff.mp hn
    exact ⟨⟨a, b, c, digits, gap, u, s⟩, ⟨(hfirst a).mp ha, (hsecond b).mp hb, (hthird c).mp hc, hdigits, hg, hnil,
      (hunit u).mp hu, (hending s).mp hs⟩, by simp [Layout.text, Layout.core]⟩
  · rintro ⟨l, hl, rfl⟩
    exact ⟨_, _, (hfirst _).mpr hl.first, ⟨_, _, (hsecond _).mpr hl.second, ⟨_, _, (hthird _).mpr hl.third,
      ⟨_, _, spells_count_iff.mpr ⟨_, _, hl.digits, hl.gap, hl.gap_nil, rfl⟩,
        ⟨_, _, (hunit _).mpr hl.unit, (hending _).mpr hl.ending, rfl⟩, rfl⟩, rfl⟩, rfl⟩,
      by simp [Layout.text, Layout.core]⟩

/-! ## Dropping openings -/

section Openings

variable {w : List Char} {ws : List String} {r s v : List Char} {c : Char}

theorem dropWord?_eq_some_iff : dropWord? w s = some r ↔ ∃ v, s = v ++ r ∧ v.map fold = w.map fold := by
  induction w generalizing s with
  | nil =>
      rw [dropWord?, Option.some.injEq]
      constructor
      · rintro rfl
        exact ⟨[], rfl, rfl⟩
      · rintro ⟨v, rfl, hv⟩
        rw [List.map_nil, List.map_eq_nil_iff] at hv
        rw [hv, List.nil_append]
  | cons c w ih =>
      cases s with
      | nil =>
          rw [dropWord?]
          constructor
          · intro h
            cases h
          · rintro ⟨v, hv, hfold⟩
            obtain ⟨rfl, -⟩ := List.append_eq_nil_iff.mp hv.symm
            cases hfold
      | cons d s =>
          rw [dropWord?, sameFold]
          constructor
          · intro h
            split at h
            · next hcd =>
              obtain ⟨v, rfl, hv⟩ := ih.mp h
              exact ⟨d :: v, rfl, by rw [List.map_cons, List.map_cons, hv, beq_iff_eq.mp hcd]⟩
            · cases h
          · rintro ⟨v, hs, hv⟩
            cases v with
            | nil => cases hv
            | cons e v =>
                rw [List.map_cons, List.map_cons, List.cons.injEq] at hv
                rw [List.cons_append, List.cons.injEq] at hs
                obtain ⟨rfl, rfl⟩ := hs
                rw [if_pos (by simpa using hv.1.symm)]
                exact ih.mpr ⟨v, rfl, hv.2⟩

theorem prefix_of_dropWord? (h : dropWord? w s = some r) : w.map fold <+: s.map fold := by
  obtain ⟨v, rfl, hv⟩ := dropWord?_eq_some_iff.mp h
  exact ⟨r.map fold, by rw [List.map_append, hv]⟩

theorem findSome?_eq_of_unique {α β : Type} {f : α → Option β} {xs : List α} {a : α} {b : β} (ha : a ∈ xs)
    (hb : f a = some b) (hunique : ∀ x ∈ xs, ∀ c, f x = some c → c = b) : xs.findSome? f = some b := by
  cases hf : xs.findSome? f with
  | none =>
      rw [List.findSome?_eq_none_iff.mp hf a ha] at hb
      cases hb
  | some c =>
      obtain ⟨x, hx, hc⟩ := List.exists_of_findSome?_eq_some hf
      rw [hunique x hx c hc]

theorem eq_of_dropWord? {names : List (List Char)} {w x : List Char} {q : List Char} (hw : w ∈ names) (hx : x ∈ names)
    (hfree : ∀ w ∈ names, ∀ x ∈ names, w.map fold <+: x.map fold → w = x) (h : dropWord? w s = some r)
    (h' : dropWord? x s = some q) : w = x := by
  rcases List.prefix_or_prefix_of_prefix (prefix_of_dropWord? h) (prefix_of_dropWord? h') with hp | hp
  · exact hfree w hw x hx hp
  · exact (hfree x hx w hw hp).symm

theorem dropOneOf_append (hw : ∃ w ∈ ws, v.map fold = w.toList.map fold)
    (hfree : ∀ w ∈ ws.map (·.toList), ∀ x ∈ ws.map (·.toList), w.map fold <+: x.map fold → w = x) :
    dropOneOf ws (v ++ r) = r := by
  obtain ⟨w, hw, hv⟩ := hw
  have hdrop : dropWord? w.toList (v ++ r) = some r := dropWord?_eq_some_iff.mpr ⟨v, rfl, hv⟩
  have hfound : (ws.findSome? fun w => dropWord? w.toList (v ++ r)) = some r := by
    refine findSome?_eq_of_unique hw hdrop fun x hx q hq => ?_
    have hwx := eq_of_dropWord? (List.mem_map_of_mem hw) (List.mem_map_of_mem hx) hfree hdrop hq
    rw [← hwx, hdrop] at hq
    exact (Option.some.inj hq).symm
  rw [dropOneOf, hfound, Option.getD_some]

theorem dropOneOf_eq_self (h : ∀ w ∈ ws, ¬ w.toList.map fold <+: s.map fold) : dropOneOf ws s = s := by
  have hnone : (ws.findSome? fun w => dropWord? w.toList s) = none := by
    refine List.findSome?_eq_none_iff.mpr fun w hw => ?_
    cases hd : dropWord? w.toList s with
    | none => rfl
    | some r => exact absurd (prefix_of_dropWord? hd) (h w hw)
  rw [dropOneOf, hnone, Option.getD_none]

theorem not_prefix_append {x y : List Char} (hxy : ¬ x <+: y) (hyx : ¬ y <+: x) (z : List Char) : ¬ x <+: y ++ z :=
  fun h => (List.prefix_or_prefix_of_prefix h (List.prefix_append y z)).elim hxy hyx

/-- A row of openings is dropped where one of its words stands or none, and what follows starts with none. -/
theorem dropOneOf_row (hv : v.map fold ∈ ws.map (·.toList.map fold) ++ [[]])
    (hfree : ∀ w ∈ ws.map (·.toList), ∀ x ∈ ws.map (·.toList), w.map fold <+: x.map fold → w = x)
    (hr : ∀ w ∈ ws, ¬ w.toList.map fold <+: r.map fold) : dropOneOf ws (v ++ r) = r := by
  rcases List.mem_append.mp hv with hv | hv
  · obtain ⟨w, hw, hwv⟩ := List.mem_map.mp hv
    exact dropOneOf_append ⟨w, hw, hwv.symm⟩ hfree
  · obtain rfl : v = [] := List.map_eq_nil_iff.mp (List.mem_singleton.mp hv)
    exact dropOneOf_eq_self hr

end Openings

/-! ## The parts of a phrase -/

namespace Layout.IsSpan

variable {l : Layout}

/-- The count and what follows it start with the letter of a unit or with no small letter. -/
theorem head_core (h : l.IsSpan) : ∃ c rest, l.core.map fold = c :: rest ∧
    (c ∈ ['d', 'w', 'm', 'y'] ∨ c.isLower = false) := by
  cases hd : l.digits with
  | nil =>
      have hunit := h.unit
      simp only [List.mem_cons, List.not_mem_nil, or_false] at hunit
      rw [core, hd, h.gap_nil hd, List.nil_append, List.nil_append, List.map_append]
      rcases hunit with hu | hu | hu | hu <;> rw [hu] <;> exact ⟨_, _, rfl, Or.inl (by decide)⟩
  | cons d ds =>
      refine ⟨fold d, _, by rw [core, hd]; rfl, Or.inr ?_⟩
      cases hlower : (fold d).isLower with
      | false => rfl
      | true =>
          have hdigit := h.digits d (by rw [hd]; exact List.mem_cons_self)
          rw [isDigit_of_fold hlower rfl] at hdigit
          cases hdigit

/-- No opening starts where the count or the unit should. -/
theorem not_prefix_core (h : l.IsSpan) {c : Char} {w : List Char} (hc : c ∈ ['i', 'o', 't', 'l', 'p']) :
    ¬ c :: w <+: l.core.map fold := by
  obtain ⟨d, rest, hcore, hd⟩ := h.head_core
  rw [hcore]
  intro hstarts
  obtain rfl := (List.cons_prefix_cons.mp hstarts).1
  have hletters : (['i', 'o', 't', 'l', 'p'].all fun c => c.isLower && !(['d', 'w', 'm', 'y'].contains c)) = true := by
    decide
  have hc := List.all_eq_true.mp hletters c hc
  rw [Bool.and_eq_true, Bool.not_eq_true', List.contains_eq_mem, decide_eq_false_iff_not] at hc
  rcases hd with hmem | hlower
  · exact hc.2 hmem
  · rw [hc.1] at hlower
    cases hlower

theorem dropOneOf_third (h : l.IsSpan) : dropOneOf ["this ", "last ", "past "] (l.third ++ l.core) = l.core := by
  refine dropOneOf_row h.third (by decide) fun w hw => ?_
  simp only [List.mem_cons, List.not_mem_nil, or_false] at hw
  rcases hw with rfl | rfl | rfl <;> exact h.not_prefix_core (by decide)

theorem dropOneOf_second (h : l.IsSpan) :
    dropOneOf ["the "] (l.second ++ (l.third ++ l.core)) = l.third ++ l.core := by
  refine dropOneOf_row h.second (by decide) fun w hw => ?_
  obtain rfl := List.mem_singleton.mp hw
  have hthird := h.third
  simp only [List.mem_cons, List.not_mem_nil, or_false] at hthird
  rw [List.map_append]
  rcases hthird with hv | hv | hv | hv <;> rw [hv]
  · exact not_prefix_append (by decide) (by decide) _
  · exact not_prefix_append (by decide) (by decide) _
  · exact not_prefix_append (by decide) (by decide) _
  · exact h.not_prefix_core (by decide)

theorem dropOneOf_first (h : l.IsSpan) : dropOneOf ["in ", "over "] l.text = l.second ++ (l.third ++ l.core) := by
  refine dropOneOf_row h.first (by decide) fun w hw => ?_
  have hsecond := h.second
  have hthird := h.third
  simp only [List.mem_cons, List.not_mem_nil, or_false] at hw hsecond hthird
  rw [List.map_append]
  rcases hsecond with hv | hv <;> rw [hv]
  · rcases hw with rfl | rfl <;> exact not_prefix_append (by decide) (by decide) _
  · rw [List.nil_append, List.map_append]
    rcases hthird with hu | hu | hu | hu <;> rw [hu]
    · rcases hw with rfl | rfl <;> exact not_prefix_append (by decide) (by decide) _
    · rcases hw with rfl | rfl <;> exact not_prefix_append (by decide) (by decide) _
    · rcases hw with rfl | rfl <;> exact not_prefix_append (by decide) (by decide) _
    · rcases hw with rfl | rfl <;> exact h.not_prefix_core (by decide)

theorem readUnit?_unit (h : l.IsSpan) : readUnit? (l.unit ++ l.ending) = some l.unit := by
  have hnames : ∀ u ∈ ["day".toList, "week".toList, "month".toList, "year".toList],
      ∃ nd ∈ daysPerUnit, u = nd.1.toList.map fold := by decide
  have hfree : ∀ w ∈ daysPerUnit.map (·.1.toList), ∀ x ∈ daysPerUnit.map (·.1.toList),
      w.map fold <+: x.map fold → w = x := by decide
  obtain ⟨nd, hnd, hunit⟩ := hnames _ h.unit
  have hdrop : dropWord? nd.1.toList (l.unit ++ l.ending) = some l.ending :=
    dropWord?_eq_some_iff.mpr ⟨l.unit, rfl, hunit⟩
  have hending : (∃ c, l.ending = [c] ∧ sameFold 's' c = true) ∨ l.ending = [] := by
    have hs := h.ending
    simp only [List.mem_cons, List.not_mem_nil, or_false, List.map_eq_nil_iff, List.map_eq_singleton_iff] at hs
    rcases hs with ⟨c, hc, hfold⟩ | hs
    · refine Or.inl ⟨c, hc, ?_⟩
      rw [sameFold, hfold]
      decide
    · exact Or.inr hs
  rw [readUnit?]
  refine findSome?_eq_of_unique hnd ?_ fun x hx q hq => ?_
  · dsimp only
    rw [hdrop]
    rcases hending with ⟨c, hc, hsame⟩ | hnil
    · simp [hc, hsame]
    · simp [hnil]
  · cases hx' : dropWord? x.1.toList (l.unit ++ l.ending) with
    | none => simp [hx'] at hq
    | some r =>
        have heq := eq_of_dropWord? (List.mem_map_of_mem hnd) (List.mem_map_of_mem hx) hfree hdrop hx'
        dsimp only at hq
        rw [← heq, hdrop] at hq
        rcases hending with ⟨c, hc, hsame⟩ | hnil
        · simpa [hc, hsame] using hq.symm
        · simpa [hnil] using hq.symm

theorem exists_unit_cons (h : l.IsSpan) : ∃ c rest, l.unit = c :: rest ∧ (fold c).isLower = true := by
  have hunit := h.unit
  simp only [List.mem_cons, List.not_mem_nil, or_false] at hunit
  cases hl : l.unit with
  | nil => rcases hunit with hu | hu | hu | hu <;> rw [hl] at hu <;> cases hu
  | cons c rest =>
      refine ⟨c, rest, rfl, ?_⟩
      rw [hl] at hunit
      rcases hunit with hu | hu | hu | hu <;> rw [(List.cons.inj hu).1] <;> rfl

/-- **The parts of a phrase are found again.** -/
theorem parts?_text (h : l.IsSpan) : parts? l.text = some ⟨l.digits, l.unit⟩ := by
  have hopenings : openings.foldl (fun s words => dropOneOf words s) l.text = l.core := by
    rw [openings, List.foldl_cons, List.foldl_cons, List.foldl_cons, h.dropOneOf_first, h.dropOneOf_second,
      h.dropOneOf_third, List.foldl_nil]
  obtain ⟨c, rest, hc, hlower⟩ := h.exists_unit_cons
  have hafter : (l.gap ++ (l.unit ++ l.ending)).takeWhile isDigit = [] := by
    rcases h.gap with hg | hg <;> rw [hg]
    · rfl
    · simp [hc, isDigit_of_fold hlower rfl]
  have hafter' : (l.gap ++ (l.unit ++ l.ending)).dropWhile isDigit = l.gap ++ (l.unit ++ l.ending) := by
    have hsplit := List.takeWhile_append_dropWhile (p := isDigit) (l := l.gap ++ (l.unit ++ l.ending))
    rwa [hafter] at hsplit
  have htake : l.core.takeWhile isDigit = l.digits := by
    rw [Layout.core, List.takeWhile_append_of_pos h.digits, hafter, List.append_nil]
  have hdrop : l.core.dropWhile isDigit = l.gap ++ (l.unit ++ l.ending) := by
    rw [Layout.core, List.dropWhile_append_of_pos h.digits, hafter']
  rw [parts?]
  simp only [hopenings, htake, hdrop]
  cases hd : l.digits with
  | nil => simp [h.gap_nil hd, h.readUnit?_unit]
  | cons d ds =>
      rcases h.gap with hg | hg
      · simp [hg, h.readUnit?_unit]
      · have hne : c ≠ ' ' := by
          rintro rfl
          revert hlower
          decide
        have hread := h.readUnit?_unit
        rw [hc, List.cons_append] at hread
        rw [hg, hc, List.nil_append, List.cons_append]
        split
        · next heq => exact absurd (List.cons.inj heq).1 hne
        · rw [hread]
          rfl

end Layout.IsSpan

/-! ## Units -/

/-- **A unit has its days in any case**, with the Kelvin sign for a "k" too. -/
theorem unitDays?_of_fold {unit : List Char} {name : String} {days : Nat} (h : (name, days) ∈ daysPerUnit)
    (hunit : unit.map fold = name.toList) :
    lower (String.ofList unit) = name ∧ unitDays? (String.ofList unit) = some days := by
  have hletters : ∀ nd ∈ daysPerUnit, nd.1.toList.all (fun c => c.isLower && c != 's') = true := by decide
  have hall : ∀ c ∈ name.toList, c.isLower = true ∧ c ≠ 's' := by simpa using hletters _ h
  have hlower : lower (String.ofList unit) = name := by
    rw [lower, String.toList_ofList, lowerAfter_of_fold hall hunit, String.ofList_toList]
  have hdays : ∀ nd ∈ daysPerUnit, (daysPerUnit.find? (·.1 == nd.1)).map (·.2) = some nd.2 := by decide
  exact ⟨hlower, by rw [unitDays?, hlower]; exact hdays _ h⟩

/-! ## Values -/

namespace Layout.IsSpan

variable {l : Layout}

theorem exists_unit (h : l.IsSpan) : ∃ nd ∈ daysPerUnit, l.unit.map fold = nd.1.toList := by
  have hnames : ∀ u ∈ ["day".toList, "week".toList, "month".toList, "year".toList],
      ∃ nd ∈ daysPerUnit, u = nd.1.toList := by decide
  exact hnames _ h.unit

/-- **The value of a phrase** is its count, or else one, in units. -/
theorem read_text (h : l.IsSpan) {name : String} {days : Nat} (hmem : (name, days) ∈ daysPerUnit)
    (hunit : l.unit.map fold = name.toList) (label : String) :
    read label l.text =
      if l.digits.isEmpty then ofCount name days 1
      else match countValue? l.digits with
        | some count => ofCount name days count
        | none => .error (.spanTooLong (String.ofList l.digits) name) := by
  obtain ⟨hlower, hdays⟩ := unitDays?_of_fold hmem hunit
  unfold read
  cases hempty : l.digits.isEmpty with
  | true => simp only [h.parts?_text, hdays, hlower, hempty, if_true]
  | false =>
      cases hcount : countValue? l.digits with
      | none => simp only [h.parts?_text, hdays, hlower, hempty, hcount, Bool.false_eq_true, if_false]
      | some count => simp only [h.parts?_text, hdays, hlower, hempty, hcount, Bool.false_eq_true, if_false]

theorem countValue?_eq_some_iff {digits : List Char} {n : Nat} (hne : digits ≠ []) :
    countValue? digits = some n ↔
      (∀ d ∈ digits, d.isDigit = true) ∧ decimalValue digits = n ∧ n ≤ maxDays := by
  have hempty : digits.isEmpty = false := by simpa using hne
  unfold countValue? readDecimal?
  rw [hempty, Bool.false_or]
  by_cases hall : digits.all Char.isDigit = true
  · have hdigits := List.all_eq_true.mp hall
    rw [hall]
    constructor
    · intro h
      simp only [Bool.not_true, Bool.false_eq_true, if_false, Option.bind_some, Option.ite_none_right_eq_some,
        Option.some.injEq] at h
      exact ⟨hdigits, h.2, h.2 ▸ h.1⟩
    · rintro ⟨-, rfl, hle⟩
      simp [hle]
  · rw [Bool.not_eq_true] at hall
    rw [hall]
    constructor
    · intro h
      cases h
    · rintro ⟨hdigits, -⟩
      rw [List.all_eq_true.mpr hdigits] at hall
      cases hall

/-- **The days of a phrase**: it can be read when its count is in ASCII digits and its days fit. -/
theorem read_eq_ok_iff (h : l.IsSpan) {name : String} {days : Nat} (hmem : (name, days) ∈ daysPerUnit)
    (hunit : l.unit.map fold = name.toList) (label : String) {s : TimeSpan} :
    read label l.text = .ok s ↔
      (∀ d ∈ l.digits, d.isDigit = true) ∧ l.count * days ≤ maxDays ∧ s = ⟨l.count, days, l.count * days⟩ := by
  have hof : ∀ count, ofCount name days count = .ok s ↔ count * days ≤ maxDays ∧ s = ⟨count, days, count * days⟩ := by
    intro count
    unfold ofCount
    split
    · next hle => simp [hle, eq_comm]
    · next hlt => simp [hlt]
  have hpos : ∀ nd ∈ daysPerUnit, 1 ≤ nd.2 := by decide
  have hdays := hpos _ hmem
  rw [h.read_text hmem hunit, Layout.count]
  by_cases hne : l.digits = []
  · simp [hne, hof]
  · have hempty : l.digits.isEmpty = false := by simpa using hne
    rw [hempty, if_neg Bool.false_ne_true, if_neg Bool.false_ne_true]
    split
    · next n hn =>
      obtain ⟨hascii, rfl, -⟩ := (countValue?_eq_some_iff hne).mp hn
      rw [hof]
      exact ⟨fun hs => ⟨hascii, hs⟩, fun hs => hs.2⟩
    · next hn =>
      constructor
      · intro hs
        cases hs
      · rintro ⟨hascii, hle, -⟩
        have hcount : decimalValue l.digits ≤ maxDays := Nat.le_trans (Nat.le_mul_of_pos_right _ hdays) hle
        rw [(countValue?_eq_some_iff hne).mpr ⟨hascii, rfl, hcount⟩] at hn
        cases hn

end Layout.IsSpan

end TimeSpan

end PhraseFilter
