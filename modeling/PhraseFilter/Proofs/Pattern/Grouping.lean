import Mathlib.Data.List.Forall2
import PhraseFilter.Proofs.Pattern.Reading

/-!
# Written patterns in groups

* `Pattern.Settles` : a written pattern that can be read by itself and does not end in a comment; `Pattern.Settles.run?`,
  `Pattern.Settles.parse?_between` : it is read in a group as by itself;
* `Pattern.readWhole?_eq`, `Pattern.readWordBounded?_eq` : between the ends of a text, and between word boundaries, **a
  written pattern means what it means by itself**;
* `Pattern.readWordBounded?_groups` : so do several of them in groups, as alternatives.
-/

namespace PhraseFilter.Pattern

open Reader

/-! ## Several parts -/

/-- Written patterns in groups, with bars between them. -/
def groupsText (sources : List (List Char)) : List Char :=
  ['|'].intercalate (sources.map fun s => "(?:".toList ++ s ++ [')'])

theorem groupsText_singleton (s : List Char) : groupsText [s] = "(?:".toList ++ (s ++ [')']) := by
  simp [groupsText]

theorem groupsText_cons_cons (s s' : List Char) (rest : List (List Char)) :
    groupsText (s :: s' :: rest) = "(?:".toList ++ (s ++ [')']) ++ '|' :: groupsText (s' :: rest) := by
  simp [groupsText, List.intercalate_cons_cons]

/-- The group with parts added to it as alternatives, each in a group of its own. -/
def Group.addAll (g : Group) : List Part → Group
  | [] => g
  | [a] => g.add a.grouped
  | a :: b :: rest => (g.add a.grouped).separate.addAll (b :: rest)

section Parts

variable {as : List Part}

theorem toPart_addAll (complete : List Part) (hne : as ≠ []) :
    (Group.addAll { complete } as).toPart = .joined altAll (complete.reverse ++ as.map (·.grouped)) := by
  have hsingle : ∀ p : Part, Part.joined seqAll [p.grouped] = p.grouped := by
    intro p
    simp [Part.joined, Part.grouped, seqAll]
  induction as generalizing complete with
  | nil => exact absurd rfl hne
  | cons a as ih =>
      cases as with
      | nil => simp [Group.addAll, Group.add, Group.toPart, hsingle]
      | cons b rest =>
          have hsep : (Group.add { complete } a.grouped).separate = { complete := a.grouped :: complete } := by
            simp [Group.separate, Group.add, hsingle]
          rw [Group.addAll, hsep, ih _ (List.cons_ne_nil _ _)]
          simp

end Parts

/-! ## A group around a pattern -/

variable [Engine]

/-- The written pattern can be read by itself, as the part `a`, and its end does not stand in a comment. -/
def Settles (s : List Char) (a : Part) : Prop :=
  ∃ r r' g, run? {} s = some r ∧ r.settle? = some r' ∧ r'.groups = [g] ∧ g.toPart = a

section Settles

variable {s front back : List Char} {a b e : Part} {q : Reader} {names : List (List Char)} {next : Group}
  {outer : List Group}

theorem Settles.parse?_eq (h : Settles s a) : parse? s = some a := by
  obtain ⟨r, r', g, hr, hsettle, hg, rfl⟩ := h
  rw [parse?, hr, Option.bind_some, finish?_of_settle? hsettle hg]

theorem settles_of_parse? (h : parse? s = some a) (hback : '\n' ∉ back)
    (hall : ((within names (next :: outer) {}).run? (s ++ back)).bind finish? = some b) : Settles s a := by
  obtain ⟨r, hr, hfinish⟩ := Option.bind_eq_some_iff.mp h
  obtain ⟨r', hr', hone⟩ := Option.bind_eq_some_iff.mp hfinish
  obtain ⟨ts, hts, hr'⟩ := Option.bind_eq_some_iff.mp hr'
  obtain ⟨g, hg⟩ : ∃ g, r'.groups = [g] := by
    split at hone
    · next g hg => exact ⟨g, hg⟩
    · cases hone
  simp only [hg, Option.some.injEq] at hone
  rcases Mode.settled?_of_finish? hts with hsettled | ⟨before, hcomment⟩
  · exact ⟨r, r', g, hr, by rw [settle?, hsettled, Option.bind_some, hr'], hg, hone⟩
  · -- The rest is in the comment, too, and the group is still open at its end.
    have hne : r.groups ≠ [] := groups_of_run? (List.cons_ne_nil _ _) hr
    rw [run?_append] at hall
    obtain ⟨q', hq', hend⟩ := Option.bind_eq_some_iff.mp hall
    obtain ⟨q, hq, hq'⟩ := Option.bind_eq_some_iff.mp hq'
    obtain rfl := eq_of_run?_within (List.cons_ne_nil _ _) hr hq
    have hstay : run? (r.within names (next :: outer)) back = some (r.within names (next :: outer)) :=
      run?_comment hcomment hback
    obtain rfl := Option.some.inj (hstay.symm.trans hq')
    rw [finish?_within hne] at hend
    cases hend

/-- A group with a written pattern in it adds what the pattern means by itself. -/
theorem Settles.run? (h : Settles s a) (next : Group) (outer : List Group) : ∃ names,
    (within [] (next :: outer) {}).run? (s ++ [')']) = some ⟨.between, names, next.add a.grouped :: outer⟩ := by
  obtain ⟨r, r', g, hr, hsettle, hg, rfl⟩ := h
  obtain ⟨ts, hts, hr'⟩ := Option.bind_eq_some_iff.mp hsettle
  refine ⟨r'.names, ?_⟩
  rw [run?_append, run?_within (List.cons_ne_nil _ _) hr, Option.bind_some, run?_cons,
    step?_closing (r := r.within [] (next :: outer)) hts, takeAll?_within hr']
  simp [within, hg, take?_closing]

theorem Settles.eq_of_run? (h : Settles s a) (hq : (within names (next :: outer) {}).run? (s ++ [')']) = some q) :
    ∃ names', q = ⟨.between, names', next.add a.grouped :: outer⟩ := by
  obtain ⟨r, r', g, hr, hsettle, hg, rfl⟩ := h
  rw [run?_append] at hq
  obtain ⟨q', hq', hclose⟩ := Option.bind_eq_some_iff.mp hq
  obtain rfl := eq_of_run?_within (List.cons_ne_nil _ _) hr hq'
  rw [run?_cons] at hclose
  obtain ⟨q'', hstep, hq⟩ := Option.bind_eq_some_iff.mp hclose
  cases hq
  rcases step?_of_within (groups_of_run? (List.cons_ne_nil _ _) hr) hstep with ⟨r₁, h₁, -⟩ | ⟨-, r₁, g₁, h₁, hg₁, rfl⟩
  · rw [step?_closing_eq_none hsettle hg] at h₁
    cases h₁
  · obtain rfl := Option.some.inj (h₁.symm.trans hsettle)
    obtain rfl := List.singleton_inj.mp (hg₁.symm.trans hg)
    exact ⟨_, rfl⟩

theorem Settles.parse?_between (h : Settles s a) (hfront : Reader.run? {} front = some (within [] [({} : Group).add b] {}))
    (hback : ∀ names parts, (Reader.run? ⟨.between, names, [{ parts }]⟩ back).bind finish? =
      some (Group.add { parts } e).toPart) :
    parse? (front ++ s ++ ')' :: back) = some ((({} : Group).add b).add a.grouped |>.add e).toPart := by
  obtain ⟨names, hs⟩ := h.run? (({} : Group).add b) []
  have hsplit : front ++ s ++ ')' :: back = front ++ ((s ++ [')']) ++ back) := by simp
  rw [parse?, hsplit, run?_append, hfront, Option.bind_some, run?_append, hs, Option.bind_some]
  exact hback names _

theorem Settles.parse?_whole (h : Settles s a) : parse? ("^(?:".toList ++ s ++ ")$".toList) =
    some { pattern := a.pattern.whole, depth := a.depth + 2 } := by
  refine (h.parse?_between (b := { pattern := .place .start }) (e := { pattern := .place .finish }) rfl
    fun names parts => rfl).trans ?_
  simp [Group.add, Group.toPart, Part.joined, Part.grouped, seqAll, altAll, whole]

theorem Settles.parse?_bounded (h : Settles s a) : parse? ("\\b(?:".toList ++ s ++ ")\\b".toList) =
    some { pattern := a.pattern.bounded, depth := a.depth + 2 } := by
  refine (h.parse?_between (b := { pattern := boundary }) (e := { pattern := boundary }) rfl
    fun names parts => rfl).trans ?_
  simp [Group.add, Group.toPart, Part.joined, Part.grouped, seqAll, altAll, bounded]

end Settles

/-! ## One pattern -/

section Single

variable {s : List Char} {p q w : Pattern} {a : Part}

theorem read?_eq_some_iff : read? s = some p ↔ ∃ a, parse? s = some a ∧ a.depth ≤ nestLimit ∧ a.pattern = p := by
  rw [read?, Option.bind_eq_some_iff]
  refine exists_congr fun a => and_congr_right fun _ => ?_
  rw [Option.ite_none_right_eq_some, Option.some.injEq]

theorem compile?_eq_some_iff : compile? s = some p ↔ read? s = some p ∧ Engine.fits p = true := by
  rw [compile?, Option.filter_eq_some_iff]

theorem settles_of_readWhole? (h : parse? s = some a) (hw : readWhole? s = some w) : Settles s a := by
  obtain ⟨b, hb, -⟩ := read?_eq_some_iff.mp (compile?_eq_some_iff.mp hw).1
  rw [List.append_assoc, parse?, run?_append] at hb
  have hwithin : ((within [] [({} : Group).add { pattern := .place .start }] {}).run? (s ++ ")$".toList)).bind finish? =
      some b := hb
  exact settles_of_parse? h (by decide) hwithin

theorem settles_of_readWordBounded? (h : parse? s = some a) (hq : readWordBounded? s = some q) : Settles s a := by
  obtain ⟨b, hb, -⟩ := read?_eq_some_iff.mp (compile?_eq_some_iff.mp hq).1
  rw [List.append_assoc, parse?, run?_append] at hb
  have hwithin : ((within [] [({} : Group).add { pattern := boundary }] {}).run? (s ++ ")\\b".toList)).bind finish? =
      some b := hb
  exact settles_of_parse? h (by decide) hwithin

theorem Settles.readWhole?_eq_some_iff (h : Settles s a) :
    readWhole? s = some w ↔ a.depth + 2 ≤ nestLimit ∧ Engine.fits a.pattern.whole = true ∧ w = a.pattern.whole := by
  rw [readWhole?, compile?_eq_some_iff, read?_eq_some_iff, h.parse?_whole]
  constructor
  · rintro ⟨⟨b, hb, hdepth, rfl⟩, hfits⟩
    cases hb
    exact ⟨hdepth, hfits, rfl⟩
  · rintro ⟨hdepth, hfits, rfl⟩
    exact ⟨⟨_, rfl, hdepth, rfl⟩, hfits⟩

theorem Settles.readWordBounded?_eq_some_iff (h : Settles s a) :
    readWordBounded? s = some q ↔ a.depth + 2 ≤ nestLimit ∧ Engine.fits a.pattern.bounded = true ∧ q = a.pattern.bounded := by
  rw [readWordBounded?, compile?_eq_some_iff, read?_eq_some_iff, h.parse?_bounded]
  constructor
  · rintro ⟨⟨b, hb, hdepth, rfl⟩, hfits⟩
    cases hb
    exact ⟨hdepth, hfits, rfl⟩
  · rintro ⟨hdepth, hfits, rfl⟩
    exact ⟨⟨_, rfl, hdepth, rfl⟩, hfits⟩

theorem readWhole?_eq (hp : read? s = some p) (hw : readWhole? s = some w) : w = p.whole := by
  obtain ⟨a, ha, -, rfl⟩ := read?_eq_some_iff.mp hp
  exact ((settles_of_readWhole? ha hw).readWhole?_eq_some_iff.mp hw).2.2

theorem readWordBounded?_eq (hp : read? s = some p) (hq : readWordBounded? s = some q) : q = p.bounded := by
  obtain ⟨a, ha, -, rfl⟩ := read?_eq_some_iff.mp hp
  exact ((settles_of_readWordBounded? ha hq).readWordBounded?_eq_some_iff.mp hq).2.2

end Single

/-! ## Several patterns -/

section Several

variable {sources : List (List Char)} {as : List Part} {ps : List Pattern} {p scan : Pattern} {q : Reader}
  {names : List (List Char)} {g next : Group} {outer : List Group}

theorem step?_bar : step? ⟨.between, names, g :: outer⟩ '|' = some ⟨.between, names, g.separate :: outer⟩ := by
  simp [step?, Mode.next, Mode.resume, Text.isBlank, Mode.start, take?]

theorem step?_close :
    step? ⟨.between, names, g :: next :: outer⟩ ')' = some ⟨.between, names, next.add g.toPart.grouped :: outer⟩ := by
  have hsettled : (⟨.between, names, g :: next :: outer⟩ : Reader).mode.settled? = some [] := rfl
  rw [step?_closing hsettled, takeAll?_nil, Option.bind_some, take?_closing, Option.map_some]

/-- Groups with patterns in them add what these mean by themselves. -/
theorem run?_groups (h : List.Forall₂ Settles sources as) (hne : sources ≠ []) (hg : g.flags = {})
    (hq : Reader.run? ⟨.between, names, g :: outer⟩ (groupsText sources) = some q) :
    ∃ names', q = ⟨.between, names', g.addAll as :: outer⟩ := by
  induction h generalizing names g with
  | nil => exact absurd rfl hne
  | @cons s a sources as hs hrest ih =>
      have hopen : Reader.run? ⟨.between, names, g :: outer⟩ "(?:".toList = some (within names (g :: outer) {}) := by
        obtain ⟨flags, complete, parts⟩ := g
        subst hg
        rfl
      cases hrest with
      | nil =>
          rw [groupsText_singleton, run?_append, hopen, Option.bind_some] at hq
          exact hs.eq_of_run? hq
      | @cons s' a' sources as hs' hrest =>
          rw [groupsText_cons_cons, List.append_assoc, run?_append, hopen, Option.bind_some, run?_append] at hq
          obtain ⟨q', hq', hq⟩ := Option.bind_eq_some_iff.mp hq
          obtain ⟨names', rfl⟩ := hs.eq_of_run? hq'
          rw [run?_cons, step?_bar, Option.bind_some] at hq
          exact ih (List.cons_ne_nil _ _) (by exact hg) hq

/-- A text between word boundaries is read in a group. -/
theorem exists_run?_of_bounded {t : List Char} {b : Part} (h : parse? ("\\b(?:".toList ++ t ++ ")\\b".toList) = some b) :
    ∃ q, Reader.run? ⟨.between, [], [{}, ({} : Group).add { pattern := boundary }]⟩ t = some q := by
  have hfront : Reader.run? {} "\\b(?:".toList =
      some ⟨.between, [], [{}, ({} : Group).add { pattern := boundary }]⟩ := rfl
  rw [parse?, run?_append, run?_append, hfront, Option.bind_some] at h
  obtain ⟨q', hq', -⟩ := Option.bind_eq_some_iff.mp h
  obtain ⟨q, hq, -⟩ := Option.bind_eq_some_iff.mp hq'
  exact ⟨q, hq⟩

theorem parse?_of_run? {t : List Char}
    (h : Reader.run? ⟨.between, [], [{}, ({} : Group).add { pattern := boundary }]⟩ t =
      some ⟨.between, names, [g, ({} : Group).add { pattern := boundary }]⟩) :
    parse? ("\\b(?:".toList ++ t ++ ")\\b".toList) =
      some { pattern := g.toPart.pattern.bounded, depth := g.toPart.depth + 2 } := by
  have hfront : Reader.run? {} "\\b(?:".toList =
      some ⟨.between, [], [{}, ({} : Group).add { pattern := boundary }]⟩ := rfl
  have hback : (Reader.run? ⟨.between, names, [g, ({} : Group).add { pattern := boundary }]⟩ ")\\b".toList).bind finish? =
      some (({} : Group).add { pattern := boundary } |>.add g.toPart.grouped |>.add { pattern := boundary }).toPart := by
    change ((step? _ ')').bind (Reader.run? · "\\b".toList)).bind finish? = _
    rw [step?_close]
    rfl
  rw [parse?, run?_append, run?_append, hfront, Option.bind_some, h, Option.bind_some, hback]
  simp [Group.add, Group.toPart, Part.joined, Part.grouped, seqAll, altAll, bounded]

/-- Patterns in groups, as alternatives between word boundaries, mean what they mean by themselves. -/
theorem parse?_groups (h : List.Forall₂ Settles sources as) (hne : sources ≠ []) {b : Part}
    (hb : parse? ("\\b(?:".toList ++ groupsText sources ++ ")\\b".toList) = some b) :
    b = { pattern := (altAll (as.map (·.pattern))).bounded
          depth := (Part.joined altAll (as.map (·.grouped))).depth + 2 } := by
  obtain ⟨q, hq⟩ := exists_run?_of_bounded hb
  obtain ⟨names, rfl⟩ := run?_groups h hne rfl hq
  have hparts : as ≠ [] := by
    rintro rfl
    exact hne (List.forall₂_nil_right_iff.mp h)
  have hgroup : (({} : Group).addAll as).toPart = .joined altAll (as.map (·.grouped)) := toPart_addAll [] hparts
  obtain rfl := Option.some.inj (hb.symm.trans (parse?_of_run? hq))
  rw [hgroup]
  simp [Part.joined, Part.grouped, Function.comp_def]

theorem exists_parts (h : List.Forall₂ (fun s p => read? s = some p) sources ps)
    (hwhole : ∀ s ∈ sources, (readWhole? s).isSome = true) :
    ∃ as, List.Forall₂ Settles sources as ∧ ps = as.map (·.pattern) := by
  induction h with
  | nil => exact ⟨[], .nil, rfl⟩
  | @cons s p sources ps hp _ ih =>
      obtain ⟨w, hw⟩ := Option.isSome_iff_exists.mp (hwhole s List.mem_cons_self)
      obtain ⟨a, ha, -, rfl⟩ := read?_eq_some_iff.mp hp
      obtain ⟨as, has, rfl⟩ := ih fun u hu => hwhole u (List.mem_cons_of_mem _ hu)
      exact ⟨a :: as, .cons (settles_of_readWhole? ha hw) has, rfl⟩

/-- **Patterns in groups, as alternatives between word boundaries, mean what they mean by themselves**, if each of them
and the whole can be read. -/
theorem readWordBounded?_groups (h : List.Forall₂ (fun s p => read? s = some p) sources ps)
    (hwhole : ∀ s ∈ sources, (readWhole? s).isSome = true) (hne : sources ≠ [])
    (hscan : readWordBounded? (groupsText sources) = some scan) : scan = (altAll ps).bounded := by
  obtain ⟨as, has, rfl⟩ := exists_parts h hwhole
  obtain ⟨b, hb, -, rfl⟩ := read?_eq_some_iff.mp (compile?_eq_some_iff.mp hscan).1
  rw [parse?_groups has hne hb]

end Several

end PhraseFilter.Pattern
