import PhraseFilter.Pattern.Reader
import PhraseFilter.Proofs.Pattern.Language

/-!
# Reading a written pattern within a group

* `Pattern.Mode.exists_of_closing` : the only character that closes a group is a `)` where nothing is in progress;
* `Pattern.Reader.within` : a reader with more groups open around those that it has;
* `Pattern.Reader.step?_of_within`, `Pattern.Reader.run?_of_within` : **what is read within a group is read as by itself
  up to a `)` that closes the group**;
* `Pattern.Reader.finish?_within` : no pattern ends before all groups are closed.
-/

namespace PhraseFilter.Pattern

open Text

/-! ## Tokens that close a group -/

namespace Mode

variable {m : Mode} {ts : List Token} {verbose : Bool} {c : Char}

theorem closing_not_mem_settled (h : m.settled? = some ts) : Token.closing ∉ ts := by
  cases m <;> cases h <;> simp

theorem resume_closing (verbose : Bool) (m : Mode) (ts : List Token) :
    m.resume verbose ts ')' = (.between, ts ++ [.closing]) := by
  simp [resume, isBlank, start]

theorem next_closing (verbose : Bool) (h : m.settled? = some ts) :
    m.next verbose ')' = (.between, ts ++ [.closing]) := by
  cases m <;> cases h <;> exact resume_closing verbose _ _

theorem eq_of_closing_mem_start (h : Token.closing ∈ (start c).2) : c = ')' := by
  unfold start at h
  split at h <;> simp_all

theorem eq_of_closing_mem_resume (hts : Token.closing ∉ ts) (h : Token.closing ∈ (m.resume verbose ts c).2) : c = ')' := by
  unfold resume at h
  split at h
  · split at h
    · cases h
    · exact absurd h hts
  · split at h
    · split at h
      · cases h
      · exact absurd h hts
    · exact eq_of_closing_mem_start ((List.mem_append.mp h).resolve_left hts)

theorem closing_not_mem_ofEscape (s : Symbol) : Token.closing ∉ (ofEscape s).2 := by
  unfold ofEscape
  split <;> simp

theorem closing_not_mem_ofBraces {atEdge : Bool} {content : List Char} {r : Mode × List Token}
    (h : ofBraces? atEdge content = some r) : Token.closing ∉ r.2 := by
  unfold ofBraces? at h
  split at h
  · cases h
    simp
  · cases h
    cases atEdge <;> simp
  · cases h

theorem closing_ne_readGroup {written : List Char} {t : Token} (h : readGroup? written c = some t) : t ≠ .closing := by
  rintro rfl
  unfold readGroup? at h
  split at h
  · split at h <;> cases h
  · split at h <;> cases h
  · split at h <;> cases h
  · split at h <;> cases h
  · cases h

theorem exists_of_closing (h : Token.closing ∈ (m.next verbose c).2) : c = ')' ∧ ∃ ts, m.settled? = some ts := by
  unfold next at h
  split at h
  · exact ⟨eq_of_closing_mem_resume List.not_mem_nil h, _, rfl⟩
  · split at h
    · cases h
    · exact ⟨eq_of_closing_mem_resume (by simp) h, _, rfl⟩
  · split at h
    · cases h
    · exact ⟨eq_of_closing_mem_resume (by simp) h, _, rfl⟩
  · split at h
    · simp at h
    · exact ⟨eq_of_closing_mem_resume (by simp) h, _, rfl⟩
  · split at h
    · next t ht => exact absurd (List.mem_singleton.mp h).symm (closing_ne_readGroup ht)
    · cases h
  · split at h
    · exact absurd h (closing_not_mem_ofEscape _)
    · cases h
  · split at h
    · simp at h
    · cases h
  · split at h
    · next done hdone =>
      obtain ⟨p, -, hp⟩ := Option.bind_eq_some_iff.mp hdone
      split at hp
      · exact absurd h (closing_not_mem_ofBraces hp)
      · cases hp
    · cases h
  · cases h

/-- Where the pattern may end something is in progress only in a comment. -/
theorem settled?_of_finish? (h : m.finish? = some ts) : m.settled? = some ts ∨ ∃ back, m = .comment back := by
  cases m with
  | comment back => exact Or.inr ⟨back, rfl⟩
  | _ => exact Or.inl h

theorem finish?_of_settled? (h : m.settled? = some ts) : m.finish? = some ts := by
  cases m <;> first | exact h | cases h

theorem closing_not_mem_finish (h : m.finish? = some ts) : Token.closing ∉ ts := by
  induction m with
  | comment back ih => exact ih h
  | _ => exact closing_not_mem_settled h

end Mode

/-! ## Groups around a reader -/

namespace Reader

/-- The reader with more names used and more groups open around its own. -/
def within (names : List (List Char)) (outer : List Group) (r : Reader) : Reader :=
  { r with names := r.names ++ names, groups := r.groups ++ outer }

section Within

variable {r : Reader} {names : List (List Char)} {outer : List Group}

theorem isVerbose_within (hr : r.groups ≠ []) : (r.within names outer).isVerbose = r.isVerbose := by
  obtain ⟨g, gs, hgs⟩ := List.exists_cons_of_ne_nil hr
  simp [isVerbose, within, hgs]

end Within

variable [Engine]

/-- The reader when the token in progress is complete. -/
def settle? (r : Reader) : Option Reader := r.mode.settled?.bind r.takeAll?

section Steps

variable {r r' q : Reader} {t : Token} {ts : List Token} {c : Char} {s u : List Char} {names : List (List Char)}
  {outer : List Group} {next g : Group}

@[simp] theorem takeAll?_nil (r : Reader) : r.takeAll? [] = some r := rfl

@[simp] theorem takeAll?_cons (r : Reader) (t : Token) (ts : List Token) :
    r.takeAll? (t :: ts) = (r.take? t).bind (takeAll? · ts) := rfl

theorem takeAll?_append (r : Reader) (ts us : List Token) :
    r.takeAll? (ts ++ us) = (r.takeAll? ts).bind (takeAll? · us) := by
  induction ts generalizing r with
  | nil => rfl
  | cons t ts ih =>
      rw [List.cons_append, takeAll?_cons, takeAll?_cons]
      cases r.take? t with
      | none => rfl
      | some r => exact ih r

@[simp] theorem run?_nil (r : Reader) : r.run? [] = some r := rfl

@[simp] theorem run?_cons (r : Reader) (c : Char) (s : List Char) : r.run? (c :: s) = (r.step? c).bind (run? · s) := rfl

theorem run?_append (r : Reader) (s u : List Char) : r.run? (s ++ u) = (r.run? s).bind (run? · u) := by
  induction s generalizing r with
  | nil => rfl
  | cons c s ih =>
      rw [List.cons_append, run?_cons, run?_cons]
      cases r.step? c with
      | none => rfl
      | some r => exact ih r

/-! ### One token -/

section Tokens

variable (mode : Mode) (names : List (List Char)) (g next : Group) (outer : List Group)

theorem take?_opening (name : Option (List Char)) (change : List Char) :
    take? ⟨mode, names, g :: outer⟩ (.opening name change) =
      if name.any names.contains then none
      else some ⟨mode, name.toList ++ names, { flags := g.flags.change change } :: g :: outer⟩ := rfl

theorem take?_closing :
    take? ⟨mode, names, g :: next :: outer⟩ .closing = some ⟨mode, names, next.add g.toPart.grouped :: outer⟩ := rfl

theorem take?_repeating (least : Nat) (most : Option Nat) (greedy : Bool) :
    take? ⟨mode, names, g :: outer⟩ (.repeating least most greedy) =
      (g.repeat? least most greedy).map fun g => ⟨mode, names, g :: outer⟩ := rfl

theorem take?_atom (a : Atom) :
    take? ⟨mode, names, g :: outer⟩ (.atom a) = (a.toPart? g.flags).map fun p => ⟨mode, names, g.add p :: outer⟩ := rfl

end Tokens

theorem mode_of_take? (h : r.take? t = some r') : r'.mode = r.mode ∧ r'.groups ≠ [] := by
  unfold take? at h
  split at h
  · split at h <;> cases h
    exact ⟨rfl, List.cons_ne_nil _ _⟩
  · cases h
    exact ⟨rfl, List.cons_ne_nil _ _⟩
  · cases h
    exact ⟨rfl, List.cons_ne_nil _ _⟩
  · obtain ⟨g, -, rfl⟩ := Option.map_eq_some_iff.mp h
    exact ⟨rfl, List.cons_ne_nil _ _⟩
  · cases h
    exact ⟨rfl, List.cons_ne_nil _ _⟩
  · obtain ⟨p, -, rfl⟩ := Option.map_eq_some_iff.mp h
    exact ⟨rfl, List.cons_ne_nil _ _⟩
  · cases h
  · cases h

/-- What is taken within a group is taken as by itself, unless it closes the group. -/
theorem take?_of_within (hr : r.groups ≠ []) (h : (r.within names (next :: outer)).take? t = some q) :
    (∃ r', r.take? t = some r' ∧ q = r'.within names (next :: outer)) ∨
    (t = .closing ∧ ∃ g, r.groups = [g] ∧
      q = ⟨r.mode, r.names ++ names, next.add g.toPart.grouped :: outer⟩) := by
  obtain ⟨mode, used, groups⟩ := r
  obtain ⟨g, gs, rfl⟩ := List.exists_cons_of_ne_nil hr
  simp only [within, List.cons_append] at h ⊢
  cases t with
  | opening name change =>
      rw [take?_opening] at h
      split at h
      · cases h
      · next hname =>
        cases h
        have hnew : name.any used.contains = false := by
          cases name <;> simp_all
        exact Or.inl ⟨_, by rw [take?_opening, hnew, if_neg Bool.false_ne_true], by simp⟩
  | closing =>
      cases gs with
      | nil =>
          cases h
          exact Or.inr ⟨rfl, g, rfl, rfl⟩
      | cons g' gs =>
          cases h
          exact Or.inl ⟨_, rfl, rfl⟩
  | bar =>
      cases h
      exact Or.inl ⟨_, rfl, rfl⟩
  | repeating least most greedy =>
      rw [take?_repeating] at h
      obtain ⟨g', hg', rfl⟩ := Option.map_eq_some_iff.mp h
      exact Or.inl ⟨_, by rw [take?_repeating, hg', Option.map_some], rfl⟩
  | flags change =>
      cases h
      exact Or.inl ⟨_, rfl, rfl⟩
  | atom a =>
      rw [take?_atom] at h
      obtain ⟨p, hp, rfl⟩ := Option.map_eq_some_iff.mp h
      exact Or.inl ⟨_, by rw [take?_atom, hp, Option.map_some], rfl⟩

theorem take?_within (h : r.take? t = some r') : (r.within [] outer).take? t = some (r'.within [] outer) := by
  obtain ⟨mode, used, groups⟩ := r
  cases groups with
  | nil => cases t <;> cases h
  | cons g gs =>
      cases t with
      | opening name change =>
          rw [take?_opening] at h
          split at h
          · cases h
          · next hname =>
            cases h
            simpa [within, take?_opening] using hname
      | closing =>
          cases gs with
          | nil => cases h
          | cons g' gs =>
              cases h
              rfl
      | bar =>
          cases h
          rfl
      | repeating least most greedy =>
          rw [take?_repeating] at h
          obtain ⟨g', hg', rfl⟩ := Option.map_eq_some_iff.mp h
          simp [within, take?_repeating, hg']
      | flags change =>
          cases h
          rfl
      | atom a =>
          rw [take?_atom] at h
          obtain ⟨p, hp, rfl⟩ := Option.map_eq_some_iff.mp h
          simp [within, take?_atom, hp]

theorem groups_of_takeAll? (hr : r.groups ≠ []) (h : r.takeAll? ts = some r') : r'.groups ≠ [] := by
  induction ts generalizing r with
  | nil =>
      cases h
      exact hr
  | cons t ts ih =>
      obtain ⟨r₁, h₁, h⟩ := Option.bind_eq_some_iff.mp h
      exact ih (mode_of_take? h₁).2 h

/-! ### Tokens that close no group -/

theorem takeAll?_of_within (hr : r.groups ≠ []) (hts : Token.closing ∉ ts)
    (h : (r.within names (next :: outer)).takeAll? ts = some q) :
    ∃ r', r.takeAll? ts = some r' ∧ r'.groups ≠ [] ∧ r'.mode = r.mode ∧ q = r'.within names (next :: outer) := by
  induction ts generalizing r with
  | nil =>
      cases h
      exact ⟨r, rfl, hr, rfl, rfl⟩
  | cons t ts ih =>
      obtain ⟨q', hq', hq⟩ := Option.bind_eq_some_iff.mp h
      rcases take?_of_within hr hq' with ⟨r', hr', rfl⟩ | ⟨rfl, -⟩
      · obtain ⟨hmode, hne⟩ := mode_of_take? hr'
        obtain ⟨r'', hall, hne', hmode', rfl⟩ := ih hne (fun hc => hts (List.mem_cons_of_mem t hc)) hq
        exact ⟨r'', by rw [takeAll?_cons, hr', Option.bind_some, hall], hne', hmode'.trans hmode, rfl⟩
      · exact absurd List.mem_cons_self hts

theorem takeAll?_within (h : r.takeAll? ts = some r') : (r.within [] outer).takeAll? ts = some (r'.within [] outer) := by
  induction ts generalizing r with
  | nil =>
      cases h
      rfl
  | cons t ts ih =>
      obtain ⟨r₁, h₁, h⟩ := Option.bind_eq_some_iff.mp h
      rw [takeAll?_cons, take?_within h₁]
      exact ih h

/-! ### One character -/

theorem step?_eq (r : Reader) (c : Char) :
    r.step? c = (r.takeAll? (r.mode.next r.isVerbose c).2).map fun r' =>
      { r' with mode := (r.mode.next r.isVerbose c).1 } := rfl

theorem groups_of_step? (hr : r.groups ≠ []) (h : r.step? c = some r') : r'.groups ≠ [] := by
  rw [step?_eq] at h
  obtain ⟨r₁, h₁, rfl⟩ := Option.map_eq_some_iff.mp h
  have := groups_of_takeAll? hr h₁
  exact this

/-- A `)` where nothing is in progress completes the tokens before it and closes a group. -/
theorem step?_closing (h : r.mode.settled? = some ts) :
    r.step? ')' = ((r.takeAll? ts).bind (take? · .closing)).map fun r' => { r' with mode := .between } := by
  rw [step?_eq, Mode.next_closing _ h, takeAll?_append]
  cases r.takeAll? ts with
  | none => rfl
  | some r => cases hc : r.take? .closing <;> simp [hc]

theorem step?_closing_eq_none (h : r.settle? = some r') (hg : r'.groups = [g]) : r.step? ')' = none := by
  obtain ⟨ts, hts, hr'⟩ := Option.bind_eq_some_iff.mp h
  rw [step?_closing hts, hr']
  simp [take?, hg]

/-- **One more character within a group** does what it does to the reader by itself, unless it closes the group. -/
theorem step?_of_within (hr : r.groups ≠ []) (h : (r.within names (next :: outer)).step? c = some q) :
    (∃ r', r.step? c = some r' ∧ q = r'.within names (next :: outer)) ∨
    (c = ')' ∧ ∃ r' g, r.settle? = some r' ∧ r'.groups = [g] ∧
      q = ⟨.between, r'.names ++ names, next.add g.toPart.grouped :: outer⟩) := by
  by_cases hc : Token.closing ∈ (r.mode.next r.isVerbose c).2
  · obtain ⟨rfl, ts, hts⟩ := Mode.exists_of_closing hc
    rw [step?_closing (r := r.within names (next :: outer)) hts] at h
    obtain ⟨q', hq', rfl⟩ := Option.map_eq_some_iff.mp h
    obtain ⟨q'', hq'', hclose⟩ := Option.bind_eq_some_iff.mp hq'
    obtain ⟨r₁, h₁, hne, -, rfl⟩ := takeAll?_of_within hr (Mode.closing_not_mem_settled hts) hq''
    rcases take?_of_within hne hclose with ⟨r', hr', rfl⟩ | ⟨-, g, hg, rfl⟩
    · refine Or.inl ⟨{ r' with mode := .between }, ?_, rfl⟩
      rw [step?_closing hts, h₁, Option.bind_some, hr', Option.map_some]
    · refine Or.inr ⟨rfl, r₁, g, ?_, hg, rfl⟩
      rw [settle?, hts, Option.bind_some, h₁]
  · rw [step?_eq, isVerbose_within hr] at h
    obtain ⟨q', hq', rfl⟩ := Option.map_eq_some_iff.mp h
    obtain ⟨r', hr', -, -, rfl⟩ := takeAll?_of_within hr hc hq'
    exact Or.inl ⟨{ r' with mode := (r.mode.next r.isVerbose c).1 }, by rw [step?_eq, hr', Option.map_some], rfl⟩

theorem step?_within (hr : r.groups ≠ []) (h : r.step? c = some r') :
    (r.within [] outer).step? c = some (r'.within [] outer) := by
  rw [step?_eq] at h
  obtain ⟨r₁, h₁, rfl⟩ := Option.map_eq_some_iff.mp h
  rw [step?_eq, isVerbose_within hr]
  change ((r.within [] outer).takeAll? (r.mode.next r.isVerbose c).2).map _ = _
  rw [takeAll?_within h₁]
  rfl

/-! ### Many characters -/

theorem groups_of_run? (hr : r.groups ≠ []) (h : r.run? s = some r') : r'.groups ≠ [] := by
  induction s generalizing r with
  | nil =>
      cases h
      exact hr
  | cons c s ih =>
      obtain ⟨r₁, h₁, h⟩ := Option.bind_eq_some_iff.mp h
      exact ih (groups_of_step? hr h₁) h

/-- **What is read within a group is read as by itself**, or up to the first `)` that closes the group. -/
theorem run?_of_within (hr : r.groups ≠ []) (h : (r.within names (next :: outer)).run? s = some q) :
    (∃ r', r.run? s = some r' ∧ q = r'.within names (next :: outer)) ∨
    ∃ pre post r' g, s = pre ++ ')' :: post ∧ (r.run? pre).bind settle? = some r' ∧ r'.groups = [g] ∧
      run? ⟨.between, r'.names ++ names, next.add g.toPart.grouped :: outer⟩ post = some q := by
  induction s generalizing r with
  | nil =>
      cases h
      exact Or.inl ⟨r, rfl, rfl⟩
  | cons c s ih =>
      obtain ⟨q', hq', hq⟩ := Option.bind_eq_some_iff.mp h
      rcases step?_of_within hr hq' with ⟨r₁, h₁, rfl⟩ | ⟨rfl, r', g, hr', hg, rfl⟩
      · rcases ih (groups_of_step? hr h₁) hq with ⟨r', hr', rfl⟩ | ⟨pre, post, r', g, rfl, hr', hg, hpost⟩
        · exact Or.inl ⟨r', by rw [run?_cons, h₁, Option.bind_some, hr'], rfl⟩
        · exact Or.inr ⟨c :: pre, post, r', g, rfl, by rw [run?_cons, h₁]; exact hr', hg, hpost⟩
      · exact Or.inr ⟨[], s, r', g, rfl, hr', hg, hq⟩

theorem run?_within (hr : r.groups ≠ []) (h : r.run? s = some r') :
    (r.within [] outer).run? s = some (r'.within [] outer) := by
  induction s generalizing r with
  | nil =>
      cases h
      rfl
  | cons c s ih =>
      obtain ⟨r₁, h₁, h⟩ := Option.bind_eq_some_iff.mp h
      rw [run?_cons, step?_within hr h₁]
      exact ih (groups_of_step? hr h₁) h

/-- What can be read by itself is read within a group in the same way. -/
theorem eq_of_run?_within (hr : r.groups ≠ []) (hs : r.run? s = some r')
    (h : (r.within names (next :: outer)).run? s = some q) : q = r'.within names (next :: outer) := by
  rcases run?_of_within hr h with ⟨r₁, h₁, rfl⟩ | ⟨pre, post, r₁, g, rfl, h₁, hg, -⟩
  · rw [Option.some.inj (h₁.symm.trans hs)]
  · obtain ⟨r₂, h₂, hsettle⟩ := Option.bind_eq_some_iff.mp h₁
    rw [run?_append, h₂, Option.bind_some, run?_cons, step?_closing_eq_none hsettle hg] at hs
    cases hs

/-! ### The end -/

theorem finish?_of_settle? (h : r.settle? = some r') (hg : r'.groups = [g]) : r.finish? = some g.toPart := by
  obtain ⟨ts, hts, hr'⟩ := Option.bind_eq_some_iff.mp h
  rw [finish?, Mode.finish?_of_settled? hts, Option.bind_some, hr', Option.bind_some]
  simp only [hg]

theorem finish?_within (hr : r.groups ≠ []) : (r.within names (next :: outer)).finish? = none := by
  rw [Option.eq_none_iff_forall_ne_some]
  intro a h
  obtain ⟨q, hq, hone⟩ := Option.bind_eq_some_iff.mp h
  obtain ⟨ts, hts, hq⟩ := Option.bind_eq_some_iff.mp hq
  obtain ⟨r', -, hne, -, rfl⟩ := takeAll?_of_within hr (Mode.closing_not_mem_finish hts) hq
  obtain ⟨g, gs, hgs⟩ := List.exists_cons_of_ne_nil hne
  rw [within, hgs] at hone
  cases gs <;> cases hone

theorem run?_comment {back : Mode} (hr : r.mode = .comment back) (hs : '\n' ∉ s) : r.run? s = some r := by
  induction s with
  | nil => rfl
  | cons c s ih =>
      obtain ⟨hc, hs⟩ := not_or.mp fun h => hs (List.mem_cons.mpr h)
      have hstep : r.step? c = some r := by
        rw [step?_eq, hr, Mode.next, if_neg (by simpa using Ne.symm hc), takeAll?_nil, Option.map_some, ← hr]
      rw [run?_cons, hstep]
      exact ih hs

end Steps

end Reader

end PhraseFilter.Pattern
