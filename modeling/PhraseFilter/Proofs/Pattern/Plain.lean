import PhraseFilter.Proofs.Pattern.Grouping

/-!
# Written patterns that do not change how the rest is read

Between word boundaries stand the alternatives of a choice, each in a group of its own. One that closes its group early
can turn the verbose mode on for what follows, so that a `#` of another one makes a comment of the boundary.

* `Pattern.LeavesPlain` : in a group, the written pattern leaves the rest to be read as it was; `Pattern.leavesPlain_of_read?` :
  a pattern that can be read by itself does so;
* `Pattern.Reader.Follows` : two readers with the same token in progress and the same open groups, as far as blanks and
  comments go; `Pattern.Reader.Follows.step`, `Pattern.Reader.Follows.run` : they stay so over the same text;
* `Pattern.exists_bounded` : **alternatives that leave the rest plain stand between word boundaries together**.
-/

namespace PhraseFilter.Pattern

open Reader

/-! ## Two readers of one text -/

namespace Reader

/-- The second reader is at the same place of a pattern as the first. It may have the groups `outer` open around those
that correspond to the groups of the first. -/
def Follows (outer : List Group) (a b : Reader) : Prop :=
  b.mode = a.mode ∧ ∃ gs, b.groups = gs ++ outer ∧ gs.map (·.flags.verbose) = a.groups.map (·.flags.verbose)

section Follows

variable {a a' b b' : Reader} {outer : List Group} {t : Token} {ts : List Token} {c : Char} {s : List Char}

theorem verbose_change {f g : Flags} (h : f.verbose = g.verbose) (change : List Char) :
    (f.change change).verbose = (g.change change).verbose := by
  simp only [Flags.change, h]

theorem verbose_repeat? {g g' : Group} {least : Nat} {most : Option Nat} {greedy : Bool}
    (h : g.repeat? least most greedy = some g') : g'.flags = g.flags := by
  unfold Group.repeat? at h
  split at h
  · split at h
    · cases h
      rfl
    · cases h
  · cases h

theorem Follows.isVerbose (h : Follows outer a b) (ha : a.groups ≠ []) : b.isVerbose = a.isVerbose := by
  obtain ⟨-, gs, hgs, hverbose⟩ := h
  obtain ⟨g, rest, hg⟩ := List.exists_cons_of_ne_nil ha
  rw [hg] at hverbose
  obtain ⟨g', gs', rfl, hg', -⟩ := List.map_eq_cons_iff.mp hverbose
  simp [Reader.isVerbose, hg, hgs, hg']

variable [Engine]

theorem Follows.take (h : Follows outer a b) (ha : a.take? t = some a') (hb : b.take? t = some b') : Follows outer a' b' := by
  obtain ⟨mode, names, groups⟩ := a
  obtain ⟨mode', names', groups'⟩ := b
  obtain ⟨hmode, gs, hgs, hverbose⟩ := h
  simp only at hmode hgs hverbose
  subst hmode hgs
  cases groups with
  | nil => cases t <;> cases ha
  | cons g rest =>
      obtain ⟨g', gs, rfl, hg, hrest⟩ := List.map_eq_cons_iff.mp hverbose
      rw [List.cons_append] at hb
      cases t with
      | opening name change =>
          rw [take?_opening] at ha hb
          split at ha
          · cases ha
          · split at hb
            · cases hb
            · cases ha
              cases hb
              exact ⟨rfl, _ :: g' :: gs, rfl, by simp [hg, hrest, verbose_change hg]⟩
      | closing =>
          cases rest with
          | nil => cases ha
          | cons next rest =>
              obtain ⟨next', gs, rfl, hnext, hrest⟩ := List.map_eq_cons_iff.mp hrest
              cases ha
              cases hb
              exact ⟨rfl, _ :: gs, rfl, by simp [Group.add, hnext, hrest]⟩
      | bar =>
          cases ha
          cases hb
          exact ⟨rfl, _ :: gs, rfl, by simp [Group.separate, hg, hrest]⟩
      | repeating least most greedy =>
          rw [take?_repeating] at ha hb
          obtain ⟨r, hr, rfl⟩ := Option.map_eq_some_iff.mp ha
          obtain ⟨r', hr', rfl⟩ := Option.map_eq_some_iff.mp hb
          exact ⟨rfl, _ :: gs, rfl, by simp [verbose_repeat? hr, verbose_repeat? hr', hg, hrest]⟩
      | flags change =>
          cases ha
          cases hb
          exact ⟨rfl, _ :: gs, rfl, by simp [Group.change, hrest, verbose_change hg]⟩
      | atom x =>
          rw [take?_atom] at ha hb
          obtain ⟨p, -, rfl⟩ := Option.map_eq_some_iff.mp ha
          obtain ⟨p', -, rfl⟩ := Option.map_eq_some_iff.mp hb
          exact ⟨rfl, _ :: gs, rfl, by simp [Group.add, hg, hrest]⟩

theorem Follows.takeAll (h : Follows outer a b) (ha : a.takeAll? ts = some a') (hb : b.takeAll? ts = some b') :
    Follows outer a' b' := by
  induction ts generalizing a b with
  | nil =>
      cases ha
      cases hb
      exact h
  | cons t ts ih =>
      obtain ⟨a₁, ha₁, ha⟩ := Option.bind_eq_some_iff.mp ha
      obtain ⟨b₁, hb₁, hb⟩ := Option.bind_eq_some_iff.mp hb
      exact ih (h.take ha₁ hb₁) ha hb

theorem Follows.step (h : Follows outer a b) (hne : a.groups ≠ []) (ha : a.step? c = some a') (hb : b.step? c = some b') :
    Follows outer a' b' := by
  rw [step?_eq] at ha hb
  rw [h.1, h.isVerbose hne] at hb
  obtain ⟨a₁, ha₁, rfl⟩ := Option.map_eq_some_iff.mp ha
  obtain ⟨b₁, hb₁, rfl⟩ := Option.map_eq_some_iff.mp hb
  exact ⟨rfl, (h.takeAll ha₁ hb₁).2⟩

theorem Follows.run (h : Follows outer a b) (hne : a.groups ≠ []) (ha : a.run? s = some a') (hb : b.run? s = some b') :
    Follows outer a' b' := by
  induction s generalizing a b with
  | nil =>
      cases ha
      cases hb
      exact h
  | cons c s ih =>
      obtain ⟨a₁, ha₁, ha⟩ := Option.bind_eq_some_iff.mp ha
      obtain ⟨b₁, hb₁, hb⟩ := Option.bind_eq_some_iff.mp hb
      exact ih (h.step hne ha₁ hb₁) (groups_of_step? hne ha₁) ha hb

end Follows

end Reader

/-! ## Groups that leave the rest plain -/

variable [Engine]

/-- In a group, the written pattern leaves the rest to be read as it was: the group is closed, no token is in progress,
and blanks and comments are not passed over. -/
def LeavesPlain (s : List Char) : Prop :=
  ∃ names g, Reader.run? {} ("(?:".toList ++ (s ++ [')'])) = some ⟨.between, names, [g]⟩ ∧ g.flags.verbose = false

section LeavesPlain

variable {s : List Char} {sources : List (List Char)} {a : Part} {q : Reader} {names : List (List Char)} {g : Group}
  {outer : List Group} {p scan : Pattern}

/-- A pattern that can be read by itself leaves the rest plain, if it does not end in a comment. -/
theorem Settles.leavesPlain (h : Settles s a) : LeavesPlain s := by
  obtain ⟨names, hrun⟩ := h.run? {} []
  have hopen : Reader.run? {} "(?:".toList = some (within [] [({} : Group)] {}) := rfl
  exact ⟨names, _, by rw [run?_append, hopen, Option.bind_some]; exact hrun, rfl⟩

theorem leavesPlain_of_read? (hp : read? s = some p) (hwhole : (readWhole? s).isSome = true) : LeavesPlain s := by
  obtain ⟨w, hw⟩ := Option.isSome_iff_exists.mp hwhole
  obtain ⟨a, ha, -⟩ := read?_eq_some_iff.mp hp
  exact (settles_of_readWhole? ha hw).leavesPlain

theorem LeavesPlain.eq_of_run? (h : LeavesPlain s) (hg : g.flags.verbose = false)
    (hq : Reader.run? ⟨.between, names, g :: outer⟩ ("(?:".toList ++ (s ++ [')'])) = some q) :
    ∃ names' g', q = ⟨.between, names', g' :: outer⟩ ∧ g'.flags.verbose = false := by
  obtain ⟨names', g', hrun, hg'⟩ := h
  have hstart : Follows outer {} ⟨.between, names, g :: outer⟩ := ⟨rfl, [g], rfl, by simp [hg]⟩
  obtain ⟨hmode, gs, hgs, hverbose⟩ := hstart.run (List.cons_ne_nil _ _) hrun hq
  obtain ⟨g₁, hg₁⟩ := List.length_eq_one_iff.mp (show gs.length = 1 by simpa using congrArg List.length hverbose)
  obtain ⟨mode, names₁, groups⟩ := q
  subst hg₁
  simp only at hmode hgs
  subst hmode hgs
  exact ⟨_, g₁, rfl, by simpa [hg'] using hverbose⟩

theorem run?_groups_plain (h : ∀ s ∈ sources, LeavesPlain s) (hg : g.flags.verbose = false)
    (hq : Reader.run? ⟨.between, names, g :: outer⟩ (groupsText sources) = some q) :
    ∃ names' g', q = ⟨.between, names', g' :: outer⟩ := by
  induction sources generalizing names g with
  | nil =>
      cases hq
      exact ⟨names, g, rfl⟩
  | cons s sources ih =>
      have hs := h s List.mem_cons_self
      cases sources with
      | nil =>
          rw [groupsText_singleton] at hq
          obtain ⟨names', g', rfl, -⟩ := hs.eq_of_run? hg hq
          exact ⟨names', g', rfl⟩
      | cons s' sources =>
          rw [groupsText_cons_cons, run?_append] at hq
          obtain ⟨q', hq', hq⟩ := Option.bind_eq_some_iff.mp hq
          obtain ⟨names', g', rfl, hg'⟩ := hs.eq_of_run? hg hq'
          rw [run?_cons, step?_bar, Option.bind_some] at hq
          exact ih (fun u hu => h u (List.mem_cons_of_mem _ hu)) (by exact hg') hq

/-- **Alternatives that leave the rest plain stand between word boundaries together.** -/
theorem exists_bounded (h : ∀ s ∈ sources, LeavesPlain s)
    (hscan : readWordBounded? (groupsText sources) = some scan) : ∃ p : Pattern, scan = p.bounded := by
  obtain ⟨b, hb, -, rfl⟩ := read?_eq_some_iff.mp (compile?_eq_some_iff.mp hscan).1
  obtain ⟨q, hq⟩ := exists_run?_of_bounded hb
  obtain ⟨names, g, rfl⟩ := run?_groups_plain h rfl hq
  obtain rfl := Option.some.inj (hb.symm.trans (parse?_of_run? hq))
  exact ⟨_, rfl⟩

end LeavesPlain

end PhraseFilter.Pattern
