import PhraseFilter.Proofs.Pattern.Language
import PhraseFilter.Proofs.Text.Letters

/-!
# Patterns that spell finitely many texts

* `Pattern.spells_seq_iff`, `Pattern.spells_alt_iff`, `Pattern.spells_altAll_iff`, … : what a pattern spells, by its
  parts;
* `Pattern.isListed`, `Pattern.spellings` : a pattern of letters without unbounded repetition spells the texts of a
  list, in any case (`Pattern.spells_iff_mem_spellings`);
* `Pattern.findSome?_ends`, `Pattern.head?_ends_bounded` : the list is in the order of preference, so **the search
  takes the first spelling of the list that stands at a position and ends at a word boundary**.
-/

namespace PhraseFilter.Pattern

open Text Positions

/-! ## Languages by parts -/

section Parts

variable {p q : Pattern} {ps : List Pattern} {s : Chars} {m : List Char} {greedy : Bool}

theorem spells_empty_iff : Pattern.empty.Spells m ↔ m = [] := by
  constructor
  · rintro (_ | _)
    rfl
  · rintro rfl
    exact .empty

theorem spells_one_iff : (Pattern.one s).Spells m ↔ ∃ c, s.has c = true ∧ m = [c] := by
  constructor
  · rintro (_ | h)
    exact ⟨_, h, rfl⟩
  · rintro ⟨c, h, rfl⟩
    exact .one h

theorem spells_seq_iff : (Pattern.seq p q).Spells m ↔ ∃ u v, p.Spells u ∧ q.Spells v ∧ m = u ++ v := by
  constructor
  · rintro (_ | _ | ⟨hp, hq⟩)
    exact ⟨_, _, hp, hq, rfl⟩
  · rintro ⟨u, v, hp, hq, rfl⟩
    exact .seq hp hq

theorem spells_alt_iff : (Pattern.alt p q).Spells m ↔ p.Spells m ∨ q.Spells m := by
  constructor
  · intro h
    cases h with
    | altLeft h => exact Or.inl h
    | altRight h => exact Or.inr h
  · rintro (h | h)
    · exact .altLeft h
    · exact .altRight h

theorem spells_opt_iff : (Pattern.opt greedy p).Spells m ↔ p.Spells m ∨ m = [] := by
  constructor
  · intro h
    cases h with
    | optNone => exact Or.inr rfl
    | optSome h => exact Or.inl h
  · rintro (h | rfl)
    · exact .optSome h
    · exact .optNone

theorem spells_many_one_iff :
    (Pattern.many greedy (.one s)).Spells m ↔ m ≠ [] ∧ ∀ c ∈ m, s.has c = true := by
  constructor
  · intro h
    generalize hr : Pattern.many greedy (.one s) = r at h
    induction h with
    | manyOne hp =>
        cases hr
        obtain ⟨c, hc, rfl⟩ := spells_one_iff.mp hp
        simpa using hc
    | manyMore hp _ _ ih =>
        cases hr
        obtain ⟨c, hc, rfl⟩ := spells_one_iff.mp hp
        simpa [hc] using (ih rfl).2
    | _ => cases hr
  · rintro ⟨hne, hall⟩
    induction m with
    | nil => exact absurd rfl hne
    | cons c m ih =>
        have hc : (Pattern.one s).Spells [c] := .one (hall c List.mem_cons_self)
        cases m with
        | nil => exact .manyOne hc
        | cons d m =>
            exact .manyMore hc (ih (List.cons_ne_nil _ _) fun e he => hall e (List.mem_cons_of_mem _ he))

theorem spells_altAll_iff (hne : ps ≠ []) : (altAll ps).Spells m ↔ ∃ p ∈ ps, p.Spells m := by
  induction ps with
  | nil => exact absurd rfl hne
  | cons p ps ih =>
      cases ps with
      | nil => simp [altAll]
      | cons q ps =>
          rw [altAll, spells_alt_iff, ih (List.cons_ne_nil _ _), List.exists_mem_cons_iff (l := q :: ps)]

theorem isPlaceFree_altAll (h : ∀ p ∈ ps, p.isPlaceFree = true) : (altAll ps).isPlaceFree = true := by
  induction ps with
  | nil => rfl
  | cons p ps ih =>
      cases ps with
      | nil => exact h p List.mem_cons_self
      | cons q ps =>
          rw [altAll, isPlaceFree, h p List.mem_cons_self, ih fun r hr => h r (List.mem_cons_of_mem _ hr)]
          rfl

end Parts

/-! ## Listed patterns -/

/-- Is the pattern made of letters, without unbounded repetition? -/
def isListed : Pattern → Bool
  | .empty | .one (.letter _) => true
  | .seq p q | .alt p q => p.isListed && q.isListed
  | .opt _ p => p.isListed
  | .one _ | .place _ | .many _ _ | .counted _ _ _ _ => false

/-- The texts that a pattern of letters spells, each letter as its fold, in the order of preference. -/
def spellings : Pattern → List (List Char)
  | .empty => [[]]
  | .one (.letter c) => [[fold c]]
  | .seq p q => p.spellings.flatMap fun u => q.spellings.map (u ++ ·)
  | .alt p q => p.spellings ++ q.spellings
  | .opt greedy p => if greedy then p.spellings ++ [[]] else [] :: p.spellings
  | .one _ | .place _ | .many _ _ | .counted _ _ _ _ => []

section Listed

variable {p q : Pattern} {m : List Char} {text : List Char} {i j : Nat} {greedy : Bool}

theorem isPlaceFree_of_isListed (h : p.isListed = true) : p.isPlaceFree = true := by
  induction p with
  | seq p q ihp ihq | alt p q ihp ihq =>
      rw [isListed, Bool.and_eq_true] at h
      rw [isPlaceFree, ihp h.1, ihq h.2]
      rfl
  | opt greedy p ih => exact ih h
  | place _ | many _ _ _ | counted _ _ _ _ _ => cases h
  | _ => rfl

theorem mem_spellings_opt {w : List Char} : w ∈ (Pattern.opt greedy p).spellings ↔ w ∈ p.spellings ∨ w = [] := by
  cases greedy <;> simp [spellings, or_comm]

/-- **A pattern of letters spells the texts of its list**, in any case. -/
theorem spells_iff_mem_spellings (h : p.isListed = true) : p.Spells m ↔ m.map fold ∈ p.spellings := by
  induction p generalizing m with
  | empty => rw [spells_empty_iff, spellings, List.mem_singleton, List.map_eq_nil_iff]
  | one s =>
      cases s with
      | letter c =>
          simp only [spells_one_iff, Chars.has, sameFold, beq_iff_eq, spellings, List.mem_singleton,
            List.map_eq_singleton_iff]
          constructor
          · rintro ⟨d, hd, rfl⟩
            exact ⟨d, rfl, hd.symm⟩
          · rintro ⟨d, rfl, hd⟩
            exact ⟨d, hd.symm, rfl⟩
      | _ => cases h
  | place q => cases h
  | seq p q ihp ihq =>
      rw [isListed, Bool.and_eq_true] at h
      simp only [spells_seq_iff, ihp h.1, ihq h.2, spellings, List.mem_flatMap, List.mem_map]
      constructor
      · rintro ⟨u, v, hu, hv, rfl⟩
        exact ⟨_, hu, _, hv, List.map_append.symm⟩
      · rintro ⟨u, hu, v, hv, huv⟩
        obtain ⟨a, b, rfl, rfl, rfl⟩ := map_fold_eq_append huv.symm
        exact ⟨a, b, hu, hv, rfl⟩
  | alt p q ihp ihq =>
      rw [isListed, Bool.and_eq_true] at h
      rw [spells_alt_iff, ihp h.1, ihq h.2, spellings, List.mem_append]
  | opt greedy p ih => rw [spells_opt_iff, ih h, mem_spellings_opt, List.map_eq_nil_iff]
  | many greedy p | counted greedy least extra p => cases h

/-! ## Preference -/

theorem append_prefix_iff {u v t : List Char} : u ++ v <+: t ↔ u <+: t ∧ v <+: t.drop u.length := by
  constructor
  · rintro ⟨r, rfl⟩
    rw [List.append_assoc, List.drop_left]
    exact ⟨List.prefix_append _ _, List.prefix_append _ _⟩
  · rintro ⟨⟨r, rfl⟩, hv⟩
    rw [List.drop_left] at hv
    exact (List.prefix_append_right_inj u).mpr hv

theorem singleton_prefix_drop_iff {c : Char} {t : List Char} : [c] <+: t.drop i ↔ t[i]? = some c := by
  rw [← List.head?_drop]
  cases t.drop i with
  | nil => simp
  | cons d t => simp [List.cons_prefix_cons, eq_comm]

theorem findSome?_flatMap {α β γ : Type} (xs : List α) (f : α → List β) (k : β → Option γ) :
    (xs.flatMap f).findSome? k = xs.findSome? fun x => (f x).findSome? k := by
  induction xs with
  | nil => rfl
  | cons x xs ih =>
      rw [List.flatMap_cons, List.findSome?_append, ih, List.findSome?_cons]
      cases (f x).findSome? k <;> rfl

/-- The first success is at `a` if what stands before `a` fails or succeeds with the same. -/
theorem findSome?_eq_of_pairwise {α β : Type} {R : α → α → Prop} {f : α → Option β} {xs : List α} {a : α} {b : β}
    (hxs : xs.Pairwise R) (ha : a ∈ xs) (hb : f a = some b)
    (h : ∀ x ∈ xs, R x a → f x = none ∨ f x = some b) : xs.findSome? f = some b := by
  induction hxs with
  | nil => cases ha
  | @cons x xs hx _ ih =>
      rw [List.findSome?_cons]
      rcases List.mem_cons.mp ha with rfl | ha
      · rw [hb]
      · rcases h x List.mem_cons_self (hx a ha) with hnone | hsome
        · rw [hnone]
          exact ih ha fun y hy => h y (List.mem_cons_of_mem _ hy)
        · rw [hsome]

/-- The ends of the stretches of a pattern of letters are those of its spellings, in their order. -/
theorem findSome?_ends {α : Type} (h : p.isListed = true) (k : Nat → Option α) (i : Nat) :
    (p.ends text.toArray i).findSome? k =
      p.spellings.findSome? fun w => if w <+: (text.map fold).drop i then k (i + w.length) else none := by
  induction p generalizing k i with
  | empty => simp [ends, spellings]
  | one s =>
      cases s with
      | letter c =>
          simp only [ends, spellings, List.findSome?_singleton, singleton_prefix_drop_iff, List.getElem?_toArray,
            List.getElem?_map, Chars.has, sameFold]
          cases text[i]? with
          | none => rfl
          | some d => by_cases hd : fold c = fold d <;> simp [hd, Ne.symm]
      | _ => cases h
  | place q => cases h
  | seq p q ihp ihq =>
      rw [isListed, Bool.and_eq_true] at h
      rw [ends, findSome?_gather, spellings, findSome?_flatMap, ihp h.1]
      congr 1
      funext u
      rw [ihq h.2, List.findSome?_map]
      by_cases hu : u <+: (text.map fold).drop i
      · rw [if_pos hu]
        congr 1
        funext v
        simp only [Function.comp_apply, append_prefix_iff, hu, true_and, List.length_append, List.drop_drop,
          Nat.add_assoc]
      · rw [if_neg hu, eq_comm, List.findSome?_eq_none_iff]
        intro v _
        rw [Function.comp_apply, if_neg fun hv => hu (append_prefix_iff.mp hv).1]
  | alt p q ihp ihq =>
      rw [isListed, Bool.and_eq_true] at h
      rw [ends, findSome?_union, ihp h.1, ihq h.2, spellings, List.findSome?_append]
  | opt greedy p ih =>
      cases greedy with
      | true => simp [ends, findSome?_union, ih h, spellings]
      | false =>
          rw [ends, if_neg Bool.false_ne_true, findSome?_union, ih h, spellings, if_neg Bool.false_ne_true,
            List.findSome?_singleton, List.findSome?_cons (a := []), if_pos List.nil_prefix, List.length_nil,
            Nat.add_zero]
          cases k i <;> rfl
  | many greedy p | counted greedy least extra p => cases h

/-- **The search between word boundaries takes the first spelling** that stands at the position and ends at a
word boundary. -/
theorem head?_ends_bounded (h : p.isListed = true) (i : Nat) :
    (p.bounded.ends text.toArray i).head? =
      if isBoundary text.toArray i then
        p.spellings.findSome? fun w =>
          if w <+: (text.map fold).drop i ∧ isBoundary text.toArray (i + w.length) = true then some (i + w.length)
          else none
      else none := by
  rw [head?_ends_bounded_eq, List.find?_eq_findSome?_guard, findSome?_ends h]
  split
  · congr 1
    funext w
    by_cases hw : w <+: (text.map fold).drop i
    · simp only [hw, true_and, if_true, Option.guard]
    · rw [if_neg hw, if_neg fun h => hw h.1]
  · rfl

end Listed

end PhraseFilter.Pattern
