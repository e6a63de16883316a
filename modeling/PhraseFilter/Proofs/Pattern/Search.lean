import Mathlib.Data.List.Basic
import Mathlib.Logic.Relation
import PhraseFilter.Pattern.Search

/-!
# The search finds what a pattern covers

* `Pattern.Covers.le` : a stretch lies within the text;
* `Positions.mem_union`, `Positions.mem_gather`, `Positions.mem_walk` : the members of the lists that the
  search is made of; `Positions.reach` : the positions that any number of steps leads to;
* `Pattern.mem_ends_many_iff`, `Pattern.mem_ends_counted_iff`, `Pattern.mem_ends_iff` : **`ends` lists exactly the ends of the stretches**;
* `Pattern.find?_eq_some_iff`, `Pattern.find?_eq_none_iff`, `Pattern.occursIn_iff` : the search takes the
  first position from which there is a stretch;
* `Positions.findSome?_union`, `Positions.findSome?_gather` : the lists keep the order of preference.
-/

namespace PhraseFilter

namespace Positions

/-! ## Lists of positions -/

section Lists

variable {xs ys : List Nat} {f g : Nat → List Nat} {y : Nat}

@[simp] theorem mem_union : y ∈ union xs ys ↔ y ∈ xs ∨ y ∈ ys := by
  by_cases h : y ∈ xs <;> simp [union, h]

@[simp] theorem mem_gather : y ∈ gather xs f ↔ ∃ x ∈ xs, y ∈ f x := by
  induction xs with
  | nil => simp [gather]
  | cons x xs ih =>
      cases xs with
      | nil => simp [gather]
      | cons z xs => rw [gather, mem_union, ih, List.exists_mem_cons_iff (l := z :: xs)]

theorem gather_congr (h : ∀ x ∈ xs, f x = g x) : gather xs f = gather xs g := by
  induction xs with
  | nil => rfl
  | cons x xs ih =>
      cases xs with
      | nil => exact h x (by simp)
      | cons z xs => rw [gather, gather, h x (by simp), ih fun w hw => h w (List.mem_cons_of_mem _ hw)]

theorem findSome?_union {α : Type} (k : Nat → Option α) :
    (union xs ys).findSome? k = (xs.findSome? k).or (ys.findSome? k) := by
  rw [union, List.findSome?_append]
  cases hx : xs.findSome? k with
  | some a => rfl
  | none =>
      have hfail := List.findSome?_eq_none_iff.mp hx
      rw [Option.none_or, Option.none_or]
      -- What the union leaves out of `ys` is in `xs`, where it has failed already.
      induction ys with
      | nil => rfl
      | cons y ys ih =>
          by_cases hy : y ∈ xs
          · rw [List.filter_cons_of_neg (by simp [hy]), ih, List.findSome?_cons, hfail y hy]
          · rw [List.filter_cons_of_pos (by simp [hy]), List.findSome?_cons, List.findSome?_cons, ih]

theorem findSome?_gather {α : Type} (k : Nat → Option α) :
    (gather xs f).findSome? k = xs.findSome? fun x => (f x).findSome? k := by
  induction xs with
  | nil => rfl
  | cons x xs ih =>
      cases xs with
      | nil =>
          rw [gather, List.findSome?_cons, List.findSome?_nil]
          cases (f x).findSome? k <;> rfl
      | cons z xs =>
          have hcons : (x :: z :: xs).findSome? (fun x => (f x).findSome? k) =
              ((f x).findSome? k).or ((z :: xs).findSome? fun x => (f x).findSome? k) := by
            rw [List.findSome?_cons]
            cases (f x).findSome? k <;> rfl
          rw [gather, findSome?_union, ih, hcons]

/-- The first success over the first `n` numbers is at the least number that succeeds. -/
theorem findSome?_range {α : Type} {k : Nat → Option α} {n : Nat} {a : α} :
    (List.range n).findSome? k = some a ↔ ∃ i < n, k i = some a ∧ ∀ x < i, k x = none := by
  induction n with
  | zero => simp
  | succ n ih =>
      have hsplit : (List.range (n + 1)).findSome? k = ((List.range n).findSome? k).or (k n) := by
        rw [List.range_succ, List.findSome?_append, List.findSome?_cons]
        cases k n <;> rfl
      rw [hsplit]
      cases hn : (List.range n).findSome? k with
      | some b =>
          rw [Option.some_or, ← hn, ih]
          refine ⟨fun ⟨i, hi, h⟩ => ⟨i, Nat.lt_succ_of_lt hi, h⟩, fun ⟨i, hi, hki, hfail⟩ => ⟨i, ?_, hki, hfail⟩⟩
          refine Nat.lt_of_le_of_ne (Nat.le_of_lt_succ hi) fun hin => ?_
          subst hin
          obtain ⟨x, hx, hkx⟩ := List.exists_of_findSome?_eq_some hn
          rw [hfail x (List.mem_range.mp hx)] at hkx
          cases hkx
      | none =>
          have hfail : ∀ x < n, k x = none := fun x hx =>
            List.findSome?_eq_none_iff.mp hn x (List.mem_range.mpr hx)
          rw [Option.none_or]
          refine ⟨fun h => ⟨n, Nat.lt_succ_self n, h, hfail⟩, fun ⟨i, hi, hki, _⟩ => ?_⟩
          obtain rfl : i = n := by
            by_contra hne
            rw [hfail i (by omega)] at hki
            cases hki
          exact hki

end Lists

/-! ## Walks -/

section Walks

variable {greedy : Bool} {step : Nat → List Nat} {n i j : Nat}

/-- Steps go from positions of a text of `n` characters to positions that are not before them. -/
def Forward (step : Nat → List Nat) (n : Nat) : Prop := ∀ i ≤ n, ∀ j ∈ step i, i ≤ j ∧ j ≤ n

/-- What the positions after `i` lead to. -/
def onward (greedy : Bool) (step : Nat → List Nat) (n i : Nat) : List (Thunk (List Nat)) :=
  if i < n then walks greedy step n (n - i - 1) else []

/-- The positions that any number of steps leads to from `i`. -/
def reach (greedy : Bool) (step : Nat → List Nat) (n i : Nat) : List Nat :=
  walkFrom greedy step (onward greedy step n i) i

theorem walks_getElem? {k m : Nat} (hm : m ≤ k) (hk : k ≤ n) :
    ((walks greedy step n k)[m]?.map Thunk.get) = some (reach greedy step n (n - k + m)) := by
  induction k generalizing m with
  | zero =>
      obtain rfl : m = 0 := by omega
      simp [walks, reach, onward, Thunk.get]
  | succ k ih =>
      cases m with
      | zero =>
          have hlt : n - (k + 1) < n := by omega
          have hsub : n - (n - (k + 1)) - 1 = k := by omega
          simp [walks, reach, onward, Thunk.get, hlt, hsub]
      | succ m =>
          rw [walks, List.getElem?_cons_succ, ih (by omega) (by omega)]
          congr 2
          omega

theorem onward_getElem? (hij : i < j) (hj : j ≤ n) :
    ((onward greedy step n i)[j - i - 1]?.map Thunk.get) = some (reach greedy step n j) := by
  rw [onward, if_pos (by omega), walks_getElem? (by omega) (by omega)]
  congr 2
  omega

theorem reach_eq (h : Forward step n) (hi : i ≤ n) :
    reach greedy step n i =
      let further := gather (step i) fun j => if j = i then [] else reach greedy step n j
      if greedy then union further [i] else union [i] further := by
  have hfurther : (gather (step i) fun j =>
      if j = i then [] else ((onward greedy step n i)[j - i - 1]?.map Thunk.get).getD []) =
      gather (step i) fun j => if j = i then [] else reach greedy step n j := by
    refine gather_congr fun j hj => ?_
    have := h i hi j hj
    split
    · rfl
    · rw [onward_getElem? (by omega) (by omega), Option.getD_some]
  rw [reach, walkFrom, hfurther]

theorem walk_eq (h : Forward step n) (hi : i ≤ n) :
    walk greedy step n i = gather (step i) fun j => if j = i then [i] else reach greedy step n j := by
  refine gather_congr fun j hj => ?_
  have := h i hi j hj
  split
  · rfl
  · change ((onward greedy step n i)[j - i - 1]?.map Thunk.get).getD [] = _
    rw [onward_getElem? (by omega) (by omega), Option.getD_some]

/-- One position leads to the other in one step. -/
def Leads (step : Nat → List Nat) (i j : Nat) : Prop := j ∈ step i

theorem exists_step_of_walk (h : Relation.ReflTransGen (Leads step) i j) :
    j = i ∨ ∃ x ∈ step i, x ≠ i ∧ Relation.ReflTransGen (Leads step) x j := by
  induction h using Relation.ReflTransGen.head_induction_on with
  | refl => exact Or.inl rfl
  | @head i x hx hwalk ih =>
      by_cases hne : x = i
      · exact hne ▸ ih
      · exact Or.inr ⟨x, hx, hne, hwalk⟩

theorem mem_reach (h : Forward step n) (hi : i ≤ n) :
    j ∈ reach greedy step n i ↔ Relation.ReflTransGen (Leads step) i j := by
  -- The induction goes from the end of the text to its start: a step that moves shortens the rest.
  induction hd : n - i using Nat.strongRecOn generalizing i with
  | _ d ih =>
      have hmem : j ∈ reach greedy step n i ↔ j = i ∨ ∃ x ∈ step i, x ≠ i ∧ j ∈ reach greedy step n x := by
        rw [reach_eq h hi]
        cases greedy <;> simp [or_comm]
      have hnext : ∀ x ∈ step i, x ≠ i →
          (j ∈ reach greedy step n x ↔ Relation.ReflTransGen (Leads step) x j) := by
        intro x hx hne
        have := h i hi x hx
        exact ih (n - x) (by omega) (by omega) rfl
      rw [hmem]
      constructor
      · rintro (rfl | ⟨x, hx, hne, hj⟩)
        · exact Relation.ReflTransGen.refl
        · exact Relation.ReflTransGen.head hx ((hnext x hx hne).mp hj)
      · intro hwalk
        rcases exists_step_of_walk hwalk with rfl | ⟨x, hx, hne, hwalk⟩
        · exact Or.inl rfl
        · exact Or.inr ⟨x, hx, hne, (hnext x hx hne).mpr hwalk⟩

theorem mem_walk (h : Forward step n) (hi : i ≤ n) :
    j ∈ walk greedy step n i ↔ ∃ x ∈ step i, Relation.ReflTransGen (Leads step) x j := by
  rw [walk_eq h hi, mem_gather]
  constructor
  · rintro ⟨x, hx, hj⟩
    refine ⟨x, hx, ?_⟩
    split at hj
    · next hxi =>
      obtain rfl : j = i := by simpa using hj
      exact hxi ▸ Relation.ReflTransGen.refl
    · exact (mem_reach h (h i hi x hx).2).mp hj
  · rintro ⟨x, hx, hwalk⟩
    by_cases hxi : x = i
    · -- A first step that stays counts only when nothing moves after it.
      subst hxi
      rcases exists_step_of_walk hwalk with rfl | ⟨y, hy, hne, hwalk⟩
      · exact ⟨j, hx, by simp⟩
      · exact ⟨y, hy, by rw [if_neg hne]; exact (mem_reach h (h x hi y hy).2).mpr hwalk⟩
    · exact ⟨x, hx, by rw [if_neg hxi]; exact (mem_reach h (h i hi x hx).2).mpr hwalk⟩

theorem mem_upTo_succ {k : Nat} :
    j ∈ upTo greedy step (k + 1) i ↔ j = i ∨ ∃ x ∈ step i, j ∈ upTo greedy step k x := by
  rw [upTo]
  cases greedy <;> simp [or_comm]

end Walks

end Positions

/-! ## Stretches -/

namespace Pattern

open Positions

variable {text : Array Char} {p : Pattern} {i j : Nat}

theorem Covers.le (h : p.Covers text i j) : i ≤ j ∧ j ≤ text.size := by
  induction h with
  | empty h | place h _ | optNone h => exact ⟨Nat.le_refl _, h⟩
  | one hc _ => exact ⟨Nat.le_succ _, (Array.getElem?_eq_some_iff.mp hc).1⟩
  | countedNone h => exact ⟨Nat.le_refl _, h⟩
  | seq _ _ ihp ihq => exact ⟨Nat.le_trans ihp.1 ihq.1, ihq.2⟩
  | altLeft _ ih | altRight _ ih | optSome _ ih | manyOne _ ih => exact ih
  | manyMore _ _ ihp ihm | countedNext _ _ ihp ihm | countedMore _ _ ihp ihm =>
      exact ⟨Nat.le_trans ihp.1 ihm.1, ihm.2⟩

theorem covers_many_iff {greedy : Bool} :
    (Pattern.many greedy p).Covers text i j ↔
      ∃ x, p.Covers text i x ∧ Relation.ReflTransGen (p.Covers text) x j := by
  constructor
  · intro h
    generalize hq : Pattern.many greedy p = q at h
    induction h with
    | manyOne hp => cases hq; exact ⟨_, hp, Relation.ReflTransGen.refl⟩
    | manyMore hp _ _ ih =>
        cases hq
        obtain ⟨x, hx, hwalk⟩ := ih rfl
        exact ⟨_, hp, Relation.ReflTransGen.head hx hwalk⟩
    | _ => cases hq
  · rintro ⟨x, hx, hwalk⟩
    induction hwalk using Relation.ReflTransGen.head_induction_on generalizing i with
    | refl => exact .manyOne hx
    | head hy _ ih => exact .manyMore hx (ih hy)

/-- The steps of a repetition are the stretches that it repeats. -/
theorem leads_ends_iff (h : ∀ {k x}, k ≤ text.size → (x ∈ p.ends text k ↔ p.Covers text k x)) (hi : i ≤ text.size) :
    Relation.ReflTransGen (Leads (p.ends text)) i j ↔ Relation.ReflTransGen (p.Covers text) i j := by
  constructor
  · intro hwalk
    induction hwalk using Relation.ReflTransGen.head_induction_on with
    | refl => exact Relation.ReflTransGen.refl
    | head hy _ ih =>
        have hcovers := (h hi).mp hy
        exact Relation.ReflTransGen.head hcovers (ih hcovers.le.2)
  · intro hwalk
    induction hwalk using Relation.ReflTransGen.head_induction_on with
    | refl => exact Relation.ReflTransGen.refl
    | head hy _ ih => exact Relation.ReflTransGen.head ((h hi).mpr hy) (ih hy.le.2)

theorem mem_ends_many_iff {greedy : Bool} (h : ∀ {k x}, k ≤ text.size → (x ∈ p.ends text k ↔ p.Covers text k x))
    (hi : i ≤ text.size) :
    j ∈ (Pattern.many greedy p).ends text i ↔ (Pattern.many greedy p).Covers text i j := by
  have hforward : Forward (p.ends text) text.size := fun k hk x hx => ((h hk).mp hx).le
  rw [ends, mem_walk hforward hi, covers_many_iff]
  constructor
  · rintro ⟨x, hx, hwalk⟩
    have hp := (h hi).mp hx
    exact ⟨x, hp, (leads_ends_iff h hp.le.2).mp hwalk⟩
  · rintro ⟨x, hp, hwalk⟩
    exact ⟨x, (h hi).mpr hp, (leads_ends_iff h hp.le.2).mpr hwalk⟩

theorem mem_ends_counted_iff {greedy : Bool} {least extra : Nat}
    (h : ∀ {k x}, k ≤ text.size → (x ∈ p.ends text k ↔ p.Covers text k x)) (hi : i ≤ text.size) :
    j ∈ (Pattern.counted greedy least extra p).ends text i ↔ (Pattern.counted greedy least extra p).Covers text i j := by
  rw [ends]
  induction least generalizing i with
  | zero =>
      rw [after]
      induction extra generalizing i with
      | zero =>
          rw [upTo, List.mem_singleton]
          constructor
          · rintro rfl
            exact .countedNone hi
          · intro hc
            cases hc
            rfl
      | succ extra ih =>
          rw [mem_upTo_succ]
          constructor
          · rintro (rfl | ⟨x, hx, hj⟩)
            · exact .countedNone hi
            · have hp := (h hi).mp hx
              exact .countedMore hp ((ih hp.le.2).mp hj)
          · intro hc
            cases hc with
            | countedNone => exact Or.inl rfl
            | countedMore hp hm => exact Or.inr ⟨_, (h hi).mpr hp, (ih hp.le.2).mpr hm⟩
  | succ least ih =>
      rw [after, mem_gather]
      constructor
      · rintro ⟨x, hx, hj⟩
        have hp := (h hi).mp hx
        exact .countedNext hp ((ih hp.le.2).mp hj)
      · intro hc
        cases hc with
        | countedNext hp hm => exact ⟨_, (h hi).mpr hp, (ih hp.le.2).mpr hm⟩

/-- **`ends` lists exactly the ends of the stretches.** -/
theorem mem_ends_iff (hi : i ≤ text.size) : j ∈ p.ends text i ↔ p.Covers text i j := by
  induction p generalizing i j with
  | empty =>
      rw [ends, List.mem_singleton]
      constructor
      · rintro rfl
        exact .empty hi
      · rintro (_ | _)
        rfl
  | one s =>
      rw [ends]
      constructor
      · intro h
        cases hc : text[i]? with
        | none => simp [hc] at h
        | some c =>
            have hs : s.has c = true ∧ j = i + 1 := by simpa [hc] using h
            exact hs.2 ▸ .one hc hs.1
      · rintro (_ | ⟨hc, hs⟩)
        simp [hc, hs]
  | place q =>
      rw [ends]
      constructor
      · intro h
        split at h
        · next hq => rw [List.mem_singleton.mp h]; exact .place hi hq
        · cases h
      · rintro (_ | _)
        simp [*]
  | seq p q ihp ihq =>
      rw [ends, mem_gather]
      constructor
      · rintro ⟨x, hx, hj⟩
        have hp := (ihp hi).mp hx
        exact .seq hp ((ihq hp.le.2).mp hj)
      · rintro (_ | _ | _ | ⟨hp, hq⟩)
        exact ⟨_, (ihp hi).mpr hp, (ihq hp.le.2).mpr hq⟩
  | alt p q ihp ihq =>
      rw [ends, mem_union, ihp hi, ihq hi]
      constructor
      · rintro (h | h)
        · exact .altLeft h
        · exact .altRight h
      · intro h
        cases h with
        | altLeft h => exact Or.inl h
        | altRight h => exact Or.inr h
  | opt greedy p ih =>
      have hmem : j ∈ (Pattern.opt greedy p).ends text i ↔ j = i ∨ p.Covers text i j := by
        rw [← ih hi, ends]
        cases greedy <;> simp [or_comm]
      rw [hmem]
      constructor
      · rintro (rfl | h)
        · exact .optNone hi
        · exact .optSome h
      · intro h
        cases h with
        | optNone => exact Or.inl rfl
        | optSome h => exact Or.inr h
  | many greedy p ih => exact mem_ends_many_iff (fun hk => ih hk) hi
  | counted greedy least extra p ih => exact mem_ends_counted_iff (fun hk => ih hk) hi

/-! ## The first stretch -/

theorem ends_eq_nil_iff (hi : i ≤ text.size) : p.ends text i = [] ↔ ∀ j, ¬ p.Covers text i j := by
  rw [List.eq_nil_iff_forall_not_mem]
  exact forall_congr' fun j => not_congr (mem_ends_iff hi)

theorem head?_ends_eq_none_iff (hi : i ≤ text.size) :
    (p.ends text i).head? = none ↔ ∀ j, ¬ p.Covers text i j := by
  rw [List.head?_eq_none_iff, ends_eq_nil_iff hi]

theorem find?_eq_some_iff : p.find? text = some (i, j) ↔
    i ≤ text.size ∧ (p.ends text i).head? = some j ∧ ∀ x < i, ∀ y, ¬ p.Covers text x y := by
  rw [find?, findSome?_range]
  constructor
  · rintro ⟨x, hx, hhead, hfail⟩
    obtain ⟨y, hy, heq⟩ := Option.map_eq_some_iff.mp hhead
    obtain ⟨rfl, rfl⟩ := Prod.mk.inj heq
    refine ⟨by omega, hy, fun z hz => ?_⟩
    exact (head?_ends_eq_none_iff (by omega)).mp (Option.map_eq_none_iff.mp (hfail z hz))
  · rintro ⟨hi, hhead, hfail⟩
    refine ⟨i, by omega, by rw [hhead, Option.map_some], fun x hx => ?_⟩
    rw [(head?_ends_eq_none_iff (by omega)).mpr (hfail x hx), Option.map_none]

theorem covers_of_find? (h : p.find? text = some (i, j)) : p.Covers text i j := by
  obtain ⟨hi, hhead, -⟩ := find?_eq_some_iff.mp h
  exact (mem_ends_iff hi).mp (List.mem_of_head? hhead)

theorem find?_eq_none_iff : p.find? text = none ↔ ∀ i j, ¬ p.Covers text i j := by
  constructor
  · intro h i j hc
    have hi : i ≤ text.size := Nat.le_trans hc.le.1 hc.le.2
    have hnone := List.findSome?_eq_none_iff.mp h i (List.mem_range.mpr (by omega))
    exact (head?_ends_eq_none_iff hi).mp (Option.map_eq_none_iff.mp hnone) j hc
  · intro h
    rw [Option.eq_none_iff_forall_ne_some]
    rintro ⟨i, j⟩ hsome
    exact h i j (covers_of_find? hsome)

theorem occursIn_iff : p.occursIn text = true ↔ ∃ i j, p.Covers text i j := by
  rw [occursIn, ← not_iff_not, Bool.not_eq_true, Option.isSome_eq_false_iff, Option.isNone_iff_eq_none,
    find?_eq_none_iff]
  push Not
  rfl

end Pattern

end PhraseFilter
