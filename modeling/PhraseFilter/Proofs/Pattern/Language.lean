import PhraseFilter.Proofs.Pattern.Search

/-!
# The language of a pattern

* `Pattern.Spells` : the texts that a pattern covers as a whole, wherever they stand;
* `Pattern.isPlaceFree` : the pattern sets no condition on positions;
* `Pattern.Covers.spells`, `Pattern.Spells.covers`, `Pattern.covers_iff_spells` : **such a pattern covers a
  stretch exactly when it spells it, whatever stands around it**;
* `Pattern.bounded`, `Pattern.whole` : a pattern between word boundaries, and between the ends of a text;
  `Pattern.head?_ends_bounded_eq` : the preferred end at a word boundary.
-/

namespace PhraseFilter.Pattern

open Text Positions

/-- `p.Spells s` says that the text `s` is in the language of `p`. Conditions on positions spell nothing. -/
inductive Spells : Pattern → List Char → Prop
  | empty : Spells .empty []
  | one {s : Chars} {c : Char} (h : s.has c = true) : Spells (.one s) [c]
  | seq {p q : Pattern} {u v : List Char} (hp : Spells p u) (hq : Spells q v) : Spells (.seq p q) (u ++ v)
  | altLeft {p q : Pattern} {u : List Char} (hp : Spells p u) : Spells (.alt p q) u
  | altRight {p q : Pattern} {u : List Char} (hq : Spells q u) : Spells (.alt p q) u
  | optNone {greedy : Bool} {p : Pattern} : Spells (.opt greedy p) []
  | optSome {greedy : Bool} {p : Pattern} {u : List Char} (hp : Spells p u) : Spells (.opt greedy p) u
  | manyOne {greedy : Bool} {p : Pattern} {u : List Char} (hp : Spells p u) : Spells (.many greedy p) u
  | manyMore {greedy : Bool} {p : Pattern} {u v : List Char} (hp : Spells p u)
      (hm : Spells (.many greedy p) v) : Spells (.many greedy p) (u ++ v)
  | countedNone {greedy : Bool} {extra : Nat} {p : Pattern} : Spells (.counted greedy 0 extra p) []
  | countedNext {greedy : Bool} {least extra : Nat} {p : Pattern} {u v : List Char} (hp : Spells p u)
      (hm : Spells (.counted greedy least extra p) v) : Spells (.counted greedy (least + 1) extra p) (u ++ v)
  | countedMore {greedy : Bool} {extra : Nat} {p : Pattern} {u v : List Char} (hp : Spells p u)
      (hm : Spells (.counted greedy 0 extra p) v) : Spells (.counted greedy 0 (extra + 1) p) (u ++ v)

/-- Does the pattern set no condition on positions? -/
def isPlaceFree : Pattern → Bool
  | .empty | .one _ => true
  | .place _ => false
  | .seq p q | .alt p q => p.isPlaceFree && q.isPlaceFree
  | .opt _ p | .many _ p | .counted _ _ _ p => p.isPlaceFree

/-! ## Stretches -/

section Stretch

variable {text : List Char} {i j k : Nat} {c : Char}

/-- The characters of a text between two positions. -/
def stretch (text : List Char) (i j : Nat) : List Char := (text.drop i).take (j - i)

theorem stretch_self (text : List Char) (i : Nat) : stretch text i i = [] := by
  rw [stretch, Nat.sub_self, List.take_zero]

theorem stretch_succ (h : text[i]? = some c) : stretch text i (i + 1) = [c] := by
  obtain ⟨hi, rfl⟩ := List.getElem?_eq_some_iff.mp h
  rw [stretch, List.drop_eq_getElem_cons hi, Nat.add_sub_cancel_left, List.take_succ_cons, List.take_zero]

theorem stretch_append (hij : i ≤ j) (hjk : j ≤ k) : stretch text i k = stretch text i j ++ stretch text j k := by
  have hdrop : text.drop j = (text.drop i).drop (j - i) := by
    rw [List.drop_drop, Nat.add_sub_cancel' hij]
  have hlen : k - i = (j - i) + (k - j) := by omega
  rw [stretch, stretch, stretch, hdrop, hlen, List.take_add]

theorem stretch_middle (pre m post : List Char) :
    stretch (pre ++ m ++ post) pre.length (pre.length + m.length) = m := by
  simp [stretch]

end Stretch

/-! ## Language and stretches -/

section Language

variable {p q : Pattern} {text m : List Char} {i j : Nat}

theorem Covers.spells (h : p.Covers text.toArray i j) (hp : p.isPlaceFree = true) :
    p.Spells (stretch text i j) := by
  induction h with
  | empty _ => exact stretch_self text _ ▸ .empty
  | one hc hs =>
      rw [List.getElem?_toArray] at hc
      exact stretch_succ hc ▸ .one hs
  | place _ _ => cases hp
  | seq hcp hcq ihp ihq =>
      rw [isPlaceFree, Bool.and_eq_true] at hp
      rw [stretch_append hcp.le.1 hcq.le.1]
      exact .seq (ihp hp.1) (ihq hp.2)
  | altLeft _ ih =>
      rw [isPlaceFree, Bool.and_eq_true] at hp
      exact .altLeft (ih hp.1)
  | altRight _ ih =>
      rw [isPlaceFree, Bool.and_eq_true] at hp
      exact .altRight (ih hp.2)
  | optNone _ => exact stretch_self text _ ▸ .optNone
  | optSome _ ih => exact .optSome (ih hp)
  | manyOne _ ih => exact .manyOne (ih hp)
  | manyMore hcp hcm ihp ihm =>
      rw [stretch_append hcp.le.1 hcm.le.1]
      exact .manyMore (ihp hp) (ihm hp)
  | countedNone _ => exact stretch_self text _ ▸ .countedNone
  | countedNext hcp hcm ihp ihm =>
      rw [stretch_append hcp.le.1 hcm.le.1]
      exact .countedNext (ihp hp) (ihm hp)
  | countedMore hcp hcm ihp ihm =>
      rw [stretch_append hcp.le.1 hcm.le.1]
      exact .countedMore (ihp hp) (ihm hp)

/-- A pattern covers what it spells, wherever that stands. -/
theorem Spells.covers (h : p.Spells m) (pre post : List Char) :
    p.Covers (pre ++ m ++ post).toArray pre.length (pre.length + m.length) := by
  have hbound : ∀ (u v : List Char), u.length ≤ (u ++ v).toArray.size := by simp
  induction h generalizing pre post with
  | empty => simpa using Covers.empty (hbound pre post)
  | one hs => exact .one (by simp) hs
  | @seq p q u v _ _ ihp ihq =>
      have hp := ihp pre (v ++ post)
      have hq := ihq (pre ++ u) post
      simp only [List.append_assoc, List.length_append, Nat.add_assoc] at hp hq ⊢
      exact .seq hp hq
  | altLeft _ ih => exact .altLeft (ih pre post)
  | altRight _ ih => exact .altRight (ih pre post)
  | optNone => simpa using Covers.optNone (hbound pre post)
  | optSome _ ih => exact .optSome (ih pre post)
  | manyOne _ ih => exact .manyOne (ih pre post)
  | @manyMore greedy p u v _ _ ihp ihm =>
      have hp := ihp pre (v ++ post)
      have hm := ihm (pre ++ u) post
      simp only [List.append_assoc, List.length_append, Nat.add_assoc] at hp hm ⊢
      exact .manyMore hp hm
  | countedNone => simpa using Covers.countedNone (hbound pre post)
  | @countedNext greedy least extra p u v _ _ ihp ihm =>
      have hp := ihp pre (v ++ post)
      have hm := ihm (pre ++ u) post
      simp only [List.append_assoc, List.length_append, Nat.add_assoc] at hp hm ⊢
      exact .countedNext hp hm
  | @countedMore greedy extra p u v _ _ ihp ihm =>
      have hp := ihp pre (v ++ post)
      have hm := ihm (pre ++ u) post
      simp only [List.append_assoc, List.length_append, Nat.add_assoc] at hp hm ⊢
      exact .countedMore hp hm

/-- **A pattern without conditions on positions covers a stretch exactly when it spells it.** -/
theorem covers_iff_spells (hp : p.isPlaceFree = true) (pre m post : List Char) :
    p.Covers (pre ++ m ++ post).toArray pre.length (pre.length + m.length) ↔ p.Spells m := by
  constructor
  · intro h
    have := h.spells hp
    rwa [stretch_middle] at this
  · intro h
    exact h.covers pre post

end Language

/-! ## Patterns between conditions on positions -/

section Between

variable {p : Pattern} {text : Array Char} {m : List Char} {i j : Nat}

def boundary : Pattern := .place (.edge false .boundary)

/-- The pattern between two word boundaries. -/
def bounded (p : Pattern) : Pattern := .seq boundary (.seq p boundary)

/-- The pattern between the two ends of a text. -/
def whole (p : Pattern) : Pattern := .seq (.place .start) (.seq p (.place .finish))

theorem covers_place_iff {q : Place} :
    (Pattern.place q).Covers text i j ↔ i ≤ text.size ∧ q.holds text i = true ∧ j = i := by
  constructor
  · rintro (_ | _ | ⟨hi, hq⟩)
    exact ⟨hi, hq, rfl⟩
  · rintro ⟨hi, hq, rfl⟩
    exact .place hi hq

theorem covers_seq_iff {q : Pattern} :
    (Pattern.seq p q).Covers text i j ↔ ∃ k, p.Covers text i k ∧ q.Covers text k j := by
  constructor
  · rintro (_ | _ | _ | ⟨hp, hq⟩)
    exact ⟨_, hp, hq⟩
  · rintro ⟨k, hp, hq⟩
    exact .seq hp hq

theorem holds_boundary (text : Array Char) (i : Nat) :
    Place.holds text i (.edge false .boundary) = isBoundary text i := rfl

theorem ends_boundary (text : Array Char) (i : Nat) :
    boundary.ends text i = if isBoundary text i then [i] else [] := by
  rw [boundary, ends, holds_boundary]

theorem covers_bounded_iff : p.bounded.Covers text i j ↔
    isBoundary text i = true ∧ p.Covers text i j ∧ isBoundary text j = true := by
  simp only [bounded, boundary, covers_seq_iff, covers_place_iff, holds_boundary]
  constructor
  · rintro ⟨k, ⟨-, hi, rfl⟩, l, hp, -, hj, rfl⟩
    exact ⟨hi, hp, hj⟩
  · rintro ⟨hi, hp, hj⟩
    exact ⟨i, ⟨Nat.le_trans hp.le.1 hp.le.2, hi, rfl⟩, j, hp, hp.le.2, hj, rfl⟩

/-- Between word boundaries the preferred end is the first one that is at a word boundary. -/
theorem head?_ends_bounded_eq (p : Pattern) (text : Array Char) (i : Nat) :
    (p.bounded.ends text i).head? =
      if isBoundary text i then (p.ends text i).find? (isBoundary text) else none := by
  have hhead : ∀ xs : List Nat, xs.head? = xs.findSome? some := by
    intro xs
    cases xs <;> rfl
  have hback : (fun k => (boundary.ends text k).findSome? some) = Option.guard (isBoundary text) := by
    funext k
    rw [ends_boundary]
    cases hk : isBoundary text k <;> simp [Option.guard, hk]
  rw [bounded, hhead, ends, findSome?_gather, ends_boundary]
  split
  · rw [List.findSome?_singleton, ends, findSome?_gather, hback, List.find?_eq_findSome?_guard]
  · rfl

theorem covers_whole_iff : p.whole.Covers text i j ↔ i = 0 ∧ j = text.size ∧ p.Covers text 0 text.size := by
  simp only [whole, covers_seq_iff, covers_place_iff, Place.holds, beq_iff_eq]
  constructor
  · rintro ⟨k, ⟨-, rfl, rfl⟩, l, hp, -, rfl, rfl⟩
    exact ⟨rfl, rfl, hp⟩
  · rintro ⟨rfl, rfl, hp⟩
    exact ⟨0, ⟨Nat.zero_le _, rfl, rfl⟩, _, hp, Nat.le_refl _, rfl, rfl⟩

theorem occursIn_whole_iff (hp : p.isPlaceFree = true) : p.whole.occursIn m.toArray = true ↔ p.Spells m := by
  have h := covers_iff_spells hp [] m []
  simp only [List.nil_append, List.append_nil, List.length_nil, Nat.zero_add] at h
  simp only [occursIn_iff, covers_whole_iff, List.size_toArray, ← h]
  exact ⟨fun ⟨_, _, _, _, hc⟩ => hc, fun hc => ⟨0, m.length, rfl, rfl, hc⟩⟩

end Between

end PhraseFilter.Pattern
