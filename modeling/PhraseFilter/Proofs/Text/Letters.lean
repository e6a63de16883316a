import Mathlib.Data.List.Basic
import PhraseFilter.Proofs.Text.Words
import PhraseFilter.Text.Lower
import PhraseFilter.Text.Word

/-!
# Letters, digits and blanks

* `covers_of_mem` : a code point in one of the ranges of an ascending list is covered;
* `areParts`, `missesRun` : runs that are parts of ranges, and runs that no range meets;
* `Tables`, `tables` : **what the tables of characters say about each other**, which is all that is read off them;
* `fold_cases` : the characters that differ from an ASCII character in case only; outside ASCII these are the
  long s and the Kelvin sign;
* `isWord_of_isDigit`, `isBlank_of_isWord` : digits are word characters, and word characters are not blank;
* `isWord_of_fold`, `isDigit_of_fold`, `isBlank_of_fold` : what differs from a small letter in case only;
* `isBlank_fold`, `words_map_fold` : folding leaves blanks and words where they are;
* `map_fold_eq_append`, `lowerAfter_of_fold` : texts that differ from small letters in case only.
-/

namespace PhraseFilter.Text

/-! ## ASCII characters -/

section Ascii

theorem forall_ascii {motive : Char → Prop} (h : ∀ n < 128, motive (Char.ofNat n)) {c : Char}
    (hc : c.toNat < 0x80) : motive c := by
  have := h c.toNat hc
  rwa [Char.ofNat_toNat] at this

theorem toNat_ofNat (n : Nat) : (Char.ofNat n).toNat = n ∨ Char.ofNat n = '\x00' := by
  by_cases hn : n.isValidChar
  · refine Or.inl ?_
    have haux : Char.ofNat n = Char.ofNatAux n hn := dif_pos hn
    rw [haux]
    rfl
  · exact Or.inr (dif_neg hn)

theorem toNat_lt_of_isLower {c : Char} (hc : c.isLower = true) : c.toNat < 0x80 := by
  have hle : c.val ≤ 'z'.val := of_decide_eq_true (Bool.and_eq_true_iff.mp hc).2
  exact Nat.lt_of_le_of_lt (UInt32.le_iff_toNat_le.mp hle) (by decide)

theorem toNat_lt_of_isDigit {c : Char} (hc : c.isDigit = true) : c.toNat < 0x80 := by
  have hle : c.val ≤ '9'.val := of_decide_eq_true (Bool.and_eq_true_iff.mp hc).2
  exact Nat.lt_of_le_of_lt (UInt32.le_iff_toNat_le.mp hle) (by decide)

theorem isBlank_of_isDigit {c : Char} (hc : c.isDigit = true) : isBlank c = false :=
  forall_ascii (motive := fun c => c.isDigit = true → isBlank c = false) (by decide) (toNat_lt_of_isDigit hc) hc

theorem toLower_of_not_ascii {c : Char} (hc : ¬ c.toNat < 0x80) : c.toLower = c := by
  unfold Char.toLower
  split
  · next h =>
    have hle := UInt32.le_iff_toNat_le.mp h.2
    exact absurd (Nat.lt_of_le_of_lt hle (by decide)) hc
  · rfl

theorem fold_ascii {c : Char} (hc : c.toNat < 0x80) : fold c = c.toLower := if_pos hc

end Ascii

/-! ## Ranges -/

/-- Is each of the runs a part of one of the ranges? Both are given in ascending order. -/
def areParts (runs : List Range) : List Range → Bool
  | [] => runs.isEmpty
  | r :: rest => areParts (runs.dropWhile fun run => r.1.ble run.1 && run.2.ble r.2) rest

/-- Do the ranges, which are given in ascending order, cover no code point of the run? -/
def missesRun (run : Range) : List Range → Bool
  | [] => true
  | r :: rest => run.2.blt r.1 || r.2.blt run.1 && missesRun run rest

section Ranges

variable {run r : Range} {runs rs : List Range} {n : Nat}

theorem covers_of_mem (hrs : rs.IsChain fun r s => r.1 ≤ r.2 ∧ r.2 < s.1) (hr : r ∈ rs) (hlow : r.1 ≤ n)
    (hhigh : n ≤ r.2) : covers n rs = true := by
  have htrans : IsTrans Range fun r s => r.1 ≤ r.2 ∧ r.2 < s.1 := ⟨fun r s t hrs hst => ⟨hrs.1, by omega⟩⟩
  rw [List.isChain_iff_pairwise] at hrs
  induction rs with
  | nil => cases hr
  | cons s rs ih =>
      obtain ⟨hs, hrs⟩ := List.pairwise_cons.mp hrs
      rw [covers]
      rcases List.mem_cons.mp hr with rfl | hr
      · rw [if_neg (by omega), if_pos hhigh]
      · have := hs r hr
        rw [if_neg (by omega), if_neg (by omega), ih hrs hr]

theorem exists_of_areParts (h : areParts runs rs = true) (hrun : run ∈ runs) :
    ∃ r ∈ rs, r.1 ≤ run.1 ∧ run.2 ≤ r.2 := by
  induction rs generalizing runs with
  | nil =>
      rw [List.isEmpty_iff.mp h] at hrun
      cases hrun
  | cons r rs ih =>
      rw [← List.takeWhile_append_dropWhile (p := fun run => r.1.ble run.1 && run.2.ble r.2) (l := runs)] at hrun
      rcases List.mem_append.mp hrun with hpart | hleft
      · exact ⟨r, List.mem_cons_self, by simpa using List.mem_takeWhile_imp hpart⟩
      · obtain ⟨s, hs, hpart⟩ := ih h hleft
        exact ⟨s, List.mem_cons_of_mem _ hs, hpart⟩

theorem covers_of_missesRun (h : missesRun run rs = true) (hlow : run.1 ≤ n) (hhigh : n ≤ run.2) :
    covers n rs = false := by
  induction rs with
  | nil => rfl
  | cons r rs ih =>
      simp only [missesRun, Bool.and_eq_true, Bool.or_eq_true, Nat.blt_eq] at h
      rw [covers]
      split
      · rfl
      · rcases h with habove | ⟨hbelow, hrest⟩
        · omega
        · rw [if_neg (by omega), ih hrest]

end Ranges

/-! ## Tables -/

/-- The ranges of the blanks. -/
def blankRanges : List Range :=
  [(0x9, 0xd), (0x20, 0x20), (0x85, 0x85), (0xa0, 0xa0), (0x1680, 0x1680), (0x2000, 0x200a), (0x2028, 0x2028),
    (0x2029, 0x2029), (0x202f, 0x202f), (0x205f, 0x205f), (0x3000, 0x3000)]

/-- What the tables of characters say about each other. -/
structure Tables : Prop where
  /-- A run of folding that goes below ASCII's end moves the long s or the Kelvin sign. -/
  shifts_low : ∀ s ∈ foldShifts,
    128 ≤ (s.first : Int) + s.distance ∨ s = ⟨0x17f, 0x17f, 1, -268⟩ ∨ s = ⟨0x212a, 0x212a, 1, -8383⟩
  /-- Neither the code points that a run of folding moves nor those that it moves them to are blanks. -/
  shifts_miss_blanks : ∀ s ∈ foldShifts, missesRun (s.first, s.last) blankRanges = true ∧
    missesRun (s.target s.first, s.target s.last) blankRanges = true
  digits_are_words : areParts digitRanges wordExtraRanges = true
  words_ascend : wordExtraRanges.IsChain fun r s => r.1 ≤ r.2 ∧ r.2 < s.1
  blanks_miss_words : ∀ r ∈ blankRanges, missesRun r alphabeticRanges = true ∧ missesRun r wordExtraRanges = true
  long_s : isWord 'ſ' = true ∧ isDigit 'ſ' = false
  kelvin_sign : isWord '\u212a' = true ∧ isDigit '\u212a' = false

theorem tables : Tables := by
  constructor <;> decide +kernel

/-! ## Folding -/

section Folding

variable {c d : Char}

/-- Only ASCII characters, the long s and the Kelvin sign have an ASCII fold. -/
theorem fold_cases (h : fold d = c) (hc : c.toNat < 0x80) (hne : c ≠ '\x00') :
    (d.toNat < 0x80 ∧ d.toLower = c) ∨ (d = 'ſ' ∧ c = 's') ∨ (d = '\u212a' ∧ c = 'k') := by
  by_cases hd : d.toNat < 0x80
  · exact Or.inl ⟨hd, by rwa [fold_ascii hd] at h⟩
  · refine Or.inr ?_
    rw [fold, if_neg hd] at h
    split at h
    · next s hs =>
      have hmoves := List.find?_some hs
      simp only [Shift.moves, Bool.and_eq_true, decide_eq_true_eq] at hmoves
      have htarget : s.target d.toNat < 0x80 := by
        rcases toNat_ofNat (s.target d.toNat) with hval | hnull
        · rwa [← hval, h]
        · exact absurd (h.symm.trans hnull) hne
      rcases Tables.shifts_low tables s (List.mem_of_find?_eq_some hs) with hfar | rfl | rfl
      · simp only [Shift.target] at htarget
        omega
      · have hval : d.toNat = 0x17f := Nat.le_antisymm hmoves.1.2 hmoves.1.1
        obtain rfl : d = 'ſ' := by rw [← Char.ofNat_toNat d, hval]
        exact Or.inl ⟨rfl, by rw [← h]; rfl⟩
      · have hval : d.toNat = 0x212a := Nat.le_antisymm hmoves.1.2 hmoves.1.1
        obtain rfl : d = '\u212a' := by rw [← Char.ofNat_toNat d, hval]
        exact Or.inr ⟨rfl, by rw [← h]; rfl⟩
    · rw [h] at hd
      exact absurd hc hd

theorem eq_of_fold_eq_space (h : fold d = ' ') : d = ' ' := by
  rcases fold_cases h (by decide) (by decide) with ⟨hd, hlower⟩ | ⟨-, hc⟩ | ⟨-, hc⟩
  · exact forall_ascii (motive := fun d => d.toLower = ' ' → d = ' ') (by decide) hd hlower
  · cases hc
  · cases hc

theorem eq_of_fold_eq_hyphen (h : fold d = '-') : d = '-' := by
  rcases fold_cases h (by decide) (by decide) with ⟨hd, hlower⟩ | ⟨-, hc⟩ | ⟨-, hc⟩
  · exact forall_ascii (motive := fun d => d.toLower = '-' → d = '-') (by decide) hd hlower
  · cases hc
  · cases hc

end Folding

/-! ## Digits, word characters and blanks -/

section Classes

variable {c d : Char} {run : Range}

theorem isWord_of_isDigit (h : isDigit d = true) : isWord d = true := by
  rw [isDigit] at h
  rw [isWord]
  split
  · next hd =>
    rw [if_pos hd] at h
    simp [Char.isAlphanum, h]
  · next hd =>
    rw [if_neg hd] at h
    obtain ⟨r, hr, hlow, hhigh⟩ := exists_of_covers h
    obtain ⟨s, hs, hfirst, hlast⟩ := exists_of_areParts (Tables.digits_are_words tables) hr
    rw [covers_of_mem (Tables.words_ascend tables) hs (by omega) (by omega), Bool.or_true]

theorem isBlank_eq_any (d : Char) :
    isBlank d = blankRanges.any fun r => decide (r.1 ≤ d.toNat) && decide (d.toNat ≤ r.2) := by
  simp only [isBlank, blankRanges, List.any_cons, List.any_nil, Bool.or_false, Bool.or_assoc]
  rw [Bool.eq_iff_iff]
  simp only [Bool.or_eq_true, Bool.and_eq_true, decide_eq_true_eq, beq_iff_eq, Nat.le_antisymm_iff, and_comm]

theorem exists_of_isBlank (h : isBlank d = true) : ∃ r ∈ blankRanges, r.1 ≤ d.toNat ∧ d.toNat ≤ r.2 := by
  rw [isBlank_eq_any] at h
  simpa using List.any_eq_true.mp h

theorem isBlank_of_missesRun (h : missesRun run blankRanges = true) (hlow : run.1 ≤ d.toNat)
    (hhigh : d.toNat ≤ run.2) : isBlank d = false := by
  cases hd : isBlank d with
  | false => rfl
  | true =>
      obtain ⟨r, hr, hfirst, hlast⟩ := exists_of_isBlank hd
      have hascending : blankRanges.IsChain fun r s => r.1 ≤ r.2 ∧ r.2 < s.1 := by decide
      rw [← covers_of_mem hascending hr hfirst hlast, covers_of_missesRun h hlow hhigh]

theorem isWord_of_isBlank (h : isBlank d = true) : isWord d = false := by
  obtain ⟨r, hr, hlow, hhigh⟩ := exists_of_isBlank h
  obtain ⟨hletters, hothers⟩ := Tables.blanks_miss_words tables r hr
  rw [isWord]
  split
  · next hd =>
    exact forall_ascii (motive := fun d => isBlank d = true → (d.isAlphanum || d == '_') = false) (by decide) hd h
  · rw [covers_of_missesRun hletters hlow hhigh, covers_of_missesRun hothers hlow hhigh, Bool.or_false]

theorem isBlank_of_isWord (h : isWord d = true) : isBlank d = false := by
  cases hd : isBlank d with
  | false => rfl
  | true =>
      rw [isWord_of_isBlank hd] at h
      cases h

theorem isWord_of_fold (hc : c.isLower = true) (h : fold d = c) : isWord d = true := by
  have hascii := toNat_lt_of_isLower hc
  have hne : c ≠ '\x00' := by
    rintro rfl
    cases hc
  rcases fold_cases h hascii hne with ⟨hd, hlower⟩ | ⟨rfl, -⟩ | ⟨rfl, -⟩
  · rw [← hlower] at hc
    exact forall_ascii (motive := fun d => d.toLower.isLower = true → isWord d = true) (by decide) hd hc
  · exact (Tables.long_s tables).1
  · exact (Tables.kelvin_sign tables).1

theorem isDigit_of_fold (hc : c.isLower = true) (h : fold d = c) : isDigit d = false := by
  have hascii := toNat_lt_of_isLower hc
  have hne : c ≠ '\x00' := by
    rintro rfl
    cases hc
  rcases fold_cases h hascii hne with ⟨hd, hlower⟩ | ⟨rfl, -⟩ | ⟨rfl, -⟩
  · rw [← hlower] at hc
    exact forall_ascii (motive := fun d => d.toLower.isLower = true → isDigit d = false) (by decide) hd hc
  · exact (Tables.long_s tables).2
  · exact (Tables.kelvin_sign tables).2

theorem isBlank_of_fold (hc : c.isLower = true) (h : fold d = c) : isBlank d = false :=
  isBlank_of_isWord (isWord_of_fold hc h)

theorem isBlank_toLower (d : Char) : isBlank d.toLower = isBlank d := by
  by_cases hd : d.toNat < 0x80
  · exact forall_ascii (motive := fun d => isBlank d.toLower = isBlank d) (by decide) hd
  · rw [toLower_of_not_ascii hd]

theorem isBlank_fold (d : Char) : isBlank (fold d) = isBlank d := by
  by_cases hd : d.toNat < 0x80
  · rw [fold_ascii hd, isBlank_toLower]
  · rw [fold, if_neg hd]
    split
    · next s hs =>
      obtain ⟨hfrom, hto⟩ := Tables.shifts_miss_blanks tables s (List.mem_of_find?_eq_some hs)
      have hmoves := List.find?_some hs
      simp only [Shift.moves, Bool.and_eq_true, decide_eq_true_eq] at hmoves
      rw [isBlank_of_missesRun hfrom hmoves.1.1 hmoves.1.2]
      rcases toNat_ofNat (s.target d.toNat) with hval | hnull
      · apply isBlank_of_missesRun hto <;> rw [hval] <;> simp only [Shift.target] <;> omega
      · rw [hnull]
        rfl
    · rfl

end Classes

/-! ## Texts -/

section Texts

variable {m u v : List Char} {c d : Char}

theorem map_fold_eq_append (h : m.map fold = u ++ v) :
    ∃ a b, m = a ++ b ∧ a.map fold = u ∧ b.map fold = v := by
  obtain ⟨a, b, rfl, ha, hb⟩ := List.map_eq_append_iff.mp h
  exact ⟨a, b, rfl, ha, hb⟩

theorem isWord_of_map_fold (hu : ∀ c ∈ u, c.isLower = true) (h : m.map fold = u) (hd : d ∈ m) :
    isWord d = true :=
  isWord_of_fold (hu _ (h ▸ List.mem_map_of_mem hd)) rfl

/-- Lower-casing takes what differs from a small letter in case only to that letter, the long s aside. -/
theorem lowerChar_of_fold (hc : c.isLower = true) (hs : c ≠ 's') (h : fold d = c) :
    d ≠ 'Σ' ∧ lowerChar d = [c] := by
  have hascii := toNat_lt_of_isLower hc
  have hne : c ≠ '\x00' := by
    rintro rfl
    cases hc
  rcases fold_cases h hascii hne with ⟨hd, rfl⟩ | ⟨-, rfl⟩ | ⟨rfl, rfl⟩
  · refine ⟨?_, if_pos hd⟩
    rintro rfl
    revert hd
    decide
  · exact absurd rfl hs
  · decide

theorem lowerAfter_of_fold {before : List Char} (hu : ∀ c ∈ u, c.isLower = true ∧ c ≠ 's') (h : m.map fold = u) :
    lowerAfter before m = u := by
  induction m generalizing u before with
  | nil =>
      cases h
      rfl
  | cons d m ih =>
      subst h
      obtain ⟨hlower, hs⟩ := hu _ List.mem_cons_self
      obtain ⟨hsigma, hd⟩ := lowerChar_of_fold hlower hs rfl
      rw [lowerAfter, if_neg (by simpa using hsigma), hd, ih (fun c hc => hu c (List.mem_cons_of_mem _ hc)) rfl]
      rfl

theorem words_map_fold (s : List Char) : words (s.map fold) = (words s).map (·.map fold) := by
  induction s using text_induction with
  | nil => rfl
  | blank c t hc ih => rw [List.map_cons, words_cons_of_blank (by rwa [isBlank_fold]), words_cons_of_blank hc, ih]
  | word w t hw ht ih =>
      have hw' : IsWordText (w.map fold) := by
        refine ⟨by simpa using hw.1, fun c hc => ?_⟩
        obtain ⟨d, hd, rfl⟩ := List.mem_map.mp hc
        rw [isBlank_fold, hw.2 d hd]
      have ht' : StartsBlank (t.map fold) := by
        cases t with
        | nil => exact startsBlank_nil
        | cons c t => simpa [isBlank_fold] using ht
      rw [List.map_append, words_word_append hw' ht', words_word_append hw ht, ih, List.map_cons]

end Texts

end PhraseFilter.Text
