import PhraseFilter.Proofs.Report.Calendar
import PhraseFilter.Proofs.Text.Decimal
import PhraseFilter.Proofs.Text.Split

/-!
# Dates and their texts

* `Date.le_length_padded`, `Date.length_padded`, `Date.readDigits?_padded` : a number with zeros in front has the width
  that is asked for, or more if it needs more, and is read again;
* `Date.read?` : the date that a text gives, strict about the widths of its parts and about what dates there are;
* `Date.read?_toText` : **the text of a date gives the date**, whatever its year.
-/

namespace PhraseFilter.Date

open Text

/-! ## Numbers of a width -/

section Padded

variable {width n : Nat}

theorem toList_padded (width n : Nat) :
    (padded width n).toList = List.replicate (width - (toString n).toList.length) '0' ++ (toString n).toList := by
  rw [padded, String.toList_append, String.toList_ofList, String.length_toList]

theorem le_length_padded (width n : Nat) : width ≤ (padded width n).toList.length := by
  rw [toList_padded, List.length_append, List.length_replicate]
  omega

theorem length_padded (hwidth : 0 < width) (hn : n < 10 ^ width) : (padded width n).toList.length = width := by
  have hdigits : (toString n).toList.length ≤ width := by
    rw [Nat.toString_eq_repr, Nat.toList_repr]
    exact (Nat.length_toDigits_le_iff (by decide) hwidth).mpr hn
  rw [toList_padded, List.length_append, List.length_replicate, Nat.sub_add_cancel hdigits]

theorem isDigit_of_mem_padded {c : Char} (hc : c ∈ (padded width n).toList) : c.isDigit = true := by
  rw [toList_padded] at hc
  rcases List.mem_append.mp hc with hc | hc
  · rw [List.eq_of_mem_replicate hc]
    decide
  · exact isDigit_of_mem_toString hc

theorem not_mem_padded {c : Char} (hc : c.isDigit = false) : c ∉ (padded width n).toList := by
  intro hmem
  rw [isDigit_of_mem_padded hmem] at hc
  cases hc

/-- The number that digits stand for, if there are as many of them as are allowed. -/
def readDigits? (allowed : Nat → Bool) (s : List Char) : Option Nat :=
  if allowed s.length then readDecimal? s else none

theorem readDigits?_padded (allowed : Nat → Bool) (h : allowed (padded width n).toList.length = true) :
    readDigits? allowed (padded width n).toList = some n := by
  rw [readDigits?, if_pos h, readDecimal?_eq_some_iff]
  refine ⟨?_, fun c => isDigit_of_mem_padded, ?_⟩
  · rw [toList_padded]
    exact List.append_ne_nil_of_right_ne_nil _ (toString_ne_nil n)
  · rw [toList_padded, decimalValue_zeros]

end Padded

/-! ## Dates -/

/-- Year, month and day between hyphens; the year has as many digits as are allowed, the others have two. -/
def readParts? (allowed : Nat → Bool) (s : List Char) : Option Date :=
  match splitAll '-' s with
  | [year, month, day] =>
    match readDigits? allowed year, readDigits? (· == 2) month, readDigits? (· == 2) day with
    | some year, some month, some day => some ⟨year, month, day⟩
    | _, _, _ => none
  | _ => none

instance (d : Date) : Decidable d.IsValid :=
  decidable_of_iff ((1 ≤ d.month ∧ d.month ≤ 12) ∧ 1 ≤ d.day ∧ d.day ≤ monthLength d.year d.month)
    ⟨fun h => ⟨h.1, h.2⟩, fun h => ⟨h.month, h.day⟩⟩

/-- Year, month and day; the year has four digits, or a sign and at least four digits. -/
def readSigned? : List Char → Option Date
  | '-' :: s => (readParts? (4 ≤ ·) s).map fun d => ⟨-d.year, d.month, d.day⟩
  | '+' :: s => readParts? (4 ≤ ·) s
  | s => readParts? (· == 4) s

/-- The date of the calendar that a text gives. -/
def read? (s : List Char) : Option Date := (readSigned? s).filter (decide ·.IsValid)

section Text

variable {d : Date}

theorem monthLength_le (year : Int) (month : Nat) : monthLength year month ≤ 31 := by
  unfold monthLength
  split
  · split <;> decide
  all_goals decide

theorem readParts?_padded (allowed : Nat → Bool) {year : Nat} (hd : d.IsValid)
    (hyear : allowed (padded 4 year).toList.length = true) :
    readParts? allowed
      ((padded 4 year).toList ++ '-' :: ((padded 2 d.month).toList ++ '-' :: (padded 2 d.day).toList)) =
      some ⟨year, d.month, d.day⟩ := by
  have hhyphen : ('-').isDigit = false := by decide
  have hparts : splitAll '-'
      ((padded 4 year).toList ++ '-' :: ((padded 2 d.month).toList ++ '-' :: (padded 2 d.day).toList)) =
      [(padded 4 year).toList, (padded 2 d.month).toList, (padded 2 d.day).toList] := by
    rw [splitAll_append_cons, splitAll_append_cons, splitAll_of_not_mem (not_mem_padded hhyphen),
      splitAll_of_not_mem (not_mem_padded hhyphen), splitAll_of_not_mem (not_mem_padded hhyphen)]
    rfl
  have hmonth : (padded 2 d.month).toList.length = 2 :=
    length_padded (by decide) (Nat.lt_of_le_of_lt hd.month.2 (by decide))
  have hday : (padded 2 d.day).toList.length = 2 :=
    length_padded (by decide) (Nat.lt_of_le_of_lt (hd.day.2.trans (monthLength_le _ _)) (by decide))
  rw [readParts?, hparts]
  simp only [readDigits?_padded allowed hyear, readDigits?_padded (· == 2) (beq_iff_eq.mpr hmonth),
    readDigits?_padded (· == 2) (beq_iff_eq.mpr hday)]

theorem readSigned?_of_isDigit {c : Char} {s : List Char} (hc : c.isDigit = true) :
    readSigned? (c :: s) = readParts? (· == 4) (c :: s) := by
  unfold readSigned?
  split
  · next heq =>
    obtain ⟨rfl, -⟩ := List.cons.inj heq
    cases hc
  · next heq =>
    obtain ⟨rfl, -⟩ := List.cons.inj heq
    cases hc
  · rfl

theorem toList_yearText_neg {year : Int} (h : year < 0) :
    (yearText year).toList = '-' :: (padded 4 year.natAbs).toList := by
  rw [yearText, if_neg (by omega), if_pos h, String.toList_append]
  rfl

theorem toList_yearText_late {year : Int} (h : 9999 < year) :
    (yearText year).toList = '+' :: (padded 4 year.natAbs).toList := by
  rw [yearText, if_neg (by omega), if_neg (by omega), String.toList_append]
  rfl

theorem readSigned?_toText (hd : d.IsValid) : readSigned? d.toText.toList = some d := by
  have htext : d.toText.toList =
      (yearText d.year).toList ++ '-' :: ((padded 2 d.month).toList ++ '-' :: (padded 2 d.day).toList) := by
    simp [toText]
  have hwide (n : Nat) : decide (4 ≤ (padded 4 n).toList.length) = true := decide_eq_true (le_length_padded 4 n)
  rw [htext]
  rcases Int.lt_or_le d.year 0 with hneg | hpos
  · rw [toList_yearText_neg hneg, List.cons_append, readSigned?, readParts?_padded (4 ≤ ·) hd (hwide _),
      Option.map_some, Int.ofNat_natAbs_of_nonpos (Int.le_of_lt hneg), Int.neg_neg]
  · rcases Int.lt_or_le 9999 d.year with hlate | hearly
    · rw [toList_yearText_late hlate, List.cons_append, readSigned?, readParts?_padded (4 ≤ ·) hd (hwide _),
        Int.natAbs_of_nonneg hpos]
    · have hlength : (padded 4 d.year.toNat).toList.length = 4 := length_padded (by decide) (by omega)
      have hread := readParts?_padded (· == 4) hd (beq_iff_eq.mpr hlength)
      obtain ⟨c, digits, hdigits⟩ := List.exists_cons_of_length_eq_add_one hlength
      have hc : c.isDigit = true := isDigit_of_mem_padded (hdigits ▸ List.mem_cons_self)
      rw [yearText, if_pos ⟨hpos, hearly⟩]
      rw [hdigits, List.cons_append] at hread ⊢
      rw [readSigned?_of_isDigit hc, hread, Int.toNat_of_nonneg hpos]

/-- **The text of a date gives the date**, whatever its year. -/
theorem read?_toText (hd : d.IsValid) : read? d.toText.toList = some d := by
  rw [read?, readSigned?_toText hd, Option.filter_some, if_pos (decide_eq_true hd)]

end Text

end PhraseFilter.Date
