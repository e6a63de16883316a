import Mathlib.Algebra.Group.Nat.Defs
import PhraseFilter.Proofs.Span.Layout

/-!
# What is read as a time span

* `TimeSpan.exists_opening` : a row of openings takes one of its words from the start of a text, or nothing;
* `TimeSpan.readUnit?_eq_some` : what is read as a unit is one, with an "s" after it or nothing;
* `TimeSpan.parts?_eq_some_iff` : **a text has parts just when it is that of a time span**, and then they are its parts;
  `TimeSpan.IsCovered`, `TimeSpan.isSome_parts?_iff_covered` : that is, when the pattern of a time span, as it is written,
  covers it;
* `TimeSpan.read_eq_noValue_iff` : no other text has a value;
* `TimeSpan.Layout.IsSpan.read_eq` : the value of a phrase whose count is in ASCII digits, or why it has none;
* `TimeSpan.read_cases` : **the value of every text**.
-/

namespace PhraseFilter

open Text

namespace TimeSpan

/-! ## The parts of a text -/

/-- The pattern of a time span, as it is written, covers the whole of a text. -/
def IsCovered (m : List Char) : Prop := (Pattern.readWhole? source.toList).any (·.occursIn m.toArray) = true

section Parts

variable {ws : List String} {s m unit : List Char} {parts : Parts}

theorem exists_opening (ws : List String) (s : List Char) :
    ∃ v, s = v ++ dropOneOf ws s ∧ v.map fold ∈ ws.map (·.toList.map fold) ++ [[]] := by
  unfold dropOneOf
  cases hfound : ws.findSome? fun w => dropWord? w.toList s with
  | none => exact ⟨[], rfl, List.mem_append_right _ (List.mem_singleton.mpr rfl)⟩
  | some r =>
      obtain ⟨w, hw, hdrop⟩ := List.exists_of_findSome?_eq_some hfound
      obtain ⟨v, hs, hv⟩ := dropWord?_eq_some_iff.mp hdrop
      exact ⟨v, hs, List.mem_append_left _ (List.mem_map.mpr ⟨w, hw, hv.symm⟩)⟩

theorem readUnit?_eq_some (h : readUnit? s = some unit) : ∃ ending, s = unit ++ ending ∧
    unit.map fold ∈ ["day".toList, "week".toList, "month".toList, "year".toList] ∧ ending.map fold ∈ [['s'], []] := by
  have hnames : ∀ nd ∈ daysPerUnit,
      nd.1.toList.map fold ∈ ["day".toList, "week".toList, "month".toList, "year".toList] := by decide
  obtain ⟨nd, hnd, hread⟩ := List.exists_of_findSome?_eq_some h
  have hname := hnames nd hnd
  cases hdrop : dropWord? nd.1.toList s with
  | none => simp [hdrop] at hread
  | some rest =>
      obtain ⟨v, rfl, hv⟩ := dropWord?_eq_some_iff.mp hdrop
      rw [← hv] at hname
      cases rest with
      | nil =>
          dsimp only at hread
          rw [hdrop] at hread
          obtain rfl := Option.some.inj hread
          exact ⟨[], (List.append_nil _).symm, by rwa [List.append_nil], by decide⟩
      | cons c rest =>
          cases rest with
          | cons d rest => simp [hdrop] at hread
          | nil =>
              obtain ⟨hsame, rfl⟩ : sameFold 's' c = true ∧ v = unit := by simpa [hdrop] using hread
              have hfold : fold c = 's' := (beq_iff_eq.mp hsame).symm
              exact ⟨[c], rfl, hname, by simp [hfold]⟩

/-- **A text has parts just when it is that of a time span**, and then they are its parts. -/
theorem parts?_eq_some_iff : parts? m = some parts ↔
    ∃ l : Layout, l.IsSpan ∧ l.text = m ∧ parts = ⟨l.digits, l.unit⟩ := by
  constructor
  · intro h
    obtain ⟨first, hfirst, hin⟩ := exists_opening ["in ", "over "] m
    obtain ⟨second, hsecond, hthe⟩ := exists_opening ["the "] (dropOneOf ["in ", "over "] m)
    obtain ⟨third, hthird, hthis⟩ :=
      exists_opening ["this ", "last ", "past "] (dropOneOf ["the "] (dropOneOf ["in ", "over "] m))
    unfold parts? at h
    simp only [openings, List.foldl_cons, List.foldl_nil] at h
    generalize dropOneOf ["this ", "last ", "past "] (dropOneOf ["the "] (dropOneOf ["in ", "over "] m)) = core at *
    -- The space after a count is dropped if it is there, and without a count nothing is.
    obtain ⟨gap, hgap, hnil, hrest⟩ : ∃ gap, (gap = [' '] ∨ gap = []) ∧ (core.takeWhile isDigit = [] → gap = []) ∧
        ∃ rest, core.dropWhile isDigit = gap ++ rest ∧
          (readUnit? rest).map (fun unit => (⟨core.takeWhile isDigit, unit⟩ : Parts)) = some parts := by
      split at h
      · next heq => exact ⟨[' '], Or.inl rfl, fun hdigits => by simp [hdigits] at *, _, heq, h⟩
      · exact ⟨[], Or.inr rfl, fun _ => rfl, _, rfl, h⟩
    obtain ⟨rest, hdrop, hread⟩ := hrest
    obtain ⟨unit, hunit, rfl⟩ := Option.map_eq_some_iff.mp hread
    obtain ⟨ending, rfl, hname, hending⟩ := readUnit?_eq_some hunit
    refine ⟨⟨first, second, third, core.takeWhile isDigit, gap, unit, ending⟩, ?_, ?_, rfl⟩
    · exact ⟨hin, hthe, hthis, fun d hd => List.mem_takeWhile_imp hd, hgap, hnil, hname, hending⟩
    · have hcore : core = core.takeWhile isDigit ++ (gap ++ (unit ++ ending)) := by
        rw [← hdrop, List.takeWhile_append_dropWhile]
      rw [Layout.text, Layout.core, ← hcore, ← hthird, ← hsecond, ← hfirst]
  · rintro ⟨l, hl, rfl, rfl⟩
    exact hl.parts?_text

theorem isSome_parts?_iff : (parts? m).isSome = true ↔ ∃ l : Layout, l.IsSpan ∧ l.text = m := by
  rw [Option.isSome_iff_exists]
  constructor
  · rintro ⟨parts, h⟩
    obtain ⟨l, hl, htext, -⟩ := parts?_eq_some_iff.mp h
    exact ⟨l, hl, htext⟩
  · rintro ⟨l, hl, htext⟩
    exact ⟨_, parts?_eq_some_iff.mpr ⟨l, hl, htext, rfl⟩⟩

/-- **A text has parts just when the pattern, as it is written, covers it.** -/
theorem isSome_parts?_iff_covered : (parts? m).isSome = true ↔ IsCovered m := by
  rw [isSome_parts?_iff, IsCovered, readWhole?_source, Option.any_some, Pattern.occursIn_whole_iff (by decide),
    spells_phrase_iff]

end Parts

/-! ## The value of a text -/

section Values

variable {m : List Char} {label : String}

/-- **No other text has a value.** -/
theorem read_eq_noValue_iff : read label m = .error (.noValue label (String.ofList m)) ↔ ¬ IsCovered m := by
  rw [← isSome_parts?_iff_covered]
  constructor
  · intro h hparts
    obtain ⟨l, hl, rfl⟩ := isSome_parts?_iff.mp hparts
    obtain ⟨nd, hmem, hunit⟩ := hl.exists_unit
    rw [hl.read_text hmem hunit] at h
    unfold ofCount at h
    repeat' split at h
    all_goals cases h
  · intro hnone
    rw [Bool.not_eq_true, Option.isSome_eq_false_iff, Option.isNone_iff_eq_none] at hnone
    unfold read
    rw [hnone]

/-- The value of a phrase whose count is in ASCII digits, or why it has none: a count that is too large itself is told as
it is written. -/
theorem Layout.IsSpan.read_eq {l : Layout} (h : l.IsSpan) {name : String} {days : Nat}
    (hmem : (name, days) ∈ daysPerUnit) (hunit : l.unit.map fold = name.toList)
    (hascii : ∀ d ∈ l.digits, d.isDigit = true) (label : String) :
    read label l.text =
      if l.count * days ≤ maxDays then .ok ⟨l.count, days, l.count * days⟩
      else .error (.spanTooLong (if l.count ≤ maxDays then toString l.count else String.ofList l.digits) name) := by
  have hpos : ∀ nd ∈ daysPerUnit, 1 ≤ nd.2 := by decide
  have hdays := hpos _ hmem
  rw [h.read_text hmem hunit]
  by_cases hne : l.digits = []
  · have hcount : l.count = 1 := by simp [Layout.count, hne]
    rw [hcount, hne, if_pos (show 1 ≤ maxDays by decide)]
    rfl
  · have hcount : l.count = decimalValue l.digits := by simp [Layout.count, hne]
    have hempty : l.digits.isEmpty = false := by simpa using hne
    rw [hempty, if_neg Bool.false_ne_true]
    by_cases hle : l.count ≤ maxDays
    · rw [(countValue?_eq_some_iff hne).mpr ⟨hascii, hcount.symm, hle⟩, if_pos hle]
      rfl
    · have hnone : countValue? l.digits = none := by
        refine Option.eq_none_iff_forall_ne_some.mpr fun n hn => ?_
        obtain ⟨-, rfl, hn⟩ := (countValue?_eq_some_iff hne).mp hn
        exact hle (hcount ▸ hn)
      have hmany : ¬ l.count * days ≤ maxDays := fun hfit => hle (Nat.le_trans (Nat.le_mul_of_pos_right _ hdays) hfit)
      rw [hnone, if_neg hmany, if_neg hle]

end Values

/-- **The value of every text.** A text made of the parts of a time span, with a count in ASCII digits or none, stands for
the count of units and for so many days, or is refused if these are more than a signed 64-bit number can hold. No other
text stands for anything, and one without the parts of a time span is told to have no value: these are the texts that the
pattern of a time span, as it is written, does not cover. -/
theorem read_cases (label : String) (m : List Char) :
    (∀ l : Layout, l.IsSpan → l.text = m → (∀ d ∈ l.digits, d.isDigit = true) →
      ∀ name days, (name, days) ∈ daysPerUnit → l.unit.map fold = name.toList →
        (l.count * days ≤ 2 ^ 63 - 1 → read label m = .ok ⟨l.count, days, l.count * days⟩) ∧
        (2 ^ 63 - 1 < l.count * days → read label m = .error
          (.spanTooLong (if l.count ≤ 2 ^ 63 - 1 then toString l.count else String.ofList l.digits) name))) ∧
    (∀ s, read label m = .ok s → ∃ l : Layout, l.IsSpan ∧ l.text = m ∧ ∀ d ∈ l.digits, d.isDigit = true) ∧
    (read label m = .error (.noValue label (String.ofList m)) ↔ ¬ ∃ l : Layout, l.IsSpan ∧ l.text = m) ∧
    (IsCovered m ↔ ∃ l : Layout, l.IsSpan ∧ l.text = m) := by
  have hmax : maxDays = 2 ^ 63 - 1 := by decide
  have hcovered : IsCovered m ↔ ∃ l : Layout, l.IsSpan ∧ l.text = m :=
    isSome_parts?_iff_covered.symm.trans isSome_parts?_iff
  refine ⟨?_, fun s hs => ?_, read_eq_noValue_iff.trans (not_congr hcovered), hcovered⟩
  · rintro l hl rfl hascii name days hmem hunit
    have hread := hl.read_eq hmem hunit hascii label
    rw [hmax] at hread
    constructor
    · intro hfit
      rw [hread, if_pos hfit]
    · intro hmany
      rw [hread, if_neg (Nat.not_le.mpr hmany)]
  · obtain ⟨l, hl, rfl⟩ : ∃ l : Layout, l.IsSpan ∧ l.text = m := by
      by_contra hnone
      rw [read_eq_noValue_iff.mpr (mt hcovered.mp hnone)] at hs
      cases hs
    obtain ⟨nd, hmem, hunit⟩ := hl.exists_unit
    exact ⟨l, hl, rfl, ((hl.read_eq_ok_iff hmem hunit label).mp hs).1⟩

/-- Some weeks, in mixed case. -/
def someWeeks (digits : List Char) : Layout :=
  { first := "Over ".toList, second := "THE ".toList, third := "last ".toList, digits, gap := [' '],
    unit := "Week".toList, ending := ['S'] }

theorem isSpan_someWeeks {digits : List Char} (h : ∀ d ∈ digits, isDigit d = true) (hne : digits ≠ []) :
    (someWeeks digits).IsSpan where
  first := by show "Over ".toList.map fold ∈ _; decide
  second := by show "THE ".toList.map fold ∈ _; decide
  third := by show "last ".toList.map fold ∈ _; decide
  digits := h
  gap := Or.inl rfl
  gap_nil := fun hnil => absurd hnil hne
  unit := by show "Week".toList.map fold ∈ _; decide
  ending := by show ['S'].map fold ∈ _; decide

/-- Seven weeks with leading zeros; the first number of weeks with too many days; and what is not a time span. -/
theorem read_cases_weeks :
    read "date" "Over THE last 007 WeekS".toList = .ok ⟨7, 7, 49⟩ ∧
    read "date" "Over THE last 1317624576693539402 WeekS".toList =
      .error (.spanTooLong "1317624576693539402" "week") ∧
    read "date" "fortnight".toList = .error (.noValue "date" "fortnight") := by
  have hunit : (someWeeks []).unit.map fold = "week".toList := by decide
  have hweeks : ∀ digits : List Char, (digits.all fun d => isDigit d && d.isDigit) = true → digits ≠ [] →
      (someWeeks digits).IsSpan ∧ ∀ d ∈ digits, d.isDigit = true := by
    intro digits hall hne
    have hdigit : ∀ d ∈ digits, isDigit d = true ∧ d.isDigit = true := by simpa using hall
    exact ⟨isSpan_someWeeks (fun d hd => (hdigit d hd).1) hne, fun d hd => (hdigit d hd).2⟩
  obtain ⟨hseven, hseven'⟩ := hweeks "007".toList (by decide) (by decide)
  obtain ⟨hmany, hmany'⟩ := hweeks "1317624576693539402".toList (by decide) (by decide)
  refine ⟨?_, ?_, ?_⟩
  · exact ((read_cases "date" _).1 _ hseven (by decide) hseven' "week" 7 (by decide) hunit).1 (by decide)
  · exact ((read_cases "date" _).1 _ hmany (by decide) hmany' "week" 7 (by decide) hunit).2 (by decide)
  · refine (read_cases "date" _).2.2.1.mpr ?_
    rintro ⟨l, hl, htext⟩
    have hparts := parts?_eq_some_iff.mpr ⟨l, hl, htext, rfl⟩
    have hnone : parts? "fortnight".toList = none := by decide
    rw [hnone] at hparts
    cases hparts

end TimeSpan

end PhraseFilter
