import PhraseFilter.Proofs.Clause.Consistency
import PhraseFilter.Proofs.Filter.Composition
import PhraseFilter.Proofs.Standard.Language

/-!
# Time spans that are too long

* `Text.numeralValue` : the number that digits of any script stand for;
* `TimeSpan.Layout.days` : the days of a phrase by that number;
* `Topic.takeFrom_isOk`, `Standard.takeAll_isOk` : the clauses of the choices never fail;
* `Standard.spanPhrase?` : the phrase that is left for the time span, `Standard.exists_attempt` : the search fails when
  that phrase has no value;
* `Standard.resolve_span` : the phrases that have a value, and the value;
* `Standard.spanTooLong_iff` : **the texts that are refused for a time span**, and `Standard.spanTooLong_three_days` : one
  of them has three days.
-/

namespace PhraseFilter

open Text

/-! ## Numerals -/

/-- The value of a decimal digit of any script. Each script has its digits from zero to nine in a row. -/
def Text.digitValue (c : Char) : Nat :=
  if c.toNat < 0x80 then c.toNat - '0'.toNat
  else match digitRanges.find? fun r => r.1 ≤ c.toNat && c.toNat ≤ r.2 with
    | some r => (c.toNat - r.1) % 10
    | none => 0

/-- The number that decimal digits of any script stand for. -/
def Text.numeralValue (digits : List Char) : Nat := digits.foldl (fun n c => n * 10 + digitValue c) 0

theorem Text.numeralValue_of_ascii {digits : List Char} (h : ∀ d ∈ digits, d.isDigit = true) :
    numeralValue digits = decimalValue digits := by
  refine List.foldl_ext _ _ 0 fun n d hd => ?_
  have hascii : d.toNat < 0x80 := Nat.lt_of_le_of_lt (Char.isDigit_iff_toNat.mp (h d hd)).2 (by decide)
  rw [digitValue, if_pos hascii]

namespace TimeSpan.Layout

variable {l : Layout}

/-- The number of units, in the digits of any script, or one if there are none. -/
def numeral (l : Layout) : Nat := if l.digits.isEmpty then 1 else numeralValue l.digits

/-- The days of the phrase. -/
def days (l : Layout) : Nat := l.numeral * (unitDays? (String.ofList l.unit)).getD 0

theorem days_eq {name : String} {unitDays : Nat} (hmem : (name, unitDays) ∈ daysPerUnit)
    (hunit : l.unit.map fold = name.toList) (hascii : ∀ d ∈ l.digits, d.isDigit = true) :
    l.days = l.count * unitDays := by
  rw [days, (unitDays?_of_fold hmem hunit).2, numeral, numeralValue_of_ascii hascii]
  rfl

theorem IsSpan.days_of_parts (hl : l.IsSpan) {parts : Parts} (h : parts? l.text = some parts) :
    l.days = (if parts.digits.isEmpty then 1 else numeralValue parts.digits) *
      (unitDays? (String.ofList parts.unit)).getD 0 := by
  obtain rfl := Option.some.inj (hl.parts?_text.symm.trans h)
  rfl

end TimeSpan.Layout

namespace Standard

open TimeSpan

/-! ## Choices -/

section Choices

variable {t : Topic} {ts : List Topic}

/-- **The clause of a choice never fails**: what it takes is one of its sayings. -/
theorem Topic.takeFrom_isOk (ht : t ≠ .date) (s : Scan) : ∃ fs, t.clause.takeFrom s = .ok fs := by
  cases h : t.clause.takeFrom s with
  | ok fs => exact ⟨fs, rfl⟩
  | error e =>
      obtain ⟨p, m, -, hscan, htake, hresolve⟩ := Clause.takeFrom_error h
      obtain rfl : t.pattern.bounded = p := Option.some.inj (t.scan?_clause.symm.trans hscan)
      obtain ⟨x, hx, hm⟩ := (Topic.spells_iff ht).mp (Clause.spells_of_take t.isPlaceFree_pattern htake)
      rw [(Topic.resolve_eq_ok_iff ht).mpr ⟨x, hx, hm, rfl⟩] at hresolve
      cases hresolve

theorem takeAll_isOk (hts : .date ∉ ts) (s : Scan) :
    ∃ found left, Clause.takeAll (ts.map Topic.clause) s = (found, .ok left) := by
  induction ts generalizing s with
  | nil => exact ⟨[], s, rfl⟩
  | cons t ts ih =>
      rw [List.mem_cons, not_or] at hts
      obtain ⟨⟨f, s'⟩, hf⟩ := Topic.takeFrom_isOk (Ne.symm hts.1) s
      obtain ⟨found, left, hleft⟩ := ih hts.2 s'
      refine ⟨f :: found, left, ?_⟩
      rw [List.map_cons, Clause.takeAll, hf]
      simp only [hleft]

end Choices

/-! ## The phrase that is left for the time span -/

def Topic.choices : List Topic := [.win, .side, .lobby, .lane, .roaming]

/-- The phrase that the clause of the time span takes, after the other clauses have taken theirs. -/
def spanPhrase? (text : String) : Option (List Char) :=
  match Clause.takeAll (Topic.choices.map Topic.clause) (Scan.start text) with
  | (_, .ok s) => (s.take TimeSpan.pattern).1
  | (_, .error _) => none

section Spans

variable {text : String} {m : List Char} {l : Layout} {s s' : Scan} {f : Finding} {e : PhraseError}

/-- The search of a text is that for a time span in what the choices leave, and ends with it. -/
theorem exists_attempt (text : String) : ∃ found left, found.map (·.clause) = Topic.choices.map Topic.clause ∧
    spanPhrase? text = (left.take TimeSpan.pattern).1 ∧
    (∀ f left', Topic.date.clause.takeFrom left = .ok (f, left') →
      Filter.attempt ⟨Topic.all.map Topic.clause⟩ text = (found ++ [f], .ok left')) ∧
    ∀ e, Topic.date.clause.takeFrom left = .error e →
      Filter.attempt ⟨Topic.all.map Topic.clause⟩ text = (found, .error e) := by
  obtain ⟨found, left, hchoices⟩ := takeAll_isOk (show Topic.date ∉ Topic.choices by decide) (Scan.start text)
  have hall : Filter.attempt ⟨Topic.all.map Topic.clause⟩ text =
      (found ++ (Clause.takeAll [Topic.date.clause] left).1, (Clause.takeAll [Topic.date.clause] left).2) :=
    Clause.takeAll_append_of_ok hchoices
  refine ⟨found, left, Clause.takeAll_clauses hchoices, by rw [spanPhrase?, hchoices], fun f left' h => ?_, fun e h => ?_⟩
  · rw [hall, Clause.takeAll, h]
    rfl
  · rw [hall, Clause.takeAll, h, List.append_nil]

/-- What is left for the time span is the text of a layout. -/
theorem exists_layout (h : (s.take TimeSpan.pattern).1 = some m) :
    ∃ l : Layout, l.IsSpan ∧ l.text = m ∧ s.take TimeSpan.phrase.bounded = (some m, (s.take TimeSpan.phrase.bounded).2) := by
  rw [TimeSpan.pattern_eq] at h
  have htake : s.take TimeSpan.phrase.bounded = (some m, (s.take TimeSpan.phrase.bounded).2) := Prod.ext h rfl
  obtain ⟨l, hl, htext⟩ := spells_phrase_iff.mp (Clause.spells_of_take (by decide) htake)
  exact ⟨l, hl, htext, htake⟩

/-- **The phrases that have a value**: the count is in ASCII digits, and the days are not too many. -/
theorem resolve_span (hl : l.IsSpan) {v : Value} : Topic.date.clause.resolve l.text = .ok v ↔
    (∀ d ∈ l.digits, d.isDigit = true) ∧ l.days ≤ maxDays ∧ v = .int l.days := by
  obtain ⟨⟨name, unitDays⟩, hmem, hunit⟩ := hl.exists_unit
  rw [resolve_date hl hmem hunit]
  refine and_congr_right fun hascii => ?_
  rw [Layout.days_eq hmem hunit hascii]

/-- The clause of the time span takes the phrase that is left for it, with its value, or fails. -/
theorem takeFrom_date (h : (s.take TimeSpan.pattern).1 = some m) :
    Topic.date.clause.takeFrom s = (Topic.date.clause.resolve m).map fun v =>
      ({ clause := Topic.date.clause, phrase := some m, value := some v }, (s.take TimeSpan.pattern).2) := by
  have htake : s.take TimeSpan.pattern = (some m, (s.take TimeSpan.pattern).2) := Prod.ext h rfl
  have hscan : Topic.date.clause.scan? = some TimeSpan.pattern := rfl
  unfold Clause.takeFrom
  rw [Topic.constant?_clause, hscan]
  dsimp only
  rw [htake]
  dsimp only
  cases Topic.date.clause.resolve m <;> rfl

theorem value?_date {found : List Finding} (hfound : found.map (·.clause) = Topic.choices.map Topic.clause)
    (hf : f.clause = Topic.date.clause) : Reading.value? ⟨found ++ [f]⟩ date = f.value := by
  have hothers : ∀ t ∈ Topic.choices, t.clause.label ≠ date := by decide
  have hnone : (found.map fun f => (f.clause.label, f.value)).find? (·.1 == date) = none := by
    refine List.find?_eq_none.mpr fun entry hentry => ?_
    obtain ⟨g, hg, rfl⟩ := List.mem_map.mp hentry
    have hclause : g.clause ∈ Topic.choices.map Topic.clause := hfound ▸ List.mem_map_of_mem hg
    obtain ⟨t, ht, hlabel⟩ := List.mem_map.mp hclause
    rw [beq_iff_eq, ← hlabel]
    exact hothers t ht
  have hlabel : f.clause.label = date := by rw [hf]; rfl
  unfold Reading.value? Reading.toFindings Findings.value?
  rw [List.map_append, List.find?_append, hnone, List.map_singleton, List.find?_singleton, hlabel]
  rfl

theorem exists_value_date (hl : l.IsSpan) (hphrase : spanPhrase? text = some l.text)
    (hascii : ∀ d ∈ l.digits, d.isDigit = true) (hfit : l.days ≤ maxDays) :
    ∃ found left, Filter.attempt ⟨Topic.all.map Topic.clause⟩ text = (found, .ok left) ∧
      Reading.value? ⟨found⟩ date = some (.int l.days) := by
  obtain ⟨found, left, hfound, hspan, hok, -⟩ := exists_attempt text
  have hdate := takeFrom_date (hspan.symm.trans hphrase)
  rw [(resolve_span hl).mpr ⟨hascii, hfit, rfl⟩] at hdate
  exact ⟨_, _, hok _ _ hdate, value?_date hfound rfl⟩

theorem exists_spanTooLong (hl : l.IsSpan) (hphrase : spanPhrase? text = some l.text)
    (hnot : ¬ ((∀ d ∈ l.digits, d.isDigit = true) ∧ l.days ≤ maxDays)) :
    ∃ count unit, parse text = .error (.spanTooLong count unit) := by
  obtain ⟨found, left, -, hspan, -, herror⟩ := exists_attempt text
  have hphrase := hspan.symm.trans hphrase
  have hdate := takeFrom_date hphrase
  cases hv : Topic.date.clause.resolve l.text with
  | ok v =>
      obtain ⟨hascii, hfit, -⟩ := (resolve_span hl).mp hv
      exact absurd ⟨hascii, hfit⟩ hnot
  | error e =>
      -- What a declared clause takes can have no other fault.
      obtain ⟨-, -, -, htake⟩ := exists_layout hphrase
      obtain ⟨count, unit, rfl⟩ := (declared_clause .date).resolve_taken (Topic.scan?_clause .date) htake hv
      rw [hv] at hdate
      refine ⟨count, unit, ?_⟩
      rw [parse_eq]
      exact Filter.parse_of_attempt_error (herror _ hdate)

theorem exists_layout_of_spanTooLong {count unit : String} (h : parse text = .error (.spanTooLong count unit)) :
    ∃ l : Layout, l.IsSpan ∧ spanPhrase? text = some l.text ∧
      ¬ ((∀ d ∈ l.digits, d.isDigit = true) ∧ l.days ≤ maxDays) := by
  rw [parse_eq] at h
  obtain ⟨found', hattempt⟩ := Filter.attempt_of_error h nofun
  obtain ⟨found, left, -, hspan, hok, -⟩ := exists_attempt text
  cases hdate : Topic.date.clause.takeFrom left with
  | ok fs =>
      rw [hok fs.1 fs.2 hdate] at hattempt
      cases hattempt
  | error e =>
      obtain ⟨p, m, -, hscan, htake, hv⟩ := Clause.takeFrom_error hdate
      obtain rfl : TimeSpan.pattern = p := Option.some.inj hscan
      have hphrase : (left.take TimeSpan.pattern).1 = some m := congrArg Prod.fst htake
      obtain ⟨l, hl, rfl, -⟩ := exists_layout hphrase
      refine ⟨l, hl, hspan.trans hphrase, ?_⟩
      rintro ⟨hascii, hfit⟩
      rw [(resolve_span hl).mpr ⟨hascii, hfit, rfl⟩] at hv
      cases hv

end Spans

/-- **The texts that are refused for a time span** are those with a phrase, left by the other clauses, whose count is not
in ASCII digits or whose days are too many. Every other such phrase has its days for value. -/
theorem spanTooLong_iff (text : String) :
    ((∃ count unit, parse text = .error (.spanTooLong count unit)) ↔
      ∃ l : Layout, l.IsSpan ∧ spanPhrase? text = some l.text ∧
        ((∃ d ∈ l.digits, d.isDigit = false) ∨ maxDays < l.days)) ∧
    ∀ l : Layout, l.IsSpan → spanPhrase? text = some l.text → (∀ d ∈ l.digits, d.isDigit = true) → l.days ≤ maxDays →
      ∃ found left, Filter.attempt ⟨Topic.all.map Topic.clause⟩ text = (found, .ok left) ∧
        Reading.value? ⟨found⟩ date = some (.int l.days) := by
  have hnot : ∀ l : Layout, ¬ ((∀ d ∈ l.digits, d.isDigit = true) ∧ l.days ≤ maxDays) ↔
      (∃ d ∈ l.digits, d.isDigit = false) ∨ maxDays < l.days := by
    intro l
    rw [not_and_or, Nat.not_le]
    simp only [not_forall, Bool.not_eq_true, exists_prop]
  refine ⟨⟨?_, ?_⟩, fun l hl hphrase => exists_value_date hl hphrase⟩
  · rintro ⟨count, unit, h⟩
    obtain ⟨l, hl, hphrase, hbad⟩ := exists_layout_of_spanTooLong h
    exact ⟨l, hl, hphrase, (hnot l).mp hbad⟩
  · rintro ⟨l, hl, hphrase, hbad⟩
    exact exists_spanTooLong hl hphrase ((hnot l).mpr hbad)

set_option maxRecDepth 20000 in
/-- Three days in Arabic-Indic digits are refused for being too long. -/
theorem spanTooLong_three_days :
    parse "٣ days" = .error (.spanTooLong "٣" "day") ∧ spanPhrase? "٣ days" = some "٣ days".toList ∧
      (∀ l : Layout, l.IsSpan → l.text = "٣ days".toList → l.days = 3) ∧ 3 ≤ maxDays := by
  refine ⟨by rw [parse_eq]; rfl, by decide +kernel, fun l hl htext => ?_, by decide⟩
  have hparts : parts? l.text = some ⟨['٣'], "day".toList⟩ := by
    rw [htext]
    decide +kernel
  rw [hl.days_of_parts hparts]
  decide +kernel

end Standard

end PhraseFilter
