import PhraseFilter.Proofs.Report.DateText
import PhraseFilter.Report.Match

/-!
# The date of a match

* `Date.ofTimestamp?_eq_some_iff` : the times that have a date which is told;
* `MatchRow.ofRecord?_of_agree` : records that differ in the start of the match alone have rows that differ in the date
  alone;
* `MatchRow.date_of_ofRecord?` : **the date of a row is that of the day on which the match began**.
-/

namespace PhraseFilter

namespace Date

theorem ofTimestamp?_eq_some_iff {ts : Int} {d : Date} :
    ofTimestamp? ts = some d ↔
      (d.IsValid ∧ d.dayNumber = ts.fdiv secondsPerDay) ∧ minYear ≤ d.year ∧ d.year ≤ maxYear := by
  rw [ofTimestamp?, Option.ite_none_right_eq_some, Option.some.injEq]
  constructor
  · rintro ⟨hyear, rfl⟩
    exact ⟨dayNumber_ofDay _, hyear⟩
  · rintro ⟨hd, hyear⟩
    rw [ofDay_eq_iff.mpr hd]
    exact ⟨hyear, rfl⟩

end Date

namespace MatchRow

def dateOf? (r : Record) : Option Date := ((r.get? "start_time").bind Json.signed?).bind Date.ofTimestamp?

/-- Records that differ in the start of the match alone have rows that differ in the date alone. -/
theorem ofRecord?_of_agree {r r' : Record} (h : ∀ field, field ≠ "start_time" → r'.get? field = r.get? field) :
    ofRecord? r' = (ofRecord? r).map fun row => { row with date := dateOf? r' } := by
  have hnumber : ∀ field, field ≠ "start_time" → number? r' field = number? r field := by
    intro field hfield
    unfold number?
    rw [h field hfield]
  have hscore : scoreOf? r' = scoreOf? r := by
    unfold scoreOf?
    rw [hnumber "kills" (by decide), hnumber "deaths" (by decide), hnumber "assists" (by decide)]
  have hroaming : r'.isTruthy "is_roaming" = r.isTruthy "is_roaming" := by
    unfold Record.isTruthy
    rw [h "is_roaming" (by decide)]
  unfold ofRecord?
  rw [hscore, hroaming, hnumber "match_id" (by decide), hnumber "player_slot" (by decide), hnumber "hero_id" (by decide),
    hnumber "lane_role" (by decide), h "radiant_win" (by decide), Option.map_map]
  rfl

/-- **The date of a row is that of the day on which the match began**, counted from 1970-01-01 and rounded down, which
is one date of the calendar and no other; its text gives the date again. Only a date whose year is out of range is not
told, and none is told without a time. The time of the match tells nothing but the date. -/
theorem date_of_ofRecord? {r : Record} {id : Nat} (hid : number? r "match_id" = some id) :
    ∃ row, ofRecord? r = some row ∧ row.matchId = id ∧
      (∀ ts, (r.get? "start_time").bind Json.signed? = some ts →
        ∃ d : Date, (∀ d' : Date, d'.IsValid ∧ d'.dayNumber = ts.fdiv 86400 ↔ d' = d) ∧
          row.date = (if -262143 ≤ d.year ∧ d.year ≤ 262142 then some d else none) ∧
          Date.read? d.toText.toList = some d) ∧
      ((r.get? "start_time").bind Json.signed? = none → row.date = none) ∧
      ∀ r' : Record, (∀ field, field ≠ "start_time" → r'.get? field = r.get? field) →
        ∃ date, ofRecord? r' = some { row with date } := by
  obtain ⟨row, hrow, hmatch⟩ : ∃ row, ofRecord? r = some row ∧ row.matchId = id := by
    rw [ofRecord?, hid]
    exact ⟨_, rfl, rfl⟩
  have hdate : row.date = dateOf? r := by
    have hself : ofRecord? r = (ofRecord? r).map fun row => { row with date := dateOf? r } :=
      ofRecord?_of_agree fun _ _ => rfl
    rw [hrow, Option.map_some, Option.some.injEq] at hself
    rw [hself]
  refine ⟨row, hrow, hmatch, fun ts hts => ?_, fun hnone => ?_, fun r' hr' => ⟨dateOf? r', ?_⟩⟩
  · have hday := Date.dayNumber_ofDay (ts.fdiv 86400)
    refine ⟨Date.ofDay (ts.fdiv 86400), fun d' => Date.ofDay_eq_iff.symm.trans eq_comm, ?_, Date.read?_toText hday.1⟩
    rw [hdate, dateOf?, hts]
    rfl
  · rw [hdate, dateOf?, hnone]
    rfl
  · rw [ofRecord?_of_agree hr', hrow]
    rfl

/-- A match of the leap day of year 0, long before the days that are counted begin. -/
theorem date_of_ofRecord?_early :
    number? ⟨[("match_id", .whole 8), ("start_time", .whole (-62162121595))]⟩ "match_id" = some 8 ∧
    ∃ row, ofRecord? ⟨[("match_id", .whole 8), ("start_time", .whole (-62162121595))]⟩ = some row ∧
      row.date = some ⟨0, 2, 29⟩ ∧ row.date.map Date.toText = some "0000-02-29" := by
  have hid : number? ⟨[("match_id", .whole 8), ("start_time", .whole (-62162121595))]⟩ "match_id" = some 8 := by decide
  refine ⟨hid, ?_⟩
  obtain ⟨row, hrow, -, hdate, -⟩ := date_of_ofRecord? hid
  obtain ⟨d, honly, htold, -⟩ := hdate (-62162121595) (by decide)
  obtain rfl := (honly ⟨0, 2, 29⟩).mp (by decide)
  refine ⟨row, hrow, htold, ?_⟩
  rw [htold]
  decide

end MatchRow

end PhraseFilter
