import PhraseFilter.Proofs.Standard.Constants
import PhraseFilter.Report.Match
import PhraseFilter.Service.Address

/-!
# The fields that are looked at

* `Record.AgreeOn` : two records hold the same in some fields; `Record.restrict` : a record without its other fields,
  `Record.agreeOn_restrict` : it agrees with the record on those that are left;
* `Check.LooksAt` : a check looks at no other fields; `Reading.accepts_congr` : nor does a reading with such checks;
* `Standard.looksAt_check` : the standard checks look at two fields, `MatchRow.ofRecord?_congr` : a report at ten;
* `Standard.projectedFields_suffice` : **a record can be without every field that the service is not asked for**.
-/

namespace PhraseFilter

namespace Record

/-- The two records hold the same in each of the fields, or both lack it. -/
def AgreeOn (fields : List String) (a b : Record) : Prop := ∀ f ∈ fields, a.get? f = b.get? f

/-- The record without its other fields. -/
def restrict (fields : List String) (r : Record) : Record := ⟨r.fields.filter fun f => decide (f.1 ∈ fields)⟩

section Agree

variable {fields fields' : List String} {a b : Record}

theorem AgreeOn.mono (h : AgreeOn fields' a b) (hsub : fields ⊆ fields') : AgreeOn fields a b :=
  fun f hf => h f (hsub hf)

theorem AgreeOn.isTruthy (h : AgreeOn fields a b) {f : String} (hf : f ∈ fields) : a.isTruthy f = b.isTruthy f := by
  unfold Record.isTruthy
  rw [h f hf]

theorem AgreeOn.holds (h : AgreeOn fields a b) {f : String} (hf : f ∈ fields) (v : Value) :
    a.holds f v = b.holds f v := by
  unfold Record.holds
  rw [h f hf]

theorem agreeOn_restrict (fields : List String) (r : Record) : AgreeOn fields (r.restrict fields) r := by
  intro name hname
  have hfind : (fun f : String × Json => decide (decide (f.1 ∈ fields) = true ∧ (f.1 == name) = true)) =
      fun f => f.1 == name := by
    funext f
    rw [Bool.eq_iff_iff, decide_eq_true_iff, decide_eq_true_iff, and_iff_right_iff_imp]
    intro hf
    rwa [beq_iff_eq.mp hf]
  unfold get? Json.lookup restrict
  rw [List.find?_filter, hfind]

end Agree

end Record

/-! ## Checks -/

/-- The check looks at no other fields: records that agree on them pass it alike. -/
def Check.LooksAt (fields : List String) (check : Check) : Prop :=
  ∀ found a b, Record.AgreeOn fields a b → check found a = check found b

/-- Every check of the reading looks at no other fields. -/
def Reading.LooksAt (fields : List String) (r : Reading) : Prop :=
  ∀ f ∈ r.findings, ∀ check, f.clause.check = some check → Check.LooksAt fields check

namespace Reading

variable {fields : List String} {r : Reading} {a b : Record}

/-- Records that agree on the fields that the checks of a reading look at pass them alike. -/
theorem accepts_congr (hr : r.LooksAt fields) (h : Record.AgreeOn fields a b) : r.accepts a = r.accepts b := by
  have haccepts : ∀ f ∈ r.findings, f.accepts r.toFindings a = f.accepts r.toFindings b := by
    intro f hf
    unfold Finding.accepts
    cases f.value with
    | none => rfl
    | some v =>
        cases hcheck : f.clause.check with
        | none => rfl
        | some check => exact hr f hf check hcheck r.toFindings a b h
  unfold accepts
  rw [Bool.eq_iff_iff, List.all_eq_true, List.all_eq_true]
  exact forall₂_congr fun f hf => by rw [haccepts f hf]

theorem LooksAt.addConstants (hr : r.LooksAt fields) (constants : List (String × Value)) :
    (r.addConstants constants).LooksAt fields := by
  intro f hf check hcheck
  rw [findings_addConstants] at hf
  rcases List.mem_append.mp hf with hf | hf
  · exact hr f hf check hcheck
  · obtain ⟨c, -, rfl⟩ := List.mem_map.mp hf
    cases hcheck

/-- Leaving fields out that no check looks at changes no more of the kept records than that. -/
theorem keep_restrict (hr : r.LooksAt fields) (records : List Record) :
    r.keep (records.map (·.restrict fields)) = (r.keep records).map (·.restrict fields) := by
  have haccepts : r.accepts ∘ (·.restrict fields) = r.accepts := by
    funext record
    exact accepts_congr hr (record.agreeOn_restrict fields)
  rw [keep, keep, List.filter_map, haccepts]

end Reading

/-! ## Reports -/

namespace MatchRow

def fields : List String :=
  ["match_id", "player_slot", "radiant_win", "hero_id", "kills", "deaths", "assists", "lane_role", "is_roaming",
    "start_time"]

theorem ofRecord?_congr {a b : Record} (h : Record.AgreeOn fields a b) : ofRecord? a = ofRecord? b := by
  have hnumber : ∀ f ∈ fields, number? a f = number? b f := by
    intro f hf
    unfold number?
    rw [h f hf]
  have hscore : scoreOf? a = scoreOf? b := by
    unfold scoreOf?
    rw [hnumber "kills" (by decide), hnumber "deaths" (by decide), hnumber "assists" (by decide)]
  unfold ofRecord?
  rw [hscore, hnumber "match_id" (by decide), hnumber "player_slot" (by decide), hnumber "hero_id" (by decide),
    hnumber "lane_role" (by decide), h "radiant_win" (by decide), h "start_time" (by decide),
    h.isTruthy (f := "is_roaming") (by decide)]

end MatchRow

namespace Standard

/-- The fields that the checks look at. -/
def checkedFields : List String := [isRoaming, laneRole]

theorem looksAt_check {t : Topic} {check : Check} (h : t.check = some check) : Check.LooksAt checkedFields check := by
  intro found a b hagree
  have hroaming : a.isTruthy isRoaming = b.isTruthy isRoaming := hagree.isTruthy (by decide)
  have hlane : a.holds laneRole = b.holds laneRole := funext fun v => hagree.holds (by decide) v
  cases t with
  | lane =>
      cases h
      unfold laneCheck
      rw [hroaming, hlane]
  | roaming =>
      cases h
      exact hroaming
  | _ => cases h

theorem looksAt_of_parse {text : String} {r : Reading} (h : parse text = .ok r) : r.LooksAt checkedFields := by
  intro f hf check hcheck
  obtain ⟨t, ht⟩ := exists_topic_of_parse h hf
  rw [← ht] at hcheck
  exact looksAt_check hcheck

/-- **What the service is not asked for is not missed.** Records that agree on the fields of a request pass the checks
of a text alike, with any constants added, and have the same row in a report. So the same records are kept and the same
table is shown when all other fields are left out. -/
theorem projectedFields_suffice {text : String} {r : Reading} (h : parse text = .ok r)
    (constants : List (String × Value)) :
    (∀ a b, Record.AgreeOn Service.projectedFields a b →
      (r.addConstants constants).accepts a = (r.addConstants constants).accepts b ∧
      MatchRow.ofRecord? a = MatchRow.ofRecord? b) ∧
    ∀ records : List Record,
      (r.addConstants constants).keep (records.map (·.restrict Service.projectedFields)) =
        ((r.addConstants constants).keep records).map (·.restrict Service.projectedFields) ∧
      MatchRow.table (((r.addConstants constants).keep
          (records.map (·.restrict Service.projectedFields))).filterMap MatchRow.ofRecord?) =
        MatchRow.table (((r.addConstants constants).keep records).filterMap MatchRow.ofRecord?) := by
  have hchecked : checkedFields ⊆ Service.projectedFields := by decide
  have hreported : MatchRow.fields ⊆ Service.projectedFields := by decide
  have hr : (r.addConstants constants).LooksAt Service.projectedFields := by
    apply Reading.LooksAt.addConstants
    exact fun f hf check hcheck found a b hagree => looksAt_of_parse h f hf check hcheck found a b (hagree.mono hchecked)
  refine ⟨fun a b hagree => ⟨Reading.accepts_congr hr hagree, MatchRow.ofRecord?_congr (hagree.mono hreported)⟩,
    fun records => ⟨Reading.keep_restrict hr records, ?_⟩⟩
  have hrow : MatchRow.ofRecord? ∘ (·.restrict Service.projectedFields) = MatchRow.ofRecord? := by
    funext record
    exact MatchRow.ofRecord?_congr ((record.agreeOn_restrict _).mono hreported)
  rw [Reading.keep_restrict hr, List.filterMap_map, hrow]

/-- A text that asks for the middle lane, and a record with a field that nothing looks at. -/
theorem projectedFields_suffice_mid : ∃ r, parse "mid" = .ok r ∧
    Record.AgreeOn Service.projectedFields ⟨[("lane_role", .whole 2), ("version", .whole 21)]⟩ ⟨[("lane_role", .whole 2)]⟩ ∧
    (r.addConstants [("limit", .int 5)]).accepts ⟨[("lane_role", .whole 2), ("version", .whole 21)]⟩ =
      (r.addConstants [("limit", .int 5)]).accepts ⟨[("lane_role", .whole 2)]⟩ := by
  have haccepted : (parse "mid").toBool = true := by
    rw [parse_eq]
    decide +kernel
  obtain ⟨r, hr⟩ := exists_ok_of_toBool haccepted
  have hagree : Record.AgreeOn Service.projectedFields ⟨[("lane_role", .whole 2), ("version", .whole 21)]⟩
      ⟨[("lane_role", .whole 2)]⟩ := by
    exact fun f hf => (Record.agreeOn_restrict Service.projectedFields
      ⟨[("lane_role", .whole 2), ("version", .whole 21)]⟩ f hf).symm
  exact ⟨r, hr, hagree, ((projectedFields_suffice hr [("limit", .int 5)]).1 _ _ hagree).1⟩

end Standard

end PhraseFilter
