import PhraseFilter.Proofs.Filter.Constants
import PhraseFilter.Proofs.Filter.Search
import PhraseFilter.Proofs.Standard.Topic

/-!
# Constants beside the clauses of a text

* `Reading.labels` : what the clauses of a reading are called, `Reading.value?_addConstants` : each label keeps its value,
  whatever constants are added and whatever these are called;
* `Check.AsksFor` : a check asks for the values of no other labels; `Reading.accepts_addConstants` : a reading whose checks
  ask for its own labels accepts the same records with constants;
* `Standard.asksFor_check` : the standard checks ask for two labels, `Standard.labels_of_parse` : which every reading has;
* `Standard.addConstants_of_parse` : **constants extend the query of a text and nothing else**.
-/

namespace PhraseFilter

/-- The check asks for the values of no other labels: where findings agree on them, records pass it alike. -/
def Check.AsksFor (labels : List String) (check : Check) : Prop :=
  ∀ found found' : Findings, (∀ label ∈ labels, found.value? label = found'.value? label) → check found = check found'

namespace Reading

def labels (r : Reading) : List String := r.findings.map (·.clause.label)

/-- Every check of the reading asks for labels of the reading alone. -/
def AsksForOwn (r : Reading) : Prop :=
  ∀ f ∈ r.findings, ∀ check, f.clause.check = some check → check.AsksFor r.labels

section Constants

variable {r : Reading} {cs : List (String × Value)} {label : String}

/-- The first clause with a label decides its value, and constants come last. -/
theorem value?_addConstants (h : label ∈ r.labels) : (r.addConstants cs).value? label = r.value? label := by
  have hfound : ((r.findings.map fun f => (f.clause.label, f.value)).find? (·.1 == label)).isSome = true := by
    obtain ⟨f, hf, rfl⟩ := List.mem_map.mp h
    exact List.find?_isSome.mpr ⟨_, List.mem_map_of_mem hf, beq_self_eq_true _⟩
  unfold value? Findings.value? toFindings
  rw [findings_addConstants, List.map_append, List.find?_append, Option.or_of_isSome hfound]

/-- **Constants change nothing for records**, if the checks ask for labels of the reading alone. -/
theorem accepts_addConstants (h : r.AsksForOwn) (record : Record) :
    (r.addConstants cs).accepts record = r.accepts record := by
  have hfinding : ∀ f ∈ r.findings,
      f.accepts (r.addConstants cs).toFindings record = f.accepts r.toFindings record := by
    intro f hf
    unfold Finding.accepts
    cases f.value with
    | none => rfl
    | some v =>
        cases hcheck : f.clause.check with
        | none => rfl
        | some check =>
            show check _ record = check _ record
            rw [h f hf check hcheck _ r.toFindings fun label hlabel => value?_addConstants hlabel]
  -- A constant has no check of its own.
  have hconstants : ((cs.map Finding.ofConstant).all fun f => f.accepts (r.addConstants cs).toFindings record) = true := by
    rw [List.all_map]
    exact List.all_eq_true.mpr fun _ _ => rfl
  unfold accepts
  rw [findings_addConstants, List.all_append, hconstants, Bool.and_true, Bool.eq_iff_iff, List.all_eq_true,
    List.all_eq_true]
  exact forall₂_congr fun f hf => by rw [hfinding f hf]

end Constants

end Reading

/-! ## The standard filter -/

namespace Standard

variable {text : String} {r : Reading}

theorem clauses_of_parse (h : parse text = .ok r) : r.findings.map (·.clause) = Topic.all.map Topic.clause := by
  rw [parse_eq] at h
  obtain ⟨left, hattempt, -⟩ := Filter.parse_ok h
  exact Clause.takeAll_clauses hattempt

theorem exists_topic_of_parse (h : parse text = .ok r) {f : Finding} (hf : f ∈ r.findings) :
    ∃ t : Topic, t.clause = f.clause := by
  have hmem : f.clause ∈ Topic.all.map Topic.clause := clauses_of_parse h ▸ List.mem_map_of_mem hf
  obtain ⟨t, -, ht⟩ := List.mem_map.mp hmem
  exact ⟨t, ht⟩

theorem labels_of_parse (h : parse text = .ok r) : r.labels = Topic.all.map Topic.label := by
  have hlabels := congrArg (List.map Clause.label) (clauses_of_parse h)
  rwa [List.map_map, List.map_map] at hlabels

/-- The check of the lane asks whether roaming is asked for, and for the lane; that of roaming asks for nothing. -/
theorem asksFor_check {t : Topic} {check : Check} (h : t.check = some check) : check.AsksFor [roaming, laneRole] := by
  intro found found' hagree
  have hroaming : found.value? roaming = found'.value? roaming := hagree _ (by decide)
  have hlane : found.value? laneRole = found'.value? laneRole := hagree _ (by decide)
  cases t with
  | lane =>
      cases h
      unfold laneCheck Findings.isResolved
      rw [hroaming, hlane]
  | roaming =>
      cases h
      rfl
  | _ => cases h

theorem asksForOwn_of_parse (h : parse text = .ok r) : r.AsksForOwn := by
  intro f hf check hcheck
  obtain ⟨t, ht⟩ := exists_topic_of_parse h hf
  rw [← ht] at hcheck
  have hown : [roaming, laneRole] ⊆ r.labels := by
    rw [labels_of_parse h]
    decide
  exact fun found found' hagree => asksFor_check hcheck found found' fun label hlabel => hagree label (hown hlabel)

/-- **Constants extend the query of a text and nothing else**, whatever they are called. The same records are accepted
and kept, the six labels have the same values, the query goes on with the constants in their order, and with a constant
it is no longer a reading that asks for nothing. -/
theorem addConstants_of_parse (h : parse text = .ok r) (cs : List (String × Value)) :
    (∀ record, (r.addConstants cs).accepts record = r.accepts record) ∧
    (∀ records, (r.addConstants cs).keep records = r.keep records) ∧
    (∀ label ∈ [win, isRadiant, lobbyType, laneRole, roaming, date], (r.addConstants cs).value? label = r.value? label) ∧
    (r.addConstants cs).query =
      "&".intercalate ((if r.query = "" then [] else [r.query]) ++ cs.map fun c => c.1 ++ "=" ++ c.2.toText) ∧
    (cs ≠ [] → (r.addConstants cs).isUnfiltered = false) := by
  have haccepts : (r.addConstants cs).accepts = r.accepts := by
    funext record
    exact Reading.accepts_addConstants (asksForOwn_of_parse h) record
  refine ⟨congrFun haccepts, fun records => ?_, fun label hlabel => ?_, Reading.query_addConstants r cs, fun hne => ?_⟩
  · rw [Reading.keep, haccepts, Reading.keep]
  · apply Reading.value?_addConstants
    rw [labels_of_parse h]
    exact hlabel
  · rw [Reading.isUnfiltered_addConstants]
    cases cs with
    | nil => exact absurd rfl hne
    | cons c cs => exact Bool.and_false _

/-- Constants with the labels of the two checks: the text asks for the middle lane and not for roaming. -/
theorem addConstants_of_parse_mid : ∃ r, parse "mid" = .ok r ∧
    (r.addConstants [("roaming", .bool true), ("lane_role", .int 4)]).accepts ⟨[("lane_role", .whole 2)]⟩ =
      r.accepts ⟨[("lane_role", .whole 2)]⟩ ∧
    (r.addConstants [("roaming", .bool true), ("lane_role", .int 4)]).value? "roaming" = r.value? "roaming" ∧
    (r.addConstants [("roaming", .bool true), ("lane_role", .int 4)]).isUnfiltered = false := by
  have haccepted : (parse "mid").toBool = true := by
    rw [parse_eq]
    decide +kernel
  obtain ⟨r, hr⟩ := exists_ok_of_toBool haccepted
  obtain ⟨haccepts, -, hvalue, -, hunfiltered⟩ :=
    addConstants_of_parse hr [("roaming", .bool true), ("lane_role", .int 4)]
  exact ⟨r, hr, haccepts _, hvalue _ (by decide), hunfiltered (List.cons_ne_nil _ _)⟩

end Standard

end PhraseFilter
