import PhraseFilter.Filter.Basic

/-!
# What a reading asks of the service

* `Reading.addConstants` : a reading with more values for the request, `Reading.findings_addConstants` : they come last;
* `Reading.assignments` : the parameters of a reading with their values, in the order of the clauses;
* `Reading.query_eq` : the query writes the assignments and nothing else;
* `Reading.assignments_addConstants`, `Reading.isUnfiltered_addConstants` : what constants add;
* `Reading.query_addConstants` : the query with constants is the one without, if that is not empty, and then the constants.
-/

namespace PhraseFilter

/-- Parameter and value of a clause that has both. -/
def Finding.assignment? (f : Finding) : Option (String × Value) :=
  match f.clause.parameter, f.value with
  | some name, some value => some (name, value)
  | _, _ => none

/-- What a constant finds: its value, in any text. -/
def Finding.ofConstant (c : String × Value) : Finding := { clause := .constant c.1 c.2, value := some c.2 }

namespace Reading

def addConstants (r : Reading) (cs : List (String × Value)) : Reading :=
  cs.foldl (fun r c => r.addConstant c.1 c.2) r

def assignments (r : Reading) : List (String × Value) := r.findings.filterMap Finding.assignment?

/-- A parameter and its value as they stand in a query. -/
def argumentText (a : String × Value) : String := a.1 ++ "=" ++ a.2.toText

section Constants

variable (r : Reading) (cs : List (String × Value))

theorem findings_addConstants : (r.addConstants cs).findings = r.findings ++ cs.map Finding.ofConstant := by
  induction cs generalizing r with
  | nil => exact (List.append_nil r.findings).symm
  | cons c cs ih =>
      show ((r.addConstant c.1 c.2).addConstants cs).findings = _
      rw [ih, List.map_cons, List.append_cons]
      rfl

theorem argument?_eq (f : Finding) : f.argument? = f.assignment?.map argumentText := by
  unfold Finding.argument? Finding.assignment?
  cases f.clause.parameter with
  | none => rfl
  | some name => cases f.value <;> rfl

/-- **The query writes the assignments and nothing else.** -/
theorem query_eq : r.query = "&".intercalate (r.assignments.map argumentText) := by
  have harguments : Finding.argument? = fun f => f.assignment?.map argumentText := funext argument?_eq
  rw [query, assignments, List.map_filterMap, harguments]

theorem assignments_addConstants : (r.addConstants cs).assignments = r.assignments ++ cs := by
  have hconstants : (cs.map Finding.ofConstant).filterMap Finding.assignment? = cs := by
    rw [List.filterMap_map]
    exact List.filterMap_some
  rw [assignments, findings_addConstants, List.filterMap_append, hconstants]
  rfl

theorem isUnfiltered_addConstants : (r.addConstants cs).isUnfiltered = (r.isUnfiltered && cs.isEmpty) := by
  rw [isUnfiltered, findings_addConstants, List.all_append, List.all_map]
  cases cs <;> rfl

theorem argumentText_ne_empty (a : String × Value) : argumentText a ≠ "" := by
  intro h
  have hsign : '=' ∈ (argumentText a).toList := by simp [argumentText]
  rw [h] at hsign
  cases hsign

theorem query_eq_empty_iff : r.query = "" ↔ r.assignments = [] := by
  rw [query_eq]
  cases r.assignments with
  | nil => simp
  | cons a rest =>
      cases rest with
      | nil => simpa using argumentText_ne_empty a
      | cons b rest =>
          rw [List.map_cons, List.map_cons, String.intercalate_cons_cons]
          simp [String.append_eq_empty_iff]

/-- **The query with constants** is the one without them, unless that is empty, and then the constants in their order. -/
theorem query_addConstants : (r.addConstants cs).query =
    "&".intercalate ((if r.query = "" then [] else [r.query]) ++ cs.map argumentText) := by
  rw [query_eq, assignments_addConstants, List.map_append]
  by_cases h : r.assignments = []
  · rw [if_pos ((query_eq_empty_iff r).mpr h), h, List.map_nil]
  · rw [if_neg (mt (query_eq_empty_iff r).mp h), query_eq]
    have hne : r.assignments.map argumentText ≠ [] := mt List.map_eq_nil_iff.mp h
    cases cs with
    | nil => simp
    | cons c cs =>
        rw [List.map_cons, String.intercalate_append_of_ne_nil hne (List.cons_ne_nil _ _), List.singleton_append,
          String.intercalate_cons_cons]

end Constants

end Reading

end PhraseFilter
