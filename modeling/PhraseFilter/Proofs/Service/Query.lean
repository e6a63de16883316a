import PhraseFilter.Proofs.Filter.Constants
import PhraseFilter.Proofs.Service.Address
import PhraseFilter.Proofs.Text.Decimal

/-!
# What the service is asked by a reading

* `Service.ownParameters` : the parameters that every request for matches has;
* `Service.spill` : the parameters that one value of a reading turns into, `Service.parameters_query` : those of its query;
* `Service.flatMap_spill_eq_iff` : **values stay one parameter each unless one is a text with an ampersand**;
* `Service.playerAddress_ne_matchesAddress` : the two kinds of addresses differ;
* `Service.read_readingAddress` : **the address for a reading says what the values of the reading turn into**.
-/

namespace PhraseFilter

namespace Service

open Text

/-- The parameters that every request for matches has: the fields of the records, and the key. -/
def ownParameters (s : Service) : List Parameter :=
  projectedFields.map (fun f => ("project".toList, some f.toList)) ++
    (s.apiKey.map fun key => ("api_key".toList, some key.toList)).toList

/-- The parameter that stands for a value of a reading. -/
def parameterOf (a : String × Value) : Parameter := (a.1.toList, some a.2.toText.toList)

/-- The parameters that a value of a reading turns into: the value up to its first ampersand, and each later piece that
is not empty as a parameter of its own. -/
def spill (a : String × Value) : List Parameter :=
  match splitAll '&' a.2.toText.toList with
  | [] => []
  | first :: more => (a.1.toList, some first) :: (more.filter (!·.isEmpty)).map splitArgument

/-- Does the name of a parameter stand for itself in a query? -/
def IsPlainName (name : String) : Prop := '&' ∉ name.toList ∧ '=' ∉ name.toList

section Query

variable {a : String × Value} {assignments : List (String × Value)} {r : Reading}

theorem toList_argumentText (a : String × Value) :
    (Reading.argumentText a).toList = a.1.toList ++ '=' :: a.2.toText.toList := by
  unfold Reading.argumentText
  rw [String.toList_append, String.toList_append, List.append_assoc]
  rfl

/-- The pieces of one argument: the name stands in the first one. -/
theorem pieces_argumentText (h : IsPlainName a.1) :
    ((splitAll '&' (Reading.argumentText a).toList).filter (!·.isEmpty)).map splitArgument = spill a := by
  have hname : '&' ∉ a.1.toList ++ ['='] := by
    rw [List.mem_append, List.mem_singleton, not_or]
    exact ⟨h.1, by decide⟩
  rw [toList_argumentText, List.append_cons, splitAll_append hname, spill]
  cases splitAll '&' a.2.toText.toList with
  | nil => rfl
  | cons first more =>
      have hcut : splitFirst? '=' (a.1.toList ++ ['='] ++ first) = some (a.1.toList, first) := by
        rw [← List.append_cons]
        exact splitFirst?_eq_some_iff.mpr ⟨rfl, h.2⟩
      rw [List.modifyHead_cons, List.filter_cons_of_pos (by simp), List.map_cons, splitArgument, hcut]

/-- **The parameters of the request for a reading**: what its values turn into, in the order of the clauses. -/
theorem parameters_query (s : Service) (h : ∀ a ∈ r.assignments, IsPlainName a.1) :
    s.parameters r.query = r.assignments.flatMap spill ++ s.ownParameters := by
  have hquery : r.query.toList = ['&'].intercalate (r.assignments.map fun a => (Reading.argumentText a).toList) := by
    rw [Reading.query_eq, String.toList_intercalate, List.map_map]
    rfl
  have hspill : ((splitAll '&' r.query.toList).filter (!·.isEmpty)).map splitArgument = r.assignments.flatMap spill := by
    rw [hquery, filter_splitAll_intercalate, List.flatMap_map, List.map_flatMap]
    exact List.flatMap_congr fun a ha => pieces_argumentText (h a ha)
  rw [parameters, hspill, List.append_assoc]
  rfl

theorem not_mem_toText {v : Value} (h : ∀ text, v = .text text → '&' ∉ text.toList) : '&' ∉ v.toText.toList := by
  have hdigits : ∀ n : Nat, '&' ∉ (toString n).toList :=
    fun n hmem => absurd (isDigit_of_mem_toString hmem) (by decide)
  cases v with
  | int n =>
      cases n with
      | ofNat n => exact hdigits n
      | negSucc n =>
          show '&' ∉ ("-" ++ toString (n + 1)).toList
          rw [String.toList_append, List.mem_append, not_or]
          exact ⟨by decide, hdigits (n + 1)⟩
  | bool b => cases b <;> decide
  | text text => exact h text rfl

theorem exists_spill (a : String × Value) : ∃ first more, spill a = (a.1.toList, some first) :: more := by
  obtain ⟨first, more, h⟩ := List.exists_cons_of_ne_nil (splitAll_ne_nil '&' a.2.toText.toList)
  exact ⟨first, (more.filter (!·.isEmpty)).map splitArgument, by rw [spill, h]⟩

theorem spill_of_not_mem (h : '&' ∉ a.2.toText.toList) : spill a = [parameterOf a] := by
  rw [spill, splitAll_of_not_mem h]
  rfl

/-- When the first parameter has the whole value, there is no ampersand to cut it at. -/
theorem not_mem_of_spill {more : List Parameter} (h : spill a = parameterOf a :: more) : '&' ∉ a.2.toText.toList := by
  unfold spill at h
  split at h
  · cases h
  · next first pieces hsplit =>
    have hfirst : first = a.2.toText.toList := Option.some.inj (Prod.mk.inj (List.cons.inj h).1).2
    rw [← hfirst]
    exact not_mem_of_mem_splitAll (hsplit ▸ List.mem_cons_self)

/-- **The values of a reading stay one parameter each** just when none of them is a text with an ampersand. -/
theorem flatMap_spill_eq_iff : assignments.flatMap spill = assignments.map parameterOf ↔
    ∀ a ∈ assignments, ∀ text, a.2 = .text text → '&' ∉ text.toList := by
  induction assignments with
  | nil => simp
  | cons a assignments ih =>
      rw [List.forall_mem_cons, ← ih, List.flatMap_cons, List.map_cons]
      constructor
      · intro h
        obtain ⟨first, more, hspill⟩ := exists_spill a
        have hhead : (a.1.toList, some first) = parameterOf a := by
          rw [hspill, List.cons_append] at h
          exact (List.cons.inj h).1
        rw [hhead] at hspill
        have hnot := not_mem_of_spill hspill
        rw [spill_of_not_mem hnot] at h
        refine ⟨?_, (List.cons.inj h).2⟩
        rintro text htext
        rwa [htext] at hnot
      · rintro ⟨htext, hrest⟩
        rw [spill_of_not_mem (not_mem_toText htext), hrest]
        rfl

end Query

/-! ## Addresses -/

theorem read_arguments (s : Service) (query : String) :
    (splitAll '&' (['&'].intercalate (s.arguments query))).map readParameter? = (s.parameters query).map some := by
  have hsep : ∀ a ∈ s.arguments query, '&' ∉ a := by
    intro a ha hmem
    rcases mem_argument ha hmem with h | h | h <;> exact absurd h (by decide)
  have hne : s.arguments query ≠ [] := by
    unfold arguments
    simp [projectedFields]
  rw [splitAll_intercalate hsep hne, arguments_eq, List.map_map]
  exact List.map_congr_left fun p _ => readParameter?_encodeParameter p

theorem playerAddress_ne_matchesAddress (s : Service) (id id' : AccountId) (query : String) :
    s.playerAddress id ≠ s.matchesAddress id' query := by
  -- What follows the number of the player in the two addresses.
  have hdrop : ∀ (n : Nat) (c : Char) (rest : List Char), c.isDigit = false →
      ((toString n).toList ++ c :: rest).dropWhile Char.isDigit = c :: rest := by
    intro n c rest hc
    rw [List.dropWhile_append_of_pos fun d hd => isDigit_of_mem_toString hd,
      List.dropWhile_cons_of_neg (by simp [hc])]
  have hdropAll : ∀ n : Nat, ((toString n).toList).dropWhile Char.isDigit = [] :=
    fun n => List.dropWhile_eq_nil_iff.mpr fun d hd => isDigit_of_mem_toString hd
  intro h
  have hlists := congrArg String.toList h
  unfold playerAddress matchesAddress playerPath at hlists
  simp only [String.toList_ofList, List.append_assoc, List.append_cancel_left_eq] at hlists
  have hrest := congrArg (List.dropWhile Char.isDigit) hlists
  have hmatches : "/matches?".toList = '/' :: "matches?".toList := by decide
  rw [hmatches, List.cons_append, hdrop _ '/' _ (by decide)] at hrest
  cases hkey : s.apiKey with
  | none =>
      rw [hkey, List.append_nil, hdropAll] at hrest
      cases hrest
  | some key =>
      rw [hkey] at hrest
      dsimp only at hrest
      rw [hdrop _ '?' _ (by decide)] at hrest
      exact absurd (List.cons.inj hrest).1 (by decide)

/-- **What the address for a reading asks for**, whatever the reading has found and with any constants added. After the
player come the parameters that the values turn into, in the order of the clauses, then those of every request, and
nothing else. Each value is one parameter with the text of the value just when no text among the values holds an
ampersand. -/
theorem read_readingAddress (s : Service) (id : AccountId) (r : Reading) (constants : List (String × Value))
    (hnames : ∀ a ∈ r.assignments ++ constants, IsPlainName a.1) :
    ∃ rest, (s.matchesAddress id (r.addConstants constants).query).toList =
        s.base ++ playerPath id ++ "/matches?".toList ++ rest ∧
      (splitAll '&' rest).map readParameter? =
        ((r.assignments ++ constants).flatMap spill ++ s.ownParameters).map some ∧
      ((splitAll '&' rest).map readParameter? =
          ((r.assignments ++ constants).map parameterOf ++ s.ownParameters).map some ↔
        ∀ a ∈ r.assignments ++ constants, ∀ text, a.2 = .text text → '&' ∉ text.toList) := by
  have hread : (splitAll '&' (['&'].intercalate (s.arguments (r.addConstants constants).query))).map readParameter? =
      ((r.assignments ++ constants).flatMap spill ++ s.ownParameters).map some := by
    rw [← Reading.assignments_addConstants] at hnames
    rw [read_arguments, parameters_query s hnames, Reading.assignments_addConstants]
  refine ⟨['&'].intercalate (s.arguments (r.addConstants constants).query), ?_, hread, ?_⟩
  · unfold matchesAddress
    rw [String.toList_ofList]
  · rw [hread, List.map_inj_right fun _ _ => Option.some.inj, List.append_cancel_right_eq, flatMap_spill_eq_iff]

/-- A hero and a text in which the other signs of an address stand. -/
theorem read_readingAddress_hero :
    (∀ a ∈ ([("hero_id", .int (-74)), ("name", .text "a=b?c d")] : List (String × Value)), IsPlainName a.1) ∧
    ∃ rest, (matchesAddress { apiKey := some "k&y" } 42
        (Reading.addConstants {} [("hero_id", .int (-74)), ("name", .text "a=b?c d")]).query).toList =
        base {} ++ playerPath 42 ++ "/matches?".toList ++ rest ∧
      (splitAll '&' rest).map readParameter? =
        ([("hero_id".toList, some "-74".toList), ("name".toList, some "a=b?c d".toList)] ++
          ownParameters { apiKey := some "k&y" }).map some := by
  have hnames : ∀ a ∈ ([("hero_id", .int (-74)), ("name", .text "a=b?c d")] : List (String × Value)),
      IsPlainName a.1 := by
    unfold IsPlainName
    decide +kernel
  obtain ⟨rest, haddress, -, hiff⟩ := read_readingAddress { apiKey := some "k&y" } 42 {}
    [("hero_id", .int (-74)), ("name", .text "a=b?c d")] hnames
  refine ⟨hnames, rest, haddress, ?_⟩
  rw [hiff.mpr ?_]
  · rfl
  · intro a ha text htext
    rcases List.mem_cons.mp ha with rfl | ha
    · cases htext
    · obtain rfl := List.mem_singleton.mp ha
      cases htext
      decide

/-- One text value, of which the address makes two parameters. -/
theorem read_ampersand :
    ∃ rest, (matchesAddress {} 42 (Reading.addConstant {} "name" (.text "a&b")).query).toList =
        base {} ++ playerPath 42 ++ "/matches?".toList ++ rest ∧
      (splitAll '&' rest).map readParameter? =
        ([("name".toList, some "a".toList), ("b".toList, none)] ++ ownParameters {}).map some ∧
      (splitAll '&' rest).map readParameter? ≠ ([("name".toList, some "a&b".toList)] ++ ownParameters {}).map some := by
  refine ⟨['&'].intercalate (arguments {} "name=a&b"), ?_, ?_, ?_⟩
  · have hquery : (Reading.addConstant {} "name" (.text "a&b")).query = "name=a&b" := by decide +kernel
    rw [hquery, matchesAddress, String.toList_ofList]
  · rw [read_arguments]
    decide +kernel
  · rw [read_arguments]
    decide +kernel

end Service

end PhraseFilter
