import Mathlib.Data.List.Induction
import Mathlib.Data.List.Nodup
import Mathlib.Data.List.Perm.Basic
import PhraseFilter.Player.Basic

/-!
# Links and the order of a table

* `Links.names` : the linked names in lower case; `Links.nodup_names_ofTable`, `Links.mem_names_ofTable` : those of a table,
  each once;
* `Links.lookup_link`, `Links.lookup_ofTable` : a name leads to the account of the last entry that has it in lower case;
* `Links.exists_perm_lookup_iff` : the accounts to which a name leads in some order of a table are those of all entries
  that have it in lower case;
* `Player.resolve_congr` : a reference is resolved by nothing but what the links say of names;
* `Links.ofTable_perm` : **the order of a table matters only to names that agree in lower case and not in their account**.
-/

namespace PhraseFilter

open Text

namespace Links

def names (l : Links) : List String := l.accounts.map (·.1)

/-- Do the names of a table that agree in lower case have the same account? -/
def IsUnambiguous (table : List (String × UInt64)) : Prop :=
  ∀ e ∈ table, ∀ e' ∈ table, lower e.1 = lower e'.1 → AccountId.ofAny e.2 = AccountId.ofAny e'.2

section Link

variable {l : Links} {accounts : List (String × AccountId)} {name other : String} {account : AccountId} {id : UInt64}

theorem map_put : (put name account accounts).map (·.1) =
    if name ∈ accounts.map (·.1) then accounts.map (·.1) else accounts.map (·.1) ++ [name] := by
  induction accounts with
  | nil => rfl
  | cons e accounts ih =>
      obtain ⟨key, old⟩ := e
      rw [put]
      by_cases h : name = key
      · simp [h]
      · simp only [h, ↓reduceIte, List.map_cons, ih, List.mem_cons, false_or]
        split <;> rfl

theorem find?_put : (put name account accounts).find? (·.1 == other) =
    if name = other then some (name, account) else accounts.find? (·.1 == other) := by
  induction accounts with
  | nil => by_cases h : name = other <;> simp [put, h]
  | cons e accounts ih =>
      obtain ⟨key, old⟩ := e
      rw [put]
      by_cases h : name = key
      · subst h
        by_cases ho : name = other <;> simp [ho]
      · rw [if_neg h, List.find?_cons, List.find?_cons, ih]
        by_cases ho : name = other
        · subst ho
          rw [if_pos rfl, if_pos rfl, beq_false_of_ne (Ne.symm h)]
        · rw [if_neg ho, if_neg ho]

theorem names_link : (l.link name id).names = if lower name ∈ l.names then l.names else l.names ++ [lower name] :=
  map_put

theorem mem_names_link : other ∈ (l.link name id).names ↔ other ∈ l.names ∨ lower name = other := by
  rw [names_link]
  split
  · next h => exact ⟨Or.inl, fun ho => ho.elim (fun ho => ho) fun ho => ho ▸ h⟩
  · rw [List.mem_append, List.mem_singleton, eq_comm (a := other)]

theorem nodup_names_link (h : l.names.Nodup) : (l.link name id).names.Nodup := by
  rw [names_link]
  split
  · exact h
  · next hname =>
    rw [← List.concat_eq_append]
    exact List.Nodup.concat hname h

/-- A link is found under every name that agrees with its own in lower case, and leaves the others alone. -/
theorem lookup_link : (l.link name id).lookup other =
    if lower name = lower other then some (.ofAny id) else l.lookup other := by
  unfold lookup link
  dsimp only
  rw [find?_put]
  split <;> rfl

end Link

/-! ## Tables -/

section Table

variable {table table' : List (String × UInt64)} {e : String × UInt64} {d : Option String} {name : String}
  {account : AccountId}

theorem ofTable_append : ofTable (table ++ [e]) d = (ofTable table d).link e.1 e.2 := by
  rw [ofTable, ofTable, List.foldl_append]
  rfl

theorem defaultPlayer_ofTable : (ofTable table d).defaultPlayer = d := by
  induction table using List.reverseRecOn with
  | nil => rfl
  | append_singleton table e ih => rw [ofTable_append, link, ih]

theorem mem_names_ofTable : name ∈ (ofTable table d).names ↔ ∃ e ∈ table, lower e.1 = name := by
  induction table using List.reverseRecOn with
  | nil => simp [ofTable, names]
  | append_singleton table e ih =>
      rw [ofTable_append, mem_names_link, ih]
      simp only [List.mem_append, List.mem_singleton, or_and_right, exists_or, exists_eq_left]

theorem nodup_names_ofTable : (ofTable table d).names.Nodup := by
  induction table using List.reverseRecOn with
  | nil => exact List.nodup_nil
  | append_singleton table e ih =>
      rw [ofTable_append]
      exact nodup_names_link ih

theorem size_ofTable_perm (h : table'.Perm table) : (ofTable table' d).size = (ofTable table d).size := by
  have hnames : (ofTable table' d).names.Perm (ofTable table d).names := by
    rw [List.perm_ext_iff_of_nodup nodup_names_ofTable nodup_names_ofTable]
    intro name
    simp only [mem_names_ofTable, h.mem_iff]
  simpa only [names, size, List.length_map] using hnames.length_eq

/-- A name leads to the account of the last entry that has it in lower case. -/
theorem lookup_ofTable : (ofTable table d).lookup name =
    (table.reverse.find? fun e => lower e.1 == lower name).map fun e => .ofAny e.2 := by
  induction table using List.reverseRecOn with
  | nil => rfl
  | append_singleton table e ih =>
      rw [ofTable_append, lookup_link, ih, List.reverse_append, List.reverse_singleton, List.singleton_append,
        List.find?_cons]
      by_cases h : lower e.1 = lower name
      · rw [if_pos h, beq_iff_eq.mpr h]
        rfl
      · rw [if_neg h, beq_false_of_ne h]

theorem exists_of_lookup_ofTable (h : (ofTable table d).lookup name = some account) :
    ∃ e ∈ table, lower e.1 = lower name ∧ AccountId.ofAny e.2 = account := by
  rw [lookup_ofTable] at h
  obtain ⟨e, he, hid⟩ := Option.map_eq_some_iff.mp h
  have hname := List.find?_some he
  exact ⟨e, List.mem_reverse.mp (List.mem_of_find?_eq_some he), beq_iff_eq.mp hname, hid⟩

theorem lookup_ofTable_eq_none_iff : (ofTable table d).lookup name = none ↔ ∀ e ∈ table, lower e.1 ≠ lower name := by
  rw [lookup_ofTable]
  simp

/-- **The accounts to which a name leads in some order of a table** are those of all entries that have the name in lower
case. -/
theorem exists_perm_lookup_iff : (∃ table', table'.Perm table ∧ (ofTable table' d).lookup name = some account) ↔
    ∃ e ∈ table, lower e.1 = lower name ∧ AccountId.ofAny e.2 = account := by
  constructor
  · rintro ⟨table', hperm, hlookup⟩
    obtain ⟨e, he, hname, hid⟩ := exists_of_lookup_ofTable hlookup
    exact ⟨e, hperm.mem_iff.mp he, hname, hid⟩
  · -- The entry replaces all others of the name when it comes last.
    rintro ⟨e, he, hname, rfl⟩
    refine ⟨table.erase e ++ [e], ?_, ?_⟩
    · exact (List.perm_append_singleton e _).trans (List.perm_cons_erase he).symm
    · rw [ofTable_append, lookup_link, if_pos hname]

theorem lookup_ofTable_perm (h : IsUnambiguous table) (hperm : table'.Perm table) (name : String) :
    (ofTable table' d).lookup name = (ofTable table d).lookup name := by
  cases hlookup : (ofTable table d).lookup name with
  | none =>
      rw [lookup_ofTable_eq_none_iff] at hlookup ⊢
      exact fun e he => hlookup e (hperm.mem_iff.mp he)
  | some account =>
      obtain ⟨e, he, hname, rfl⟩ := exists_of_lookup_ofTable hlookup
      cases hlookup' : (ofTable table' d).lookup name with
      | none => exact absurd hname (lookup_ofTable_eq_none_iff.mp hlookup' e (hperm.mem_iff.mpr he))
      | some account' =>
          obtain ⟨e', he', hname', rfl⟩ := exists_of_lookup_ofTable hlookup'
          exact congrArg some (h e' (hperm.mem_iff.mp he') e he (hname'.trans hname.symm))

theorem isUnambiguous_of_lookup
    (h : ∀ table', table'.Perm table → ∀ name, (ofTable table' d).lookup name = (ofTable table d).lookup name) :
    IsUnambiguous table := by
  intro e he e' he' hname
  obtain ⟨first, hfirst, hlookup⟩ := exists_perm_lookup_iff (d := d).mpr ⟨e, he, rfl, rfl⟩
  obtain ⟨second, hsecond, hlookup'⟩ := exists_perm_lookup_iff (d := d).mpr ⟨e', he', hname.symm, rfl⟩
  rw [h _ hfirst] at hlookup
  rw [h _ hsecond, hlookup] at hlookup'
  exact Option.some.inj hlookup'

end Table

end Links

/-! ## Players -/

namespace Player

variable {m : Type → Type} [Monad m] {l l' : Links}

theorem resolve_congr (hdefault : l.defaultPlayer = l'.defaultPlayer) (hlookup : ∀ name, l.lookup name = l'.lookup name)
    (given : Option String) (ask : AccountId → m (Except ServiceError (Option Profile))) :
    resolve given l ask = resolve given l' ask := by
  have hreference : ∀ r, ofReference l ask r = ofReference l' ask r := by
    intro r
    cases r <;> simp only [ofReference, ofLink, hlookup]
  have hchoose : choose given l = choose given l' := by
    unfold choose
    rw [hdefault]
  unfold resolve ofChoice
  rw [hchoose]
  simp only [hreference]

end Player

namespace Links

/-- **What the order of a table matters to.** It changes neither the number of linked names nor the default player. Under
a name it can lead to the account of each entry that has the name in lower case. So all orders make the same links just
when names that agree in lower case have the same account, and then every reference is resolved in the same way. -/
theorem ofTable_perm (table : List (String × UInt64)) (d : Option String) :
    (∀ table', table'.Perm table → (ofTable table' d).size = (ofTable table d).size ∧
      (ofTable table' d).defaultPlayer = (ofTable table d).defaultPlayer) ∧
    (∀ name account, (∃ table', table'.Perm table ∧ (ofTable table' d).lookup name = some account) ↔
      ∃ e ∈ table, lower e.1 = lower name ∧ AccountId.ofAny e.2 = account) ∧
    ((∀ table', table'.Perm table → ∀ name, (ofTable table' d).lookup name = (ofTable table d).lookup name) ↔
      IsUnambiguous table) ∧
    (IsUnambiguous table → ∀ table', table'.Perm table → ∀ (m : Type → Type) [Monad m] (given : Option String)
      (ask : AccountId → m (Except ServiceError (Option Profile))),
      Player.resolve given (ofTable table' d) ask = Player.resolve given (ofTable table d) ask) := by
  refine ⟨fun table' h => ⟨size_ofTable_perm h, ?_⟩, fun name account => exists_perm_lookup_iff,
    ⟨isUnambiguous_of_lookup, fun h table' hperm => lookup_ofTable_perm h hperm⟩, fun h table' hperm m _ given ask => ?_⟩
  · rw [defaultPlayer_ofTable, defaultPlayer_ofTable]
  · refine Player.resolve_congr ?_ (lookup_ofTable_perm h hperm) given ask
    rw [defaultPlayer_ofTable, defaultPlayer_ofTable]

/-- Two ways to write one name, with the two numbers of one account. -/
theorem ofTable_perm_dendi : IsUnambiguous [("Dendi", 76561198030654385), ("dendi", 70388657)] ∧
    ∀ name, (ofTable [("dendi", 70388657), ("Dendi", 76561198030654385)] none).lookup name =
      (ofTable [("Dendi", 76561198030654385), ("dendi", 70388657)] none).lookup name := by
  have h : IsUnambiguous [("Dendi", 76561198030654385), ("dendi", 70388657)] := by
    unfold IsUnambiguous
    decide +kernel
  exact ⟨h, (ofTable_perm _ none).2.2.1.mpr h _ (List.Perm.swap _ _ _)⟩

/-- Two ways to write one name, with two accounts: the later one decides. -/
theorem lookup_dendi_swapped :
    [("Dendi", 1), ("dendi", 2)].Perm [("dendi", 2), ("Dendi", 1)] ∧
    (([("Dendi", 1), ("dendi", 2)] : List (String × UInt64)).map (·.1)).Nodup ∧
    (ofTable [("Dendi", 1), ("dendi", 2)] none).lookup "dendi" = some 2 ∧
    (ofTable [("dendi", 2), ("Dendi", 1)] none).lookup "dendi" = some 1 := by
  refine ⟨List.Perm.swap _ _ _, by decide, ?_, ?_⟩ <;> decide +kernel

end Links

end PhraseFilter
