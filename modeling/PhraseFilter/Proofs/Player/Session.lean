import Mathlib.Data.Finset.Card
import PhraseFilter.Proofs.Player.Links

/-!
# Sessions with links

* `Links.Operation` : what can be done with links; `Links.perform`, `Links.performAll` : the links after it;
* `Links.linked`, `Links.chosen` : the names that a session links, and the references that it sets for the default
  player;
* `Links.perform_ofTable`, `Links.performAll_ofTable` : **a session makes the links of a longer table**;
* `Links.performAll_latest` : what is found after any session, how many names there are, and who is the default player.
-/

namespace PhraseFilter.Links

open Text

/-- What can be done with links. -/
inductive Operation
  | link (name : String) (id : UInt64)
  | setDefault (reference : String)
  | lookup (name : String)
  deriving Repr, DecidableEq

/-- The name that an operation links, with the number it is given. -/
def Operation.entry? : Operation → Option (String × UInt64)
  | .link name id => some (name, id)
  | .setDefault _ | .lookup _ => none

/-- The reference that an operation sets for the default player. -/
def Operation.reference? : Operation → Option String
  | .setDefault reference => some reference
  | .link _ _ | .lookup _ => none

/-- The links after an operation; a look-up leaves them as they are. -/
def perform (l : Links) : Operation → Links
  | .link name id => l.link name id
  | .setDefault reference => l.withDefaultPlayer reference
  | .lookup _ => l

/-- The links after a session. -/
def performAll (l : Links) (ops : List Operation) : Links := ops.foldl perform l

/-- The names that a session links, in the order of time. -/
def linked (ops : List Operation) : List (String × UInt64) := ops.filterMap Operation.entry?

/-- The references that a session sets for the default player, in the order of time. -/
def chosen (ops : List Operation) : List String := ops.filterMap Operation.reference?

section Sessions

variable {table : List (String × UInt64)} {d : Option String}

theorem withDefaultPlayer_ofTable (table : List (String × UInt64)) (d : Option String) (reference : String) :
    (ofTable table d).withDefaultPlayer reference = ofTable table (some reference) := by
  induction table using List.reverseRecOn with
  | nil => rfl
  | append_singleton table e ih =>
      rw [ofTable_append, ofTable_append, ← ih]
      rfl

/-- An operation makes the links of the table with one more entry, or with another default player, or the same links. -/
theorem perform_ofTable (table : List (String × UInt64)) (d : Option String) (op : Operation) :
    (ofTable table d).perform op = ofTable (table ++ op.entry?.toList) (op.reference?.or d) := by
  cases op with
  | link name id => exact (ofTable_append (e := (name, id))).symm
  | setDefault reference =>
      rw [perform, withDefaultPlayer_ofTable]
      simp [Operation.entry?, Operation.reference?]
  | lookup name => simp [perform, Operation.entry?, Operation.reference?]

/-- **A session makes the links of a longer table**: the names that it links come after those of the table. -/
theorem performAll_ofTable (table : List (String × UInt64)) (d : Option String) (ops : List Operation) :
    (ofTable table d).performAll ops = ofTable (table ++ linked ops) ((chosen ops).getLast?.or d) := by
  induction ops generalizing table d with
  | nil => simp [performAll, linked, chosen]
  | cons op ops ih =>
      have hentries : linked (op :: ops) = op.entry?.toList ++ linked ops := by
        unfold linked
        cases h : op.entry? <;> simp [h]
      have hreferences : (chosen (op :: ops)).getLast?.or d = (chosen ops).getLast?.or (op.reference?.or d) := by
        unfold chosen
        cases h : op.reference? with
        | none => simp [h]
        | some reference =>
            rw [List.filterMap_cons_some h, List.getLast?_cons]
            cases (ops.filterMap Operation.reference?).getLast? <;> rfl
      calc (ofTable table d).performAll (op :: ops)
          = ((ofTable table d).perform op).performAll ops := rfl
        _ = (ofTable (table ++ op.entry?.toList) (op.reference?.or d)).performAll ops := by rw [perform_ofTable]
        _ = ofTable (table ++ op.entry?.toList ++ linked ops) ((chosen ops).getLast?.or (op.reference?.or d)) := ih _ _
        _ = ofTable (table ++ linked (op :: ops)) ((chosen (op :: ops)).getLast?.or d) := by
            rw [hentries, hreferences, List.append_assoc]

theorem lookup_ofTable_default (d d' : Option String) (name : String) :
    (ofTable table d).lookup name = (ofTable table d').lookup name := by
  rw [lookup_ofTable, lookup_ofTable]

/-- In a table whose names differ in lower case it does not matter from which side a name is looked for. -/
theorem find?_reverse (h : (table.map fun e => lower e.1).Nodup) (name : String) :
    (table.reverse.find? fun e => lower e.1 == lower name) = table.find? fun e => lower e.1 == lower name := by
  induction table with
  | nil => rfl
  | cons e table ih =>
      rw [List.map_cons, List.nodup_cons] at h
      rw [List.reverse_cons, List.find?_append, ih h.2]
      by_cases he : lower e.1 = lower name
      · -- No other entry has this name.
        have hnone : (table.find? fun e => lower e.1 == lower name) = none := by
          rw [List.find?_eq_none]
          intro e' he' hname
          exact h.1 (List.mem_map.mpr ⟨e', he', (beq_iff_eq.mp hname).trans he.symm⟩)
        simp [hnone, he]
      · simp [he]

theorem size_ofTable : (ofTable table d).size = (table.map fun e => lower e.1).toFinset.card := by
  have hnames : (ofTable table d).names.toFinset = (table.map fun e => lower e.1).toFinset := by
    ext name
    simp [mem_names_ofTable]
  rw [← hnames, List.toFinset_card_of_nodup nodup_names_ofTable, names, List.length_map, size]

end Sessions

/-- **What links hold after any session.** When the names of the table differ in lower case, a name leads to the account
of the latest link of a name that agrees with it in lower case, or else of the entry of the table that does, and
otherwise nowhere. There are as many names as were linked that differ in lower case, none just when the links are empty.
The default player is the one that was set last, and what is found depends on the links alone. -/
theorem performAll_latest {table : List (String × UInt64)} (h : (table.map fun e => lower e.1).Nodup)
    (d : Option String) (ops : List Operation) :
    (∀ name, ((ofTable table d).performAll ops).lookup name =
      (((linked ops).reverse ++ table).find? fun e => lower e.1 == lower name).map fun e => .ofAny e.2) ∧
    ((ofTable table d).performAll ops).size = ((table ++ linked ops).map fun e => lower e.1).toFinset.card ∧
    (((ofTable table d).performAll ops).isEmpty = true ↔ ((ofTable table d).performAll ops).size = 0) ∧
    ((ofTable table d).performAll ops).defaultPlayer = (chosen ops).getLast?.or d ∧
    ∀ d' ops', linked ops' = linked ops → ∀ name,
      ((ofTable table d').performAll ops').lookup name = ((ofTable table d).performAll ops).lookup name := by
  rw [performAll_ofTable]
  refine ⟨fun name => ?_, size_ofTable, ?_, defaultPlayer_ofTable, fun d' ops' hlinked name => ?_⟩
  · rw [lookup_ofTable, List.reverse_append, List.find?_append, find?_reverse h, List.find?_append]
  · rw [isEmpty, size, List.isEmpty_iff, List.length_eq_zero_iff]
  · rw [performAll_ofTable, hlinked]
    exact lookup_ofTable_default _ _ name

/-- A name that is written in three ways, with a final sigma in two of them, and one whose lower case is longer. -/
theorem performAll_latest_sigma :
    ([("Σας", 76561198030654385), ("İo", 5)].map fun e : String × UInt64 => lower e.1).Nodup ∧
    ((ofTable [("Σας", 76561198030654385), ("İo", 5)] (some "me")).performAll
      [.lookup "σας", .link "ΣΑΣ" 76561197960265735, .setDefault "you"]).lookup "σας" = some 7 ∧
    ((ofTable [("Σας", 76561198030654385), ("İo", 5)] (some "me")).performAll
      [.lookup "σας", .link "ΣΑΣ" 76561197960265735, .setDefault "you"]).size = 2 := by
  have h : ([("Σας", 76561198030654385), ("İo", 5)].map fun e : String × UInt64 => lower e.1).Nodup := by
    decide
  obtain ⟨hlookup, hsize, -⟩ := performAll_latest h (some "me")
    [.lookup "σας", .link "ΣΑΣ" 76561197960265735, .setDefault "you"]
  refine ⟨h, ?_, ?_⟩
  · rw [hlookup]
    decide
  · rw [hsize]
    decide

end PhraseFilter.Links
