import Mathlib.Data.List.Forall2
import Mathlib.Data.List.Induction
import PhraseFilter.Proofs.Json.Number

/-!
# The places of a JSON text

* `Key`, `at?`, `Raw.at?` : what stands at a place of a value and of a text: the last field of a name counts;
* `lookup_insert`, `lookup_sortFields` : the fields of an object that is made of fields in any order;
* `forall₂_of_ofItems?`, `forall₂_of_ofFields?` : items and fields are read one by one, none is left out;
* `rel_child?` : **each part of a value is what is written there**, `rel_at?` : at any depth;
* `at?_of_number` : so a number is read as what it is read as alone, wherever it stands.
-/

namespace PhraseFilter.Json

/-! ## Places -/

/-- A step into a value: to an item of an array, or to a field of an object. -/
inductive Key
  | item (index : Nat)
  | field (name : String)
  deriving Repr, DecidableEq

/-- The part of a value that a step leads to. -/
def child? : Json → Key → Option Json
  | .array items, .item i => items[i]?
  | .object fields, .field name => lookup name fields
  | _, _ => none

/-- The part of a value at the end of a path. -/
def at? (j : Json) : List Key → Option Json
  | [] => some j
  | k :: path => (j.child? k).bind (at? · path)

namespace Raw

/-- The part of a text that a step leads to: of several fields with one name, the last. -/
def child? : Raw → Key → Option Raw
  | .array items, .item i => items[i]?
  | .object fields, .field name => (fields.reverse.find? fun f => decodeString? f.1 == some name).map (·.2)
  | _, _ => none

/-- The part of a text at the end of a path. -/
def at? (r : Raw) : List Key → Option Raw
  | [] => some r
  | k :: path => (r.child? k).bind (at? · path)

end Raw

/-! ## Fields -/

theorem lookup_cons (name other : String) (value : Json) (fields : List (String × Json)) :
    lookup other ((name, value) :: fields) = if name = other then some value else lookup other fields := by
  unfold lookup
  rw [List.find?_cons]
  by_cases h : name = other
  · rw [if_pos h, beq_iff_eq.mpr h, Option.map_some]
  · rw [if_neg h, beq_false_of_ne h]

theorem lookup_insert (name other : String) (value : Json) (fields : List (String × Json)) :
    lookup other (insert name value fields) = if name = other then some value else lookup other fields := by
  induction fields with
  | nil => exact lookup_cons name other value []
  | cons f fields ih =>
      obtain ⟨key, old⟩ := f
      rw [insert]
      split
      · next h =>
        subst h
        rw [lookup_cons, lookup_cons]
        split <;> rfl
      · split
        · rw [lookup_cons]
        · next h _ =>
          rw [lookup_cons, lookup_cons, ih]
          split
          · next hkey => rw [if_neg fun hname => h (hname.trans hkey.symm)]
          · rfl

/-- Of several fields with one name, the last one is found. -/
theorem lookup_sortFields (name : String) (fields : List (String × Json)) :
    lookup name (sortFields fields) = (fields.reverse.find? (·.1 == name)).map (·.2) := by
  induction fields using List.reverseRecOn with
  | nil => rfl
  | append_singleton fields f ih =>
      have hlast : sortFields (fields ++ [f]) = insert f.1 f.2 (sortFields fields) := by
        unfold sortFields
        rw [List.foldl_append]
        rfl
      rw [hlast, lookup_insert, ih, List.reverse_append, List.reverse_singleton, List.singleton_append]
      exact (lookup_cons f.1 name f.2 fields.reverse).symm

/-! ## Parts -/

section Parts

variable {depth : Nat} {raw : Raw} {j : Json}

/-- Is a value what is written in a text, where `depth` more levels of nesting are refused? -/
abbrev Reads (depth : Nat) (raw : Raw) (j : Json) : Prop := ofRaw? depth raw = some j

theorem forall₂_of_ofItems? {items : List Raw} {js : List Json} (h : ofItems? depth items = some js) :
    List.Forall₂ (Reads depth) items js := by
  induction items generalizing js with
  | nil =>
      obtain rfl := Option.some.inj h
      exact .nil
  | cons item items ih =>
      rw [ofItems?] at h
      split at h
      · next hitem hitems =>
        obtain rfl := Option.some.inj h
        exact .cons hitem (ih hitems)
      · cases h

theorem forall₂_of_ofFields? {fields : List (List Piece × Raw)} {read : List (String × Json)}
    (h : ofFields? depth fields = some read) :
    List.Forall₂ (fun f g => decodeString? f.1 = some g.1 ∧ Reads depth f.2 g.2) fields read := by
  induction fields generalizing read with
  | nil =>
      obtain rfl := Option.some.inj h
      exact .nil
  | cons f fields ih =>
      obtain ⟨name, value⟩ := f
      rw [ofFields?] at h
      split at h
      · next hname hvalue hfields =>
        obtain rfl := Option.some.inj h
        exact .cons ⟨hname, hvalue⟩ (ih hfields)
      · cases h

theorem rel_getElem? {α β : Type} {R : α → β → Prop} {as : List α} {bs : List β} (h : List.Forall₂ R as bs) (i : Nat) :
    Option.Rel R as[i]? bs[i]? := by
  induction h generalizing i with
  | nil => exact .none
  | cons hab _ ih =>
      cases i with
      | zero => exact .some hab
      | succ i => exact ih i

theorem rel_find? {fields : List (List Piece × Raw)} {read : List (String × Json)}
    (h : List.Forall₂ (fun f g => decodeString? f.1 = some g.1 ∧ Reads depth f.2 g.2) fields read) (name : String) :
    Option.Rel (Reads depth) ((fields.find? fun f => decodeString? f.1 == some name).map (·.2))
      ((read.find? (·.1 == name)).map (·.2)) := by
  induction h with
  | nil => exact .none
  | @cons f g _ _ hfg _ ih =>
      have hname : (decodeString? f.1 == some name) = (g.1 == name) := by
        rw [hfg.1]
        rfl
      rw [List.find?_cons, List.find?_cons, hname]
      cases g.1 == name with
      | true => exact .some hfg.2
      | false => exact ih

/-- **Each part of a value is what is written there**, and nothing else is part of it. -/
theorem rel_child? (h : Reads depth raw j) (k : Key) :
    Option.Rel (Reads (depth - 1)) (raw.child? k) (j.child? k) := by
  cases raw with
  | array items =>
      obtain ⟨-, hitems⟩ := Option.ite_none_left_eq_some.mp h
      obtain ⟨js, hjs, rfl⟩ := Option.map_eq_some_iff.mp hitems
      cases k with
      | item i => exact rel_getElem? (forall₂_of_ofItems? hjs) i
      | field name => exact .none
  | object fields =>
      obtain ⟨-, hfields⟩ := Option.ite_none_left_eq_some.mp h
      obtain ⟨read, hread, rfl⟩ := Option.map_eq_some_iff.mp hfields
      cases k with
      | item i => exact .none
      | field name =>
          rw [ofFields, child?, lookup_sortFields]
          exact rel_find? (List.rel_reverse (forall₂_of_ofFields? hread)) name
  | number n =>
      have hnumber := Literal.isNumber_of_value? h
      cases j with
      | whole _ => cases k <;> exact .none
      | real _ => cases k <;> exact .none
      | _ => cases hnumber
  | string s =>
      obtain ⟨_, -, rfl⟩ := Option.map_eq_some_iff.mp h
      cases k <;> exact .none
  | null =>
      obtain rfl := Option.some.inj h
      cases k <;> exact .none
  | bool b =>
      obtain rfl := Option.some.inj h
      cases k <;> exact .none

/-- At the end of a path, a value has a part if and only if the text has one, and it is what is written there. -/
theorem rel_at? (h : Reads depth raw j) (path : List Key) :
    Option.Rel (Reads (depth - path.length)) (raw.at? path) (j.at? path) := by
  induction path generalizing depth raw j with
  | nil => exact .some h
  | cons k path ih =>
      have hchild := rel_child? h k
      rw [Raw.at?, Json.at?]
      generalize raw.child? k = r at hchild ⊢
      generalize j.child? k = c at hchild ⊢
      cases hchild with
      | none => exact .none
      | some hpart =>
          rw [List.length_cons, Nat.add_comm, ← Nat.sub_sub]
          exact ih hpart

theorem isSome_at? (h : Reads depth raw j) (path : List Key) : (raw.at? path).isSome = (j.at? path).isSome := by
  have hpart := rel_at? h path
  generalize raw.at? path = r at hpart ⊢
  generalize j.at? path = part at hpart ⊢
  cases hpart <;> rfl

/-- **A number is read as what it is read as alone**, wherever it stands. -/
theorem at?_of_number (h : Reads depth raw j) {path : List Key} {n : Literal}
    (hn : raw.at? path = some (.number n)) : j.at? path = n.value? := by
  have hpart := rel_at? h path
  rw [hn] at hpart
  generalize j.at? path = part at hpart ⊢
  obtain ⟨hvalue⟩ := hpart
  exact hvalue.symm

end Parts

end PhraseFilter.Json
