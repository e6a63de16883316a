import PhraseFilter.Proofs.Json.Number
import PhraseFilter.Service.Profile

/-!
# What a profile is read from

* `Profile.Holds` : a field of an object that is there once or not at all, `Profile.field?_eq_some_iff`;
* `Profile.IsId`, `Profile.IsText`, `Profile.IsOptional` : how the parts of a profile are written;
* `Profile.Writes`, `Profile.WritesPlayer` : **the two ways to write a profile, and a player**;
* `Profile.readBody?_eq_some_iff` : **a body is read if and only if it is written so**, and as what is written there.
-/

namespace PhraseFilter.Profile

open Json

/-! ## Fields -/

/-- Do the fields of an object, whose names are all strings, hold the value under the name, once or not at all? -/
def Holds (fields : List (List Piece × Raw)) (name : String) (value : Option Raw) : Prop :=
  (∀ f ∈ fields, (decodeString? f.1).isSome = true) ∧
    (fields.filter fun f => decodeString? f.1 == some name).map (·.2) = value.toList

section Fields

variable {fields : List (List Piece × Raw)} {name : String} {value : Option Raw} {values : List Raw}

theorem fieldsNamed?_eq_some_iff : fieldsNamed? name fields = some values ↔
    (∀ f ∈ fields, (decodeString? f.1).isSome = true) ∧
      (fields.filter fun f => decodeString? f.1 == some name).map (·.2) = values := by
  induction fields generalizing values with
  | nil => simp [fieldsNamed?]
  | cons f fields ih =>
      obtain ⟨key, v⟩ := f
      rw [fieldsNamed?, List.forall_mem_cons]
      cases hkey : decodeString? key with
      | none => simp
      | some decoded =>
          cases hrest : fieldsNamed? name fields with
          | none =>
              refine iff_of_false nofun ?_
              rintro ⟨⟨-, hall⟩, -⟩
              rw [ih.mpr ⟨hall, rfl⟩] at hrest
              cases hrest
          | some rest =>
              obtain ⟨hall, rfl⟩ := ih.mp hrest
              by_cases hname : decoded = name
              · simpa [hkey, hname] using fun _ => hall
              · simpa [hkey, hname] using fun _ => hall

theorem field?_eq_some_iff : field? name fields = some value ↔ Holds fields name value := by
  rw [Holds, ← fieldsNamed?_eq_some_iff, field?]
  cases hnamed : fieldsNamed? name fields with
  | none => simp
  | some values =>
      match values with
      | [] => cases value <;> simp
      | [v] => cases value <;> simp
      | _ :: _ :: _ => cases value <;> simp

end Fields

/-! ## Parts -/

/-- The account id is written as a whole number without a sign. -/
def IsId (r : Raw) (id : AccountId) : Prop :=
  ∃ n : Literal, r = .number n ∧ n.negative = false ∧ n.integer? = some id.toNat

/-- The text is written as a string, and no text as null. -/
def IsText (r : Raw) (text : Option String) : Prop :=
  (r = .null ∧ text = none) ∨ ∃ pieces s, r = .string pieces ∧ decodeString? pieces = some s ∧ text = some s

/-- A text that may be left out. -/
def IsOptional (r : Option Raw) (text : Option String) : Prop :=
  (r = none ∧ text = none) ∨ ∃ written, r = some written ∧ IsText written text

/-- The parts of a profile as they are written. -/
structure IsMadeOf (p : Profile) (id : Raw) (name picture : Option Raw) : Prop where
  accountId : IsId id p.accountId
  name : IsOptional name p.name
  picture : IsOptional picture p.picture

section Parts

variable {r id : Raw} {o name picture : Option Raw} {n : AccountId} {text : Option String} {p : Profile}

theorem unsigned?_eq_some_iff {j : Json} {k : Nat} : j.unsigned? = some k ↔ j = .whole k ∧ (k : Int) ≤ maxUnsigned := by
  cases j with
  | whole z =>
      simp only [unsigned?, Option.ite_none_right_eq_some, Option.some.injEq, whole.injEq]
      omega
  | _ => simp [unsigned?]

theorem readId?_eq_some_iff : readId? r = some n ↔ IsId r n := by
  have hmax : maxUnsigned = 18446744073709551615 := rfl
  have hn := n.toNat_lt
  constructor
  · intro h
    cases r with
    | number literal =>
        obtain ⟨k, hk, hkn⟩ := Option.map_eq_some_iff.mp h
        obtain ⟨j, hj, hjk⟩ := Option.bind_eq_some_iff.mp hk
        obtain ⟨rfl, hle⟩ := unsigned?_eq_some_iff.mp hjk
        obtain ⟨hinteger, -, -, hsign⟩ := Literal.value?_eq_some_whole_iff.mp hj
        have hvalue : n.toNat = k := by
          rw [← hkn]
          exact UInt64.toNat_ofNat_of_lt' (by simp only [UInt64.size]; omega)
        rw [← hvalue] at hinteger hsign
        refine ⟨literal, rfl, ?_, hinteger⟩
        -- With a sign only zero is not below it, and a zero with a sign is no whole number.
        obtain ⟨-, -, hz⟩ := Literal.integer?_eq_some_iff.mp hinteger
        cases hnegative : literal.negative with
        | false => rfl
        | true =>
            rw [hnegative, if_pos rfl] at hz
            exact absurd (by omega) (hsign hnegative)
    | _ => cases h
  · rintro ⟨literal, rfl, hnegative, hinteger⟩
    have hvalue : literal.value? = some (.whole n.toNat) := by
      refine Literal.value?_eq_some_whole_iff.mpr ⟨hinteger, by simp only [minSigned]; omega, by omega, ?_⟩
      intro hsign
      rw [hnegative] at hsign
      cases hsign
    have hunsigned : Json.unsigned? (.whole n.toNat) = some n.toNat := unsigned?_eq_some_iff.mpr ⟨rfl, by omega⟩
    rw [readId?, hvalue, Option.bind_some, hunsigned, Option.map_some, UInt64.ofNat_toNat]

theorem readText?_eq_some_iff : readText? r = some text ↔ IsText r text := by
  cases r <;> simp [readText?, IsText, Option.map_eq_some_iff, @eq_comm _ _ text]

theorem readOptional?_eq_some_iff : readOptional? o = some text ↔ IsOptional o text := by
  cases o <;> simp [readOptional?, IsOptional, readText?_eq_some_iff, @eq_comm _ _ text]

theorem ofParts?_eq_some_iff : ofParts? id name picture = some p ↔ p.IsMadeOf id name picture := by
  obtain ⟨accountId, n, q⟩ := p
  unfold ofParts?
  constructor
  · intro h
    split at h
    · next hid hname hpicture =>
      obtain ⟨rfl, rfl, rfl⟩ := Profile.mk.inj (Option.some.inj h)
      exact ⟨readId?_eq_some_iff.mp hid, readOptional?_eq_some_iff.mp hname, readOptional?_eq_some_iff.mp hpicture⟩
    · cases h
  · rintro ⟨hid, hname, hpicture⟩
    rw [readId?_eq_some_iff.mpr hid, readOptional?_eq_some_iff.mpr hname, readOptional?_eq_some_iff.mpr hpicture]

end Parts

/-! ## Profiles and players -/

/-- How a profile is written: as an object, or as an array of its fields in order, of which the picture may be left
out. -/
inductive Writes : Raw → Profile → Prop
  | object {fields : List (List Piece × Raw)} {id : Raw} {name picture : Option Raw} {p : Profile}
      (hid : Holds fields "account_id" (some id)) (hname : Holds fields "personaname" name)
      (hpicture : Holds fields "avatarfull" picture) (hp : p.IsMadeOf id name picture) : Writes (.object fields) p
  | array {id name : Raw} {picture : Option Raw} {p : Profile} (hp : p.IsMadeOf id (some name) picture) :
      Writes (.array (id :: name :: picture.toList)) p

/-- How a profile is written that may be null. -/
def WritesNullable (r : Raw) (p : Option Profile) : Prop :=
  (r = .null ∧ p = none) ∨ ∃ profile, Writes r profile ∧ p = some profile

/-- How a player is written: as an object that may have a profile, or as an array with a profile in it. -/
inductive WritesPlayer : Raw → Option Profile → Prop
  | missing {fields : List (List Piece × Raw)} (h : Holds fields "profile" none) : WritesPlayer (.object fields) none
  | object {fields : List (List Piece × Raw)} {r : Raw} {p : Option Profile} (h : Holds fields "profile" (some r))
      (hr : WritesNullable r p) : WritesPlayer (.object fields) p
  | array {r : Raw} {p : Option Profile} (hr : WritesNullable r p) : WritesPlayer (.array [r]) p

section Players

variable {r : Raw} {p : Profile} {o : Option Profile}

theorem read?_eq_some_iff : read? r = some p ↔ Writes r p := by
  constructor
  · intro h
    unfold read? at h
    split at h
    · split at h
      · next hid hname hpicture =>
        exact .object (field?_eq_some_iff.mp hid) (field?_eq_some_iff.mp hname) (field?_eq_some_iff.mp hpicture)
          (ofParts?_eq_some_iff.mp h)
      · cases h
    · exact .array (ofParts?_eq_some_iff.mp h)
    · exact .array (ofParts?_eq_some_iff.mp h)
    · cases h
  · intro h
    cases h with
    | object hid hname hpicture hp =>
        rw [read?, field?_eq_some_iff.mpr hid, field?_eq_some_iff.mpr hname, field?_eq_some_iff.mpr hpicture]
        exact ofParts?_eq_some_iff.mpr hp
    | @array _ _ picture _ hp => cases picture <;> exact ofParts?_eq_some_iff.mpr hp

theorem readNullable?_eq_some_iff : readNullable? r = some o ↔ WritesNullable r o := by
  have hnull : read? .null = none := rfl
  cases r <;>
    simp [readNullable?, WritesNullable, ← read?_eq_some_iff, hnull, Option.map_eq_some_iff, @eq_comm _ _ o]

theorem readPlayer?_eq_some_iff : readPlayer? r = some o ↔ WritesPlayer r o := by
  constructor
  · intro h
    unfold readPlayer? at h
    split at h
    · split at h
      · next hfield =>
        obtain rfl := Option.some.inj h
        exact .missing (field?_eq_some_iff.mp hfield)
      · next hfield => exact .object (field?_eq_some_iff.mp hfield) (readNullable?_eq_some_iff.mp h)
      · cases h
    · exact .array (readNullable?_eq_some_iff.mp h)
    · cases h
  · rintro (hfield | ⟨hfield, hr⟩ | hr)
    · rw [readPlayer?, field?_eq_some_iff.mpr hfield]
    · rw [readPlayer?, field?_eq_some_iff.mpr hfield]
      exact readNullable?_eq_some_iff.mpr hr
    · exact readNullable?_eq_some_iff.mpr hr

/-- **A body is read if and only if a player is written there**, and as the profile that is written, if there is one. -/
theorem readBody?_eq_some_iff {body : String} : readBody? body = some o ↔
    ∃ raw, Raw.read? body.toList = some raw ∧ WritesPlayer raw o := by
  simp only [readBody?, Option.bind_eq_some_iff, readPlayer?_eq_some_iff]

end Players

end PhraseFilter.Profile
