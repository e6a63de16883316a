import PhraseFilter.Proofs.Binary64.Nearest
import PhraseFilter.Proofs.Json.Number
import PhraseFilter.Record

/-!
# Equality and truth

A check can ask whether a field holds a value and whether it counts as true.

* `Value.isTruthy` : the values that count as true, `Value.isTruthy_of_matchesJson` : so does whatever holds one;
* `Value.matchesJson_int_iff` : a whole number is held by one JSON value only;
* `Value.matchesJson_bool_iff` : a truth value is held by a number only if the number is it as a bit;
* `Json.isTruthy_real_of_ofInt?` : rounding a 64-bit number to a floating point number keeps its truth;
* `Value.equality_agrees_with_truth` : **the two questions fit together, and some numbers that count as true hold no
  value**.
-/

namespace PhraseFilter

open Json (minSigned maxSigned)

namespace Value

variable {v : Value} {j : Json}

/-- A value counts as true unless it is zero, false or empty. -/
def isTruthy : Value → Bool
  | .int n => n != 0
  | .bool b => b
  | .text s => !s.isEmpty

def bit (b : Bool) : Int := if b then 1 else 0

theorem matchesJson_int_iff {n : Int} :
    (Value.int n).matchesJson j = true ↔ j = .whole n ∧ minSigned ≤ n ∧ n ≤ maxSigned := by
  cases j with
  | whole m =>
      rw [matchesJson, beq_iff_eq, Json.signed?, Option.ite_none_right_eq_some, Option.some.injEq, Json.whole.injEq]
      grind
  | _ => simp [matchesJson]

theorem matchesJson_bool_iff (hj : j.isNumber = true) {b : Bool} :
    (Value.bool b).matchesJson j = true ↔ j = .whole (bit b) := by
  cases j with
  | whole m => rw [matchesJson, beq_iff_eq, Json.whole.injEq, bit]
  | real x => exact iff_of_false Bool.false_ne_true (nomatch ·)
  | _ => exact absurd hj Bool.false_ne_true

theorem not_matchesJson_real (v : Value) (x : Binary64) : v.matchesJson (.real x) = false := by
  cases v <;> rfl

theorem range_of_matchesJson_whole {n : Int} (h : v.matchesJson (.whole n) = true) : minSigned ≤ n ∧ n ≤ maxSigned := by
  cases v with
  | int m =>
      obtain ⟨hm, hrange⟩ := matchesJson_int_iff.mp h
      rwa [Json.whole.inj hm]
  | bool b =>
      rw [Json.whole.inj ((matchesJson_bool_iff rfl).mp h)]
      cases b <;> decide
  | text s => exact absurd h Bool.false_ne_true

/-- **What holds a value counts as true if and only if the value does.** -/
theorem isTruthy_of_matchesJson (h : v.matchesJson j = true) : j.isTruthy = v.isTruthy := by
  cases v with
  | int n =>
      obtain ⟨rfl, -⟩ := matchesJson_int_iff.mp h
      rfl
  | bool b =>
      cases j with
      | bool c => exact (beq_iff_eq.mp h).symm
      | whole m =>
          rw [(matchesJson_bool_iff rfl).mp h]
          cases b <;> rfl
      | _ => exact absurd h Bool.false_ne_true
  | text s =>
      cases j with
      | string t => rw [beq_iff_eq.mp h]; rfl
      | _ => exact absurd h Bool.false_ne_true

end Value

/-- A whole number of up to 64 binary digits counts as true if and only if the nearest floating point number does. -/
theorem Json.isTruthy_real_of_ofInt? {n : Int} (hlt : n.natAbs < 2 ^ 64) :
    ∃ x, Binary64.ofInt? n = some x ∧ (Json.real x).isTruthy = (Json.whole n).isTruthy := by
  obtain ⟨x, hx, hzero⟩ := Binary64.isZero_ofInt? hlt
  exact ⟨x, hx, congrArg (!·) hzero⟩

theorem Record.isTruthy_of_holds {r : Record} {field : String} {v : Value} (h : r.holds field v = true) :
    r.isTruthy field = v.isTruthy := by
  unfold Record.holds at h
  unfold Record.isTruthy
  cases hj : r.get? field with
  | none => rw [hj] at h; exact absurd h Bool.false_ne_true
  | some j => rw [hj] at h; exact Value.isTruthy_of_matchesJson h

namespace Value

/-- A literal holds a value if and only if it is written for a whole number of the signed range, a negative zero
apart. -/
theorem exists_matchesJson_literal_iff {n : Json.Literal} {j : Json} (h : n.value? = some j) :
    (∃ v : Value, v.matchesJson j = true) ↔
      ∃ z, n.integer? = some z ∧ minSigned ≤ z ∧ z ≤ maxSigned ∧ (n.negative = true → z ≠ 0) := by
  have hmax : maxSigned ≤ Json.maxUnsigned := by decide
  constructor
  · rintro ⟨v, hv⟩
    cases j with
    | whole z =>
        obtain ⟨hz, -, -, hsign⟩ := Json.Literal.value?_eq_some_whole_iff.mp h
        obtain ⟨hlow, hhigh⟩ := range_of_matchesJson_whole hv
        exact ⟨z, hz, hlow, hhigh, hsign⟩
    | real x => exact absurd (hv.symm.trans (not_matchesJson_real v x)) (nomatch ·)
    | _ => exact absurd (Json.Literal.isNumber_of_value? h) Bool.false_ne_true
  · rintro ⟨z, hz, hlow, hhigh, hsign⟩
    have hvalue := Json.Literal.value?_eq_some_whole_iff.mpr ⟨hz, hlow, Int.le_trans hhigh hmax, hsign⟩
    obtain rfl := Option.some.inj (h.symm.trans hvalue)
    exact ⟨.int z, matchesJson_int_iff.mpr ⟨rfl, hlow, hhigh⟩⟩

/-- **Equality and truth fit together.** What holds a value counts as true if and only if the value does, and so does a
field of a record. A number holds at most one whole number, and a truth value only if it is the whole number 0 or 1 that
stands for it. A floating point number and a whole number above the signed range hold no value, though they count as
true unless they are a zero. So a literal holds a value exactly if it is written for a whole number of the signed range
and is no negative zero. Reading a 64-bit number as the floating point number nearest to it would keep its truth. -/
theorem equality_agrees_with_truth :
    (∀ (v : Value) (j : Json), v.matchesJson j = true → j.isTruthy = v.isTruthy) ∧
    (∀ (r : Record) (field : String) (v : Value), r.holds field v = true → r.isTruthy field = v.isTruthy) ∧
    (∀ j : Json, j.isNumber = true →
      (∀ m n : Int, (Value.int m).matchesJson j = true → (Value.int n).matchesJson j = true → m = n) ∧
      ∀ b : Bool, (Value.bool b).matchesJson j = true →
        j = .whole (bit b) ∧ (Value.int (bit b)).matchesJson j = true) ∧
    (∀ x : Binary64, (∀ v : Value, v.matchesJson (.real x) = false) ∧ (Json.real x).isTruthy = !x.isZero) ∧
    (∀ n : Int, maxSigned < n → (∀ v : Value, v.matchesJson (.whole n) = false) ∧ (Json.whole n).isTruthy = true) ∧
    (∀ (n : Json.Literal) (j : Json), n.value? = some j →
      ((∃ v : Value, v.matchesJson j = true) ↔
        ∃ z, n.integer? = some z ∧ minSigned ≤ z ∧ z ≤ maxSigned ∧ (n.negative = true → z ≠ 0))) ∧
    ∀ n : Int, n.natAbs < 2 ^ 64 →
      ∃ x, Binary64.ofInt? n = some x ∧ (Json.real x).isTruthy = (Json.whole n).isTruthy := by
  refine ⟨fun v j => isTruthy_of_matchesJson, fun r field v => Record.isTruthy_of_holds, ?_, ?_, ?_, ?_, ?_⟩
  · refine fun j hj => ⟨fun m n hm hn => ?_, fun b hb => ?_⟩
    · have hwhole := (matchesJson_int_iff.mp hm).1.symm.trans (matchesJson_int_iff.mp hn).1
      exact Json.whole.inj hwhole
    · have hbit := (matchesJson_bool_iff hj).mp hb
      exact ⟨hbit, matchesJson_int_iff.mpr ⟨hbit, by cases b <;> decide⟩⟩
  · exact fun x => ⟨fun v => not_matchesJson_real v x, rfl⟩
  · refine fun n hn => ⟨fun v => ?_, ?_⟩
    · refine Bool.eq_false_iff.mpr fun h => ?_
      exact Int.not_le.mpr hn (range_of_matchesJson_whole h).2
    · have hpos : 0 < n := Int.lt_trans (by decide) hn
      exact bne_iff_ne.mpr (Int.ne_of_gt hpos)
  · exact fun n j => exists_matchesJson_literal_iff
  · exact fun n => Json.isTruthy_real_of_ofInt?

/-- The number one holds a whole number and a truth value, and counts as true like both. The next number above the
signed range and the floating point number two count as true as well, but hold nothing. -/
theorem equality_agrees_with_truth_one :
    (Value.int 1).matchesJson (.whole 1) = true ∧ (Value.bool true).matchesJson (.whole 1) = true ∧
    (Json.whole 1).isTruthy = (Value.int 1).isTruthy ∧ (Json.whole 1).isTruthy = (Value.bool true).isTruthy ∧
    (∀ v : Value, v.matchesJson (.whole 9223372036854775808) = false) ∧
    ∀ v : Value, v.matchesJson (.real ⟨false, ⟨Magnitude.leastNormal, -51⟩⟩) = false := by
  obtain ⟨htruth, -, -, hreal, habove, -⟩ := equality_agrees_with_truth
  exact ⟨by decide, by decide, htruth _ _ (by decide), htruth _ _ (by decide), (habove _ (by decide)).1, (hreal _).1⟩

end Value

end PhraseFilter
