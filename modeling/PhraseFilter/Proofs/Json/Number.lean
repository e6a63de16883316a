import PhraseFilter.Json.Decode
import PhraseFilter.Text.Decimal

/-!
# Whole numbers in JSON

* `accumulate_eq_nil_iff` : digits that are all kept are the digits of a number that fits into 64 bits;
* `Literal.integer?` : the whole number that a literal is written for, of any size;
* `Literal.value?_eq_some_whole_iff` : **a literal is exact if and only if the whole number that it is written for is
  within the two 64-bit ranges**, a negative zero apart; `Literal.value?_of_integer?` : what each of them is read as;
* `Json.isNumber` : the values that are numbers, `Literal.isNumber_of_value?` : the value of a literal is one.
-/

namespace PhraseFilter.Json

def isNumber : Json → Bool
  | .whole _ | .real _ => true
  | _ => false

theorem le_foldl_digits (digits : List Char) (n : Nat) :
    n ≤ digits.foldl (fun n c => n * 10 + digitValue c) n := by
  induction digits generalizing n with
  | nil => exact Nat.le_refl n
  | cons c digits ih => exact Nat.le_trans (by omega) (ih (n * 10 + digitValue c))

theorem accumulate_eq_nil_iff {n k : Nat} {digits : List Char} (hn : n < significandLimit) :
    accumulate n digits = (k, []) ↔
      digits.foldl (fun n c => n * 10 + digitValue c) n = k ∧ k < significandLimit := by
  induction digits generalizing n with
  | nil =>
      constructor
      · intro h
        obtain rfl : n = k := congrArg Prod.fst h
        exact ⟨rfl, hn⟩
      · rintro ⟨rfl, -⟩
        rfl
  | cons c digits ih =>
      rw [accumulate, List.foldl_cons]
      by_cases hfits : n * 10 + digitValue c < significandLimit
      · rw [if_pos hfits]
        exact ih hfits
      · rw [if_neg hfits]
        refine ⟨fun h => (nomatch congrArg Prod.snd h), ?_⟩
        rintro ⟨rfl, hk⟩
        exact absurd (Nat.lt_of_le_of_lt (le_foldl_digits digits _) hk) hfits

namespace Literal

/-- The whole number that a literal without a fraction and without an exponent is written for. -/
def integer? (n : Literal) : Option Int :=
  match n.fraction, n.exponent with
  | none, none => some (if n.negative then -(Text.decimalValue n.whole : Int) else Text.decimalValue n.whole)
  | _, _ => none

variable {n : Literal} {z : Int}

/-- The value of a literal that is read as a floating point number. -/
def real? (n : Literal) : Option Json := (magnitude? n).map fun m => Json.real ⟨n.negative, m⟩

theorem real?_ne_whole : n.real? ≠ some (.whole z) := by
  intro h
  obtain ⟨m, -, hm⟩ := Option.map_eq_some_iff.mp h
  exact nomatch hm

/-- A literal without a fraction and without an exponent, whose digits fit into 64 bits, is a whole number unless it
has a sign and is zero or below the signed range. -/
theorem value?_of_fits {m : Nat} (hfraction : n.fraction = none) (hexponent : n.exponent = none)
    (hm : Text.decimalValue n.whole = m) (hfits : m < significandLimit) :
    n.value? = if n.negative then if m = 0 ∨ minSigned.natAbs < m then n.real? else some (.whole (-m))
      else some (.whole m) := by
  have hall : accumulate 0 n.whole = (m, []) := (accumulate_eq_nil_iff (by decide)).mpr ⟨hm, hfits⟩
  unfold value?
  rw [hfraction, hexponent, hall]
  rfl

theorem value?_of_not_fits
    (h : n.fraction = none → n.exponent = none → significandLimit ≤ Text.decimalValue n.whole) :
    n.value? = n.real? := by
  unfold value?
  split
  · next m hfraction hexponent hall =>
      obtain ⟨hm, hfits⟩ := (accumulate_eq_nil_iff (by decide)).mp hall
      exact absurd (hm ▸ h hfraction hexponent) (Nat.not_le.mpr hfits)
  · rfl

theorem integer?_eq_some_iff : n.integer? = some z ↔ n.fraction = none ∧ n.exponent = none ∧
    z = if n.negative then -(Text.decimalValue n.whole : Int) else Text.decimalValue n.whole := by
  unfold integer?
  cases n.fraction <;> cases n.exponent <;> simp [@eq_comm _ z]

/-- **A literal is exact if and only if it is written for a whole number of the two 64-bit ranges.** A negative zero is
not a whole number. -/
theorem value?_eq_some_whole_iff : n.value? = some (.whole z) ↔
    n.integer? = some z ∧ minSigned ≤ z ∧ z ≤ maxUnsigned ∧ (n.negative = true → z ≠ 0) := by
  have hmin : minSigned = -9223372036854775808 := rfl
  have hmax : maxUnsigned = 18446744073709551615 := rfl
  have hlimit : significandLimit = 18446744073709551616 := rfl
  rw [integer?_eq_some_iff]
  by_cases hfits : n.fraction = none ∧ n.exponent = none ∧ Text.decimalValue n.whole < significandLimit
  · obtain ⟨hfraction, hexponent, hlt⟩ := hfits
    rw [value?_of_fits hfraction hexponent rfl hlt]
    generalize Text.decimalValue n.whole = m at hlt ⊢
    cases hsign : n.negative with
    | false =>
        simp only [Bool.false_eq_true, if_false, Option.some.injEq, whole.injEq]
        grind
    | true =>
        simp only [if_true]
        split
        · next hreal =>
            refine ⟨fun h => absurd h real?_ne_whole, ?_⟩
            grind
        · simp only [Option.some.injEq, whole.injEq]
          grind
  · have hwide : n.fraction = none → n.exponent = none → significandLimit ≤ Text.decimalValue n.whole :=
      fun hfraction hexponent => Nat.not_lt.mp fun hlt => hfits ⟨hfraction, hexponent, hlt⟩
    rw [value?_of_not_fits hwide]
    refine ⟨fun h => absurd h real?_ne_whole, ?_⟩
    rintro ⟨⟨hfraction, hexponent, rfl⟩, hlow, hhigh, -⟩
    have := hwide hfraction hexponent
    split at hlow
    · omega
    · next hsign =>
        rw [if_neg hsign] at hhigh
        omega

theorem value?_of_negative_zero (h : n.integer? = some 0) (hsign : n.negative = true) :
    n.value? = some (.real ⟨true, .zero⟩) := by
  obtain ⟨hfraction, hexponent, hzero⟩ := integer?_eq_some_iff.mp h
  rw [if_pos hsign] at hzero
  have hm : Text.decimalValue n.whole = 0 := by omega
  have hall : accumulate 0 n.whole = (0, []) := (accumulate_eq_nil_iff (by decide)).mpr ⟨hm, by decide⟩
  have hsignificand : significand n = (0, 0) := by
    simp [significand, hall, hfraction, accumulate]
  rw [value?_of_fits hfraction hexponent hm (by decide), if_pos hsign, if_pos (Or.inl rfl), real?, magnitude?,
    hsignificand, hexponent, hsign]
  exact congrArg (Option.map _) (by decide +kernel : Magnitude.scaled? 0 0 = some .zero)

/-- **What a whole number of the two 64-bit ranges is read as**: itself, but a zero with a sign keeps its sign. -/
theorem value?_of_integer? (hz : n.integer? = some z) (hlow : minSigned ≤ z) (hhigh : z ≤ maxUnsigned) :
    n.value? = some (if n.negative = true ∧ z = 0 then .real ⟨true, .zero⟩ else .whole z) := by
  split
  · next hzero =>
    obtain ⟨hsign, rfl⟩ := hzero
    exact value?_of_negative_zero hz hsign
  · next hzero =>
    exact value?_eq_some_whole_iff.mpr ⟨hz, hlow, hhigh, fun hsign hz => hzero ⟨hsign, hz⟩⟩

theorem isNumber_of_value? {j : Json} (h : n.value? = some j) : j.isNumber = true := by
  have hreal : ∀ {j : Json}, n.real? = some j → j.isNumber = true := by
    intro j hj
    obtain ⟨m, -, rfl⟩ := Option.map_eq_some_iff.mp hj
    rfl
  by_cases hfits : n.fraction = none ∧ n.exponent = none ∧ Text.decimalValue n.whole < significandLimit
  · rw [value?_of_fits hfits.1 hfits.2.1 rfl hfits.2.2] at h
    grind [isNumber]
  · rw [value?_of_not_fits fun hf he => Nat.not_lt.mp fun hlt => hfits ⟨hf, he, hlt⟩] at h
    exact hreal h

end Literal

end PhraseFilter.Json
