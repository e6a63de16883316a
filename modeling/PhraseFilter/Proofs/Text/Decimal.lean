import PhraseFilter.Text.Decimal

/-!
# Numbers and their digits

* `decimalValue_zeros` : the digits of a number stand for it, whatever zeros are in front of them;
* `readDecimal?_eq_some_iff` : the texts that are numbers;
* `readWord64?_eq_some_iff` : **the texts that are unsigned 64-bit numbers**, `readWord64?_zeros` : such as the digits of
  one with zeros in front.
-/

namespace PhraseFilter.Text

theorem isDigit_of_mem_toString {n : Nat} {c : Char} (h : c ∈ (toString n).toList) : c.isDigit = true := by
  rw [Nat.toString_eq_repr, Nat.toList_repr] at h
  exact Nat.isDigit_of_mem_toDigits (by decide) (by decide) h

theorem toString_ne_nil (n : Nat) : (toString n).toList ≠ [] := by
  rw [Nat.toString_eq_repr, Nat.toList_repr]
  exact Nat.toDigits_ne_nil

theorem decimalValue_eq (digits : List Char) : decimalValue digits = Nat.ofDigitChars 10 digits 0 := by
  rw [Nat.ofDigitChars_eq_foldl, decimalValue]
  simp only [Nat.mul_comm]

theorem decimalValue_zeros (zeros n : Nat) :
    decimalValue (List.replicate zeros '0' ++ (toString n).toList) = n := by
  rw [decimalValue_eq, Nat.ofDigitChars_append, Nat.ofDigitChars_replicate_zero, Nat.mul_zero, Nat.toString_eq_repr,
    Nat.toList_repr, Nat.ofDigitChars_ten_toDigits]

section Reading

variable {s : List Char}

theorem readDecimal?_eq_some_iff {n : Nat} :
    readDecimal? s = some n ↔ s ≠ [] ∧ (∀ c ∈ s, c.isDigit = true) ∧ decimalValue s = n := by
  unfold readDecimal?
  rw [← List.all_eq_true]
  cases s with
  | nil => simp
  | cons c s =>
      cases hall : (c :: s).all Char.isDigit <;> simp

/-- **The texts that are unsigned 64-bit numbers**: one or more ASCII digits that stand for one. -/
theorem readWord64?_eq_some_iff {n : UInt64} :
    readWord64? s = some n ↔ s ≠ [] ∧ (∀ c ∈ s, c.isDigit = true) ∧ decimalValue s = n.toNat := by
  unfold readWord64?
  rw [Option.bind_eq_some_iff]
  constructor
  · rintro ⟨k, hk, hn⟩
    obtain ⟨hne, hdigits, rfl⟩ := readDecimal?_eq_some_iff.mp hk
    obtain ⟨hlt, hword⟩ := Option.ite_none_right_eq_some.mp hn
    obtain rfl := Option.some.inj hword
    exact ⟨hne, hdigits, (UInt64.toNat_ofNat_of_lt' hlt).symm⟩
  · rintro ⟨hne, hdigits, hvalue⟩
    refine ⟨n.toNat, readDecimal?_eq_some_iff.mpr ⟨hne, hdigits, hvalue⟩, ?_⟩
    rw [if_pos n.toNat_lt, UInt64.ofNat_toNat]

theorem readWord64?_zeros (zeros : Nat) (n : UInt64) :
    readWord64? (List.replicate zeros '0' ++ (toString n.toNat).toList) = some n := by
  refine readWord64?_eq_some_iff.mpr ⟨?_, ?_, decimalValue_zeros zeros n.toNat⟩
  · exact List.append_ne_nil_of_right_ne_nil _ (toString_ne_nil _)
  · intro c hc
    rcases List.mem_append.mp hc with hc | hc
    · rw [List.eq_of_mem_replicate hc]
      decide
    · exact isDigit_of_mem_toString hc

end Reading

end PhraseFilter.Text
