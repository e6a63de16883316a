/-!
# Ranges of code points

A property of characters above ASCII is a list of ranges of code points in ascending order. `covers`
looks a code point up and stops at the first range that begins above it.

* `exists_of_covers`: a covered code point lies in one of the ranges.
-/

namespace PhraseFilter.Text

/-- First and last code point of a run of characters that share a property. -/
abbrev Range := Nat × Nat

/-- Is the code point in one of the ranges, which are given in ascending order? -/
def covers (n : Nat) : List Range → Bool
  | [] => false
  | (first, last) :: rest => if n < first then false else if n ≤ last then true else covers n rest

theorem exists_of_covers {n : Nat} {rs : List Range} (h : covers n rs = true) :
    ∃ r ∈ rs, r.1 ≤ n ∧ n ≤ r.2 := by
  induction rs with
  | nil => simp [covers] at h
  | cons r rest ih =>
    rw [covers] at h
    split at h
    · simp at h
    · next hlo =>
      split at h
      · next hhi => exact ⟨r, List.mem_cons_self, Nat.le_of_not_lt hlo, hhi⟩
      · obtain ⟨s, hs, hb⟩ := ih h
        exact ⟨s, List.mem_cons_of_mem _ hs, hb⟩

end PhraseFilter.Text
