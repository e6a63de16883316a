import PhraseFilter.Proofs.Filter.Search

/-!
# Scanning neither loses nor makes up text

* `Scan.takeEach` : a run of scans, one for each pattern of a list;
* `Scan.Accounts` : what a run has taken and left accounts for the text, `Scan.Accounts.take` for one scan and
  `Scan.accounts_takeEach` for a run;
* `Clause.exists_takeEach` : the search of a filter is a run of scans;
* `Scan.run_accounts` : **at every step of every run, and for the words that a filter refuses**.
-/

namespace PhraseFilter

open Text

/-! ## Runs of scans -/

/-- Scans for each pattern in turn: the phrases that were taken, and what is left. -/
def Scan.takeEach (s : Scan) : List Pattern → List (List Char) × Scan
  | [] => ([], s)
  | p :: ps =>
    match s.take p with
    | (m, s) =>
      let (taken, left) := takeEach s ps
      (m.toList ++ taken, left)

/-- The phrases `taken` and what is left account for the text: what is left is normalized, no character
that is not blank is lost or added, and the words that are left are pieces of words of the text. -/
structure Scan.Accounts (text : List Char) (taken : List (List Char)) (left : Scan) : Prop where
  normal : normalize left.remaining = left.remaining
  ink : (ink text).Perm (ink taken.flatten ++ ink left.remaining)
  pieces : ∀ w ∈ words left.remaining, ∃ v ∈ words text, w <:+: v

namespace Scan

variable {text : List Char} {taken : List (List Char)} {s s' : Scan} {p : Pattern} {o : Option (List Char)}

theorem accounts_start (text : String) : Accounts text.toList [] (start text) := by
  refine ⟨normalize_normalize _, ?_, fun w hw => ⟨w, ?_, List.infix_refl w⟩⟩
  · rw [start, ink_normalize, List.flatten_nil]
    exact List.Perm.refl _
  · rwa [start, words_normalize] at hw

/-- One scan keeps the account. -/
theorem Accounts.take (h : Accounts text taken s) (ht : s.take p = (o, s')) :
    Accounts text (taken ++ o.toList) s' := by
  cases o with
  | none =>
      obtain ⟨rfl, -⟩ := eq_of_take_none ht
      simpa using h
  | some m =>
      obtain ⟨pre, post, hs, hs', -⟩ := exists_of_take ht
      refine ⟨by rw [hs', normalize_normalize], ?_, fun w hw => ?_⟩
      · refine h.ink.trans ?_
        rw [hs, hs']
        have hswap : (Text.ink pre ++ (Text.ink m ++ Text.ink post)).Perm
            (Text.ink m ++ (Text.ink pre ++ Text.ink post)) := by
          rw [← List.append_assoc, ← List.append_assoc]
          exact List.perm_append_comm.append_right _
        have hblank : Text.ink (' ' :: post) = Text.ink post := rfl
        simpa [hblank] using hswap.append_left (Text.ink taken.flatten)
      · -- A word before or after the phrase is a piece of the text that was scanned.
        rw [hs', words_normalize, words_append_cons rfl, List.mem_append] at hw
        have hin : w <:+: s.remaining := by
          rw [hs]
          rcases hw with hw | hw
          · obtain ⟨a, b, rfl, -, -⟩ := exists_append_of_mem_words hw
            exact ⟨a, b ++ (m ++ post), by simp⟩
          · obtain ⟨a, b, rfl, -, -⟩ := exists_append_of_mem_words hw
            exact ⟨pre ++ m ++ a, b, by simp⟩
        have hword : IsWordText w := by
          rcases hw with hw | hw <;> exact isWordText_of_mem_words hw
        obtain ⟨v, hv, hwv⟩ := exists_mem_words_of_infix hword hin
        obtain ⟨u, hu, hvu⟩ := h.pieces v hv
        exact ⟨u, hu, hwv.trans hvu⟩

/-- A run of scans keeps the account. -/
theorem Accounts.takeEach (h : Accounts text taken s) (ps : List Pattern) :
    Accounts text (taken ++ (s.takeEach ps).1) (s.takeEach ps).2 := by
  induction ps generalizing taken s with
  | nil => simpa [Scan.takeEach] using h
  | cons p ps ih =>
      have hstep : Accounts text (taken ++ (s.take p).1.toList) (s.take p).2 := h.take rfl
      simpa [Scan.takeEach] using ih hstep

theorem accounts_takeEach (text : String) (ps : List Pattern) :
    Accounts text.toList ((start text).takeEach ps).1 ((start text).takeEach ps).2 := by
  simpa using (accounts_start text).takeEach ps

end Scan

/-! ## Filters -/

section Filters

variable {cs : List Clause} {s left : Scan} {found : List Finding} {f : Filter} {text residue : String}

theorem Clause.exists_takeEach (h : Clause.takeAll cs s = (found, .ok left)) :
    ∃ ps, s.takeEach ps = (found.filterMap (·.phrase), left) := by
  induction cs generalizing s found with
  | nil =>
      cases h
      exact ⟨[], rfl⟩
  | cons c cs ih =>
      rw [Clause.takeAll] at h
      cases hc : c.takeFrom s with
      | error e => simp [hc] at h
      | ok fs =>
          obtain ⟨f, s'⟩ := fs
          simp only [hc, Prod.mk.injEq] at h
          obtain ⟨rfl, hleft⟩ := h
          obtain ⟨ps, hps⟩ := ih (Prod.ext rfl hleft)
          rcases (Clause.takeFrom_ok hc).2 with ⟨hphrase, rfl, -⟩ | ⟨p, m, -, -, ht, hphrase, -⟩
          · exact ⟨ps, by rw [hps, List.filterMap_cons_none hphrase]⟩
          · exact ⟨p :: ps, by simp only [Scan.takeEach, ht, hps, List.filterMap_cons_some hphrase]; rfl⟩

theorem Filter.exists_takeEach_of_leftOver (h : f.parse text = .error (.leftOver residue)) :
    ∃ ps, ((Scan.start text).takeEach ps).2.remaining = residue.toList ∧ residue.toList ≠ [] := by
  rcases Filter.parse_error h with ⟨found, left, hattempt, hne, heq⟩ | ⟨c, -, s, hc⟩
  · obtain rfl : residue = String.ofList left.remaining := by simpa using heq
    obtain ⟨ps, hps⟩ := Clause.exists_takeEach hattempt
    exact ⟨ps, by rw [hps, String.toList_ofList], by rwa [String.toList_ofList]⟩
  · obtain ⟨-, m, -, -, -, hv⟩ := Clause.takeFrom_error hc
    rcases Clause.resolve_error hv with heq | ⟨count, unit, heq⟩ <;> cases heq

end Filters

/-- **Every run accounts for its text.** After any patterns have been taken out of a text one after the other,
what is left is normalized, the phrases that were taken and what is left hold each character of the text that
is not blank as often as the text does, and each word that is left is a piece of a word of the text; a further
pattern that is not found changes nothing. So the words that a filter refuses are not empty, they are
normalized, and each one is a piece of a word of the text. -/
theorem Scan.run_accounts (text : String) (ps : List Pattern) :
    let (taken, left) := (Scan.start text).takeEach ps
    normalize left.remaining = left.remaining ∧
    (∀ p, (left.take p).1 = none → (left.take p).2 = left) ∧
    (ink text.toList).Perm (ink taken.flatten ++ ink left.remaining) ∧
    (∀ w ∈ words left.remaining, ∃ v ∈ words text.toList, w <:+: v) ∧
    ∀ (f : Filter) (residue : String), f.parse text = .error (.leftOver residue) →
      residue ≠ "" ∧ normalize residue.toList = residue.toList ∧
        ∀ w ∈ words residue.toList, ∃ v ∈ words text.toList, w <:+: v := by
  have hrun := Scan.accounts_takeEach text ps
  refine ⟨hrun.normal, fun p hp => ?_, hrun.ink, hrun.pieces, fun f residue h => ?_⟩
  · exact (Scan.eq_of_take_none (Prod.ext hp rfl)).1
  · obtain ⟨qs, hleft, hne⟩ := Filter.exists_takeEach_of_leftOver h
    have hparse := Scan.accounts_takeEach text qs
    refine ⟨?_, ?_, ?_⟩
    · rintro rfl
      exact hne rfl
    · rw [← hleft]
      exact hparse.normal
    · rw [← hleft]
      exact hparse.pieces

end PhraseFilter
