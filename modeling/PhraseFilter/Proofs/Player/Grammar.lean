import PhraseFilter.Proofs.Player.Reference

/-!
# The grammar of references

* `Reference.IsDigits` : the digits of a 64-bit number; `Reference.ByNumber` : the texts with such digits that are mentions,
  addresses of profile pages or numbers of accounts; `Reference.ByName` : the texts with a name;
* `Reference.Refers` : **the grammar of references**, in which a text that has a number is not a name;
* `Reference.ByNumber.of_readMention?`, `Reference.ByNumber.of_readPage?`, `Reference.ByNumber.of_readAccount?` : what is read by
  number is in the grammar, `Reference.ByNumber.readBare?` : and all of that is read;
* `Reference.readName?_eq_some_iff` : the texts that are read as names;
* `Reference.readBare?_eq_some_iff` : **a text is read as what it refers to, and others are not read**;
  `Reference.Refers.exists_byNumber` : an account that a text refers to has the number that is written in it.
-/

namespace PhraseFilter

open Text

namespace Reference

/-- Is the text one or more ASCII digits that stand for the 64-bit number `n`? -/
structure IsDigits (n : UInt64) (s : List Char) : Prop where
  ne_nil : s ≠ []
  isDigit : ∀ c ∈ s, c.isDigit = true
  value : decimalValue s = n.toNat

/-- The texts that refer to a player by a number. -/
inductive ByNumber : List Char → Reference → Prop
  | mention {bang digits : List Char} {user : UInt64} (hbang : bang = [] ∨ bang = ['!']) (hdigits : IsDigits user digits) :
      ByNumber ("<@".toList ++ (bang ++ (digits ++ ['>']))) (.mention user)
  | page {scheme www host digits path : List Char} {n : UInt64} (hscheme : IsScheme scheme) (hwww : IsWww www)
      (hhost : IsHost host) (hdigits : IsDigits n digits) (hpath : IsPath path) :
      ByNumber (scheme ++ (www ++ (host ++ (digits ++ path)))) (.account (.ofAny n))
  | account {digits : List Char} {n : UInt64} (hdigits : IsDigits n digits) : ByNumber digits (.account (.ofAny n))

/-- Is the text the characters `name` of a name, with or without `@` in front? -/
structure ByName (s name : List Char) : Prop where
  eq : s = name ∨ s = '@' :: name
  ne_nil : name ≠ []
  chars : ∀ c ∈ name, isAlphanumeric c = true ∨ c ∈ ['_', '-', '.', ' ']

/-- What a text without blanks at its ends refers to: a text that gives a number is no name. -/
inductive Refers (s : List Char) : Reference → Prop
  | number {r : Reference} (h : ByNumber s r) : Refers s r
  | name {name : List Char} (hnot : ∀ r, ¬ ByNumber s r) (h : ByName s name) : Refers s (.name (String.ofList (trim name)))

/-! ## What is read by number -/

section Numbers

variable {n : UInt64} {s rest : List Char} {r : Reference}

theorem readWord64?_eq_some_iff_isDigits : readWord64? s = some n ↔ IsDigits n s := by
  rw [readWord64?_eq_some_iff]
  exact ⟨fun ⟨hne, hdigits, hvalue⟩ => ⟨hne, hdigits, hvalue⟩, fun h => ⟨h.ne_nil, h.isDigit, h.value⟩⟩

theorem exists_of_readNumber? (h : readNumber? s = some (n, rest)) : ∃ digits, IsDigits n digits ∧ s = digits ++ rest := by
  obtain ⟨n, hn, heq⟩ := Option.map_eq_some_iff.mp h
  obtain ⟨rfl, rfl⟩ := Prod.mk.inj heq
  exact ⟨_, readWord64?_eq_some_iff_isDigits.mp hn, List.takeWhile_append_dropWhile.symm⟩

theorem exists_of_getD_dropPrefix? (start s : List Char) :
    ∃ front, (front = [] ∨ front = start) ∧ s = front ++ (dropPrefix? start s).getD s := by
  cases h : dropPrefix? start s with
  | none => exact ⟨[], Or.inl rfl, rfl⟩
  | some rest => exact ⟨start, Or.inr rfl, dropPrefix?_eq_some_iff.mp h⟩

theorem getD_dropPrefix?_of_ne {mark : Char} (h : ∀ rest, s ≠ mark :: rest) : (dropPrefix? [mark] s).getD s = s := by
  cases hs : dropPrefix? [mark] s with
  | none => rfl
  | some rest => exact absurd (dropPrefix?_eq_some_iff.mp hs) (h rest)

/-- The number of a mention, which its end has to follow. -/
def endMention? (x : UInt64 × List Char) : Option Reference := if x.2 = ['>'] then some (.mention x.1) else none

theorem bind_endMention?_eq_none {x : Option (UInt64 × List Char)} (h : ∀ user, x = some (user, ['>']) → False) :
    x.bind endMention? = none := by
  rw [Option.bind_eq_none_iff]
  rintro ⟨user, rest⟩ hx
  apply if_neg
  intro hrest
  exact h user (hx.trans (congrArg (fun rest => some (user, rest)) hrest))

/-- A mention is read in three steps: its start, the mark that may follow it, and the number with the end. -/
theorem readMention?_eq (s : List Char) : readMention? s = (dropPrefix? "<@".toList s).bind fun s =>
    (readNumber? ((dropPrefix? ['!'] s).getD s)).bind endMention? := by
  unfold readMention?
  cases dropPrefix? "<@".toList s with
  | none => rfl
  | some s =>
      rw [Option.bind_some]
      dsimp only
      split
      · next user hnumber =>
        have hdrop : readNumber? ((dropPrefix? ['!'] s).getD s) = some (user, ['>']) := by
          split at hnumber
          · exact hnumber
          · next hne => rwa [getD_dropPrefix?_of_ne hne]
        rw [hdrop]
        rfl
      · next hnone =>
        rw [eq_comm]
        apply bind_endMention?_eq_none
        split at hnone
        · exact hnone
        · next hne => rwa [getD_dropPrefix?_of_ne hne]

theorem ByNumber.of_readMention? (h : readMention? s = some r) : ByNumber s r := by
  rw [readMention?_eq] at h
  obtain ⟨s', hs, h⟩ := Option.bind_eq_some_iff.mp h
  obtain ⟨⟨user, rest⟩, hnumber, h⟩ := Option.bind_eq_some_iff.mp h
  obtain ⟨hrest, heq⟩ := Option.ite_none_right_eq_some.mp h
  obtain rfl : rest = ['>'] := hrest
  obtain rfl := Option.some.inj heq
  obtain ⟨bang, hbang, hs'⟩ := exists_of_getD_dropPrefix? ['!'] s'
  obtain ⟨digits, hdigits, hnumber⟩ := exists_of_readNumber? hnumber
  rw [dropPrefix?_eq_some_iff.mp hs, hs', hnumber]
  exact .mention hbang hdigits

theorem exists_of_getD_dropPrefixNoCase? (start s : List Char) :
    ∃ front, (front = [] ∨ Alike start front) ∧ s = front ++ (dropPrefixNoCase? start s).getD s := by
  cases h : dropPrefixNoCase? start s with
  | none => exact ⟨[], Or.inl rfl, rfl⟩
  | some rest =>
      obtain ⟨front, halike, heq⟩ := exists_of_dropPrefixNoCase? h
      exact ⟨front, Or.inr halike, heq⟩

/-- Scheme and `www.` stand in front of what is left without them. -/
theorem exists_of_dropScheme (s : List Char) :
    ∃ scheme www, IsScheme scheme ∧ IsWww www ∧ s = scheme ++ (www ++ dropScheme s) := by
  unfold dropScheme
  split
  · next rest hs =>
    obtain ⟨scheme, halike, rfl⟩ := exists_of_dropPrefixNoCase? hs
    obtain ⟨www, hwww, heq⟩ := exists_of_getD_dropPrefixNoCase? "www.".toList rest
    exact ⟨scheme, www, Or.inr (Or.inr halike), hwww, congrArg _ heq⟩
  · next rest _ hs =>
    obtain ⟨scheme, halike, rfl⟩ := exists_of_dropPrefixNoCase? hs
    obtain ⟨www, hwww, heq⟩ := exists_of_getD_dropPrefixNoCase? "www.".toList rest
    exact ⟨scheme, www, Or.inr (Or.inl halike), hwww, congrArg _ heq⟩
  · obtain ⟨www, hwww, heq⟩ := exists_of_getD_dropPrefixNoCase? "www.".toList s
    exact ⟨[], www, Or.inl rfl, hwww, heq⟩

theorem exists_of_dropHost? (h : dropHost? s = some rest) : ∃ host, IsHost host ∧ s = host ++ rest := by
  unfold dropHost? at h
  split at h
  · next hs =>
    obtain ⟨host, halike, rfl⟩ := exists_of_dropPrefixNoCase? hs
    obtain rfl := dropPrefix?_eq_some_iff.mp h
    exact ⟨_, .opendota halike, (List.append_assoc _ _ _).symm⟩
  · next hs =>
    obtain ⟨host, halike, rfl⟩ := exists_of_dropPrefixNoCase? hs
    obtain rfl := dropPrefix?_eq_some_iff.mp h
    exact ⟨_, .dotabuff halike, (List.append_assoc _ _ _).symm⟩
  · obtain ⟨host, halike, rfl⟩ := exists_of_dropPrefixNoCase? h
    exact ⟨host, .steam halike, rfl⟩

theorem exists_of_dropHost?_dropScheme (h : dropHost? (dropScheme s) = some rest) :
    ∃ scheme www host, IsScheme scheme ∧ IsWww www ∧ IsHost host ∧ s = scheme ++ (www ++ (host ++ rest)) := by
  obtain ⟨scheme, www, hscheme, hwww, hs⟩ := exists_of_dropScheme s
  obtain ⟨host, hhost, heq⟩ := exists_of_dropHost? h
  rw [heq] at hs
  exact ⟨scheme, www, host, hscheme, hwww, hhost, hs⟩

theorem ByNumber.of_readPage? (h : readPage? s = some r) : ByNumber s r := by
  have hpage : ∀ n path, (dropHost? (dropScheme s)).bind readNumber? = some (n, path) → IsPath path →
      ByNumber s (.account (.ofAny n)) := by
    intro n path hnumber hpath
    obtain ⟨rest, hrest, hn⟩ := Option.bind_eq_some_iff.mp hnumber
    obtain ⟨scheme, www, host, hscheme, hwww, hhost, rfl⟩ := exists_of_dropHost?_dropScheme hrest
    obtain ⟨digits, hdigits, rfl⟩ := exists_of_readNumber? hn
    exact .page hscheme hwww hhost hdigits hpath
  unfold readPage? at h
  split at h
  · next n hnumber =>
    obtain rfl := Option.some.inj h
    exact hpage n [] hnumber (Or.inl rfl)
  · next n rest hnumber =>
    obtain rfl := Option.some.inj h
    exact hpage n ('/' :: rest) hnumber (Or.inr ⟨rest, rfl⟩)
  · cases h

theorem ByNumber.of_readAccount? (h : readAccount? s = some r) : ByNumber s r := by
  obtain ⟨n, hn, rfl⟩ := Option.map_eq_some_iff.mp h
  exact .account (readWord64?_eq_some_iff_isDigits.mp hn)

theorem ByNumber.readBare? (h : ByNumber s r) : readBare? s = some r := by
  cases h with
  | mention hbang hdigits =>
      have hmention := readMention?_mention hbang (readWord64?_eq_some_iff_isDigits.mpr hdigits)
      unfold Reference.readBare?
      rw [hmention, Option.some_or]
  | page hscheme hwww hhost hdigits hpath =>
      exact readBare?_address hscheme hwww hhost (readWord64?_eq_some_iff_isDigits.mpr hdigits) hpath
  | account hdigits => exact readBare?_digits (readWord64?_eq_some_iff_isDigits.mpr hdigits)

theorem ByNumber.exists_ofAny {id : AccountId} (h : ByNumber s (.account id)) : ∃ n, id = .ofAny n := by
  cases h with
  | page _ _ _ _ _ => exact ⟨_, rfl⟩
  | account _ => exact ⟨_, rfl⟩

theorem ByNumber.ne_name (h : ByNumber s r) (name : String) : r ≠ .name name := by
  cases h <;> exact nofun

end Numbers

/-! ## What is read as a name -/

section Names

variable {s name : List Char} {r : Reference}

theorem isNameChar_iff {c : Char} : isNameChar c = true ↔ isAlphanumeric c = true ∨ c ∈ ['_', '-', '.', ' '] := by
  simp [isNameChar, or_assoc]

theorem ByName.of_all (h : (!name.isEmpty && name.all isNameChar) = true) (hs : s = name ∨ s = '@' :: name) :
    ByName s name := by
  obtain ⟨hne, hall⟩ := (Bool.and_eq_true _ _).mp h
  refine ⟨hs, fun hnil => ?_, fun c hc => isNameChar_iff.mp (List.all_eq_true.mp hall c hc)⟩
  rw [hnil] at hne
  cases hne

theorem ByName.all (h : ByName s name) : (!name.isEmpty && name.all isNameChar) = true := by
  apply (Bool.and_eq_true _ _).mpr
  constructor
  · rw [Bool.not_eq_true', List.isEmpty_eq_false_iff]
    exact h.ne_nil
  · exact List.all_eq_true.mpr fun c hc => isNameChar_iff.mpr (h.chars c hc)

theorem readName?_eq (s : List Char) : readName? s =
    if (!((dropPrefix? ['@'] s).getD s).isEmpty && ((dropPrefix? ['@'] s).getD s).all isNameChar) = true then
      some (.name (String.ofList (trim ((dropPrefix? ['@'] s).getD s))))
    else none := by
  unfold readName?
  dsimp only
  split
  · rfl
  · next hne => rw [getD_dropPrefix?_of_ne hne]

theorem ByName.getD_dropPrefix? (h : ByName s name) : (dropPrefix? ['@'] s).getD s = name := by
  rcases h.eq with rfl | rfl
  · refine getD_dropPrefix?_of_ne ?_
    rintro rest rfl
    have hat : isNameChar '@' = true := isNameChar_iff.mpr (h.chars '@' List.mem_cons_self)
    exact absurd hat (by decide +kernel)
  · rfl

theorem readName?_eq_some_iff : readName? s = some r ↔ ∃ name, ByName s name ∧ r = .name (String.ofList (trim name)) := by
  rw [readName?_eq, Option.ite_none_right_eq_some, Option.some_inj]
  constructor
  · rintro ⟨hall, rfl⟩
    obtain ⟨front, hfront, hs⟩ := exists_of_getD_dropPrefix? ['@'] s
    refine ⟨_, .of_all hall ?_, rfl⟩
    rcases hfront with rfl | rfl
    · exact Or.inl hs
    · exact Or.inr hs
  · rintro ⟨name, h, rfl⟩
    rw [h.getD_dropPrefix?]
    exact ⟨h.all, rfl⟩

theorem ByName.trim_ne_nil (h : ByName s name) (hs : ∀ c ∈ s.getLast?, isBlank c = false) : trim name ≠ [] := by
  intro hnil
  have hlast : name.getLast h.ne_nil ∈ s.getLast? := by
    rcases h.eq with rfl | rfl
    · exact List.getLast?_eq_some_getLast h.ne_nil
    · rw [List.getLast?_cons_of_ne_nil h.ne_nil]
      exact List.getLast?_eq_some_getLast h.ne_nil
  have hblank := trim_eq_nil_iff.mp hnil _ (List.getLast_mem h.ne_nil)
  rw [hs _ hlast] at hblank
  cases hblank

end Names

/-! ## All that is read -/

section Refers

variable {s : List Char} {r : Reference}

/-- A text that refers to no player by number is read as a name, if it is read at all. -/
theorem readBare?_of_not_byNumber (h : ∀ r, ¬ ByNumber s r) : readBare? s = readName? s := by
  have hmention : readMention? s = none :=
    Option.eq_none_iff_forall_ne_some.mpr fun r hr => h r (.of_readMention? hr)
  have hpage : readPage? s = none := Option.eq_none_iff_forall_ne_some.mpr fun r hr => h r (.of_readPage? hr)
  have haccount : readAccount? s = none :=
    Option.eq_none_iff_forall_ne_some.mpr fun r hr => h r (.of_readAccount? hr)
  unfold readBare?
  rw [hmention, hpage, haccount, Option.none_or, Option.none_or, Option.none_or]

/-- **A text is read as what it refers to**, and a text that refers to nothing is not read. -/
theorem readBare?_eq_some_iff : readBare? s = some r ↔ Refers s r := by
  by_cases hnumber : ∃ r, ByNumber s r
  · obtain ⟨r', hr'⟩ := hnumber
    rw [hr'.readBare?, Option.some_inj]
    constructor
    · rintro rfl
      exact .number hr'
    · intro h
      cases h with
      | number h => exact Option.some.inj (hr'.readBare?.symm.trans h.readBare?)
      | name hnot _ => exact absurd hr' (hnot r')
  · have hnot : ∀ r, ¬ ByNumber s r := not_exists.mp hnumber
    rw [readBare?_of_not_byNumber hnot, readName?_eq_some_iff]
    constructor
    · rintro ⟨name, h, rfl⟩
      exact .name hnot h
    · intro h
      cases h with
      | number h => exact absurd h (hnot r)
      | name _ h => exact ⟨_, h, rfl⟩

/-- An account that a text refers to has the number that the text refers by. -/
theorem Refers.exists_byNumber {id : AccountId} (h : Refers s (.account id)) :
    ∃ n, id = .ofAny n ∧ ByNumber s (.account (.ofAny n)) := by
  cases h with
  | number h =>
      obtain ⟨n, rfl⟩ := h.exists_ofAny
      exact ⟨n, rfl, h⟩

end Refers

end Reference

end PhraseFilter
