import PhraseFilter.Player.Basic
import PhraseFilter.Proofs.Player.Grammar

/-!
# Reading a reference by committing to an alternative

Each way to write a reference can also be read from the start of a text alone, whatever follows. The first of these readers
that succeeds is then committed to, and the text is refused if anything is left.

* `Reference.alternatives` : the readers in order, `Reference.committed?` : reading by the first that succeeds;
* `Reference.Excludes` : where one reader leaves something, another does not read the whole text;
  `Reference.whole_findSome?` : if each reader excludes the later ones, nothing is lost by committing;
* `Reference.pairwise_excludes` : each alternative excludes the later ones;
* `Reference.readBare?_eq_committed?` : **committing does not change what is read**;
* `Player.readReference_iff_refers` : **exactly the texts of the grammar are read, as what they refer to.**
-/

namespace PhraseFilter

open Text

namespace Reference

/-! ## Readers of a start -/

/-- Reads a reference from the start of a text, and tells what is left. -/
abbrev StartReader := List Char → Option (Reference × List Char)

/-- The reference that was read, if nothing is left. -/
def whole (x : Option (Reference × List Char)) : Option Reference :=
  x.bind fun (r, rest) => if rest = [] then some r else none

/-- Where `f` leaves something of a text, `g` does not read the whole text. -/
def Excludes (f g : StartReader) : Prop := ∀ s r rest, f s = some (r, rest) → rest ≠ [] → whole (g s) = none

section Commitment

variable {readers : List StartReader} {s rest : List Char} {r : Reference}

theorem whole_some (r : Reference) (rest : List Char) : whole (some (r, rest)) = if rest = [] then some r else none := rfl

theorem whole_nil (r : Reference) : whole (some (r, [])) = some r := rfl

theorem whole_of_ne_nil (h : rest ≠ []) : whole (some (r, rest)) = none := if_neg h

/-- If each reader excludes the later ones, then the first that succeeds may be committed to. -/
theorem whole_findSome? (h : readers.Pairwise Excludes) (s : List Char) :
    whole (readers.findSome? (· s)) = readers.findSome? fun f => whole (f s) := by
  induction readers with
  | nil => rfl
  | cons f readers ih =>
      obtain ⟨hf, hreaders⟩ := List.pairwise_cons.mp h
      rw [List.findSome?_cons, List.findSome?_cons]
      cases hs : f s with
      | none => exact ih hreaders
      | some x =>
          obtain ⟨r, rest⟩ := x
          by_cases hrest : rest = []
          · rw [hrest, whole_nil]
          · have hlater : readers.findSome? (fun g => whole (g s)) = none :=
              List.findSome?_eq_none_iff.mpr fun g hg => hf g hg s r rest hs hrest
            rw [whole_of_ne_nil hrest]
            exact hlater.symm

end Commitment

/-! ## The alternatives -/

def startMention? : StartReader := fun s =>
  (dropPrefix? "<@".toList s).bind fun s =>
    (readNumber? ((dropPrefix? ['!'] s).getD s)).bind fun (user, rest) =>
      (dropPrefix? ['>'] rest).map fun rest => (.mention user, rest)

/-- What follows the host and the path of a page of a player. -/
def dropPlayers? (s : List Char) : Option (List Char) :=
  ((dropPrefixNoCase? "opendota.com".toList s).or (dropPrefixNoCase? "dotabuff.com".toList s)).bind
    (dropPrefix? "/players/".toList)

/-- What follows the host and the path of a profile on the other service. -/
def dropProfiles? (s : List Char) : Option (List Char) := dropPrefixNoCase? "steamcommunity.com/profiles/".toList s

/-- What is left after the path that may follow a number: a path reaches up to the end. -/
def dropPath (s : List Char) : List Char := if s.head? = some '/' then [] else s

/-- Reads the address of a page whose host is dropped by `drop?`. -/
def startPage? (drop? : List Char → Option (List Char)) : StartReader := fun s =>
  ((drop? (dropScheme s)).bind readNumber?).map fun (n, rest) => (.account (.ofAny n), dropPath rest)

/-- A number is read only where nothing follows it. -/
def startAccount? : StartReader := fun s => (readAccount? s).map fun r => (r, [])

def startName? : StartReader := fun s =>
  let s := (dropPrefix? ['@'] s).getD s
  let name := s.takeWhile isNameChar
  if name = [] then none else some (.name (String.ofList (trim name)), s.dropWhile isNameChar)

/-- The ways to read a reference, in order. -/
def alternatives : List StartReader :=
  [startMention?, startPage? dropPlayers?, startPage? dropProfiles?, startAccount?, startName?]

/-- Commits to the first way that succeeds, and refuses the text if anything is left. -/
def committed? (s : List Char) : Option Reference := whole (alternatives.findSome? (· s))

/-! ## What they read of whole texts -/

section Whole

variable {s rest : List Char}

theorem whole_startMention? (s : List Char) : whole (startMention? s) = readMention? s := by
  have hend : ∀ x : UInt64 × List Char,
      whole ((dropPrefix? ['>'] x.2).map fun rest => (Reference.mention x.1, rest)) = endMention? x := by
    rintro ⟨user, rest⟩
    unfold endMention?
    cases h : dropPrefix? ['>'] rest with
    | none =>
        have hne : rest ≠ ['>'] := by
          rintro rfl
          cases h
        exact (if_neg hne).symm
    | some rest' =>
        obtain rfl := dropPrefix?_eq_some_iff.mp h
        simp [whole_some]
  rw [readMention?_eq]
  unfold startMention?
  cases dropPrefix? "<@".toList s with
  | none => rfl
  | some s =>
      rw [Option.bind_some, Option.bind_some]
      cases readNumber? ((dropPrefix? ['!'] s).getD s) with
      | none => rfl
      | some x => exact hend x

theorem dropProfiles?_of_host {word : String} (hword : word ∈ ["opendota.com", "dotabuff.com"])
    (h : dropPrefixNoCase? word.toList s = some rest) : dropProfiles? s = none := by
  have hapart : ∀ word ∈ ["opendota.com", "dotabuff.com"], IsApart "steamcommunity.com/profiles/".toList word.toList := by
    decide
  obtain ⟨host, halike, rfl⟩ := exists_of_dropPrefixNoCase? h
  exact dropPrefixNoCase?_of_isApart (hapart word hword) halike rest

theorem dropProfiles?_of_dropPlayers? (h : dropPlayers? s = some rest) : dropProfiles? s = none := by
  obtain ⟨rest', hhost, -⟩ := Option.bind_eq_some_iff.mp h
  rcases Option.or_eq_some_iff.mp hhost with hhost | ⟨-, hhost⟩
  · exact dropProfiles?_of_host (by decide) hhost
  · exact dropProfiles?_of_host (by decide) hhost

theorem dropHost?_eq (s : List Char) : dropHost? s = (dropPlayers? s).or (dropProfiles? s) := by
  unfold dropHost? dropPlayers?
  cases hopendota : dropPrefixNoCase? "opendota.com".toList s with
  | some rest => rw [dropProfiles?_of_host (by decide) hopendota, Option.or_none, Option.some_or, Option.bind_some]
  | none =>
      cases hdotabuff : dropPrefixNoCase? "dotabuff.com".toList s with
      | some rest => rw [dropProfiles?_of_host (by decide) hdotabuff, Option.or_none, Option.none_or, Option.bind_some]
      | none => rfl

/-- The number of an address, which only a path may follow. -/
def endPage? (x : UInt64 × List Char) : Option Reference := whole (some (.account (.ofAny x.1), dropPath x.2))

theorem whole_startPage? (drop? : List Char → Option (List Char)) (s : List Char) :
    whole (startPage? drop? s) = ((drop? (dropScheme s)).bind readNumber?).bind endPage? := by
  unfold startPage?
  cases (drop? (dropScheme s)).bind readNumber? <;> rfl

theorem readPage?_eq (s : List Char) :
    readPage? s = (whole (startPage? dropPlayers? s)).or (whole (startPage? dropProfiles? s)) := by
  have hend : readPage? s = ((dropHost? (dropScheme s)).bind readNumber?).bind endPage? := by
    unfold readPage?
    split
    · next hnumber => rw [hnumber]; rfl
    · next hnumber => rw [hnumber]; rfl
    · next hnil hslash =>
      cases hnumber : (dropHost? (dropScheme s)).bind readNumber? with
      | none => rfl
      | some x =>
          obtain ⟨n, rest⟩ := x
          cases rest with
          | nil => exact absurd hnumber (hnil n)
          | cons c rest =>
              have hc : c ≠ '/' := by
                rintro rfl
                exact hslash n rest hnumber
              simp [endPage?, dropPath, hc, whole_some]
  rw [hend, whole_startPage?, whole_startPage?, dropHost?_eq]
  cases hplayers : dropPlayers? (dropScheme s) with
  | none => rfl
  | some rest => rw [dropProfiles?_of_dropPlayers? hplayers, Option.some_or, Option.bind_none, Option.bind_none, Option.or_none]

theorem whole_startAccount? (s : List Char) : whole (startAccount? s) = readAccount? s := by
  unfold startAccount?
  cases readAccount? s <;> rfl

theorem whole_startName? (s : List Char) : whole (startName? s) = readName? s := by
  rw [readName?_eq]
  unfold startName?
  dsimp only
  generalize (dropPrefix? ['@'] s).getD s = name
  by_cases hall : ∀ c ∈ name, isNameChar c = true
  · have htake : name.takeWhile isNameChar = name := List.takeWhile_eq_self_iff.mpr hall
    have hdrop : name.dropWhile isNameChar = [] := List.dropWhile_eq_nil_iff.mpr hall
    cases name with
    | nil => rfl
    | cons c name =>
        rw [htake, hdrop, List.all_eq_true.mpr hall]
        rfl
  · have hdrop : name.dropWhile isNameChar ≠ [] := fun h => hall (List.dropWhile_eq_nil_iff.mp h)
    have hall' : ¬ (!name.isEmpty && name.all isNameChar) = true :=
      fun h => hall (List.all_eq_true.mp ((Bool.and_eq_true _ _).mp h).2)
    rw [if_neg hall']
    split
    · rfl
    · exact whole_of_ne_nil hdrop

/-- A text is read by the first way that reads all of it. -/
theorem readBare?_eq_findSome? (s : List Char) : readBare? s = alternatives.findSome? fun f => whole (f s) := by
  have hor : ∀ (f : StartReader) (fs : List StartReader),
      (f :: fs).findSome? (fun f => whole (f s)) = (whole (f s)).or (fs.findSome? fun f => whole (f s)) := by
    intro f fs
    rw [List.findSome?_cons]
    cases whole (f s) <;> rfl
  unfold readBare? alternatives
  rw [hor, hor, hor, hor, hor, List.findSome?_nil, Option.or_none, whole_startMention?, whole_startAccount?,
    whole_startName?, readPage?_eq, Option.or_assoc]

end Whole

/-! ## Each excludes the later ones -/

section Exclusion

variable {s rest : List Char} {r : Reference} {c : Char}

theorem whole_eq_none_of_mem (hmem : c ∈ s) (hc : c ∈ ['<', '/']) :
    whole (startAccount? s) = none ∧ whole (startName? s) = none := by
  have hchar : c.isDigit = false ∧ isNameChar c = false ∧ c ≠ '@' := by
    rcases List.mem_pair.mp hc with rfl | rfl
    · exact ⟨rfl, rfl, by decide⟩
    · exact ⟨rfl, rfl, by decide⟩
  obtain ⟨hdigit, hname, hat⟩ := hchar
  rw [whole_startAccount?, whole_startName?]
  constructor
  · cases h : readWord64? s with
    | none => exact congrArg (Option.map _) h
    | some n =>
        rw [(readWord64?_eq_some_iff_isDigits.mp h).isDigit c hmem] at hdigit
        cases hdigit
  · rw [Option.eq_none_iff_forall_ne_some]
    intro r h
    obtain ⟨name, hbyName, -⟩ := readName?_eq_some_iff.mp h
    have hmem' : c ∈ name := by
      rcases hbyName.eq with rfl | rfl
      · exact hmem
      · exact (List.mem_cons.mp hmem).resolve_left hat
    rw [isNameChar_iff.mpr (hbyName.chars c hmem')] at hname
    cases hname

theorem exists_of_startMention? (h : startMention? s = some (r, rest)) : ∃ s', s = '<' :: s' := by
  obtain ⟨s', hs, -⟩ := Option.bind_eq_some_iff.mp h
  exact ⟨_, dropPrefix?_eq_some_iff.mp hs⟩

theorem whole_startPage?_of_lt (rest : List Char) :
    whole (startPage? dropPlayers? ('<' :: rest)) = none ∧ whole (startPage? dropProfiles? ('<' :: rest)) = none := by
  have hapart : ∀ word ∈ openings, IsApart word.toList ['<'] := by decide
  rw [← Option.or_eq_none_iff, ← readPage?_eq]
  exact readPage?_of_isApart hapart rest

theorem slash_mem_of_alike {word t : List Char} (h : Alike word t) (hmem : '/' ∈ word) : '/' ∈ t := by
  have hlower : '/' ∈ t.map Char.toLower := by
    rw [← h]
    exact List.mem_map_of_mem (f := Char.toLower) hmem
  obtain ⟨c, hc, heq⟩ := List.mem_map.mp hlower
  have hslash : c = '/' := by
    by_cases hascii : c.toNat < 0x80
    · exact forall_ascii (motive := fun c => c.toLower = '/' → c = '/') (by decide) hascii heq
    · rwa [toLower_of_not_ascii hascii] at heq
  rwa [hslash] at hc

theorem IsHost.slash_mem {host : List Char} (h : IsHost host) : '/' ∈ host := by
  have hpath : '/' ∈ "/players/".toList := by decide
  cases h with
  | opendota => exact List.mem_append_right _ hpath
  | dotabuff => exact List.mem_append_right _ hpath
  | steam h => exact slash_mem_of_alike h (by decide)

theorem slash_mem_of_dropHost? (h : dropHost? (dropScheme s) = some rest) : '/' ∈ s := by
  obtain ⟨scheme, www, host, -, -, hhost, rfl⟩ := exists_of_dropHost?_dropScheme h
  exact List.mem_append_right _ (List.mem_append_right _ (List.mem_append_left _ hhost.slash_mem))

theorem exists_of_startPage? {drop? : List Char → Option (List Char)} (h : startPage? drop? s = some (r, rest)) :
    ∃ rest', drop? (dropScheme s) = some rest' := by
  obtain ⟨x, hx, -⟩ := Option.map_eq_some_iff.mp h
  obtain ⟨rest', hrest, -⟩ := Option.bind_eq_some_iff.mp hx
  exact ⟨rest', hrest⟩

/-- Each alternative excludes the later ones: mentions start with `<`, addresses have a `/`, and of an address on one host
nothing is read on the other service. -/
theorem pairwise_excludes : alternatives.Pairwise Excludes := by
  refine .cons ?mention (.cons ?players (.cons ?profiles (.cons ?account (List.pairwise_singleton _ _))))
  case mention =>
    intro g hg s r rest h _
    obtain ⟨s', rfl⟩ := exists_of_startMention? h
    obtain ⟨hplayers, hprofiles⟩ := whole_startPage?_of_lt s'
    obtain ⟨haccount, hname⟩ := whole_eq_none_of_mem (s := '<' :: s') List.mem_cons_self (by decide)
    simp only [List.mem_cons, List.not_mem_nil, or_false] at hg
    rcases hg with rfl | rfl | rfl | rfl
    · exact hplayers
    · exact hprofiles
    · exact haccount
    · exact hname
  case players =>
    intro g hg s r rest h _
    obtain ⟨rest', hrest⟩ := exists_of_startPage? h
    have hhost : dropHost? (dropScheme s) = some rest' := by rw [dropHost?_eq, hrest, Option.some_or]
    obtain ⟨haccount, hname⟩ := whole_eq_none_of_mem (slash_mem_of_dropHost? hhost) (by decide)
    simp only [List.mem_cons, List.not_mem_nil, or_false] at hg
    rcases hg with rfl | rfl | rfl
    · rw [whole_startPage?, dropProfiles?_of_dropPlayers? hrest]
      rfl
    · exact haccount
    · exact hname
  case profiles =>
    intro g hg s r rest h _
    obtain ⟨rest', hrest⟩ := exists_of_startPage? h
    have hhost : ∃ rest', dropHost? (dropScheme s) = some rest' := by
      rw [dropHost?_eq, hrest]
      cases dropPlayers? (dropScheme s) with
      | none => exact ⟨rest', rfl⟩
      | some rest'' => exact ⟨rest'', rfl⟩
    obtain ⟨rest'', hhost⟩ := hhost
    obtain ⟨haccount, hname⟩ := whole_eq_none_of_mem (slash_mem_of_dropHost? hhost) (by decide)
    simp only [List.mem_cons, List.not_mem_nil, or_false] at hg
    rcases hg with rfl | rfl
    · exact haccount
    · exact hname
  case account =>
    intro g _ s r rest h hrest
    obtain ⟨r', -, heq⟩ := Option.map_eq_some_iff.mp h
    exact absurd (congrArg Prod.snd heq).symm hrest

/-- **Committing to the first way that succeeds does not change what is read.** -/
theorem readBare?_eq_committed? (s : List Char) : readBare? s = committed? s := by
  unfold committed?
  rw [whole_findSome? pairwise_excludes, readBare?_eq_findSome?]

end Exclusion

end Reference

/-! ## The grammar -/

namespace Player

open Reference

section Reading

variable {text : String} {r : Reference} {e : PlayerError}

theorem readReference_eq_ok_iff : readReference text = .ok r ↔ Refers (trim text.toList) r := by
  rw [← readBare?_eq_some_iff, ← read?_eq]
  unfold readReference
  cases Reference.read? text with
  | none => exact ⟨nofun, nofun⟩
  | some r' => rw [Except.ok.injEq, Option.some_inj]

theorem readReference_eq_error_iff : readReference text = .error e ↔
    (∀ r, ¬ Refers (trim text.toList) r) ∧ e = .badReference (String.ofList (trim text.toList)) := by
  have hnone : Reference.read? text = none ↔ ∀ r, ¬ Refers (trim text.toList) r := by
    rw [Option.eq_none_iff_forall_ne_some]
    exact forall_congr' fun r => not_congr readBare?_eq_some_iff
  rw [← hnone]
  unfold readReference
  cases Reference.read? text with
  | none => rw [Except.error.injEq, eq_comm, eq_self, true_and]
  | some r => exact ⟨nofun, nofun⟩

end Reading

/-- **Exactly the texts of the grammar are read, as what they refer to**, blanks at both ends aside. Any other text is
refused, and the error tells it. A name that is read is not empty. Committing to the first way to read a start does not
change what is read, so a text is read if any way reads all of it. -/
theorem readReference_iff_refers (text : String) :
    (∀ r, readReference text = .ok r ↔ Refers (trim text.toList) r) ∧
      (∀ e, readReference text = .error e ↔
        (∀ r, ¬ Refers (trim text.toList) r) ∧ e = .badReference (String.ofList (trim text.toList))) ∧
      (∀ name, readReference text = .ok (.name name) → name ≠ "") ∧
      Reference.read? text = committed? (trim text.toList) ∧
      ∀ f ∈ alternatives, ∀ r, f (trim text.toList) = some (r, []) → ∃ r', readReference text = .ok r' := by
  refine ⟨fun r => readReference_eq_ok_iff, fun e => readReference_eq_error_iff, ?_, readBare?_eq_committed? _, ?_⟩
  · intro name hread
    cases readReference_eq_ok_iff.mp hread with
    | number h => exact absurd rfl (h.ne_name name)
    | name _ h =>
        intro hempty
        exact h.trim_ne_nil (fun c hc => isBlank_getLast_trim hc) (String.ofList_eq_empty_iff.mp hempty)
  · intro f hf r hr
    have hne : readBare? (trim text.toList) ≠ none := by
      rw [readBare?_eq_findSome?]
      intro hnone
      have hwhole := List.findSome?_eq_none_iff.mp hnone f hf
      rw [hr] at hwhole
      cases hwhole
    obtain ⟨r', hr'⟩ := Option.ne_none_iff_exists'.mp hne
    exact ⟨r', readReference_eq_ok_iff.mpr (readBare?_eq_some_iff.mp hr')⟩

/-- Digits that stand for no 64-bit number are a name. -/
example : readReference " 18446744073709551616" = .ok (.name "18446744073709551616") := by rfl

end Player

end PhraseFilter
