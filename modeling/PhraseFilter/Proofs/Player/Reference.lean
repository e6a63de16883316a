import PhraseFilter.Player.Reference
import PhraseFilter.Proofs.Text.Blank
import PhraseFilter.Proofs.Text.Decimal
import PhraseFilter.Proofs.Text.Letters
import PhraseFilter.Proofs.Text.Split

/-!
# How references are written

* `Reference.numeral` : the digits of a number with zeros in front of them; `Reference.readNumber?_append` : digits are read
  up to what follows them;
* `Reference.IsScheme`, `Reference.IsWww`, `Reference.IsHost`, `Reference.IsPath` : the parts of the address of a profile page;
  `Reference.readPage?_address` : it is read whatever they are, `Reference.readPage?_of_isApart` : and it starts like one;
* `Reference.readBare?` : reading without the blanks at both ends;
* `Reference.GivesNumber` : the texts that give an account by a number; `Reference.read?_of_givesNumber` : **all of them
  are read as the same account**;
* `Reference.GivesKey` : the texts that give an account by the name or the user that it is linked to;
  `Reference.read?_of_givesKey` : they are read as the name and the user.
-/

namespace PhraseFilter

open Text

namespace Reference

/-! ## Numbers -/

/-- The digits of a number with zeros in front of them. -/
def numeral (zeros : Nat) (n : UInt64) : List Char := List.replicate zeros '0' ++ (toString n.toNat).toList

section Numbers

variable {zeros : Nat} {n : UInt64} {c : Char} {rest : List Char}

theorem readWord64?_numeral (zeros : Nat) (n : UInt64) : readWord64? (numeral zeros n) = some n :=
  readWord64?_zeros zeros n

theorem isDigit_of_mem_numeral (h : c ∈ numeral zeros n) : c.isDigit = true :=
  (readWord64?_eq_some_iff.mp (readWord64?_numeral zeros n)).2.1 c h

theorem exists_cons_of_readWord64? {digits : List Char} (h : readWord64? digits = some n) :
    ∃ c rest, digits = c :: rest ∧ c.isDigit = true := by
  obtain ⟨hne, hdigits, -⟩ := readWord64?_eq_some_iff.mp h
  obtain ⟨c, rest, rfl⟩ := List.exists_cons_of_ne_nil hne
  exact ⟨c, rest, rfl, hdigits c List.mem_cons_self⟩

/-- The digits of a number are read up to the first character that is not one. -/
theorem readNumber?_append {digits : List Char} (hn : readWord64? digits = some n)
    (h : ∀ c ∈ rest.head?, c.isDigit = false) : readNumber? (digits ++ rest) = some (n, rest) := by
  obtain ⟨-, hdigits, -⟩ := readWord64?_eq_some_iff.mp hn
  have htake : rest.takeWhile Char.isDigit = [] ∧ rest.dropWhile Char.isDigit = rest := by
    cases rest with
    | nil => exact ⟨rfl, rfl⟩
    | cons c rest =>
        have hc := h c rfl
        exact ⟨List.takeWhile_cons_of_neg (Bool.not_eq_true _ ▸ hc), List.dropWhile_cons_of_neg (Bool.not_eq_true _ ▸ hc)⟩
  unfold readNumber?
  rw [List.takeWhile_append_of_pos hdigits, List.dropWhile_append_of_pos hdigits, htake.1, htake.2, List.append_nil, hn]
  rfl

end Numbers

/-! ## Addresses -/

def IsScheme (s : List Char) : Prop := s = [] ∨ Alike "http://".toList s ∨ Alike "https://".toList s

/-- What may stand between scheme and host. -/
def IsWww (s : List Char) : Prop := s = [] ∨ Alike "www.".toList s

def hosts : List String := ["opendota.com", "dotabuff.com", "steamcommunity.com/profiles/"]

/-- The hosts of profile pages with the path up to the number. -/
inductive IsHost : List Char → Prop
  | opendota {host : List Char} (h : Alike "opendota.com".toList host) : IsHost (host ++ "/players/".toList)
  | dotabuff {host : List Char} (h : Alike "dotabuff.com".toList host) : IsHost (host ++ "/players/".toList)
  | steam {host : List Char} (h : Alike "steamcommunity.com/profiles/".toList host) : IsHost host

/-- What may follow the number in an address: nothing, or a path. -/
def IsPath (s : List Char) : Prop := s = [] ∨ ∃ rest, s = '/' :: rest

/-- Does a text start with a word, the case of ASCII letters aside? -/
def StartsWith (word : String) (s : List Char) : Prop := ∃ start rest, Alike word.toList start ∧ s = start ++ rest

def openings : List String := "http://" :: "https://" :: "www." :: hosts

section Addresses

variable {scheme www host path rest s : List Char}

theorem IsHost.startsWith (h : IsHost host) (rest : List Char) : ∃ word ∈ hosts, StartsWith word (host ++ rest) := by
  cases h with
  | opendota h => exact ⟨"opendota.com", by decide, _, _, h, List.append_assoc _ _ _⟩
  | dotabuff h => exact ⟨"dotabuff.com", by decide, _, _, h, List.append_assoc _ _ _⟩
  | steam h => exact ⟨"steamcommunity.com/profiles/", by decide, _, _, h, rfl⟩

theorem IsWww.startsWith (hwww : IsWww www) (hhost : IsHost host) (rest : List Char) :
    ∃ word ∈ "www." :: hosts, StartsWith word (www ++ (host ++ rest)) := by
  rcases hwww with rfl | h
  · obtain ⟨word, hword, hstart⟩ := hhost.startsWith rest
    exact ⟨word, List.mem_cons_of_mem _ hword, hstart⟩
  · exact ⟨"www.", List.mem_cons_self, _, _, h, rfl⟩

theorem IsScheme.startsWith (hscheme : IsScheme scheme) (hwww : IsWww www) (hhost : IsHost host) (rest : List Char) :
    ∃ word ∈ openings, StartsWith word (scheme ++ (www ++ (host ++ rest))) := by
  rcases hscheme with rfl | h | h
  · obtain ⟨word, hword, hstart⟩ := hwww.startsWith hhost rest
    exact ⟨word, List.mem_cons_of_mem _ (List.mem_cons_of_mem _ hword), hstart⟩
  · exact ⟨"http://", by decide, _, _, h, rfl⟩
  · exact ⟨"https://", by decide, _, _, h, rfl⟩

theorem dropPrefixNoCase?_of_startsWith {word : String} {start : List Char} (h : StartsWith word s)
    (hstart : IsApart start word.toList) : dropPrefixNoCase? start s = none := by
  obtain ⟨t, rest, ht, rfl⟩ := h
  exact dropPrefixNoCase?_of_isApart hstart ht rest

theorem dropScheme_address (hscheme : IsScheme scheme) (hwww : IsWww www) (hhost : IsHost host) (rest : List Char) :
    dropScheme (scheme ++ (www ++ (host ++ rest))) = host ++ rest := by
  have hwww' : (dropPrefixNoCase? "www.".toList (www ++ (host ++ rest))).getD (www ++ (host ++ rest)) = host ++ rest := by
    rcases hwww with rfl | h
    · obtain ⟨word, hword, hstart⟩ := hhost.startsWith rest
      have hapart : ∀ word ∈ hosts, IsApart "www.".toList word.toList := by decide
      rw [List.nil_append, dropPrefixNoCase?_of_startsWith hstart (hapart word hword)]
      rfl
    · rw [dropPrefixNoCase?_append h]
      rfl
  unfold dropScheme
  rcases hscheme with rfl | h | h
  · obtain ⟨word, hword, hstart⟩ := hwww.startsWith hhost rest
    have hapart : ∀ word ∈ "www." :: hosts, IsApart "https://".toList word.toList ∧ IsApart "http://".toList word.toList := by
      decide
    rw [List.nil_append, dropPrefixNoCase?_of_startsWith hstart (hapart word hword).1,
      dropPrefixNoCase?_of_startsWith hstart (hapart word hword).2]
    exact hwww'
  · have hapart : IsApart "https://".toList "http://".toList := by decide
    rw [dropPrefixNoCase?_of_isApart hapart h, dropPrefixNoCase?_append h]
    exact hwww'
  · rw [dropPrefixNoCase?_append h]
    exact hwww'

theorem dropHost?_address (h : IsHost host) (rest : List Char) : dropHost? (host ++ rest) = some rest := by
  unfold dropHost?
  cases h with
  | opendota h =>
      rw [List.append_assoc, dropPrefixNoCase?_append h]
      exact dropPrefix?_append _ _
  | dotabuff h =>
      have hapart : IsApart "opendota.com".toList "dotabuff.com".toList := by decide
      rw [List.append_assoc, dropPrefixNoCase?_of_isApart hapart h, dropPrefixNoCase?_append h]
      exact dropPrefix?_append _ _
  | steam h =>
      have hopendota : IsApart "opendota.com".toList "steamcommunity.com/profiles/".toList := by decide
      have hdotabuff : IsApart "dotabuff.com".toList "steamcommunity.com/profiles/".toList := by decide
      rw [dropPrefixNoCase?_of_isApart hopendota h, dropPrefixNoCase?_of_isApart hdotabuff h, dropPrefixNoCase?_append h]

theorem readPage?_of_isApart {c : Char} (h : ∀ word ∈ openings, IsApart word.toList [c]) (rest : List Char) :
    readPage? (c :: rest) = none := by
  have hstart : ∀ word ∈ openings, dropPrefixNoCase? word.toList (c :: rest) = none := fun word hword =>
    dropPrefixNoCase?_of_isApart (h word hword) rfl rest
  have hscheme : dropScheme (c :: rest) = c :: rest := by
    unfold dropScheme
    rw [hstart "https://" (by decide), hstart "http://" (by decide)]
    dsimp only
    rw [hstart "www." (by decide)]
    rfl
  have hhost : dropHost? (c :: rest) = none := by
    unfold dropHost?
    rw [hstart "opendota.com" (by decide), hstart "dotabuff.com" (by decide)]
    exact hstart "steamcommunity.com/profiles/" (by decide)
  unfold readPage?
  rw [hscheme, hhost]
  rfl

theorem IsPath.isDigit_head (h : IsPath path) : ∀ c ∈ path.head?, c.isDigit = false := by
  rcases h with rfl | ⟨rest, rfl⟩
  · exact nofun
  · intro c hc
    obtain rfl := Option.some.inj hc
    rfl

/-- The address of a profile page is read, whatever scheme and path it has. -/
theorem readPage?_address {digits : List Char} {n : UInt64} (hscheme : IsScheme scheme) (hwww : IsWww www)
    (hhost : IsHost host) (hn : readWord64? digits = some n) (hpath : IsPath path) :
    readPage? (scheme ++ (www ++ (host ++ (digits ++ path)))) = some (.account (.ofAny n)) := by
  unfold readPage?
  rw [dropScheme_address hscheme hwww hhost, dropHost?_address hhost, Option.bind_some,
    readNumber?_append hn hpath.isDigit_head]
  rcases hpath with rfl | ⟨rest, rfl⟩ <;> rfl

/-- An address loses nothing but the blanks at the end of its path. -/
theorem IsPath.rdropWhile (h : IsPath path) : IsPath (path.rdropWhile isBlank) := by
  rcases h with rfl | ⟨rest, rfl⟩
  · exact Or.inl (List.rdropWhile_nil _)
  · have hslash : ∀ c ∈ ['/'], isBlank c = false := isBlank_of_all (by decide)
    exact Or.inr ⟨_, rdropWhile_append hslash rest⟩

theorem isBlank_of_alike {word : List Char} (hword : (word.all fun c => !isBlank c) = true) (h : Alike word s) :
    ∀ c ∈ s, isBlank c = false := by
  intro c hc
  have hlower : c.toLower ∈ word.map Char.toLower := by
    rw [h]
    exact List.mem_map_of_mem hc
  obtain ⟨d, hd, heq⟩ := List.mem_map.mp hlower
  rw [← isBlank_toLower, ← heq, isBlank_toLower]
  exact isBlank_of_all hword d hd

theorem IsScheme.isBlank (h : IsScheme scheme) : ∀ c ∈ scheme, isBlank c = false := by
  rcases h with rfl | h | h
  · exact nofun
  · exact isBlank_of_alike (by decide) h
  · exact isBlank_of_alike (by decide) h

theorem IsWww.isBlank (h : IsWww www) : ∀ c ∈ www, isBlank c = false := by
  rcases h with rfl | h
  · exact nofun
  · exact isBlank_of_alike (by decide) h

theorem IsHost.isBlank (h : IsHost host) : ∀ c ∈ host, isBlank c = false := by
  have hpath : ∀ c ∈ "/players/".toList, Text.isBlank c = false := isBlank_of_all (by decide)
  cases h with
  | opendota h => exact List.forall_mem_append.mpr ⟨isBlank_of_alike (by decide) h, hpath⟩
  | dotabuff h => exact List.forall_mem_append.mpr ⟨isBlank_of_alike (by decide) h, hpath⟩
  | steam h => exact isBlank_of_alike (by decide) h

end Addresses

/-! ## Reading without blanks -/

/-- The reference that a text without blanks at its ends is read as. -/
def readBare? (s : List Char) : Option Reference :=
  (readMention? s).or ((readPage? s).or ((readAccount? s).or (readName? s)))

section Bare

variable {body t : List Char} {text : String}

theorem read?_eq (text : String) : read? text = readBare? (trim text.toList) := rfl

theorem read?_of_isPadded (h : IsPadded body text.toList) : read? text = readBare? (trim body) := by
  rw [read?_eq, trim_of_isPadded h]

theorem readMention?_of_isApart {other : List Char} (h : IsApart "<@".toList other) (ht : Alike other t)
    (rest : List Char) : readMention? (t ++ rest) = none := by
  unfold readMention?
  rw [dropPrefix?_of_isApart h ht]

theorem readBare?_of_isApart {c : Char} (h : ∀ word ∈ "<@" :: openings, IsApart word.toList [c]) (rest : List Char) :
    readBare? (c :: rest) = (readAccount? (c :: rest)).or (readName? (c :: rest)) := by
  have hmention : readMention? (c :: rest) = none := readMention?_of_isApart (h "<@" List.mem_cons_self) rfl rest
  have hpage : readPage? (c :: rest) = none :=
    readPage?_of_isApart (fun word hword => h word (List.mem_cons_of_mem _ hword)) rest
  unfold readBare?
  rw [hmention, hpage, Option.none_or, Option.none_or]

end Bare

/-! ## Accounts by number -/

/-- The texts that give an account by a number, blanks at both ends aside. -/
inductive IsNumber (n : UInt64) : List Char → Prop
  /-- The digits of the number. -/
  | digits (zeros : Nat) : IsNumber n (numeral zeros n)
  /-- The address of a profile page. -/
  | address {scheme www host path : List Char} (hscheme : IsScheme scheme) (hwww : IsWww www) (hhost : IsHost host)
      (hpath : IsPath path) (zeros : Nat) : IsNumber n (scheme ++ (www ++ (host ++ (numeral zeros n ++ path))))

/-- Does a text give an account by the number `n`? -/
def GivesNumber (n : UInt64) (text : String) : Prop := ∃ body, IsNumber n body ∧ IsPadded body text.toList

section Numbers

variable {n : UInt64} {s : List Char} {text : String}

theorem isBlank_of_mem_numeral {c : Char} {zeros : Nat} (h : c ∈ numeral zeros n) : isBlank c = false :=
  isBlank_of_isDigit (isDigit_of_mem_numeral h)

theorem IsNumber.trim (h : IsNumber n s) : IsNumber n (trim s) := by
  cases h with
  | digits zeros =>
      rw [trim_of_not_blank fun c hc => isBlank_of_mem_numeral hc]
      exact .digits zeros
  | @address scheme www host path hscheme hwww hhost hpath zeros =>
      have hfront : ∀ c ∈ scheme ++ (www ++ (host ++ numeral zeros n)), isBlank c = false := by
        simp only [List.forall_mem_append]
        exact ⟨hscheme.isBlank, hwww.isBlank, hhost.isBlank, fun c hc => isBlank_of_mem_numeral hc⟩
      have hne : scheme ++ (www ++ (host ++ numeral zeros n)) ≠ [] := by
        obtain ⟨c, rest, hnumeral, -⟩ := exists_cons_of_readWord64? (readWord64?_numeral zeros n)
        rw [hnumeral]
        simp
      have htrim := trim_append hfront hne path
      simp only [List.append_assoc] at htrim
      rw [htrim]
      exact .address hscheme hwww hhost hpath.rdropWhile zeros

theorem isApart_of_isDigit {c : Char} (h : c.isDigit = true) : ∀ word ∈ "<@" :: openings, IsApart word.toList [c] :=
  forall_ascii (motive := fun c => c.isDigit = true → ∀ word ∈ "<@" :: openings, IsApart word.toList [c]) (by decide +kernel)
    (toNat_lt_of_isDigit h) h

theorem readBare?_digits (h : readWord64? s = some n) : readBare? s = some (.account (.ofAny n)) := by
  have haccount : readAccount? s = some (.account (.ofAny n)) := by
    unfold readAccount?
    rw [h]
    rfl
  obtain ⟨c, rest, rfl, hc⟩ := exists_cons_of_readWord64? h
  rw [readBare?_of_isApart (isApart_of_isDigit hc), haccount, Option.some_or]

theorem readBare?_address {scheme www host digits path : List Char} (hscheme : IsScheme scheme) (hwww : IsWww www)
    (hhost : IsHost host) (hn : readWord64? digits = some n) (hpath : IsPath path) :
    readBare? (scheme ++ (www ++ (host ++ (digits ++ path)))) = some (.account (.ofAny n)) := by
  have hmention : readMention? (scheme ++ (www ++ (host ++ (digits ++ path)))) = none := by
    obtain ⟨word, hword, start, rest, halike, heq⟩ := hscheme.startsWith hwww hhost (digits ++ path)
    have hapart : ∀ word ∈ openings, IsApart "<@".toList word.toList := by decide
    rw [heq]
    exact readMention?_of_isApart (hapart word hword) halike rest
  unfold readBare?
  rw [hmention, readPage?_address hscheme hwww hhost hn hpath, Option.none_or, Option.some_or]

theorem IsNumber.readBare? (h : IsNumber n s) : readBare? s = some (.account (.ofAny n)) := by
  cases h with
  | digits zeros =>
      exact readBare?_digits (readWord64?_numeral zeros n)
  | @address scheme www host path hscheme hwww hhost hpath zeros =>
      exact readBare?_address hscheme hwww hhost (readWord64?_numeral zeros n) hpath

/-- **All texts that give an account by the same number are read as the same account.** -/
theorem read?_of_givesNumber (h : GivesNumber n text) : read? text = some (.account (.ofAny n)) := by
  obtain ⟨body, hbody, hpadded⟩ := h
  rw [read?_of_isPadded hpadded]
  exact hbody.trim.readBare?

end Numbers

/-! ## Accounts by link -/

/-- The names that can be referred to: they are not empty, have no blanks at their ends, and consist of characters that
names are made of. -/
structure IsName (name : String) : Prop where
  ne_empty : name ≠ ""
  trim_eq : trim name.toList = name.toList
  isNameChar : ∀ c ∈ name.toList, isNameChar c = true

/-- The texts that give an account by what it is linked to, blanks at both ends aside. -/
inductive IsKey : (key : String) → List Char → Prop
  /-- A name after `@`. -/
  | name {name : String} (h : IsName name) : IsKey name ('@' :: name.toList)
  /-- A mention of a user, who is linked by the digits of their number. -/
  | mention {bang : List Char} (hbang : bang = [] ∨ bang = ['!']) (zeros : Nat) (user : UInt64) :
      IsKey (toString user.toNat) ("<@".toList ++ (bang ++ (numeral zeros user ++ ['>'])))

/-- Does a text give an account by the name or the user's number `key` that it is linked to? -/
def GivesKey (key text : String) : Prop := ∃ body, IsKey key body ∧ IsPadded body text.toList

section Keys

variable {name key text : String}

theorem readMention?_mention {bang digits : List Char} {user : UInt64} (hbang : bang = [] ∨ bang = ['!'])
    (huser : readWord64? digits = some user) :
    readMention? ("<@".toList ++ (bang ++ (digits ++ ['>']))) = some (.mention user) := by
  have hend : ∀ c ∈ ['>'].head?, c.isDigit = false := by
    rintro _ ⟨⟩
    rfl
  have hnumber := readNumber?_append huser hend
  unfold readMention?
  rw [dropPrefix?_append]
  rcases hbang with rfl | rfl
  · -- The digits are not taken for the mark that may stand in front of them.
    obtain ⟨c, rest, rfl, hc⟩ := exists_cons_of_readWord64? huser
    have hne : c ≠ '!' := by
      rintro rfl
      cases hc
    rw [List.cons_append] at hnumber
    simp [hne, hnumber]
  · simp [hnumber]

theorem isBlank_mention {bang : List Char} (hbang : bang = [] ∨ bang = ['!']) (zeros : Nat) (user : UInt64) :
    ∀ c ∈ "<@".toList ++ (bang ++ (numeral zeros user ++ ['>'])), isBlank c = false := by
  simp only [List.forall_mem_append]
  refine ⟨isBlank_of_all (by decide), ?_, fun c hc => isBlank_of_mem_numeral hc, isBlank_of_all (by decide)⟩
  rcases hbang with rfl | rfl
  · exact nofun
  · exact isBlank_of_all (by decide)

theorem IsName.readBare? (h : IsName name) : readBare? ('@' :: name.toList) = some (.name name) := by
  have hchars : (!name.toList.isEmpty && name.toList.all Reference.isNameChar) = true := by
    rw [Bool.and_eq_true, List.all_eq_true, Bool.not_eq_true', List.isEmpty_eq_false_iff]
    exact ⟨fun hnil => h.ne_empty (String.toList_eq_nil_iff.mp hnil), h.isNameChar⟩
  have hname : readName? ('@' :: name.toList) = some (.name name) := by
    show (if (!name.toList.isEmpty && name.toList.all Reference.isNameChar) = true then
      some (Reference.name (String.ofList (trim name.toList))) else none) = _
    rw [if_pos hchars, h.trim_eq, String.ofList_toList]
  have haccount : readAccount? ('@' :: name.toList) = none := rfl
  have hapart : ∀ word ∈ "<@" :: openings, IsApart word.toList ['@'] := by decide
  rw [readBare?_of_isApart hapart, haccount, hname, Option.none_or]

theorem read?_of_givesKey (h : GivesKey key text) :
    read? text = some (.name key) ∨ ∃ user : UInt64, key = toString user.toNat ∧ read? text = some (.mention user) := by
  obtain ⟨body, hbody, hpadded⟩ := h
  rw [read?_of_isPadded hpadded]
  cases hbody with
  | name h =>
      have hat : ∀ c ∈ ['@'], isBlank c = false := isBlank_of_all (by decide)
      have htrim : trim ('@' :: key.toList) = '@' :: key.toList := by
        rw [← List.singleton_append, trim_append hat (List.cons_ne_nil _ _), rdropWhile_of_trim_eq h.trim_eq]
      rw [htrim]
      exact Or.inl h.readBare?
  | mention hbang zeros user =>
      refine Or.inr ⟨user, rfl, ?_⟩
      unfold readBare?
      rw [trim_of_not_blank (isBlank_mention hbang zeros user), readMention?_mention hbang (readWord64?_numeral zeros user), Option.some_or]

end Keys

end Reference

end PhraseFilter
