import PhraseFilter.Proofs.Span.Words
import PhraseFilter.Proofs.Standard.Topic
import PhraseFilter.Proofs.Text.Boundary

/-!
# The language of the standard filter

* `Standard.Says` : the words say a topic, with a value;
* `Standard.Known` : a word of the vocabulary of a topic; `Known.topic_unique` : no word belongs to two topics;
* `Topic.resolve_eq_ok_iff`, `Topic.spells_iff` : the texts that the pattern of a choice spells, and their values;
* `Standard.fits_of_spells` : **what a pattern spells is words of its topic, joined by single spaces**;
* `Says.of_resolve`, `Standard.spells_joined`, `Standard.resolve_eq_ok` : **the phrases that have a value
  are those that say it**.
-/

namespace PhraseFilter.Standard

open Text Pattern TimeSpan

/-- The words of a text say a topic with a value, in any case: they are those of one of its sayings, or of a time span
whose count is written in ASCII digits. -/
inductive Says : Topic → List (List Char) → Value → Prop
  | saying {t : Topic} {ws : List (List Char)} {x : String × Value} (hx : x ∈ t.sayings)
      (hws : ws.map (·.map fold) = words x.1.toList) : Says t ws x.2
  | span {l : Layout} {name : String} {days : Nat} (hl : l.IsSpan) (hascii : ∀ d ∈ l.digits, d.isDigit = true)
      (hmem : (name, days) ∈ daysPerUnit) (hunit : l.unit.map fold = name.toList) :
      Says .date (words l.text) (.int (l.count * days : Nat))

/-- The words that topics are said with, digits aside. -/
def vocabulary : List (List Char × Topic) :=
  (Topic.all.flatMap fun t => t.sayings.flatMap fun x => (words x.1.toList).map fun w => (w, t)) ++
    (openingWords ++ unitWords).map fun w => (w, Topic.date)

/-- A word that a topic is said with, in any case. -/
inductive Known : Topic → List Char → Prop
  | listed {t : Topic} {w : List Char} (h : (w.map fold, t) ∈ vocabulary) : Known t w
  | counted {d : Char} {r : List Char} (hd : isDigit d = true) (hw : ∀ c ∈ d :: r, isWord c = true) :
      Known .date (d :: r)

/-! ## Choices -/

section Choices

variable {t : Topic} {m : List Char} {v : Value}

theorem Topic.spells_iff (ht : t ≠ .date) : t.pattern.Spells m ↔ ∃ x ∈ t.sayings, m.map fold = x.1.toList := by
  obtain ⟨hlisted, hspellings⟩ := Topic.spellings_pattern ht
  rw [spells_iff_mem_spellings hlisted, hspellings, List.mem_map]
  simp only [eq_comm]

theorem Topic.sayings_unique (t : Topic) : ∀ x ∈ t.sayings, ∀ y ∈ t.sayings, x.1 = y.1 → x.2 = y.2 := by
  cases t <;> decide

theorem Topic.grammar_clause (ht : t ≠ .date) :
    t.clause.grammar = .choice (Clause.alternativesOf t.given t.patterns) (some t.pattern.bounded) := by
  cases t with
  | date => exact absurd rfl ht
  | _ => rfl

/-- **The value of a phrase** is that of the saying that it is, in any case. -/
theorem Topic.resolve_eq_ok_iff (ht : t ≠ .date) :
    t.clause.resolve m = .ok v ↔ ∃ x ∈ t.sayings, m.map fold = x.1.toList ∧ x.2 = v := by
  obtain ⟨hlisted, hsayings⟩ := t.sayings_eq
  have hfree : ∀ p ∈ t.patterns, p.isPlaceFree = true := fun p hp => isPlaceFree_of_isListed (hlisted p hp)
  have hsaying : ∀ ap ∈ List.zip t.given t.patterns, ap.2.Spells m → (String.ofList (m.map fold), ap.1.2) ∈ t.sayings := by
    intro ap hap hm
    rw [← hsayings, List.mem_flatMap]
    refine ⟨ap, hap, List.mem_map.mpr ⟨_, ?_, rfl⟩⟩
    exact (spells_iff_mem_spellings (hlisted _ (List.of_mem_zip hap).2)).mp hm
  have hvalue : ∀ {u}, t.clause.resolve m = .ok u → ∃ x ∈ t.sayings, m.map fold = x.1.toList ∧ x.2 = u := by
    intro u hu
    obtain ⟨ap, hap, hm, rfl⟩ := Clause.exists_of_resolve hfree (Topic.grammar_clause ht) hu
    exact ⟨_, hsaying ap hap hm, by rw [String.toList_ofList], rfl⟩
  refine ⟨hvalue, ?_⟩
  rintro ⟨x, hx, hm, rfl⟩
  obtain ⟨u, hu⟩ : ∃ u, t.clause.resolve m = .ok u := by
    refine Clause.exists_value hfree (Topic.grammar_clause ht) ?_
    rw [← hsayings, List.mem_flatMap] at hx
    obtain ⟨ap, hap, hx⟩ := hx
    obtain ⟨w, hw, rfl⟩ := List.mem_map.mp hx
    rw [String.toList_ofList] at hm
    exact ⟨ap, hap, (spells_iff_mem_spellings (hlisted _ (List.of_mem_zip hap).2)).mpr (hm ▸ hw)⟩
  obtain ⟨y, hy, hm', rfl⟩ := hvalue hu
  rw [hu, t.sayings_unique x hx y hy (String.toList_injective (hm.symm.trans hm'))]

end Choices

/-! ## Words and texts -/

/-- The text is made of words of the topic, joined by single spaces, and may have a space before them. -/
structure Fits (t : Topic) (m : List Char) : Prop where
  ne_nil : words m ≠ []
  known : ∀ w ∈ words m, Known t w
  shape : m = joined (words m) ∨ m = ' ' :: joined (words m)

section Texts

variable {t : Topic} {m : List Char} {ws : List (List Char)} {v : Value}

theorem known_of_isSpanWord {w : List Char} (h : IsSpanWord w) : Known .date w := by
  rcases h with h | ⟨⟨d, r, rfl, hd⟩, hw⟩
  · exact .listed (List.mem_append_right _ (List.mem_map_of_mem h))
  · exact .counted hd hw

theorem mem_vocabulary {x : String × Value} (hx : x ∈ t.sayings) {w : List Char} (hw : w ∈ words x.1.toList) :
    (w, t) ∈ vocabulary := by
  have hall : t ∈ Topic.all := by cases t <;> decide
  refine List.mem_append_left _ (List.mem_flatMap.mpr ⟨t, hall, List.mem_flatMap.mpr ⟨x, hx, ?_⟩⟩)
  exact List.mem_map_of_mem hw

/-- Each saying is joined from its words, and may have a space before them. -/
theorem Topic.sayings_shape (t : Topic) : ∀ x ∈ t.sayings, words x.1.toList ≠ [] ∧
    (x.1.toList = joined (words x.1.toList) ∨ x.1.toList = ' ' :: joined (words x.1.toList)) := by
  cases t <;> decide

theorem Topic.sayings_joined (t : Topic) : ∀ x ∈ t.sayings, ∃ y ∈ t.sayings, y.1.toList = joined (words x.1.toList) := by
  cases t <;> decide

theorem Topic.sayings_words (t : Topic) :
    ∀ x ∈ t.sayings, ∀ y ∈ t.sayings, words x.1.toList = words y.1.toList → x.2 = y.2 := by
  cases t <;> decide

/-- **What a pattern spells is words of its topic**, joined by single spaces. -/
theorem fits_of_spells (h : t.pattern.Spells m) : Fits t m := by
  by_cases ht : t = .date
  · subst ht
    obtain ⟨l, hl, rfl⟩ := spells_phrase_iff.mp h
    obtain ⟨init, last, hwords, -⟩ := hl.exists_last
    exact ⟨by simp [hwords], fun w hw => known_of_isSpanWord (hl.isSpanWord_of_mem w hw), Or.inl hl.joined_words.symm⟩
  · obtain ⟨x, hx, hm⟩ := (Topic.spells_iff ht).mp h
    obtain ⟨hne, hshape⟩ := t.sayings_shape x hx
    have hwords : (words m).map (·.map fold) = words x.1.toList := by rw [← words_map_fold, hm]
    refine ⟨?_, fun w hw => .listed (mem_vocabulary hx (hwords ▸ List.mem_map_of_mem hw)), ?_⟩
    · intro hnil
      rw [hnil] at hwords
      exact hne hwords.symm
    · have hjoined : ∀ {u}, u.map fold = joined (words x.1.toList) → u = joined (words u) := by
        intro u hu
        obtain ⟨us, rfl, hus⟩ := exists_joined_of_map_fold hu
        rw [words_joined]
        intro w hw
        rw [← isWordText_map_fold]
        exact isWordText_of_mem_words (hus ▸ List.mem_map_of_mem hw)
      rcases hshape with hshape | hshape
      · exact Or.inl (hjoined (hm.trans hshape))
      · obtain ⟨d, u, rfl, hd, hu⟩ := List.map_eq_cons_iff.mp (hm.trans hshape)
        rw [eq_of_fold_eq_space hd, words_cons_of_blank rfl]
        exact Or.inr (congrArg _ (hjoined hu))

theorem resolve_date {l : Layout} (hl : l.IsSpan) {name : String} {days : Nat} (hmem : (name, days) ∈ daysPerUnit)
    (hunit : l.unit.map fold = name.toList) : Topic.date.clause.resolve l.text = .ok v ↔
      (∀ d ∈ l.digits, d.isDigit = true) ∧ l.count * days ≤ maxDays ∧ v = .int (l.count * days : Nat) := by
  have hresolve : Topic.date.clause.resolve l.text =
      (TimeSpan.read Topic.date.label l.text).map fun s => .int s.days := rfl
  have hread := @Layout.IsSpan.read_eq_ok_iff l hl name days hmem hunit Topic.date.label
  rw [hresolve]
  cases hr : TimeSpan.read Topic.date.label l.text with
  | ok s =>
      obtain ⟨hascii, hle, rfl⟩ := hread.mp hr
      constructor
      · intro h
        exact ⟨hascii, hle, (Except.ok.inj h).symm⟩
      · rintro ⟨-, -, rfl⟩
        rfl
  | error e =>
      simp only [Except.map, reduceCtorEq, false_iff]
      rintro ⟨hascii, hle, -⟩
      rw [hread.mpr ⟨hascii, hle, rfl⟩] at hr
      cases hr

/-- **A phrase that has a value says it.** -/
theorem Says.of_resolve (h : t.pattern.Spells m) (hv : t.clause.resolve m = .ok v) : Says t (words m) v := by
  by_cases ht : t = .date
  · subst ht
    obtain ⟨l, hl, rfl⟩ := spells_phrase_iff.mp h
    obtain ⟨⟨name, days⟩, hmem, hunit⟩ := hl.exists_unit
    obtain ⟨hascii, -, rfl⟩ := (resolve_date hl hmem hunit).mp hv
    exact .span hl hascii hmem hunit
  · obtain ⟨x, hx, hm, rfl⟩ := (Topic.resolve_eq_ok_iff ht).mp hv
    exact .saying hx (by rw [← words_map_fold, hm])

/-- Words that say a topic are spelled by its pattern when they are joined. -/
theorem spells_joined (h : Says t ws v) : t.pattern.Spells (joined ws) := by
  cases h with
  | @saying _ _ x hx hws =>
      have ht : t ≠ .date := by
        rintro rfl
        cases hx
      obtain ⟨y, hy, hjoined⟩ := t.sayings_joined x hx
      exact (Topic.spells_iff ht).mpr ⟨y, hy, by rw [joined_map_fold, hws, hjoined]⟩
  | span hl _ _ _ =>
      rw [hl.joined_words]
      exact spells_phrase_iff.mpr ⟨_, hl, rfl⟩

/-- **A phrase has the value that its words say**, if a time span is not too long. -/
theorem resolve_eq_ok (h : Says t (words m) v) (hm : t.pattern.Spells m)
    (hfit : t = .date → ∃ n : Nat, v = .int n ∧ n ≤ maxDays) : t.clause.resolve m = .ok v := by
  generalize hws : words m = ws at h
  cases h with
  | @saying _ _ x hx hx' =>
      have ht : t ≠ .date := by
        rintro rfl
        cases hx
      obtain ⟨y, hy, hmy⟩ := (Topic.spells_iff ht).mp hm
      refine (Topic.resolve_eq_ok_iff ht).mpr ⟨y, hy, hmy, t.sayings_words y hy x hx ?_⟩
      rw [← hmy, words_map_fold, hws, hx']
  | @span l name days hl hascii hmem hunit =>
      obtain ⟨n, hn, hle⟩ := hfit rfl
      obtain ⟨l', hl', rfl⟩ := spells_phrase_iff.mp hm
      have htext : l'.text = l.text := by rw [← hl'.joined_words, hws, hl.joined_words]
      rw [htext, resolve_date hl hmem hunit]
      have hcount : l.count * days = n := Int.ofNat_inj.mp (Value.int.inj hn)
      exact ⟨hascii, hcount ▸ hle, rfl⟩

end Texts

/-! ## Words and their topics -/

section Topics

variable {t t' : Topic} {w x v₁ v₃ : List Char} {c : Char}

theorem vocabulary_letters : ∀ wt ∈ vocabulary, wt.1 ≠ [] ∧
    (wt.1.all (·.isLower) = true ∨ (wt.2 = .lobby ∧ wt.1 ∈ ["un-ranked".toList, "non-ranked".toList])) := by
  decide

theorem hyphened_letters (hw : w ∈ ["un-ranked".toList, "non-ranked".toList]) (hc : c ∈ w) :
    c.isLower = true ∨ c = '-' := by
  have hall : ∀ w ∈ ["un-ranked".toList, "non-ranked".toList], w.all (fun c => c.isLower || c == '-') = true := by
    decide
  simpa using List.all_eq_true.mp (hall w hw) c hc

theorem vocabulary_ends : ∀ wt ∈ vocabulary,
    wt.1.head?.all (·.isLower) = true ∧ wt.1.getLast?.all (·.isLower) = true := by
  decide

theorem vocabulary_unique : ∀ a ∈ vocabulary, ∀ b ∈ vocabulary, a.1 = b.1 → a.2 = b.2 := by
  decide +kernel

theorem Known.ne_nil (h : Known t w) : w ≠ [] := by
  cases h with
  | listed h => simpa using (vocabulary_letters _ h).1
  | counted _ _ => exact List.cons_ne_nil _ _

theorem Known.isWord_head (h : Known t w) (hc : c ∈ w.head?) : isWord c = true := by
  cases h with
  | listed h =>
      have hhead := (vocabulary_ends _ h).1
      rw [List.head?_map, Option.mem_def.mp hc] at hhead
      exact isWord_of_fold hhead rfl
  | counted hd hw => exact hw c (List.mem_of_mem_head? hc)

theorem Known.isWord_getLast (h : Known t w) (hc : c ∈ w.getLast?) : isWord c = true := by
  cases h with
  | listed h =>
      have hlast := (vocabulary_ends _ h).2
      rw [List.getLast?_map, Option.mem_def.mp hc] at hlast
      exact isWord_of_fold hlast rfl
  | counted hd hw => exact hw c (List.mem_of_mem_getLast? hc)

/-- What a pattern spells starts and ends with word characters, a space before it aside. -/
theorem Fits.firm {m : List Char} (h : Fits t m) : Firm m := by
  obtain ⟨w, ws, hw⟩ := List.exists_cons_of_ne_nil h.ne_nil
  obtain ⟨us, v, hv⟩ := List.eq_nil_or_concat (words m) |>.resolve_left h.ne_nil
  rw [List.concat_eq_append] at hv
  have hknown := h.known w (by simp [hw])
  have hknown' := h.known v (by simp [hv])
  have hlast : (joined (words m)).getLast? = v.getLast? := by rw [hv, getLast?_joined us hknown'.ne_nil]
  refine ⟨fun c hc => ?_, ?_, ?_⟩
  · rcases h.shape with hm | hm
    · rw [hm, hw, head?_joined hknown.ne_nil] at hc
      exact Or.inl (hknown.isWord_head hc)
    · rw [hm, List.head?_cons, Option.mem_some_iff] at hc
      subst hc
      exact Or.inr rfl
  · obtain ⟨c, hc⟩ : ∃ c, c ∈ v.getLast? := ⟨_, List.getLast?_eq_some_getLast hknown'.ne_nil⟩
    refine ⟨c, ?_, hknown'.isWord_getLast hc⟩
    rw [← hlast] at hc
    rcases h.shape with hm | hm
    · rwa [hm]
    · have hne : joined (words m) ≠ [] := by
        intro hnil
        rw [hnil] at hc
        cases hc
      rwa [hm, List.getLast?_cons_of_ne_nil hne]
  · rintro ⟨w, hw, ⟨c, hc, hnot⟩ | ⟨c, hc, hnot⟩⟩
    · rw [(h.known w hw).isWord_head hc] at hnot
      cases hnot
    · rw [(h.known w hw).isWord_getLast hc] at hnot
      cases hnot

theorem isBoundary_end {pre m post : List Char} (h : t.pattern.Spells m) :
    isBoundary (pre ++ m ++ post).toArray (pre.length + m.length) = !post.head?.any isWord := by
  obtain ⟨c, hc, hword⟩ := (fits_of_spells h).firm.last
  have hne : m ≠ [] := List.ne_nil_of_mem (List.mem_of_mem_getLast? hc)
  rw [← List.length_append, isBoundary_append, List.getLast?_append_of_ne_nil pre hne, Option.mem_def.mp hc]
  simp [hword]

theorem Known.isWordText (h : Known t w) : IsWordText w := by
  refine ⟨h.ne_nil, fun c hc => ?_⟩
  cases h with
  | listed h =>
      have hmem : fold c ∈ w.map fold := List.mem_map_of_mem hc
      rcases (vocabulary_letters _ h).2 with hall | ⟨-, hhyphen⟩
      · exact isBlank_of_fold (List.all_eq_true.mp hall _ hmem) rfl
      · rcases hyphened_letters hhyphen hmem with hlower | hhyphen
        · exact isBlank_of_fold hlower rfl
        · rw [eq_of_fold_eq_hyphen hhyphen]
          rfl
  | counted _ hw => exact isBlank_of_isWord (hw c hc)

theorem not_isDigit_of_listed (h : (w.map fold, t) ∈ vocabulary) (hc : c ∈ w.head?) : isDigit c = false := by
  have hhead := (vocabulary_ends _ h).1
  rw [List.head?_map, Option.mem_def.mp hc] at hhead
  exact isDigit_of_fold hhead rfl

/-- **No word belongs to two topics.** -/
theorem Known.topic_unique (h : Known t w) (h' : Known t' w) : t = t' := by
  cases h with
  | listed h =>
      cases h' with
      | listed h' => exact vocabulary_unique _ h _ h' rfl
      | counted hd _ =>
          rw [not_isDigit_of_listed h rfl] at hd
          cases hd
  | counted hd _ =>
      cases h' with
      | listed h' =>
          rw [not_isDigit_of_listed h' rfl] at hd
          cases hd
      | counted _ _ => rfl

/-- The parts of the words with a hyphen belong to no other topic. -/
theorem lobby_of_part {a b d : List Char} (hmem : a ++ b ++ d ∈ ["un-ranked".toList, "non-ranked".toList])
    (ha : a.getLast?.all (· == '-') = true) (hd : d.head?.all (· == '-') = true) (hb : (b, t) ∈ vocabulary) :
    t = .lobby := by
  have hall : ∀ w ∈ ["un-ranked".toList, "non-ranked".toList], w.length < 11 ∧
      ∀ i ∈ List.range 11, ∀ n ∈ List.range 11, (w.take i).getLast?.all (· == '-') = true →
        (w.drop (i + n)).head?.all (· == '-') = true → ∀ wt ∈ vocabulary, wt.1 = (w.drop i).take n → wt.2 = .lobby := by
    decide +kernel
  obtain ⟨hlen, hpart⟩ := hall _ hmem
  rw [List.length_append, List.length_append] at hlen
  refine hpart a.length (List.mem_range.mpr (by omega)) b.length (List.mem_range.mpr (by omega)) ?_ ?_ _ hb ?_
  · rwa [List.append_assoc, List.take_left]
  · rwa [← List.length_append, List.drop_left]
  · rw [List.append_assoc, List.drop_left, List.take_left]

/-- What characters that are not word characters cut out of a word with a hyphen belongs to no other topic. -/
theorem Known.topic_of_hyphened (hx : Known t x)
    (hv : (v₁ ++ x ++ v₃).map fold ∈ ["un-ranked".toList, "non-ranked".toList])
    (h₁ : ∀ c ∈ v₁.getLast?, isWord c = false) (h₃ : ∀ c ∈ v₃.head?, isWord c = false) : t = .lobby := by
  have hfold : ∀ c ∈ v₁ ++ x ++ v₃, (fold c).isLower = true ∨ fold c = '-' := fun c hc =>
    hyphened_letters hv (List.mem_map_of_mem hc)
  have hhyphen : ∀ c ∈ v₁ ++ x ++ v₃, isWord c = false → fold c = '-' := by
    intro c hc hnot
    rcases hfold c hc with hlower | heq
    · rw [isWord_of_fold hlower rfl] at hnot
      cases hnot
    · exact heq
  cases hx with
  | listed hx =>
      rw [List.map_append, List.map_append] at hv
      refine lobby_of_part hv ?_ ?_ hx
      · cases hlast : v₁.getLast? with
        | none => simp [List.getLast?_map, hlast]
        | some c =>
            have hc := hhyphen c (by simp [List.mem_of_mem_getLast? hlast]) (h₁ c hlast)
            simp [List.getLast?_map, hlast, hc]
      · cases hhead : v₃.head? with
        | none => simp [List.head?_map, hhead]
        | some c =>
            have hc := hhyphen c (by simp [List.mem_of_mem_head? hhead]) (h₃ c hhead)
            simp [List.head?_map, hhead, hc]
  | @counted d r hd hw =>
      rcases hfold d (by simp) with hlower | heq
      · rw [isDigit_of_fold hlower rfl] at hd
        cases hd
      · rw [eq_of_fold_eq_hyphen heq] at hd
        cases hd

/-- **A word within a word of the vocabulary has the same topic**, if it is cut out at characters that are not word
characters. -/
theorem Known.topic_of_part (h : Known t' (v₁ ++ x ++ v₃)) (hx : Known t x) (h₁ : ∀ c ∈ v₁.getLast?, isWord c = false)
    (h₃ : ∀ c ∈ v₃.head?, isWord c = false) : t = t' := by
  have hwhole : (∀ c ∈ v₁ ++ x ++ v₃, isWord c = true) → t = t' := by
    intro hall
    have hnil₁ : v₁ = [] := eq_nil_of_getLast (fun c hc => hall c (by simp [hc])) h₁
    have hnil₃ : v₃ = [] := eq_nil_of_head (fun c hc => hall c (by simp [hc])) h₃
    rw [hnil₁, hnil₃, List.nil_append, List.append_nil] at h
    exact hx.topic_unique h
  generalize hv : v₁ ++ x ++ v₃ = v at h hwhole
  cases h with
  | counted hd hw => exact hwhole hw
  | listed h =>
      rcases (vocabulary_letters _ h).2 with hall | ⟨hlobby, hmem⟩
      · exact hwhole fun c hc => isWord_of_map_fold (List.all_eq_true.mp hall) rfl hc
      · subst hv
        exact (hx.topic_of_hyphened hmem h₁ h₃).trans hlobby.symm

end Topics

end PhraseFilter.Standard
