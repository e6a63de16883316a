import PhraseFilter.Command.Run
import PhraseFilter.Proofs.Text.Canonical

/-!
# A text is read by its words

* `Text.words_toList_intercalate` : arguments that are joined by spaces have the words of the arguments in their order;
* `Scan.start_eq_iff` : two texts are searched alike just when they have the same words, `Scan.start_normalize` : so the
  search of a text is that of its canonical form;
* `Filter.attempt_congr`, `Filter.parse_congr` : a filter finds the same in texts with the same words, or refuses them alike;
* `Session.readPhrase_congr` : a run reads the same phrase from arguments with the same words;
* `Filter.parse_by_words` : **spacing decides nothing**.
-/

namespace PhraseFilter

open Text

theorem Text.words_toList_intercalate (args : List String) :
    words (" ".intercalate args).toList = args.flatMap fun arg => words arg.toList := by
  have hjoined := words_joined_eq_flatMap (args.map String.toList)
  rw [List.flatMap_map] at hjoined
  rw [String.toList_intercalate]
  exact hjoined

theorem Scan.start_eq_iff {s t : String} : start s = start t ↔ words s.toList = words t.toList := by
  rw [start, start, Scan.mk.injEq, normalize_eq_iff]

theorem Scan.start_normalize (s : String) : start (String.ofList (normalize s.toList)) = start s := by
  rw [start_eq_iff, String.toList_ofList, words_normalize]

namespace Filter

variable {s t : String}

theorem attempt_congr (f : Filter) (h : Scan.start s = Scan.start t) : f.attempt s = f.attempt t := by
  unfold attempt
  rw [h]

theorem parse_congr (f : Filter) (h : Scan.start s = Scan.start t) : f.parse s = f.parse t := by
  unfold parse
  rw [f.attempt_congr h]

end Filter

/-! ## Arguments of a run -/

namespace Session

variable {m : Type → Type} [Monad m] {given given' : List String}

/-- A run reads the same phrase from arguments with the same words, however they are cut and spaced, and tells the same
about it. -/
theorem readPhrase_congr (s : Session m)
    (h : (given.flatMap fun arg => words arg.toList) = given'.flatMap fun arg => words arg.toList) :
    s.readPhrase given = s.readPhrase given' := by
  have hstart : Scan.start (" ".intercalate given) = Scan.start (" ".intercalate given') := by
    rw [Scan.start_eq_iff, words_toList_intercalate, words_toList_intercalate, h]
  have hattempt : ∀ f : Filter, f.attempt (" ".intercalate given) = f.attempt (" ".intercalate given') :=
    fun f => f.attempt_congr hstart
  have hparse : ∀ f : Filter, f.parse (" ".intercalate given) = f.parse (" ".intercalate given') :=
    fun f => f.parse_congr hstart
  unfold readPhrase
  simp only [hattempt, hparse]

end Session

/-- **Spacing decides nothing.** The canonical form of a text is its words with single spaces between them, where the words
are its pieces between blanks, the empty ones left out. It is canonical, so that it is its own canonical form, and texts
share it just when they have the same words. Every filter makes of a text what it makes of the canonical form, so texts
with the same words are read alike or refused alike. And a run reads its arguments alike, however the words of the phrase
are cut into them. -/
theorem Filter.parse_by_words (s t : String) :
    words (normalize s.toList) = words s.toList ∧
    words s.toList = (s.toList.splitOnP isBlank).filter (!·.isEmpty) ∧
    IsCanonical (normalize s.toList) ∧
    normalize (normalize s.toList) = normalize s.toList ∧
    (normalize s.toList = normalize t.toList ↔ words s.toList = words t.toList) ∧
    (∀ f : Filter, f.parse (String.ofList (normalize s.toList)) = f.parse s) ∧
    (words s.toList = words t.toList → ∀ f : Filter, f.parse s = f.parse t) ∧
    ∀ given given' : List String,
      ((given.flatMap fun arg => words arg.toList) = given'.flatMap fun arg => words arg.toList) →
      (∀ f : Filter, f.parse (" ".intercalate given) = f.parse (" ".intercalate given')) ∧
      ∀ (m : Type → Type) [Monad m] (session : Session m),
        session.readPhrase given = session.readPhrase given' ∧
        session.parse given = session.parse given' ∧
        ∀ request : ListRequest,
          session.list { request with phrase := given } = session.list { request with phrase := given' } := by
  refine ⟨words_normalize _, words_eq_splitOnP _, isCanonical_normalize _, normalize_normalize _, normalize_eq_iff,
    fun f => f.parse_congr (Scan.start_normalize s), fun h f => f.parse_congr (Scan.start_eq_iff.mpr h),
    fun given given' h => ⟨fun f => f.parse_congr ?_, fun m _ session => ?_⟩⟩
  · rw [Scan.start_eq_iff, words_toList_intercalate, words_toList_intercalate, h]
  · have hphrase := session.readPhrase_congr h
    refine ⟨hphrase, ?_, fun request => ?_⟩
    · unfold Session.parse
      rw [hphrase]
    · unfold Session.list
      rw [hphrase]
      rfl

set_option maxRecDepth 20000 in
/-- A span with other blanks around and between its words, and in two arguments. -/
theorem Filter.parse_by_words_last_week :
    words "\t last\u3000week\n".toList = words "last week".toList ∧
    (["last ", "\u00a0week"].flatMap fun arg => words arg.toList) = (["last week"].flatMap fun arg => words arg.toList) ∧
    ∃ r, Filter.parse ⟨[.timeSpan "date" none]⟩ "last week" = .ok r ∧ r.value? "date" = some (.int 7) ∧
      Filter.parse ⟨[.timeSpan "date" none]⟩ "\t last\u3000week\n" = .ok r ∧
      Filter.parse ⟨[.timeSpan "date" none]⟩ (" ".intercalate ["last ", "\u00a0week"]) = .ok r := by
  have hwords : words "\t last\u3000week\n".toList = words "last week".toList := by decide +kernel
  have hargs : (["last ", "\u00a0week"].flatMap fun arg => words arg.toList) =
      (["last week"].flatMap fun arg => words arg.toList) := by decide +kernel
  have hread : ∃ r, Filter.parse ⟨[.timeSpan "date" none]⟩ "last week" = .ok r ∧ r.value? "date" = some (.int 7) :=
    ⟨_, rfl, rfl⟩
  obtain ⟨r, hr, hvalue⟩ := hread
  obtain ⟨-, -, -, -, -, -, hspaced, hgiven⟩ := Filter.parse_by_words "\t last\u3000week\n" "last week"
  refine ⟨hwords, hargs, r, hr, hvalue, ?_, ?_⟩
  · rw [hspaced hwords, hr]
  · rw [(hgiven _ _ hargs).1]
    exact hr

end PhraseFilter
