import PhraseFilter.Proofs.Scan.Take
import PhraseFilter.Proofs.Standard.Phrase

/-!
# The first phrase of a topic is found

* `Topic.exists_stretch` : a stretch of a topic's pattern, and what stands around it;
* `Topic.exists_word_of_covers` : in joined words, such a stretch starts at a word of the topic;
* `Topic.head?_ends` : from the start of a phrase, **the search goes to its end** and neither stops before it nor goes
  on into the words that follow;
* `Topic.take_joined` : **the first scan of a topic takes its first phrase** and leaves the other words.
-/

namespace PhraseFilter.Standard

open Text Pattern

/-! ## Where a phrase starts -/

section Start

variable {t : Topic} {ws M : List (List Char)} {text pre post w v₁ v₃ : List Char} {x y : Nat}

theorem Topic.exists_stretch (h : t.pattern.bounded.Covers text.toArray x y) :
    ∃ pre m post, text = pre ++ m ++ post ∧ pre.length = x ∧ pre.length + m.length = y ∧ t.pattern.Spells m ∧
      isBoundary (pre ++ m ++ post).toArray pre.length = true ∧ ∀ c ∈ post.head?, isWord c = false := by
  obtain ⟨hx, hc, hy⟩ := covers_bounded_iff.mp h
  obtain ⟨pre, m, post, rfl, rfl, -, rfl, -⟩ := hc.exists_append
  have hm := (covers_iff_spells t.isPlaceFree_pattern pre m post).mp hc
  refine ⟨pre, m, post, rfl, rfl, rfl, hm, hx, ?_⟩
  intro c hc
  rw [isBoundary_end hm, Option.mem_def.mp hc] at hy
  simpa using hy

theorem Known.of_part (hw : Known t w) (h : ∃ t', Known t' (v₁ ++ w ++ v₃)) (h₁ : ∀ c ∈ v₁.getLast?, isWord c = false)
    (h₃ : ∀ c ∈ v₃.head?, isWord c = false) : Known t (v₁ ++ w ++ v₃) := by
  obtain ⟨t', ht'⟩ := h
  obtain rfl := ht'.topic_of_part hw h₁ h₃
  exact ht'

/-- Words of a topic that stand within joined words begin within a word of the topic. -/
theorem exists_word_of_within (hws : ∀ w ∈ ws, ∃ t', Known t' w) (hw : Known t w)
    (htext : joined ws = pre ++ (joined (w :: M) ++ post))
    (hi : isBoundary (pre ++ (joined (w :: M) ++ post)).toArray pre.length = true)
    (hpost : ∀ c ∈ post.head?, isWord c = false) :
    ∃ us v vs, ws = us ++ v :: vs ∧ Known t v ∧ (lead us).length ≤ pre.length := by
  obtain ⟨c, w', rfl⟩ := List.exists_cons_of_ne_nil hw.ne_nil
  have hword : isWord c = true := hw.isWord_head rfl
  obtain ⟨r, hr⟩ : ∃ r, joined ((c :: w') :: M) ++ post = c :: r := by
    obtain ⟨s, hs, -⟩ := exists_joined_cons (c :: w') M
    exact ⟨w' ++ s ++ post, by rw [hs]; simp⟩
  rw [hr] at htext hi
  obtain ⟨us, v₁, v₂, us', rfl, rfl, hrest⟩ := exists_word_of_joined (isBlank_of_isWord hword) htext
  have hknown := hws (v₁ ++ c :: v₂) (by simp)
  have htail : IsWordText (c :: v₂) := by
    obtain ⟨t', ht'⟩ := hknown
    exact ⟨List.cons_ne_nil _ _, fun d hd => ht'.isWordText.2 d (List.mem_append_right _ hd)⟩
  rw [← hr] at hrest
  obtain ⟨v₃, hv, hv₃⟩ := exists_append_of_joined_append hw.isWordText htail hrest
  have hsplit : v₁ ++ c :: v₂ = v₁ ++ (c :: w') ++ v₃ := by rw [hv, List.append_assoc]
  have h₁ : ∀ d ∈ v₁.getLast?, isWord d = false := by
    intro d hd
    have hne : v₁ ≠ [] := List.ne_nil_of_mem (List.mem_of_mem_getLast? hd)
    rw [isBoundary_append, List.getLast?_append_of_ne_nil _ hne, Option.mem_def.mp hd] at hi
    simpa [hword] using hi
  refine ⟨us, v₁ ++ c :: v₂, us', rfl, ?_, by simp⟩
  rw [hsplit] at hknown ⊢
  exact hw.of_part hknown h₁ fun d hd => hpost d (hv₃ d hd)

/-- Words of a topic that stand within joined words after a space begin with a word of the topic. -/
theorem exists_word_of_spaced (hws : ∀ w ∈ ws, ∃ t', Known t' w) (hw : Known t w)
    (htext : joined ws = pre ++ ' ' :: (joined (w :: M) ++ post)) (hpost : ∀ c ∈ post.head?, isWord c = false) :
    ∃ us v₃ vs, us ≠ [] ∧ ws = us ++ (w ++ v₃) :: vs ∧ Known t (w ++ v₃) ∧ pre = joined us ∧
      ∀ c ∈ v₃.head?, isWord c = false := by
  obtain ⟨us, us', hu, hu', rfl, rfl, hrest⟩ :=
    exists_append_of_joined (fun v hv => (hws v hv).choose_spec.isWordText) htext
  obtain ⟨b, bs, rfl⟩ := List.exists_cons_of_ne_nil hu'
  have hknown := hws b (by simp)
  obtain ⟨v₃, rfl, hv₃⟩ :=
    exists_append_of_joined_append hw.isWordText hknown.choose_spec.isWordText hrest
  have h₃ : ∀ c ∈ v₃.head?, isWord c = false := fun c hc => hpost c (hv₃ c hc)
  have hfirst : Known t ([] ++ w ++ v₃) := hw.of_part hknown (by simp) h₃
  exact ⟨us, v₃, bs, hu, rfl, hfirst, rfl, h₃⟩

theorem Topic.exists_word_of_covers (hws : ∀ w ∈ ws, ∃ t', Known t' w)
    (h : t.pattern.bounded.Covers (joined ws).toArray x y) :
    ∃ us v vs, ws = us ++ v :: vs ∧ Known t v ∧ ((lead us).length ≤ x ∨ (us ≠ [] ∧ x = (joined us).length ∧
      ∃ m w v₃, t.pattern.Spells (' ' :: m) ∧ w ∈ (words m).head? ∧ v = w ++ v₃ ∧
        ∀ c ∈ v₃.head?, isWord c = false)) := by
  obtain ⟨pre, m, post, htext, rfl, -, hm, hi, hpost⟩ := Topic.exists_stretch h
  have hfits := fits_of_spells hm
  obtain ⟨w, M, hw⟩ := List.exists_cons_of_ne_nil hfits.ne_nil
  have hknown : Known t w := hfits.known w (by simp [hw])
  rw [List.append_assoc] at htext hi
  have hshape := hfits.shape
  rw [hw] at hshape
  rcases hshape with hm' | hm'
  · rw [hm'] at htext hi
    obtain ⟨us, v, vs, hsplit, hv, hle⟩ := exists_word_of_within hws hknown htext hi hpost
    exact ⟨us, v, vs, hsplit, hv, Or.inl hle⟩
  · rw [hm', List.cons_append] at htext
    obtain ⟨us, v₃, vs, hne, hsplit, hv, rfl, h₃⟩ := exists_word_of_spaced hws hknown htext hpost
    refine ⟨us, w ++ v₃, vs, hsplit, hv, Or.inr ⟨hne, rfl, joined (w :: M), w, v₃, hm' ▸ hm, ?_, rfl, h₃⟩⟩
    rw [words_joined fun v hv => isWordText_of_mem_words (hw ▸ hv)]
    rfl

end Start

/-! ## Where a phrase ends -/

section Ends

variable {t : Topic} {pre m post w : List Char}

/-- A saying is preferred to those that it starts with, unless a letter follows there. -/
theorem Topic.sayings_longest (t : Topic) : (t.sayings.map (·.1.toList)).Pairwise fun u w =>
    u <+: w → u = w ∨ (w.drop u.length).head?.any (·.isLower) = true := by
  cases t <;> decide

theorem Topic.sayings_lane (t : Topic) : ∀ u ∈ t.sayings.map (·.1.toList), ∀ w ∈ t.sayings.map (·.1.toList),
    w ++ [' '] <+: u → u = w ++ " lane".toList := by
  cases t <;> decide

theorem isBoundary_of_stop (hm : t.pattern.Spells m) (hpost : ∀ c ∈ post.head?, isWord c = false) :
    isBoundary (pre ++ m ++ post).toArray (pre.length + m.length) = true := by
  rw [isBoundary_end hm]
  cases hhead : post.head? with
  | none => rfl
  | some c => simp [hpost c hhead]

theorem head?_ends_date (hm : Topic.date.pattern.Spells m)
    (hi : isBoundary (pre ++ m ++ post).toArray pre.length = true) (hpost : ∀ c ∈ post.head?, isWord c = false) :
    (Topic.date.pattern.bounded.ends (pre ++ m ++ post).toArray pre.length).head? = some (pre.length + m.length) := by
  have hcovers : Topic.date.pattern.bounded.Covers (pre ++ m ++ post).toArray pre.length (pre.length + m.length) :=
    covers_bounded_iff.mpr ⟨hi, hm.covers pre post, isBoundary_of_stop hm hpost⟩
  have hle : pre.length ≤ (pre ++ m ++ post).toArray.size := by simp
  cases hhead : (Topic.date.pattern.bounded.ends (pre ++ m ++ post).toArray pre.length).head? with
  | none => exact absurd hcovers ((head?_ends_eq_none_iff hle).mp hhead _)
  | some y =>
      obtain ⟨pre', m', post', htext, hpre, rfl, hm', -, hpost'⟩ :=
        Topic.exists_stretch ((mem_ends_iff hle).mp (List.mem_of_head? hhead))
      rw [List.append_assoc, List.append_assoc] at htext
      obtain ⟨rfl, hrest⟩ := List.append_inj htext hpre.symm
      -- One of the two stretches starts with the other.
      have heq : m' = m := by
        rcases List.append_eq_append_iff.mp hrest with ⟨e, rfl, rfl⟩ | ⟨e, rfl, rfl⟩
        · have he : e = [] := TimeSpan.eq_nil_of_spells_append hm hm' fun c hc =>
            hpost c (by rw [List.head?_append, Option.mem_def.mp hc]; rfl)
          rw [he, List.append_nil]
        · have he : e = [] := TimeSpan.eq_nil_of_spells_append hm' hm fun c hc =>
            hpost' c (by rw [List.head?_append, Option.mem_def.mp hc]; rfl)
          rw [he, List.append_nil]
      rw [heq]

theorem Topic.length_of_longest (ht : t ≠ .date) (hm : t.pattern.Spells m) (hw : w ∈ t.pattern.spellings)
    (hlongest : w <+: m.map fold → w = m.map fold ∨ ((m.map fold).drop w.length).head?.any (·.isLower) = true)
    (hstands : w <+: m.map fold ++ post.map fold)
    (hend : isBoundary (pre ++ m ++ post).toArray (pre.length + w.length) = true)
    (hpost : ∀ c ∈ post.head?, c = ' ') (hlane : ¬ " lane".toList <+: post.map fold) : w.length = m.length := by
  obtain ⟨hlisted, hspellings⟩ := Topic.spellings_pattern ht
  have hmem := (spells_iff_mem_spellings hlisted).mp hm
  rcases List.prefix_or_prefix_of_prefix hstands (List.prefix_append _ _) with hshort | ⟨r, rfl⟩
  · rcases hlongest hshort with rfl | hletter
    · exact List.length_map _
    · obtain ⟨r, hr⟩ := hshort
      obtain ⟨a, b, rfl, rfl, rfl⟩ := map_fold_eq_append hr.symm
      rw [List.map_append, List.drop_left] at hletter
      rw [List.length_map, ← List.append_assoc, List.append_assoc (pre ++ a),
        isBoundary_end ((spells_iff_mem_spellings hlisted).mpr hw)] at hend
      cases b with
      | nil => simp at hletter
      | cons c b =>
          rw [List.map_cons, List.head?_cons, Option.any_some] at hletter
          simp [isWord_of_fold hletter rfl] at hend
  · cases r with
    | nil => simp
    | cons c r =>
        have hr := (List.prefix_append_right_inj _).mp hstands
        cases post with
        | nil => simp at hr
        | cons d post =>
            obtain rfl : d = ' ' := hpost d rfl
            obtain rfl : c = ' ' := (List.cons_prefix_cons.mp hr).1
            have hspace : m.map fold ++ [' '] <+: m.map fold ++ ' ' :: r := by simp
            have hlong := t.sayings_lane _ (hspellings ▸ hw) _ (hspellings ▸ hmem) hspace
            rw [List.append_cancel_left hlong] at hr
            exact absurd hr hlane

/-- **The search goes to the end of a phrase**: it neither stops before it nor goes on into the words that follow. -/
theorem Topic.head?_ends (hm : t.pattern.Spells m) (hi : isBoundary (pre ++ m ++ post).toArray pre.length = true)
    (hpost : ∀ c ∈ post.head?, c = ' ') (hlane : ¬ " lane".toList <+: post.map fold) :
    (t.pattern.bounded.ends (pre ++ m ++ post).toArray pre.length).head? = some (pre.length + m.length) := by
  have hstop : ∀ c ∈ post.head?, isWord c = false := by
    intro c hc
    rw [hpost c hc]
    rfl
  by_cases ht : t = .date
  · subst ht
    exact head?_ends_date hm hi hstop
  · obtain ⟨hlisted, hspellings⟩ := Topic.spellings_pattern ht
    have hdrop : ((pre ++ m ++ post).map fold).drop pre.length = m.map fold ++ post.map fold := by
      rw [List.append_assoc, List.map_append, ← List.length_map fold, List.drop_left, List.map_append]
    rw [head?_ends_bounded hlisted, if_pos hi, hdrop]
    refine findSome?_eq_of_pairwise (hspellings ▸ t.sayings_longest) ((spells_iff_mem_spellings hlisted).mp hm) ?_ ?_
    · rw [List.length_map, if_pos ⟨List.prefix_append _ _, isBoundary_of_stop hm hstop⟩]
    · intro w hw hlongest
      by_cases h : w <+: m.map fold ++ post.map fold ∧
          isBoundary (pre ++ m ++ post).toArray (pre.length + w.length) = true
      · rw [if_pos h, Topic.length_of_longest ht hm hw hlongest h.1 h.2 hpost hlane]
        exact Or.inr rfl
      · exact Or.inl (if_neg h)

end Ends

/-! ## The first scan -/

section Take

variable {t : Topic} {us ws vs : List (List Char)} {v : Value} {x y : Nat} {pre m post w : List Char}

/-- No phrase starts before the first word of its topic. -/
theorem Topic.start_of_covers (hus : ∀ w ∈ us, ¬ Known t w) (hws : ∀ w ∈ us ++ ws, ∃ t', Known t' w)
    (h : t.pattern.bounded.Covers (joined (us ++ ws)).toArray x y) :
    (lead us).length ≤ x ∨ (us ≠ [] ∧ x = (joined us).length ∧ ∃ m w v₃, t.pattern.Spells (' ' :: m) ∧
      w ∈ (words m).head? ∧ w ++ v₃ ∈ ws.head? ∧ ∀ c ∈ v₃.head?, isWord c = false) := by
  obtain ⟨us₀, v, vs, hsplit, hv, hstart⟩ := Topic.exists_word_of_covers hws h
  obtain ⟨e, rfl, hrest⟩ : ∃ e, us₀ = us ++ e ∧ ws = e ++ v :: vs := by
    rcases List.append_eq_append_iff.mp hsplit with ⟨e, rfl, hrest⟩ | ⟨e, rfl, hrest⟩
    · exact ⟨e, rfl, hrest⟩
    · cases e with
      | nil => exact ⟨[], by simp, by simpa using hrest.symm⟩
      | cons w e =>
          obtain ⟨rfl, -⟩ := List.cons.inj hrest
          exact absurd hv (hus v (by simp))
  rw [lead_append, List.length_append] at hstart
  rcases hstart with hle | ⟨hne, hx, m, w, v₃, hm, hw, rfl, h₃⟩
  · exact Or.inl (by omega)
  · by_cases he : e = []
    · subst he
      rw [List.append_nil] at hne hx
      exact Or.inr ⟨hne, hx, m, w, v₃, hm, hw, by rw [hrest]; rfl, h₃⟩
    · rw [joined_append us he, List.length_append] at hx
      exact Or.inl (by omega)

theorem not_lane_trail (hvs : ∀ w ∈ vs.head?, ¬ "lane".toList <+: w.map fold) :
    ¬ " lane".toList <+: (trail vs).map fold := by
  intro hstarts
  cases vs with
  | nil => simp [trail] at hstarts
  | cons w vs =>
      rw [trail_cons, List.map_cons, List.map_append] at hstarts
      have hlane : "lane".toList <+: w.map fold ++ (trail vs).map fold := (List.cons_prefix_cons.mp hstarts).2
      rcases List.prefix_or_prefix_of_prefix hlane (List.prefix_append _ _) with hlong | ⟨r, hr⟩
      · exact hvs w rfl hlong
      · rw [← hr] at hlane
        have hrest := (List.prefix_append_right_inj _).mp hlane
        cases r with
        | nil =>
            rw [List.append_nil] at hr
            exact hvs w rfl (hr ▸ List.prefix_refl _)
        | cons c r =>
            cases vs with
            | nil => simp [trail] at hrest
            | cons w' vs =>
                have hspace : c = ' ' := (List.cons_prefix_cons.mp hrest).1
                have hmem : ' ' ∈ "lane".toList := by rw [← hr, hspace]; simp
                revert hmem
                decide

theorem Topic.take_of_start (hm : t.pattern.Spells m) (hi : isBoundary (pre ++ m ++ post).toArray pre.length = true)
    (hpost : ∀ c ∈ post.head?, c = ' ') (hlane : ¬ " lane".toList <+: post.map fold)
    (hfirst : ∀ x < pre.length, ∀ y, ¬ t.pattern.bounded.Covers (pre ++ m ++ post).toArray x y) :
    Scan.take ⟨pre ++ m ++ post⟩ t.pattern.bounded = (some m, ⟨joined (words pre ++ words post)⟩) := by
  have hfind : t.pattern.bounded.find? (pre ++ m ++ post).toArray = some (pre.length, pre.length + m.length) :=
    find?_eq_some_iff.mpr ⟨by simp, Topic.head?_ends hm hi hpost hlane, hfirst⟩
  have htake : take? t.pattern.bounded (pre ++ m ++ post) = some ⟨m, joined (words pre ++ words post)⟩ := by
    refine take?_eq_some_iff.mpr ⟨pre, post, rfl, hfind, ?_⟩
    rw [normalize_eq_joined, words_append_cons rfl]
  rw [Scan.take, htake]

theorem isBoundary_joined (hus : ∀ w ∈ us, ∃ t', Known t' w) (hne : us ≠ []) (s : List Char) :
    isBoundary (joined us ++ ' ' :: s).toArray (joined us).length = true := by
  obtain ⟨init, u, rfl⟩ := (List.eq_nil_or_concat us).resolve_left hne
  rw [List.concat_eq_append] at hus ⊢
  obtain ⟨t', hu⟩ := hus u (by simp)
  obtain ⟨c, hc⟩ : ∃ c, c ∈ u.getLast? := ⟨_, List.getLast?_eq_some_getLast hu.ne_nil⟩
  rw [isBoundary_append, getLast?_joined init hu.ne_nil, Option.mem_def.mp hc, Option.any_some, hu.isWord_getLast hc]
  rfl

theorem isBoundary_lead (hw : Known t w) (us ws : List (List Char)) (s : List Char) :
    isBoundary (lead us ++ (joined (w :: ws) ++ s)).toArray (lead us).length = true := by
  obtain ⟨c, r, hr⟩ := List.exists_cons_of_ne_nil hw.ne_nil
  obtain ⟨r', hr', -⟩ := exists_joined_cons w ws
  have hlast : (lead us).getLast?.any isWord = false := by
    by_cases hne : us = []
    · rw [hne]
      rfl
    · rw [lead_eq hne, List.getLast?_concat]
      rfl
  rw [isBoundary_append, hlast, hr', hr, List.cons_append, List.cons_append, List.head?_cons, Option.any_some,
    hw.isWord_head (by rw [hr]; rfl)]
  rfl

/-- **The first scan of a topic takes its first phrase** and leaves the other words. -/
theorem Topic.take_joined (h : Says t ws v) (hus : ∀ w ∈ us, ¬ Known t w)
    (hws : ∀ w ∈ us ++ (ws ++ vs), ∃ t', Known t' w) (hvs : ∀ w ∈ vs.head?, ¬ "lane".toList <+: w.map fold) :
    ∃ m, Scan.take ⟨joined (us ++ (ws ++ vs))⟩ t.pattern.bounded = (some m, ⟨joined (us ++ vs)⟩) ∧
      words m = ws ∧ t.pattern.Spells m := by
  obtain ⟨w, hw, -⟩ := h.head
  obtain ⟨ws, rfl⟩ : ∃ r, ws = w :: r := List.head?_eq_some_iff.mp hw
  have htexts : ∀ u ∈ us ++ (w :: ws ++ vs), IsWordText u := fun u hu => (hws u hu).choose_spec.isWordText
  have hleft : words (lead us) = us ∧ words (joined us) = us := by
    have hall : ∀ u ∈ us, IsWordText u := fun u hu => htexts u (List.mem_append_left _ hu)
    exact ⟨words_lead hall, words_joined hall⟩
  have hright : words (trail vs) = vs :=
    words_trail fun u hu => htexts u (List.mem_append_right _ (List.mem_append_right _ hu))
  have hphrase : words (joined (w :: ws)) = w :: ws :=
    words_joined fun u hu => htexts u (List.mem_append_right _ (List.mem_append_left _ hu))
  have hcovers := fun {x y} => @Topic.start_of_covers t us (w :: ws ++ vs) x y hus hws
  have hlane := not_lane_trail hvs
  by_cases hspaced : us ≠ [] ∧ t.pattern.Spells (' ' :: joined (w :: ws))
  · obtain ⟨hne, hm⟩ := hspaced
    rw [joined_middle_spaced hne vs (List.cons_ne_nil _ _)] at hcovers ⊢
    refine ⟨' ' :: joined (w :: ws), ?_, by rw [words_cons_of_blank rfl, hphrase], hm⟩
    rw [Topic.take_of_start hm ?_ (fun c hc => head?_trail hc) hlane ?_, hleft.2, hright]
    · rw [List.append_assoc]
      exact isBoundary_joined (fun u hu => hws u (List.mem_append_left _ hu)) hne _
    · intro x hx y h
      have hlen : (lead us).length = (joined us).length + 1 := by simp [lead_eq hne]
      rcases hcovers h with hle | ⟨-, rfl, -⟩
      · omega
      · omega
  · rw [joined_middle us vs (List.cons_ne_nil _ _)] at hcovers ⊢
    have hm := spells_joined h
    refine ⟨joined (w :: ws), ?_, hphrase, hm⟩
    rw [Topic.take_of_start hm ?_ (fun c hc => head?_trail hc) hlane ?_, hleft.1, hright]
    · rw [List.append_assoc]
      exact isBoundary_lead (h.known (by simp)) us ws _
    · intro x hx y hc
      rcases hcovers hc with hle | ⟨hne, -, m, u, v₃, hm', hu, hhead, h₃⟩
      · omega
      · exact hspaced ⟨hne, h.spells_spaced hm' hu (by simpa using hhead) h₃⟩

theorem Topic.take_eq_none (hws : ∀ w ∈ ws, ∃ t', Known t' w ∧ t' ≠ t) :
    Scan.take ⟨joined ws⟩ t.pattern.bounded = (none, ⟨joined ws⟩) := by
  have hnone : t.pattern.bounded.find? (joined ws).toArray = none := by
    refine find?_eq_none_iff.mpr fun x y h => ?_
    obtain ⟨us, v, vs, rfl, hv, -⟩ := Topic.exists_word_of_covers (fun w hw => (hws w hw).imp fun _ h => h.1) h
    obtain ⟨t', ht', hne⟩ := hws v (by simp)
    exact hne (ht'.topic_unique hv)
  simp [Scan.take, take?, hnone]

end Take

end PhraseFilter.Standard
