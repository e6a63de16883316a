import PhraseFilter.Proofs.Filter.Search
import PhraseFilter.Proofs.Standard.First

/-!
# Phrases in a row

* `Standard.without` : the phrases without the first of a topic; `Standard.repeated` : the second and later phrases of
  each topic;
* `Topic.takeFrom_phrases` : **the clause of a topic takes its first phrase** and has its value;
* `Standard.takeAll_phrases`, `Standard.foldl_without` : a search takes the first phrase of each topic;
* `Standard.parse_phrases` : **phrases in a row are accepted when no topic has two**, in any order, and otherwise the
  second and later phrases are left.
-/

namespace PhraseFilter.Standard

open Text Pattern

/-- The phrases without the first of the topic. -/
def without (ps : List Phrase) (t : Topic) : List Phrase := ps.eraseP fun p => p.topic == t

/-- The phrases of topics that were seen before. -/
def later : List Topic → List Phrase → List Phrase
  | _, [] => []
  | seen, p :: ps => if p.topic ∈ seen then p :: later seen ps else later (p.topic :: seen) ps

/-- The second and later phrases of each topic. -/
def repeated (ps : List Phrase) : List Phrase := later [] ps

/-- The first time span, if there is one, is not too long. -/
def SpanFits (ps : List Phrase) : Prop :=
  ∀ v, valueOf? ps .date = some v → ∃ n : Nat, v = .int n ∧ n ≤ TimeSpan.maxDays

/-! ## First and later phrases -/

section Lists

variable {ps qs : List Phrase} {p : Phrase} {t t' : Topic} {ts seen : List Topic} {v : Value}

theorem valueOf?_without (h : t ≠ t') : valueOf? (without ps t) t' = valueOf? ps t' := by
  unfold without
  induction ps with
  | nil => rfl
  | cons p ps ih =>
      by_cases hp : p.topic = t
      · rw [List.eraseP_cons_of_pos (by simpa using hp), valueOf?_cons_of_ne (by rwa [hp])]
      · rw [List.eraseP_cons_of_neg (by simpa using hp)]
        by_cases hp' : p.topic = t'
        · subst hp'
          rw [valueOf?_cons_self, valueOf?_cons_self]
        · rw [valueOf?_cons_of_ne hp', valueOf?_cons_of_ne hp', ih]

theorem foldl_without_cons (ts : List Topic) (p : Phrase) (ps : List Phrase) : ts.foldl without (p :: ps) =
    if p.topic ∈ ts then (ts.erase p.topic).foldl without ps else p :: ts.foldl without ps := by
  induction ts generalizing ps with
  | nil => rfl
  | cons t ts ih =>
      rw [List.foldl_cons]
      by_cases hp : p.topic = t
      · subst hp
        rw [if_pos List.mem_cons_self, List.erase_cons_head, without, List.eraseP_cons_of_pos (by simp)]
      · have hwithout : without (p :: ps) t = p :: without ps t := List.eraseP_cons_of_neg (by simpa using hp)
        rw [hwithout, ih, List.erase_cons_tail (by simpa using Ne.symm hp), List.foldl_cons, List.foldl_cons]
        simp only [List.mem_cons, hp, false_or]

theorem foldl_without (hts : ts.Nodup) (hseen : ∀ t, t ∈ seen ↔ t ∉ ts) : ts.foldl without ps = later seen ps := by
  induction ps generalizing ts seen with
  | nil =>
      rw [later]
      clear hts hseen
      induction ts with
      | nil => rfl
      | cons t ts ih => exact ih
  | cons p ps ih =>
      rw [foldl_without_cons, later]
      by_cases hp : p.topic ∈ ts
      · rw [if_pos hp, if_neg fun h => (hseen _).mp h hp]
        refine ih (hts.erase _) fun t => ?_
        by_cases ht : t = p.topic
        · subst ht
          simp [hts.not_mem_erase]
        · rw [List.mem_erase_of_ne ht, ← hseen, List.mem_cons]
          simp [ht]
      · rw [if_neg hp, if_pos ((hseen _).mpr hp), ih hts hseen]

theorem repeated_eq (ps : List Phrase) : Topic.all.foldl without ps = repeated ps :=
  foldl_without (by decide) fun t => by cases t <;> decide

theorem later_eq_nil_iff : later seen ps = [] ↔ (ps.map (·.topic)).Nodup ∧ ∀ p ∈ ps, p.topic ∉ seen := by
  induction ps generalizing seen with
  | nil => simp [later]
  | cons p ps ih =>
      rw [later]
      by_cases hp : p.topic ∈ seen
      · simp [hp]
      · rw [if_neg hp, ih, List.map_cons, List.nodup_cons]
        constructor
        · rintro ⟨hnodup, hall⟩
          refine ⟨⟨fun hmem => ?_, hnodup⟩, fun q hq => ?_⟩
          · obtain ⟨q, hq, hqp⟩ := List.mem_map.mp hmem
            exact hall q hq (by rw [hqp]; exact List.mem_cons_self)
          · rcases List.mem_cons.mp hq with rfl | hq
            · exact hp
            · exact fun hmem => hall q hq (List.mem_cons_of_mem _ hmem)
        · rintro ⟨⟨hnot, hnodup⟩, hall⟩
          refine ⟨hnodup, fun q hq hmem => ?_⟩
          rcases List.mem_cons.mp hmem with hqp | hmem
          · exact hnot (hqp ▸ List.mem_map_of_mem hq)
          · exact hall q (List.mem_cons_of_mem _ hq) hmem

theorem repeated_eq_nil_iff : repeated ps = [] ↔ (ps.map (·.topic)).Nodup := by
  rw [repeated, later_eq_nil_iff]
  simp

theorem valueOf?_eq_some_iff (hps : (ps.map (·.topic)).Nodup) :
    valueOf? ps t = some v ↔ ∃ p ∈ ps, p.topic = t ∧ p.value = v := by
  induction ps with
  | nil => simp [valueOf?]
  | cons p ps ih =>
      obtain ⟨hnot, hps⟩ := List.nodup_cons.mp hps
      rw [List.exists_mem_cons_iff]
      by_cases hp : p.topic = t
      · subst hp
        rw [valueOf?_cons_self, Option.some_inj]
        constructor
        · intro h
          exact Or.inl ⟨rfl, h⟩
        · rintro (⟨-, h⟩ | ⟨q, hq, hqp, -⟩)
          · exact h
          · exact absurd (List.mem_map.mpr ⟨q, hq, hqp⟩) hnot
      · rw [valueOf?_cons_of_ne hp, ih hps]
        simp [hp]

/-- The values of phrases do not depend on their order. -/
theorem valueOf?_perm (h : qs.Perm ps) (hps : (ps.map (·.topic)).Nodup) (t : Topic) : valueOf? qs t = valueOf? ps t := by
  have hqs : (qs.map (·.topic)).Nodup := (h.map _).nodup_iff.mpr hps
  refine Option.ext fun v => ?_
  rw [valueOf?_eq_some_iff hqs, valueOf?_eq_some_iff hps]
  simp only [h.mem_iff]

end Lists

/-! ## One clause -/

section Clauses

variable {ps : List Phrase}

theorem exists_known {w : List Char} (hw : w ∈ ps.flatMap (·.words)) : ∃ p ∈ ps, Known p.topic w := by
  obtain ⟨p, hp, hwp⟩ := List.mem_flatMap.mp hw
  exact ⟨p, hp, p.spoken.known hwp⟩

theorem not_lane_of_head {w : List Char} (hw : w ∈ (ps.flatMap (·.words)).head?) : ¬ "lane".toList <+: w.map fold := by
  cases ps with
  | nil => cases hw
  | cons p ps =>
      obtain ⟨u, hu, hlane⟩ := p.spoken.head
      obtain ⟨us, hus⟩ := List.head?_eq_some_iff.mp hu
      rw [List.flatMap_cons, hus, List.cons_append, List.head?_cons, Option.mem_some_iff] at hw
      subst hw
      exact hlane

/-- **The clause of a topic takes its first phrase** and has its value. -/
theorem Topic.takeFrom_phrases (t : Topic) (ps : List Phrase) (hfit : t = .date → SpanFits ps) :
    ∃ f, t.clause.takeFrom ⟨joined (ps.flatMap (·.words))⟩ =
        .ok (f, ⟨joined ((without ps t).flatMap (·.words))⟩) ∧
      f.clause = t.clause ∧ f.value = valueOf? ps t := by
  have hknown : ∀ w ∈ ps.flatMap (·.words), ∃ t', Known t' w := fun w hw =>
    (exists_known hw).elim fun p hp => ⟨p.topic, hp.2⟩
  cases hfind : ps.find? (fun p => p.topic == t) with
  | none =>
      have hnot : ∀ p ∈ ps, p.topic ≠ t := by simpa using hfind
      have hwithout : without ps t = ps := List.eraseP_of_forall_not (by simpa using hnot)
      have htake : Scan.take ⟨joined (ps.flatMap (·.words))⟩ t.pattern.bounded = (none, _) :=
        Topic.take_eq_none fun w hw => (exists_known hw).elim fun p hp => ⟨p.topic, hp.2, hnot p hp.1⟩
      refine ⟨{ clause := t.clause, value := none }, ?_, rfl, by rw [valueOf?, hfind]; rfl⟩
      unfold Clause.takeFrom
      simp only [t.constant?_clause, t.scan?_clause, htake, hwithout]
  | some q =>
      have hvalue : valueOf? ps t = some q.value := by rw [valueOf?, hfind]; rfl
      obtain ⟨hq, us, vs, rfl, hus⟩ := List.find?_eq_some_iff_append.mp hfind
      obtain rfl : q.topic = t := by simpa using hq
      have hus' : ∀ p ∈ us, p.topic ≠ q.topic := by simpa using hus
      have hwithout : without (us ++ q :: vs) q.topic = us ++ vs := by
        rw [without, List.eraseP_append_right _ (by simpa using hus'), List.eraseP_cons_of_pos (by simp)]
      rw [hwithout]
      simp only [List.flatMap_append, List.flatMap_cons] at hknown ⊢
      obtain ⟨m, htake, hm, hspells⟩ := Topic.take_joined q.spoken
        (fun w hw hwq => (exists_known hw).elim fun p hp => hus' p hp.1 (hp.2.topic_unique hwq)) hknown
        (fun w hw => not_lane_of_head hw)
      have hresolve : q.topic.clause.resolve m = .ok q.value :=
        resolve_eq_ok (hm ▸ q.spoken) hspells fun hdate => hfit hdate _ (hdate ▸ hvalue)
      refine ⟨{ clause := q.topic.clause, phrase := some m, value := some q.value }, ?_, rfl, hvalue.symm⟩
      unfold Clause.takeFrom
      simp only [q.topic.constant?_clause, q.topic.scan?_clause, htake, hresolve]

end Clauses

/-! ## A search -/

section Search

variable {ps : List Phrase} {ts : List Topic} {text : String}

/-- **A search takes the first phrase of each topic** and leaves the others. -/
theorem takeAll_phrases (ps : List Phrase) (hts : ts.Nodup) (hfit : .date ∈ ts → SpanFits ps) :
    ∃ found, Clause.takeAll (ts.map Topic.clause) ⟨joined (ps.flatMap (·.words))⟩ =
        (found, .ok ⟨joined ((ts.foldl without ps).flatMap (·.words))⟩) ∧
      valuesOf found = ts.map fun t => (t.clause, valueOf? ps t) := by
  induction ts generalizing ps with
  | nil => exact ⟨[], rfl, rfl⟩
  | cons t ts ih =>
      obtain ⟨ht, hts⟩ := List.nodup_cons.mp hts
      have hne : ∀ t' ∈ ts, t ≠ t' := by
        rintro t' ht' rfl
        exact ht ht'
      obtain ⟨f, hf, hclause, hvalue⟩ := Topic.takeFrom_phrases t ps fun hdate => hfit (by simp [hdate])
      have hfit' : .date ∈ ts → SpanFits (without ps t) := by
        intro hdate v hv
        rw [valueOf?_without (hne _ hdate)] at hv
        exact hfit (List.mem_cons_of_mem _ hdate) v hv
      obtain ⟨found, hfound, hvalues⟩ := ih (without ps t) hts hfit'
      refine ⟨f :: found, ?_, ?_⟩
      · rw [List.map_cons, Clause.takeAll, hf]
        simp only [hfound, List.foldl_cons]
      · rw [valuesOf] at hvalues ⊢
        rw [List.map_cons, List.map_cons, hclause, hvalue, hvalues]
        refine congrArg _ (List.map_congr_left fun t' ht' => ?_)
        rw [valueOf?_without (hne t' ht')]

/-- What becomes of phrases in a row. -/
theorem parse_of_words (hwords : words text.toList = ps.flatMap (·.words)) (hfit : SpanFits ps) :
    ∃ found, valuesOf found = Topic.all.map (fun t => (t.clause, valueOf? ps t)) ∧
      (repeated ps = [] → parse text = .ok ⟨found⟩) ∧
      (repeated ps ≠ [] →
        parse text = .error (.leftOver (String.ofList (joined ((repeated ps).flatMap (·.words)))))) := by
  obtain ⟨found, hfound, hvalues⟩ := takeAll_phrases ps (show Topic.all.Nodup by decide) fun _ => hfit
  rw [repeated_eq] at hfound
  have hattempt : Filter.attempt ⟨Topic.all.map Topic.clause⟩ text =
      (found, .ok ⟨joined ((repeated ps).flatMap (·.words))⟩) := by
    rw [Filter.attempt, Scan.start, normalize_eq_joined, hwords, hfound]
  rw [parse_eq]
  unfold Filter.parse
  simp only [hattempt, Scan.isExhausted, List.isEmpty_iff]
  refine ⟨found, hvalues, fun hnil => ?_, fun hne => if_neg fun hjoined => hne ?_⟩
  · rw [hnil]
    rfl
  · have hrest : words (joined ((repeated ps).flatMap (·.words))) = (repeated ps).flatMap (·.words) :=
      words_joined fun w hw => (exists_known hw).elim fun p hp => hp.2.isWordText
    rw [hjoined, words_nil] at hrest
    cases hps : repeated ps with
    | nil => rfl
    | cons p qs =>
        obtain ⟨w, hw, -⟩ := p.spoken.head
        have hmem : w ∈ (repeated ps).flatMap (·.words) := by simp [hps, List.mem_of_mem_head? hw]
        rw [← hrest] at hmem
        cases hmem

theorem query_eq {r r' : Reading} (h : valuesOf r'.findings = valuesOf r.findings) : r'.query = r.query := by
  have hargument : ∀ fs : List Finding, fs.filterMap Finding.argument? =
      (valuesOf fs).filterMap fun cv => Finding.argument? { clause := cv.1, value := cv.2 } := by
    intro fs
    rw [valuesOf, List.filterMap_map]
    rfl
  rw [Reading.query, Reading.query, hargument, hargument, h]

/-- **Phrases in a row, with any blanks between their words, are accepted when no topic has two of them.** Then each
topic has the value of its phrase, or none, and the order of the phrases does not matter. Otherwise the second and later
phrases of each topic are left, as they were written and in their order. -/
theorem parse_phrases (hwords : words text.toList = ps.flatMap (·.words)) (hfit : SpanFits ps) :
    ((∃ r, parse text = .ok r) ↔ (ps.map (·.topic)).Nodup) ∧
    (∀ r, parse text = .ok r →
      valuesOf r.findings = Topic.all.map (fun t => (t.clause, valueOf? ps t)) ∧
      ∀ (qs : List Phrase) (text' : String), qs.Perm ps → words text'.toList = qs.flatMap (·.words) →
        ∃ r', parse text' = .ok r' ∧ valuesOf r'.findings = valuesOf r.findings ∧ r'.query = r.query) ∧
    (¬ (ps.map (·.topic)).Nodup →
      parse text = .error (.leftOver (String.ofList (joined ((repeated ps).flatMap (·.words)))))) := by
  obtain ⟨found, hvalues, hok, herror⟩ := parse_of_words hwords hfit
  rw [repeated_eq_nil_iff] at hok
  rw [ne_eq, repeated_eq_nil_iff] at herror
  have haccepted : ∀ r, parse text = .ok r → (ps.map (·.topic)).Nodup ∧ r.findings = found := by
    intro r hr
    by_cases hps : (ps.map (·.topic)).Nodup
    · rw [hok hps] at hr
      exact ⟨hps, by cases hr; rfl⟩
    · rw [herror hps] at hr
      cases hr
  refine ⟨⟨fun ⟨r, hr⟩ => (haccepted r hr).1, fun hps => ⟨_, hok hps⟩⟩, ?_, herror⟩
  intro r hr
  obtain ⟨hps, rfl⟩ := haccepted r hr
  refine ⟨hvalues, ?_⟩
  intro qs text' hperm hwords'
  have hsame := valueOf?_perm hperm hps
  obtain ⟨found', hvalues', hok', -⟩ := parse_of_words hwords' (fun v hv => hfit v (hsame .date ▸ hv))
  have hqs : repeated qs = [] := repeated_eq_nil_iff.mpr ((hperm.map _).nodup_iff.mpr hps)
  have heq : valuesOf found' = valuesOf r.findings := by rw [hvalues', hvalues]; simp only [hsame]
  exact ⟨⟨found'⟩, hok' hqs, heq, query_eq heq⟩

def twoWeeks : TimeSpan.Layout :=
  { first := [], second := [], third := "LAST ".toList, digits := ['2'], gap := [' '], unit := "week".toList,
    ending := ['s'] }

theorem isSpan_twoWeeks : twoWeeks.IsSpan where
  first := by decide
  second := by decide
  third := by decide
  digits := List.forall_mem_singleton.mpr (by decide)
  gap := Or.inl rfl
  gap_nil := by decide
  unit := by decide
  ending := by decide

/-- A win, a loss, and the last two weeks between them. -/
def wonLost : List Phrase :=
  [⟨.win, ["Won".toList], .int 1, .saying (x := ("won", .int 1)) (by decide) (by decide)⟩,
    ⟨.date, words twoWeeks.text, .int 14, .span isSpan_twoWeeks (List.forall_mem_singleton.mpr (by decide))
      (show ("week", 7) ∈ daysPerUnit by decide) (by decide)⟩,
    ⟨.win, ["lost".toList], .int 0, .saying (x := ("lost", .int 0)) (by decide) (by decide)⟩]

/-- The loss is left when a win stands before it. -/
theorem parse_phrases_won_lost :
    words "Won\tLAST 2  weeks lost".toList = wonLost.flatMap (·.words) ∧ SpanFits wonLost ∧
      parse "Won\tLAST 2  weeks lost" = .error (.leftOver "lost") := by
  have hwords : words "Won\tLAST 2  weeks lost".toList = wonLost.flatMap (·.words) := by decide
  have hfit : SpanFits wonLost := by
    intro v hv
    have hdate : valueOf? wonLost .date = some (.int 14) := rfl
    rw [hdate] at hv
    exact ⟨14, (Option.some.inj hv).symm, by decide⟩
  refine ⟨hwords, hfit, ?_⟩
  obtain ⟨-, -, herror⟩ := parse_phrases hwords hfit
  exact herror (by decide)

end Search

end PhraseFilter.Standard
