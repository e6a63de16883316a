import PhraseFilter.Proofs.Standard.Sequence
import PhraseFilter.Proofs.Standard.Soundness

/-!
# The records that a text asks for

* `Standard.wants` : what the words of a text ask of a record: that the player roamed, or else was in the lane;
* `Standard.KeyWords` : words that tell the sayings of a topic; `KeyWords.valueOf?_eq_some_iff` : **the value that phrases
  give the topic is that of its key words**;
* `Standard.accepts_eq` : the two checks of the standard filter, in view of one another;
* `Standard.accepts_of_parse` : **a record passes the checks of a text when it is what the words ask for**.
-/

namespace PhraseFilter.Standard

open Text

def roamingWords : List String := ["roam", "roaming", "gank", "ganking"]

/-- The words that ask for a lane, with its number. -/
def laneWords : List (String × Int) :=
  [("safe", 1), ("safelane", 1), ("mid", 2), ("middle", 2), ("midlane", 2), ("middlelane", 2),
    ("off", 3), ("hard", 3), ("offlane", 3), ("hardlane", 3), ("jungle", 4), ("jungling", 4)]

/-- Does the word ask for roaming, in any case? -/
def asksRoaming (w : List Char) : Bool := roamingWords.any fun x => x.toList == w.map fold

/-- The lane that the word asks for, in any case. -/
def lane? (w : List Char) : Option Int := (laneWords.find? fun x => x.1.toList == w.map fold).map (·.2)

def isInLane (record : Record) (lane : Int) : Bool :=
  match record.get? laneRole with
  | some (.whole n) => n == lane
  | _ => false

/-- What the words of a text ask of a record: that the player roamed, if one of them asks for it, and else that the
player did not roam and was in the lane, for each lane that is asked for. -/
def wants (ws : List (List Char)) (record : Record) : Bool :=
  if ws.any asksRoaming then record.isTruthy isRoaming
  else ws.all fun w => (lane? w).all fun lane => !record.isTruthy isRoaming && isInLane record lane

/-! ## Key words -/

/-- Words that tell the sayings of a topic: each saying has one of them, and the sayings that have it have its value. -/
structure KeyWords (t : Topic) (keys : List (List Char × Value)) : Prop where
  listed : ∀ k ∈ keys, (k.1, t) ∈ vocabulary
  said : ∀ x ∈ t.sayings, ∃ k ∈ keys, k.1 ∈ words x.1.toList
  value : ∀ k ∈ keys, ∀ x ∈ t.sayings, k.1 ∈ words x.1.toList → k.2 = x.2

theorem keyWords_roaming : KeyWords .roaming (roamingWords.map fun x => (x.toList, .bool true)) := by
  constructor <;> decide

theorem keyWords_lane : KeyWords .lane (laneWords.map fun x => (x.1.toList, .int x.2)) := by
  constructor <;> decide

section Keys

variable {t : Topic} {ps : List Phrase} {ws : List (List Char)} {keys : List (List Char × Value)} {v : Value}

theorem Says.exists_saying (h : Says t ws v) (ht : t ≠ .date) :
    ∃ x ∈ t.sayings, ws.map (·.map fold) = words x.1.toList ∧ x.2 = v := by
  cases h with
  | saying hx hws => exact ⟨_, hx, hws, rfl⟩
  | span _ _ _ _ => exact absurd rfl ht

/-- **The value that phrases give a topic is that of its key words.** -/
theorem KeyWords.valueOf?_eq_some_iff (hk : KeyWords t keys) (ht : t ≠ .date) (hps : (ps.map (·.topic)).Nodup)
    (hws : ws.Perm (ps.flatMap (·.words))) :
    valueOf? ps t = some v ↔ ∃ w ∈ ws, (w.map fold, v) ∈ keys := by
  rw [Standard.valueOf?_eq_some_iff hps]
  constructor
  · rintro ⟨p, hp, rfl, rfl⟩
    obtain ⟨x, hx, hfold, hvalue⟩ := p.spoken.exists_saying ht
    obtain ⟨k, hkey, hmem⟩ := hk.said x hx
    obtain ⟨w, hw, hwk⟩ := List.mem_map.mp (hfold ▸ hmem)
    refine ⟨w, hws.mem_iff.mpr (List.mem_flatMap.mpr ⟨p, hp, hw⟩), ?_⟩
    rw [hwk, ← hvalue, ← hk.value k hkey x hx hmem]
    exact hkey
  · -- The phrase that has the word is one of the topic, since no other topic knows the word.
    rintro ⟨w, hw, hkey⟩
    obtain ⟨p, hp, hwp⟩ := List.mem_flatMap.mp (hws.mem_iff.mp hw)
    have hknown : Known t w := .listed (hk.listed _ hkey)
    obtain rfl : p.topic = t := (p.spoken.known hwp).topic_unique hknown
    obtain ⟨x, hx, hfold, hvalue⟩ := p.spoken.exists_saying ht
    refine ⟨p, hp, rfl, ?_⟩
    rw [← hvalue]
    exact (hk.value _ hkey x hx (hfold ▸ List.mem_map_of_mem hwp)).symm

theorem asksRoaming_iff {w : List Char} :
    asksRoaming w = true ↔ ∃ v, (w.map fold, v) ∈ roamingWords.map fun x => (x.toList, Value.bool true) := by
  rw [asksRoaming, List.any_eq_true]
  constructor
  · rintro ⟨x, hx, hw⟩
    exact ⟨_, List.mem_map.mpr ⟨x, hx, Prod.ext (beq_iff_eq.mp hw) rfl⟩⟩
  · rintro ⟨v, hv⟩
    obtain ⟨x, hx, heq⟩ := List.mem_map.mp hv
    exact ⟨x, hx, beq_iff_eq.mpr (Prod.mk.inj heq).1⟩

theorem lane?_eq_some_iff {w : List Char} {n : Int} :
    lane? w = some n ↔ (w.map fold, Value.int n) ∈ laneWords.map fun x => (x.1.toList, .int x.2) := by
  have hfirst : ∀ x ∈ laneWords, (laneWords.find? fun y => y.1.toList == x.1.toList).map (·.2) = some x.2 := by decide
  rw [lane?, List.mem_map]
  constructor
  · intro h
    obtain ⟨x, hx, rfl⟩ := Option.map_eq_some_iff.mp h
    have hw := List.find?_some hx
    exact ⟨x, List.mem_of_find?_eq_some hx, Prod.ext (beq_iff_eq.mp hw) rfl⟩
  · rintro ⟨x, hx, heq⟩
    obtain ⟨hw, hn⟩ := Prod.mk.inj heq
    rw [← hw, hfirst x hx, Value.int.inj hn]

end Keys

/-! ## Checks -/

section Checks

variable {r : Reading} {value : Topic → Option Value} {text : String}

theorem value?_label (h : valuesOf r.findings = Topic.all.map fun t => (t.clause, value t)) (t : Topic) :
    r.toFindings.value? t.label = value t := by
  have hentries : r.toFindings.entries = (valuesOf r.findings).map fun cv => (cv.1.label, cv.2) := by
    rw [valuesOf, List.map_map]
    rfl
  rw [Findings.value?, hentries, h]
  cases t <;> rfl

theorem accepts_finding (f : Finding) (found : Findings) (record : Record) :
    f.accepts found record = (f.value.isNone || f.clause.check.all fun check => check found record) := by
  unfold Finding.accepts
  cases f.value <;> cases f.clause.check <;> rfl

/-- The checks of the standard filter: of roaming, and of the lane when roaming is not asked for. -/
theorem accepts_eq (h : valuesOf r.findings = Topic.all.map fun t => (t.clause, value t)) (record : Record) :
    r.accepts record = if (value .roaming).isSome then record.isTruthy isRoaming
      else (value .lane).all fun v => !record.isTruthy isRoaming && record.holds laneRole v := by
  have hroaming : r.toFindings.value? roaming = value .roaming := value?_label h .roaming
  have hlane : r.toFindings.value? laneRole = value .lane := value?_label h .lane
  have hall : r.accepts record = Topic.all.all fun t =>
      (value t).isNone || t.check.all fun check => check r.toFindings record := by
    have hfound : r.accepts record = (valuesOf r.findings).all fun cv =>
        cv.2.isNone || cv.1.check.all fun check => check r.toFindings record := by
      rw [Reading.accepts, valuesOf, List.all_map]
      exact List.all_congr rfl fun f => accepts_finding f _ _
    rw [hfound, h, List.all_map]
    rfl
  rw [hall]
  simp only [Topic.all, Topic.check, List.all_cons, List.all_nil, Option.all_none, Option.all_some, Bool.or_true,
    Bool.true_and, Bool.and_true, laneCheck, roamingCheck, Findings.isResolved, hroaming, hlane]
  cases value .roaming <;> cases value .lane <;> simp

theorem holds_lane {w : List Char} {n : Int} (h : lane? w = some n) (record : Record) :
    record.holds laneRole (.int n) = isInLane record n := by
  have hrange : ∀ x ∈ laneWords, Json.minSigned ≤ x.2 ∧ x.2 ≤ Json.maxSigned := by decide
  obtain ⟨x, hx, rfl⟩ := Option.map_eq_some_iff.mp h
  have hx := hrange x (List.mem_of_find?_eq_some hx)
  unfold Record.holds isInLane
  cases record.get? laneRole with
  | none => rfl
  | some j =>
      cases j with
      | whole m =>
          rw [Option.any_some, Bool.eq_iff_iff, beq_iff_eq, Value.matchesJson, beq_iff_eq, Json.signed?]
          constructor
          · intro hm
            exact Option.some.inj (Option.ite_none_right_eq_some.mp hm).2
          · rintro rfl
            rw [if_pos hx]
      | _ => rfl

/-- The value found for roaming and the one found for the lane are those of the words that ask for them. -/
theorem exists_values_of_parse (h : parse text = .ok r) : ∃ value : Topic → Option Value,
    valuesOf r.findings = Topic.all.map (fun t => (t.clause, value t)) ∧
    (value .roaming).isSome = (words text.toList).any asksRoaming ∧
    ∀ v, value .lane = some v ↔ ∃ w ∈ words text.toList, ∃ n, lane? w = some n ∧ v = .int n := by
  rw [parse_eq] at h
  obtain ⟨left, hattempt, hempty⟩ := Filter.parse_ok h
  obtain ⟨ps, hsub, hvalues, hwords, -⟩ := exists_phrases_of_takeAll (by decide) hattempt
  have hps : (ps.map (·.topic)).Nodup := hsub.nodup (by decide)
  have hall : (words text.toList).Perm (ps.flatMap (·.words)) := by
    rw [hempty, words_nil, List.append_nil, Scan.start, words_normalize] at hwords
    refine hwords.resolve_right ?_
    rintro ⟨w, hw, -⟩
    cases hw
  refine ⟨valueOf? ps, hvalues, ?_, fun v => ?_⟩
  · rw [Bool.eq_iff_iff, Option.isSome_iff_exists, List.any_eq_true]
    simp only [keyWords_roaming.valueOf?_eq_some_iff (by decide) hps hall, asksRoaming_iff]
    constructor
    · rintro ⟨v, w, hw, hv⟩
      exact ⟨w, hw, v, hv⟩
    · rintro ⟨w, hw, v, hv⟩
      exact ⟨v, w, hw, hv⟩
  · rw [keyWords_lane.valueOf?_eq_some_iff (by decide) hps hall]
    simp only [lane?_eq_some_iff]
    constructor
    · rintro ⟨w, hw, hkey⟩
      obtain ⟨x, -, heq⟩ := List.mem_map.mp hkey
      obtain rfl : Value.int x.2 = v := (Prod.mk.inj heq).2
      exact ⟨w, hw, x.2, hkey, rfl⟩
    · rintro ⟨w, hw, n, hkey, rfl⟩
      exact ⟨w, hw, hkey⟩

end Checks

/-- **A record passes the checks of a text when it is what the words of the text ask for**, and these ask for one lane at
most. So the records that are kept are those, in their order. -/
theorem accepts_of_parse {text : String} {r : Reading} (h : parse text = .ok r) :
    (∀ record, r.accepts record = wants (words text.toList) record) ∧
    (∀ w ∈ words text.toList, ∀ w' ∈ words text.toList, ∀ n n', lane? w = some n → lane? w' = some n' → n = n') ∧
    ∀ records, r.keep records = records.filter (wants (words text.toList)) := by
  obtain ⟨value, hvalues, hroaming, hlane⟩ := exists_values_of_parse h
  have haccepts : r.accepts = wants (words text.toList) := by
    funext record
    rw [accepts_eq hvalues, wants, hroaming]
    refine if_congr Iff.rfl rfl ?_
    rw [Bool.eq_iff_iff, Option.all_eq_true, List.all_eq_true]
    simp only [hlane, Option.all_eq_true]
    -- One value is checked on the left and all words on the right, and the words have no other value.
    constructor
    · intro hv w hw n hn
      rw [← holds_lane hn]
      exact hv _ ⟨w, hw, n, hn, rfl⟩
    · rintro hw v ⟨w, hmem, n, hn, rfl⟩
      rw [holds_lane hn]
      exact hw w hmem n hn
  refine ⟨fun record => by rw [haccepts], fun w hw w' hw' n n' hn hn' => ?_, fun records => ?_⟩
  · have hone := ((hlane _).mpr ⟨w, hw, n, hn, rfl⟩).symm.trans ((hlane _).mpr ⟨w', hw', n', hn', rfl⟩)
    exact Value.int.inj (Option.some.inj hone)
  · rw [Reading.keep, haccepts]

/-- A text that asks for the middle lane, in mixed case and with a tab. -/
theorem accepts_of_parse_mid : ∃ r, parse "MID\twon" = .ok r ∧
    r.accepts ⟨[("is_roaming", .whole 0), ("lane_role", .whole 2)]⟩ = true ∧
    r.accepts ⟨[("is_roaming", .bool true), ("lane_role", .whole 2)]⟩ = false ∧
    r.keep [⟨[("lane_role", .whole 3)]⟩, ⟨[]⟩] = [] := by
  have haccepted : (parse "MID\twon").toBool = true := by
    rw [parse_eq]
    decide +kernel
  obtain ⟨r, hr⟩ := exists_ok_of_toBool haccepted
  obtain ⟨haccepts, -, hkeep⟩ := accepts_of_parse hr
  refine ⟨r, hr, ?_, ?_, ?_⟩
  · rw [haccepts]
    decide +kernel
  · rw [haccepts]
    decide +kernel
  · rw [hkeep, List.filter_eq_nil_iff]
    decide +kernel

end PhraseFilter.Standard
