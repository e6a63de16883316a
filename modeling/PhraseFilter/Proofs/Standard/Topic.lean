import PhraseFilter.Filter.Standard
import PhraseFilter.Proofs.Clause.Choice
import PhraseFilter.Proofs.Span.Layout

/-!
# The topics of the standard filter

* `Standard.Topic` : the six things that a text can say, `Topic.clause` : the clause of each;
* `Topic.sayings` : how each of the first five is said, in the order in which its pattern prefers it;
* `Standard.filter_eq`, `Standard.parse_eq` : **the standard filter can be built, and its clauses are those of the
  topics**;
* `Topic.sayings_eq`, `Topic.spellings_pattern` : the sayings are what the patterns spell.
-/

namespace PhraseFilter.Standard

open Text Pattern

/-- What a text can say. -/
inductive Topic
  | win
  | side
  | lobby
  | lane
  | roaming
  | date
  deriving Repr, DecidableEq

namespace Topic

def all : List Topic := [.win, .side, .lobby, .lane, .roaming, .date]

def label : Topic → String
  | .win => Standard.win
  | .side => isRadiant
  | .lobby => lobbyType
  | .lane => laneRole
  | .roaming => Standard.roaming
  | .date => Standard.date

def parameter : Topic → Option String
  | .roaming => none
  | t => some t.label

def check : Topic → Option Check
  | .lane => some laneCheck
  | .roaming => some roamingCheck
  | _ => none

/-- The written patterns of the clause. A time span has none of its own. -/
def given : Topic → List (String × Value)
  | .win => winPhrases
  | .side => sidePhrases
  | .lobby => lobbyPhrases
  | .lane => lanePhrases
  | .roaming => roamingPhrases
  | .date => []

def patterns (t : Topic) : List Pattern := t.given.filterMap fun a => Pattern.read? a.1.toList

/-- What the phrases of the topic are spelled by. -/
def pattern : Topic → Pattern
  | .date => TimeSpan.phrase
  | t => altAll t.patterns

def clause (t : Topic) : Clause :=
  { label := t.label, parameter := t.parameter, check := t.check,
    grammar := match t with
      | .date => .timeSpan
      | t => .choice (Clause.alternativesOf t.given t.patterns) (some t.pattern.bounded) }

/-- How the topic is said, with the value of each saying. -/
def sayings : Topic → List (String × Value)
  | .win => [("wins", .int 1), ("win", .int 1), ("won", .int 1), ("victory", .int 1),
      ("loss", .int 0), ("lost", .int 0), ("losses", .int 0), ("defeat", .int 0)]
  | .side => [("as radiant", .int 1), ("asradiant", .int 1), ("on radiant", .int 1), ("onradiant", .int 1),
      (" radiant", .int 1), ("radiant", .int 1),
      ("as dire", .int 0), ("asdire", .int 0), ("on dire", .int 0), ("ondire", .int 0), (" dire", .int 0),
      ("dire", .int 0)]
  | .lobby => [("ranked", .int 7), ("un-ranked", .int 0), ("unranked", .int 0), ("non-ranked", .int 0),
      ("nonranked", .int 0)]
  | .lane => [("safe lane", .int 1), ("safelane", .int 1), ("safe", .int 1),
      ("middle lane", .int 2), ("middlelane", .int 2), ("middle", .int 2),
      ("mid lane", .int 2), ("midlane", .int 2), ("mid", .int 2),
      ("off lane", .int 3), ("offlane", .int 3), ("off", .int 3),
      ("hard lane", .int 3), ("hardlane", .int 3), ("hard", .int 3),
      ("jungle", .int 4), ("jungling", .int 4)]
  | .roaming => [("roaming", .bool true), ("roam", .bool true), ("ganking", .bool true), ("gank", .bool true)]
  | .date => []

/-! ## Patterns and sayings -/

section Patterns

variable {t : Topic}

theorem forall₂_filterMap {given : List (String × Value)}
    (h : given.all (fun a => (Pattern.read? a.1.toList).isSome) = true) :
    List.Forall₂ (fun a p => Pattern.read? a.1.toList = some p) given
      (given.filterMap fun a => Pattern.read? a.1.toList) := by
  induction given with
  | nil => exact .nil
  | cons a given ih =>
      rw [List.all_cons, Bool.and_eq_true] at h
      obtain ⟨p, hp⟩ := Option.isSome_iff_exists.mp h.1
      simp only [List.filterMap_cons, hp]
      exact .cons hp (ih h.2)

theorem forall₂_patterns (t : Topic) :
    List.Forall₂ (fun a p => Pattern.read? a.1.toList = some p) t.given t.patterns := by
  refine forall₂_filterMap ?_
  cases t <;> decide

/-- The patterns of a choice are listed, and **they spell the sayings with their values, in their order**. -/
theorem sayings_eq (t : Topic) : (∀ p ∈ t.patterns, p.isListed = true) ∧
    (List.zip t.given t.patterns).flatMap (fun ap => ap.2.spellings.map fun w => (String.ofList w, ap.1.2)) =
      t.sayings := by
  cases t <;> decide

theorem spellings_pattern (ht : t ≠ .date) :
    t.pattern.isListed = true ∧ t.pattern.spellings = t.sayings.map (·.1.toList) := by
  cases t with
  | date => exact absurd rfl ht
  | _ => decide

/-! ## Clauses -/

theorem choice_eq (ht : t ≠ .date) :
    Clause.choice t.label t.parameter t.given = .ok { t.clause with check := none } := by
  have hscan : (readWordBounded? (Clause.joinSources (t.given.map (·.1)))).isSome = true := by
    cases t <;> decide
  have hwhole : t.given.all (fun a => (readWhole? a.1.toList).isSome) = true := by
    cases t <;> decide
  obtain ⟨c, hc⟩ := Clause.choice_isOk hwhole hscan
  rw [hc, Clause.choice_eq t.forall₂_patterns hc]
  cases t with
  | date => exact absurd rfl ht
  | _ => rfl

theorem constant?_clause (t : Topic) : t.clause.constant? = none := by
  cases t <;> rfl

theorem scan?_clause (t : Topic) : t.clause.scan? = some t.pattern.bounded := by
  cases t with
  | date => exact congrArg some TimeSpan.pattern_eq
  | _ => rfl

theorem isPlaceFree_pattern (t : Topic) : t.pattern.isPlaceFree = true := by
  by_cases ht : t = .date
  · subst ht
    decide
  · exact isPlaceFree_of_isListed (spellings_pattern ht).1

end Patterns

end Topic

/-- **The standard filter can be built, and its clauses are those of the topics.** -/
theorem filter_eq : filter = .ok ⟨Topic.all.map Topic.clause⟩ := by
  have hwin : Clause.choice win (some win) winPhrases = .ok _ := Topic.choice_eq (t := .win) (by decide)
  have hside : Clause.choice isRadiant (some isRadiant) sidePhrases = .ok _ := Topic.choice_eq (t := .side) (by decide)
  have hlobby : Clause.choice lobbyType (some lobbyType) lobbyPhrases = .ok _ :=
    Topic.choice_eq (t := .lobby) (by decide)
  have hlane : Clause.choice laneRole (some laneRole) lanePhrases = .ok _ := Topic.choice_eq (t := .lane) (by decide)
  have hroaming : Clause.choice roaming none roamingPhrases = .ok _ := Topic.choice_eq (t := .roaming) (by decide)
  rw [filter, hwin, hside, hlobby, hlane, hroaming]
  rfl

theorem parse_eq (text : String) : parse text = Filter.parse ⟨Topic.all.map Topic.clause⟩ text := by
  rw [parse, filter_eq]
  rfl

end PhraseFilter.Standard
