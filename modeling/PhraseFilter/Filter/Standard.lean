import PhraseFilter.Filter.Basic

/-!
# The standard filter for matches

Six clauses in this order: the result, the side, the kind of lobby, the lane, roaming, and the time span.
A lane or roaming cannot be asked of the service, so records are checked for them: somebody who roams has
no lane, and so the lane is checked only when roaming was not asked for.
-/

namespace PhraseFilter.Standard

def win : String := "win"
def isRadiant : String := "is_radiant"
def lobbyType : String := "lobby_type"
/-- The label and parameter of the lane, and the field of a record that holds it. -/
def laneRole : String := "lane_role"
def roaming : String := "roaming"
def date : String := "date"
/-- The field of a record that tells whether the player roamed. -/
def isRoaming : String := "is_roaming"

def rankedLobby : Int := 7

def winPhrases : List (String × Value) :=
  [("wins?|won|victory", .int 1), ("loss|lost|losses|defeat", .int 0)]

def sidePhrases : List (String × Value) :=
  [("(as|on)? ?radiant", .int 1), ("(as|on)? ?dire", .int 0)]

def lobbyPhrases : List (String × Value) :=
  [("ranked", .int rankedLobby), ("(un|non)-?ranked", .int 0)]

def lanePhrases : List (String × Value) :=
  [("safe( ?lane)?", .int 1), ("mid(dle)?( ?lane)?", .int 2), ("(off|hard)( ?lane)?", .int 3),
    ("jungl(e|ing)", .int 4)]

def roamingPhrases : List (String × Value) := [("roam(ing)?|gank(ing)?", .bool true)]

/-- The record is of the lane that was asked for, unless roaming was asked for. -/
def laneCheck : Check := fun found r =>
  if found.isResolved roaming then true
  else !r.isTruthy isRoaming && (found.value? laneRole).all (r.holds laneRole)

/-- The record is of a player who roamed. -/
def roamingCheck : Check := fun _ r => r.isTruthy isRoaming

def filter : Except PhraseError Filter := do
  let win ← Clause.choice win (some win) winPhrases
  let side ← Clause.choice isRadiant (some isRadiant) sidePhrases
  let lobby ← Clause.choice lobbyType (some lobbyType) lobbyPhrases
  let lane ← Clause.choice laneRole (some laneRole) lanePhrases
  let roam ← Clause.choice roaming none roamingPhrases
  return ⟨[win, side, lobby, lane.withCheck laneCheck, roam.withCheck roamingCheck,
    .timeSpan date (some date)]⟩

def parse (text : String) : Except PhraseError Reading := filter.bind fun f => f.parse text

end PhraseFilter.Standard
