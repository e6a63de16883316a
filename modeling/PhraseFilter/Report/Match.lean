import PhraseFilter.Record
import PhraseFilter.Report.Column
import PhraseFilter.Report.Date

/-!
# Match reports

`MatchRow` is what a report tells of one match, `MatchRow.ofRecord?` takes it from a record, and
`MatchRow.table` lays the rows out.
-/

namespace PhraseFilter

inductive Lane
  | safe
  | mid
  | off
  | jungle
  deriving Repr, DecidableEq

namespace Lane

def ofNumber? : Nat → Option Lane
  | 1 => some .safe
  | 2 => some .mid
  | 3 => some .off
  | 4 => some .jungle
  | _ => none

def name : Lane → String
  | .safe => "safe"
  | .mid => "mid"
  | .off => "off"
  | .jungle => "jungle"

end Lane

structure Score where
  kills : Nat
  deaths : Nat
  assists : Nat
  deriving Repr, DecidableEq

/-- What a report tells of a match. -/
structure MatchRow where
  matchId : Nat
  heroId : Option Nat
  won : Option Bool
  /-- Was the player on the first of the two sides? -/
  radiant : Option Bool
  lane : Option Lane
  roaming : Bool
  score : Option Score
  date : Option Date
  deriving Repr, DecidableEq

namespace MatchRow

/-- The players of the second side have slots from this one on. -/
def direSlot : Nat := 128

def number? (r : Record) (field : String) : Option Nat := (r.get? field).bind Json.unsigned?

/-- The score in a record, if all of it is there. -/
def scoreOf? (r : Record) : Option Score :=
  match number? r "kills", number? r "deaths", number? r "assists" with
  | some kills, some deaths, some assists => some ⟨kills, deaths, assists⟩
  | _, _, _ => none

/-- What is told of a record, if it has the number of a match. -/
def ofRecord? (r : Record) : Option MatchRow :=
  (number? r "match_id").map fun matchId =>
    let radiant := (number? r "player_slot").map fun slot => decide (slot < direSlot)
    let radiantWin := (r.get? "radiant_win").bind Json.bool?
    { matchId
      heroId := number? r "hero_id"
      won :=
        match radiant, radiantWin with
        | some side, some winner => some (side == winner)
        | _, _ => none
      radiant
      lane := (number? r "lane_role").bind Lane.ofNumber?
      roaming := r.isTruthy "is_roaming"
      score := scoreOf? r
      date := ((r.get? "start_time").bind Json.signed?).bind Date.ofTimestamp? }

open Report

def scoreText (s : Score) : String :=
  toString s.kills ++ "/" ++ toString s.deaths ++ "/" ++ toString s.assists

def laneText (row : MatchRow) : Option String :=
  if row.roaming then some "roam" else row.lane.map Lane.name

/-- The widths of all columns but the last, given their cells. -/
def columns (matchId hero result side lane score : String) : List (Nat × String) :=
  [(12, matchId), (6, hero), (6, result), (8, side), (8, lane), (10, score)]

def toLine (row : MatchRow) : String :=
  line
    (columns (toString row.matchId) (orDash (row.heroId.map toString))
      (orDash (row.won.map fun w => if w then "Win" else "Loss"))
      (orDash (row.radiant.map fun r => if r then "Radiant" else "Dire"))
      (orDash row.laneText) (orDash (row.score.map scoreText)))
    (orDash (row.date.map Date.toText))

def table (rows : List MatchRow) : String :=
  if rows.isEmpty then "No matches found\n"
  else
    line (columns "Match" "Hero" "Result" "Side" "Lane" "K/D/A") "Date" ++ rule 64 ++
      String.join (rows.map toLine)

end MatchRow

end PhraseFilter
