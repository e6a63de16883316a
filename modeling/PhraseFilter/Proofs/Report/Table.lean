import PhraseFilter.Proofs.Report.Column
import PhraseFilter.Proofs.Report.MatchDate
import PhraseFilter.Proofs.Text.Blank
import PhraseFilter.Proofs.Text.Letters

/-!
# What the table of matches tells

* `MatchRow.readLine?` : the row that a line of the table gives, field by field;
* `MatchRow.visible` : what a line tells of a row, which is all of it but the lane of a player who roams;
* `MatchRow.words_rowLine`, `MatchRow.readLine?_rowLine` : **a line has seven words, which give what it tells of its row**;
* `MatchRow.splitAll_table` : the lines of a table;
* `MatchRow.table_tells` : **the table loses nothing**, so that rows which tell different things have different tables.
-/

namespace PhraseFilter.MatchRow

open Report Text

/-! ## Reading a line -/

def readScore? (s : List Char) : Option Score :=
  match splitAll '/' s with
  | [kills, deaths, assists] =>
    match readDecimal? kills, readDecimal? deaths, readDecimal? assists with
    | some kills, some deaths, some assists => some ⟨kills, deaths, assists⟩
    | _, _, _ => none
  | _ => none

def readResult? : List Char → Option Bool := readChoice? [("Win", true), ("Loss", false)]

def readSide? : List Char → Option Bool := readChoice? [("Radiant", true), ("Dire", false)]

/-- Whether the player roams, and the lane of one who does not. -/
def readLane? : List Char → Option (Bool × Option Lane) :=
  readChoice? [("roam", true, none), ("-", false, none), ("safe", false, some .safe), ("mid", false, some .mid),
    ("off", false, some .off), ("jungle", false, some .jungle)]

/-- The row that a line of seven words gives. -/
def readLine? (s : List Char) : Option MatchRow :=
  match words s with
  | [matchId, hero, result, side, lane, score, date] => do
    let matchId ← readDecimal? matchId
    let heroId ← readCell? readDecimal? hero
    let won ← readCell? readResult? result
    let radiant ← readCell? readSide? side
    let (roaming, lane) ← readLane? lane
    let score ← readCell? readScore? score
    let date ← readCell? Date.read? date
    return { matchId, heroId, won, radiant, lane, roaming, score, date }
  | _ => none

/-- What a line tells of a row: of a player who roams it does not tell the lane. -/
def visible (row : MatchRow) : MatchRow := { row with lane := if row.roaming then none else row.lane }

/-! ## The cells of a line -/

/-- The cells of a row but the last one, with the widths of their columns. -/
def cells (row : MatchRow) : List (Nat × String) :=
  columns (toString row.matchId) (orDash (row.heroId.map toString))
    (orDash (row.won.map fun w => if w then "Win" else "Loss"))
    (orDash (row.radiant.map fun r => if r then "Radiant" else "Dire"))
    (orDash row.laneText) (orDash (row.score.map scoreText))

def dateCell (row : MatchRow) : String := orDash (row.date.map Date.toText)

/-- The line of a row without the line feed at its end. -/
def rowLine (row : MatchRow) : List Char := lineText row.cells row.dateCell

section Cells

variable {row : MatchRow} {n : Nat}

theorem isWordText_toString (n : Nat) : IsWordText (toString n).toList :=
  ⟨toString_ne_nil n, fun _ hc => isBlank_of_isDigit (isDigit_of_mem_toString hc)⟩

theorem readDecimal?_toString (n : Nat) : readDecimal? (toString n).toList = some n :=
  readDecimal?_eq_some_iff.mpr ⟨toString_ne_nil n, fun _ => isDigit_of_mem_toString, decimalValue_zeros 0 n⟩

theorem toList_scoreText (s : Score) : (scoreText s).toList =
    (toString s.kills).toList ++ '/' :: ((toString s.deaths).toList ++ '/' :: (toString s.assists).toList) := by
  simp [scoreText]

theorem readScore?_scoreText (s : Score) : readScore? (scoreText s).toList = some s := by
  have hslash (n : Nat) : '/' ∉ (toString n).toList := by
    intro hmem
    have hdigit := isDigit_of_mem_toString hmem
    cases hdigit
  have hparts : splitAll '/' (scoreText s).toList =
      [(toString s.kills).toList, (toString s.deaths).toList, (toString s.assists).toList] := by
    rw [toList_scoreText, splitAll_append_cons, splitAll_append_cons, splitAll_of_not_mem (hslash _),
      splitAll_of_not_mem (hslash _), splitAll_of_not_mem (hslash _)]
    rfl
  rw [readScore?, hparts]
  simp only [readDecimal?_toString]

theorem isWordText_scoreText (s : Score) : IsWordText (scoreText s).toList := by
  have hdigits (n : Nat) : ∀ c ∈ (toString n).toList, isBlank c = false := (isWordText_toString n).2
  rw [toList_scoreText]
  refine ⟨List.append_ne_nil_of_left_ne_nil (toString_ne_nil _) _, ?_⟩
  simp only [List.forall_mem_append, List.forall_mem_cons]
  exact ⟨hdigits _, rfl, hdigits _, rfl, hdigits _⟩

theorem isWordText_toText (d : Date) : IsWordText d.toText.toList := by
  have hpadded (width n : Nat) : ∀ c ∈ (Date.padded width n).toList, isBlank c = false :=
    fun _ hc => isBlank_of_isDigit (Date.isDigit_of_mem_padded hc)
  have hyear : ∀ c ∈ (Date.yearText d.year).toList, isBlank c = false := by
    unfold Date.yearText
    split
    · exact hpadded _ _
    · rw [String.toList_append, List.forall_mem_append]
      refine ⟨?_, hpadded _ _⟩
      split <;> exact isBlank_of_all (by decide)
  have htext : d.toText.toList = (Date.yearText d.year).toList ++
      '-' :: ((Date.padded 2 d.month).toList ++ '-' :: (Date.padded 2 d.day).toList) := by
    simp [Date.toText]
  rw [htext]
  refine ⟨List.append_ne_nil_of_right_ne_nil _ (List.cons_ne_nil _ _), ?_⟩
  simp only [List.forall_mem_append, List.forall_mem_cons]
  exact ⟨hyear, rfl, hpadded _ _, rfl, hpadded _ _⟩

theorem isWordText_laneText (row : MatchRow) : IsWordText (orDash row.laneText).toList := by
  obtain ⟨_, _, _, _, lane, roaming, _, _⟩ := row
  have hall : ∀ (roaming : Bool) (lane : Option Lane),
      IsWordText (orDash (if roaming then some "roam" else lane.map Lane.name)).toList := by
    rintro (_ | _) (_ | _ | _) <;> exact ⟨by decide, isBlank_of_all (by decide)⟩
  exact hall roaming lane

theorem readLane?_laneText (row : MatchRow) :
    readLane? (orDash row.laneText).toList = some (row.roaming, row.visible.lane) := by
  obtain ⟨_, _, _, _, lane, roaming, _, _⟩ := row
  have hall : ∀ (roaming : Bool) (lane : Option Lane),
      readLane? (orDash (if roaming then some "roam" else lane.map Lane.name)).toList =
        some (roaming, if roaming then none else lane) := by
    rintro (_ | _) (_ | _ | _) <;> rfl
  exact hall roaming lane

/-! ## Lines -/

theorem isWordText_cells (row : MatchRow) : ∀ cell ∈ row.cells, IsWordText cell.2.toList := by
  have hresult : ∀ won : Bool, IsWordText (if won then "Win" else "Loss").toList := by
    rintro (_ | _) <;> exact ⟨by decide, isBlank_of_all (by decide)⟩
  have hside : ∀ radiant : Bool, IsWordText (if radiant then "Radiant" else "Dire").toList := by
    rintro (_ | _) <;> exact ⟨by decide, isBlank_of_all (by decide)⟩
  simp only [cells, columns, List.forall_mem_cons, List.not_mem_nil, false_imp_iff, implies_true, and_true]
  exact ⟨isWordText_toString _, isWordText_orDash fun n _ => isWordText_toString n,
    isWordText_orDash fun won _ => hresult won, isWordText_orDash fun radiant _ => hside radiant,
    isWordText_laneText row, isWordText_orDash fun s _ => isWordText_scoreText s⟩

theorem isWordText_dateCell (row : MatchRow) : IsWordText row.dateCell.toList :=
  isWordText_orDash fun d _ => isWordText_toText d

/-- **A line has seven words**: the cells of its row. -/
theorem words_rowLine (row : MatchRow) :
    words row.rowLine = row.cells.map (fun cell => cell.2.toList) ++ [row.dateCell.toList] :=
  words_lineText row.isWordText_cells row.isWordText_dateCell

/-- **A line gives what it tells of its row.** -/
theorem readLine?_rowLine (hdate : ∀ d ∈ row.date, d.IsValid) : readLine? row.rowLine = some row.visible := by
  have hhero : readCell? readDecimal? (orDash (row.heroId.map toString)).toList = some row.heroId :=
    readCell?_orDash rfl fun n _ => readDecimal?_toString n
  have hresult : readCell? readResult? (orDash (row.won.map fun w => if w then "Win" else "Loss")).toList =
      some row.won :=
    readCell?_orDash rfl fun w _ => by cases w <;> rfl
  have hside : readCell? readSide? (orDash (row.radiant.map fun r => if r then "Radiant" else "Dire")).toList =
      some row.radiant :=
    readCell?_orDash rfl fun r _ => by cases r <;> rfl
  have hscore : readCell? readScore? (orDash (row.score.map scoreText)).toList = some row.score :=
    readCell?_orDash rfl fun s _ => readScore?_scoreText s
  have hday : readCell? Date.read? row.dateCell.toList = some row.date :=
    readCell?_orDash rfl fun d hd => Date.read?_toText (hdate d hd)
  rw [readLine?, words_rowLine]
  simp only [cells, columns, List.map_cons, List.map_nil, List.cons_append, List.nil_append, readDecimal?_toString,
    hhero, hresult, hside, readLane?_laneText, hscore, hday, Option.bind_eq_bind, Option.bind_some]
  rfl

end Cells

/-! ## Tables -/

def headLine : List Char := lineText (columns "Match" "Hero" "Result" "Side" "Lane" "K/D/A") "Date"

def ruleLine : List Char := List.replicate 64 '-'

section Tables

variable {row : MatchRow} {rows rows' : List MatchRow}

theorem toList_table (hne : rows ≠ []) :
    (table rows).toList = (headLine :: ruleLine :: rows.map rowLine).flatMap (· ++ ['\n']) := by
  have hrows : (String.join (rows.map toLine)).toList = (rows.map rowLine).flatMap (· ++ ['\n']) := by
    rw [String.toList_join, List.flatMap_map, List.flatMap_map]
    exact List.flatMap_congr fun row _ => toList_line row.cells row.dateCell
  have hrule : (rule 64).toList = ruleLine ++ ['\n'] := by decide
  rw [table, if_neg (by simpa using hne), String.toList_append, String.toList_append, toList_line, hrule, hrows,
    List.flatMap_cons, List.flatMap_cons, List.append_assoc]
  rfl

theorem splitAll_table (hne : rows ≠ []) :
    splitAll '\n' (table rows).toList = headLine :: ruleLine :: (rows.map rowLine ++ [[]]) := by
  have hlines : ∀ l ∈ headLine :: ruleLine :: rows.map rowLine, '\n' ∉ l := by
    simp only [List.forall_mem_cons, List.forall_mem_map]
    refine ⟨by decide, by decide, fun row _ => ?_⟩
    exact not_mem_lineText row.isWordText_cells row.isWordText_dateCell
  rw [toList_table hne, splitAll_lines _ hlines]
  rfl

theorem date_ofRecord? {r : Record} (h : ofRecord? r = some row) : row.date = dateOf? r := by
  obtain ⟨id, -, rfl⟩ := Option.map_eq_some_iff.mp h
  rfl

theorem isValid_date_of_ofRecord? {r : Record} (h : ofRecord? r = some row) : ∀ d ∈ row.date, d.IsValid := by
  intro d hd
  rw [date_ofRecord? h] at hd
  obtain ⟨ts, -, hts⟩ := Option.bind_eq_some_iff.mp hd
  exact (Date.ofTimestamp?_eq_some_iff.mp hts).1.1

theorem toLine_visible (row : MatchRow) : row.visible.toLine = row.toLine := by
  have hlane : row.visible.laneText = row.laneText := by
    unfold visible laneText
    cases row.roaming <;> rfl
  unfold toLine
  rw [hlane]
  rfl

theorem table_map_visible (rows : List MatchRow) : table (rows.map visible) = table rows := by
  unfold table
  rw [List.isEmpty_map, List.map_map]
  simp only [Function.comp_def, toLine_visible]

theorem map_readLine?_rowLine (hrows : ∀ row ∈ rows, ∀ d ∈ row.date, d.IsValid) :
    (rows.map rowLine).map readLine? = (rows.map visible).map some := by
  rw [List.map_map, List.map_map]
  refine List.map_congr_left fun row hrow => ?_
  rw [Function.comp_apply, readLine?_rowLine (hrows row hrow), Function.comp_apply]

/-- **The table of matches loses nothing.** A table of one or more rows has two lines above them and then one line for
each row in order. Each of these has seven words, which give back the row: the match, the hero, the result, the side,
whether the player roams, the lane of a player who does not, the score and the date, each of them with what is missing.
So the tables of two lists of rows are the same just when the rows tell the same. -/
theorem table_tells (hne : rows ≠ []) (hrows : ∀ row ∈ rows, ∃ r, ofRecord? r = some row) :
    (∃ lines, splitAll '\n' (table rows).toList = headLine :: ruleLine :: (lines ++ [[]]) ∧
      List.Forall₂ (fun row l => (words l).length = 7 ∧ readLine? l = some row.visible) rows lines) ∧
    ∀ rows', (∀ row ∈ rows', ∃ r, ofRecord? r = some row) →
      (table rows = table rows' ↔ rows.map visible = rows'.map visible) := by
  have hvalid : ∀ {rows : List MatchRow}, (∀ row ∈ rows, ∃ r, ofRecord? r = some row) →
      ∀ row ∈ rows, ∀ d ∈ row.date, d.IsValid := by
    intro rows hrows row hrow
    obtain ⟨r, hr⟩ := hrows row hrow
    exact isValid_date_of_ofRecord? hr
  refine ⟨⟨rows.map rowLine, splitAll_table hne, ?_⟩, fun rows' hrows' => ⟨fun htable => ?_, fun htold => ?_⟩⟩
  · rw [List.forall₂_map_right_iff, List.forall₂_same]
    intro row hrow
    refine ⟨?_, readLine?_rowLine (hvalid hrows row hrow)⟩
    rw [words_rowLine]
    rfl
  · rcases eq_or_ne rows' [] with rfl | hne'
    · -- A list of no rows has a text of its own, which does not begin with the names of the columns.
      have hother : (splitAll '\n' (table []).toList).head? ≠ some headLine := by decide +kernel
      rw [← htable, splitAll_table hne] at hother
      exact absurd rfl hother
    · have hlines := splitAll_table hne
      rw [htable, splitAll_table hne'] at hlines
      have hsame : rows'.map rowLine = rows.map rowLine :=
        List.append_cancel_right (List.cons.inj (List.cons.inj hlines).2).2
      have hread := congrArg (List.map readLine?) hsame
      rw [map_readLine?_rowLine (hvalid hrows'), map_readLine?_rowLine (hvalid hrows)] at hread
      exact ((List.map_inj_right fun _ _ => Option.some.inj).mp hread).symm
  · rw [← table_map_visible rows, htold, table_map_visible]

/-- The row of a player who roams, with numbers that are wider than their columns and a day before the year 0. -/
def wideRow : MatchRow :=
  ⟨18446744073709551615, some 1234567, some true, some false, some .mid, true, some ⟨12345678901, 0, 7⟩, some ⟨-1, 12, 31⟩⟩

def bareRow : MatchRow := ⟨1, none, none, none, none, false, none, none⟩

/-- The lane of a player who roams is not told, and that the player roams is. -/
theorem table_tells_wide : [wideRow, bareRow] ≠ [] ∧ (∀ row ∈ [wideRow, bareRow], ∃ r, ofRecord? r = some row) ∧
    (∃ first second, splitAll '\n' (table [wideRow, bareRow]).toList = [headLine, ruleLine, first, second, []] ∧
      readLine? first = some { wideRow with lane := none } ∧ readLine? second = some bareRow) ∧
    table [wideRow, bareRow] = table [{ wideRow with lane := none }, bareRow] ∧
    table [wideRow, bareRow] ≠ table [{ wideRow with roaming := false }, bareRow] := by
  have hrecord : ∀ lane roaming, ofRecord? ⟨[("assists", .whole 7), ("deaths", .whole 0), ("hero_id", .whole 1234567),
      ("is_roaming", .bool roaming), ("kills", .whole 12345678901), ("lane_role", .whole lane),
      ("match_id", .whole 18446744073709551615), ("player_slot", .whole 130), ("radiant_win", .bool false),
      ("start_time", .whole (-62167219201))]⟩ =
        some { wideRow with roaming, lane := (Json.whole lane).unsigned?.bind Lane.ofNumber? } := by
    intro lane roaming
    cases roaming <;> rfl
  have hbare : ofRecord? ⟨[("match_id", .whole 1)]⟩ = some bareRow := rfl
  have hrows : ∀ lane roaming, ∀ row ∈ [{ wideRow with roaming, lane := (Json.whole lane).unsigned?.bind Lane.ofNumber? },
      bareRow], ∃ r, ofRecord? r = some row := by
    intro lane roaming
    simp only [List.forall_mem_cons, List.not_mem_nil, false_imp_iff, implies_true, and_true]
    exact ⟨⟨_, hrecord lane roaming⟩, _, hbare⟩
  obtain ⟨⟨lines, hlines, hread⟩, hsame⟩ := table_tells (List.cons_ne_nil wideRow [bareRow]) (hrows 2 true)
  refine ⟨List.cons_ne_nil _ _, hrows 2 true, ?_, (hsame _ (hrows 0 true)).mpr (by decide), fun h => ?_⟩
  · obtain _ | ⟨hfirst, _ | ⟨hsecond, _ | _⟩⟩ := hread
    exact ⟨_, _, hlines, hfirst.2, hsecond.2⟩
  · exact absurd ((hsame _ (hrows 2 false)).mp h) (by decide)

end Tables

end PhraseFilter.MatchRow
