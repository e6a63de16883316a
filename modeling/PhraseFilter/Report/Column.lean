/-!
# Columns of a text table

A cell is filled up with blanks to the width of its column, and a longer cell is left as it is. What is
missing is shown as a dash.
-/

namespace PhraseFilter.Report

def padTo (width : Nat) (s : String) : String :=
  s ++ String.ofList (List.replicate (width - s.length) ' ')

def orDash (s : Option String) : String := s.getD "-"

/-- A line: the cells with the widths of their columns, and the last cell as it is. -/
def line (cells : List (Nat × String)) (last : String) : String :=
  String.join (cells.map fun (width, s) => padTo width s ++ " ") ++ last ++ "\n"

def rule (width : Nat) : String := String.ofList (List.replicate width '-') ++ "\n"

end PhraseFilter.Report
