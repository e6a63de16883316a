import PhraseFilter.Report.Column
import PhraseFilter.Filter.Basic

/-!
# How a phrase was understood

`Reading.table` shows every clause with its parameter and its value, and the query below them.
`Reading.toJson` is the same as JSON.
-/

namespace PhraseFilter.Reading

open Report

def clauseLine (f : Finding) : String :=
  line [(12, f.clause.label), (12, orDash f.clause.parameter)] (orDash (f.value.map Value.toText))

def table (r : Reading) : String :=
  line [(12, "Clause"), (12, "Parameter")] "Value" ++ rule 40 ++
    String.join (r.findings.map clauseLine) ++ "\n" ++
    (if r.query.isEmpty then "Query: (none)\n" else "Query: " ++ r.query ++ "\n")

def clausesJson (r : Reading) : Json :=
  .array (r.findings.map fun f => Json.ofFields [
    ("label", .string f.clause.label),
    ("server_name", (f.clause.parameter.map Json.string).getD .null),
    ("value", (f.value.map Value.toJson).getD .null)])

def toJson (r : Reading) : Json :=
  Json.ofFields [("query", .string r.query), ("clauses", r.clausesJson)]

end PhraseFilter.Reading
