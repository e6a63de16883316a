import PhraseFilter.Clause.Basic

/-!
# Filters

A filter is a list of clauses. Each clause in turn takes at most one phrase out of the text, and the text
is accepted when nothing is left.

* `Filter.attempt`: what every clause found, and what is left or why the text was refused.
* `Filter.parse`: the reading of a text.
* `Reading`: what a text says: `Reading.query` for the request, `Reading.accepts` for the records.
-/

namespace PhraseFilter

/-- What one clause found in a text. -/
structure Finding where
  /-- The clause. -/
  clause : Clause
  /-- The phrase that it took. -/
  phrase : Option (List Char) := none
  /-- The value of the phrase, or the value of a constant. -/
  value : Option Value

namespace Finding

def isResolved (f : Finding) : Bool := f.value.isSome

/-- Parameter and value of the request, joined by an equals sign. -/
def argument? (f : Finding) : Option String :=
  match f.clause.parameter, f.value with
  | some name, some value => some (name ++ "=" ++ value.toText)
  | _, _ => none

/-- Does the record pass the check of the clause? It does when there is no value or no check. -/
def accepts (f : Finding) (all : Findings) (r : Record) : Bool :=
  match f.value, f.clause.check with
  | some _, some check => check all r
  | _, _ => true

end Finding

/-- What a text says. -/
structure Reading where
  /-- What the clauses found, in the order of the clauses. -/
  findings : List Finding := []

namespace Reading

def toFindings (r : Reading) : Findings := ⟨r.findings.map fun f => (f.clause.label, f.value)⟩

def value? (r : Reading) (label : String) : Option Value := r.toFindings.value? label

def isUnfiltered (r : Reading) : Bool := r.findings.all fun f => !f.isResolved

/-- The reading with one more value for the request. -/
def addConstant (r : Reading) (name : String) (value : Value) : Reading :=
  ⟨r.findings ++ [{ clause := .constant name value, value := some value }]⟩

/-- The parameters of the request: `name=value`, joined by `&`. -/
def query (r : Reading) : String := "&".intercalate (r.findings.filterMap Finding.argument?)

def accepts (r : Reading) (record : Record) : Bool :=
  r.findings.all fun f => f.accepts r.toFindings record

def keep (r : Reading) (records : List Record) : List Record := records.filter r.accepts

end Reading

/-- A list of clauses; the earlier ones take their phrases first. -/
structure Filter where
  /-- The clauses. -/
  clauses : List Clause

namespace Clause

def takeFrom (c : Clause) (s : Scan) : Except PhraseError (Finding × Scan) :=
  match c.constant?, c.scan? with
  | some v, _ => .ok ({ clause := c, value := some v }, s)
  | none, none => .ok ({ clause := c, value := none }, s)
  | none, some p =>
    match s.take p with
    | (none, s) => .ok ({ clause := c, value := none }, s)
    | (some phrase, s) =>
      match c.resolve phrase with
      | .ok v => .ok ({ clause := c, phrase := some phrase, value := some v }, s)
      | .error e => .error e

/-- Lets the clauses take their phrases one after the other, up to the first fault. Gives what they
found before it, and what is left or the fault. -/
def takeAll : List Clause → Scan → List Finding × Except PhraseError Scan
  | [], s => ([], .ok s)
  | c :: rest, s =>
    match c.takeFrom s with
    | .error e => ([], .error e)
    | .ok (f, s) =>
      let (found, left) := takeAll rest s
      (f :: found, left)

end Clause

namespace Filter

def add (f : Filter) (c : Clause) : Filter := ⟨f.clauses ++ [c]⟩

/-- What the clauses find in a text, and what is left or the fault that ended the search. -/
def attempt (f : Filter) (text : String) : List Finding × Except PhraseError Scan :=
  Clause.takeAll f.clauses (Scan.start text)

def parse (f : Filter) (text : String) : Except PhraseError Reading :=
  match f.attempt text with
  | (_, .error e) => .error e
  | (found, .ok s) =>
    if s.isExhausted then .ok ⟨found⟩ else .error (.leftOver (String.ofList s.remaining))

end Filter

end PhraseFilter
