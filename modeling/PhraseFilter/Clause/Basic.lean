import PhraseFilter.Span
import PhraseFilter.Record
import PhraseFilter.Scan

/-!
# Clauses

A clause is one thing that a text can say: which phrases say it, which value each phrase has, which
parameter of a request the value goes to, and a check on records for what the request cannot say.

* `Clause.choice`, `Clause.timeSpan`, `Clause.constant`: the three kinds of clause.
* `Clause.resolve`: the value of a phrase.
* `Findings`: the values of all clauses of one text, which a check may look at.
-/

namespace PhraseFilter

/-- The labels of the clauses of one text, each with the value that was found for it. -/
structure Findings where
  /-- The labels and values in the order of the clauses. -/
  entries : List (String × Option Value)
  deriving Repr, DecidableEq

namespace Findings

/-- The value of the first clause with the label. -/
def value? (f : Findings) (label : String) : Option Value :=
  (f.entries.find? (·.1 == label)).bind (·.2)

def isResolved (f : Findings) (label : String) : Bool := (f.value? label).isSome

end Findings

/-- A check on a record, in view of all that was found in the text. -/
abbrev Check := Findings → Record → Bool

structure Alternative where
  /-- The pattern as it is written. -/
  source : String
  /-- The pattern that covers the whole of a phrase. -/
  whole : Pattern
  /-- The value of such a phrase. -/
  value : Value
  deriving Repr, DecidableEq

/-- How phrases become values. -/
inductive Grammar
  /-- The first alternative that covers the whole phrase gives the value. The pattern that finds phrases
  in a text is missing when there are no alternatives. -/
  | choice (alternatives : List Alternative) (scan : Option Pattern)
  /-- A time span has its days for value. -/
  | timeSpan
  /-- The value does not come from the text. -/
  | constant (v : Value)
  deriving Repr, DecidableEq

/-- One thing that a text can say. -/
structure Clause where
  /-- What the clause is called. -/
  label : String
  /-- The request parameter that the value goes to. -/
  parameter : Option String
  /-- How phrases become values. -/
  grammar : Grammar
  /-- What has to hold of a record when the clause has a value. -/
  check : Option Check := none

namespace Clause

section Choice

variable [Pattern.Engine]

/-- Reads the alternatives of a choice, up to the first whose pattern cannot be read. -/
def readAlternatives (label : String) :
    List (String × Value) → Except PhraseError (List Alternative)
  | [] => .ok []
  | (source, value) :: rest =>
    match Pattern.readWhole? source.toList with
    | none => .error (.badPattern label)
    | some whole =>
      match readAlternatives label rest with
      | .ok rest => .ok (⟨source, whole, value⟩ :: rest)
      | .error e => .error e

/-- The written pattern that finds any of the alternatives: each one in a group of its own. -/
def joinSources (sources : List String) : List Char :=
  ['|'].intercalate (sources.map fun s => "(?:".toList ++ s.toList ++ [')'])

/-- A choice between alternatives, each given by its written pattern and its value. -/
def choice (label : String) (parameter : Option String) (alternatives : List (String × Value)) :
    Except PhraseError Clause :=
  match readAlternatives label alternatives with
  | .error e => .error e
  | .ok [] => .ok { label, parameter, grammar := .choice [] none }
  | .ok read =>
    match Pattern.readWordBounded? (joinSources (alternatives.map (·.1))) with
    | some scan => .ok { label, parameter, grammar := .choice read (some scan) }
    | none => .error (.badPattern label)

end Choice

def timeSpan (label : String) (parameter : Option String) : Clause :=
  { label, parameter, grammar := .timeSpan }

/-- A clause whose value does not come from the text. Its label is the name of the parameter. -/
def constant (name : String) (value : Value) : Clause :=
  { label := name, parameter := some name, grammar := .constant value }

def withCheck (c : Clause) (check : Check) : Clause := { c with check := some check }

/-- The pattern that finds phrases of the clause in a text. -/
def scan? (c : Clause) : Option Pattern :=
  match c.grammar with
  | .choice _ scan => scan
  | .timeSpan => some TimeSpan.pattern
  | .constant _ => none

def constant? (c : Clause) : Option Value :=
  match c.grammar with
  | .constant v => some v
  | _ => none

def resolve (c : Clause) (phrase : List Char) : Except PhraseError Value :=
  match c.grammar with
  | .choice alternatives _ =>
    match alternatives.find? (·.whole.occursIn phrase.toArray) with
    | some a => .ok a.value
    | none => .error (.noValue c.label (String.ofList phrase))
  | .timeSpan => (TimeSpan.read c.label phrase).map fun s => .int s.days
  | .constant v => .ok v

end Clause

end PhraseFilter
