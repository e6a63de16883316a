import PhraseFilter.Log.Event
import PhraseFilter.Text.Split
import PhraseFilter.Text.Word

/-!
# What is let through to the log

Directives are written with commas between them: `target=level`, a target alone for every level, or a
level alone for every target. An event is judged by the directive with the longest target that its own
target begins with. Levels are written in any case or as the digits 0 to 5, where `off` and 0 let nothing
through.

* `Directives.read?`: reads directives, all of which have to be readable.
* `Directives.readSome`: reads the directives that are readable.
* `Directives.allow`: is the event let through?
-/

namespace PhraseFilter

open Text

/-- The least important level that is let through, if any is. -/
abbrev Threshold := Option Level

namespace Threshold

def words : List (String × Threshold) :=
  [("off", none), ("error", some .error), ("warn", some .warn), ("info", some .info),
    ("debug", some .debug), ("trace", some .trace), ("0", none), ("1", some .error), ("2", some .warn),
    ("3", some .info), ("4", some .debug), ("5", some .trace)]

def read? (s : List Char) : Option Threshold :=
  (words.find? fun (word, _) => word.toList == s.map Char.toLower).map (·.2)

def allows (t : Threshold) (l : Level) : Bool := t.any fun least => l.number ≤ least.number

end Threshold

/-- What is let through of the events of some targets. -/
structure Directive where
  /-- What the targets begin with, if it is not for all of them. -/
  target : Option String
  threshold : Threshold
  deriving Repr, DecidableEq

namespace Directive

def isTargetChar (c : Char) : Bool := isWord c || c == ':' || c == '-'

def covers (d : Directive) (target : String) : Bool := d.target.all fun start => target.startsWith start

def rank (d : Directive) : Nat := (d.target.map String.length).getD 0

/-- The directive for a target, which may be a level by mistake. -/
def ofTarget? (target : List Char) (threshold : Threshold) : Option Directive :=
  if target.isEmpty || !target.all isTargetChar then none
  else
    some ⟨if (Threshold.read? target).isSome then none else some (String.ofList target), threshold⟩

def read? (s : List Char) : Option Directive :=
  match Threshold.read? s, splitFirst? '=' s with
  | some threshold, _ => some ⟨none, threshold⟩
  | none, some (target, []) => ofTarget? target (some .trace)
  | none, some (target, threshold) => (Threshold.read? threshold).bind (ofTarget? target)
  | none, none => ofTarget? s (some .trace)

/-- The more specific of two directives; of two that are alike, the later one. -/
def choose (target : String) (best : Option Directive) (d : Directive) : Option Directive :=
  if d.covers target && best.all (·.rank ≤ d.rank) then some d else best

end Directive

/-- Directives, later ones going before earlier ones for the same target. -/
abbrev Directives := List Directive

namespace Directives

/-- What is let through when nothing is said: errors. -/
def fallback : Directives := [⟨none, some .error⟩]

/-- The directives, or errors alone if there are none. -/
def orFallback (ds : Directives) : Directives := if ds.isEmpty then fallback else ds

def parts (s : String) : List (List Char) := (splitAll ',' s.toList).filter (!·.isEmpty)

/-- Reads directives, all of which have to be readable. -/
def read? (s : String) : Option Directives := ((parts s).mapM Directive.read?).map orFallback

/-- Reads the directives that are readable, and gives the others as they are written. -/
def readSome (s : String) : Directives × List String :=
  (orFallback ((parts s).filterMap Directive.read?),
    ((parts s).filter fun part => (Directive.read? part).isNone).map String.ofList)

def allow (ds : Directives) (e : Event) : Bool :=
  (ds.foldl (Directive.choose e.target) none).any fun d => d.threshold.allows e.level

end Directives

end PhraseFilter
