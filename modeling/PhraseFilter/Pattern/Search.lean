import PhraseFilter.Pattern.Basic

/-!
# Searching a text for a pattern

`ends text p i` lists the positions where a stretch of `p` from position `i` can end, the preferred one
first and each one once. `find?` takes the first position from which there is one and then the preferred
end.

A repetition is computed from the end of the text towards its start: `onward` holds, for each position
after `i`, where the repetition can go from there, so that a position is worked out once however many
ways lead to it.
-/

namespace PhraseFilter

namespace Positions

/-- The positions of `xs`, then those of `ys` that are not among them. -/
def union (xs ys : List Nat) : List Nat := xs ++ ys.filter fun y => !xs.contains y

/-- The positions that `f` gives for the members of a list, the earlier members first. -/
def gather (xs : List Nat) (f : Nat → List Nat) : List Nat :=
  match xs with
  | [] => []
  | [x] => f x
  | x :: y :: rest => union (f x) (gather (y :: rest) f)

/-- The positions that any number of steps leads to from `i`, given those for the later positions. A
step that stays where it is leads nowhere new. -/
def walkFrom (greedy : Bool) (step : Nat → List Nat) (onward : List (Thunk (List Nat))) (i : Nat) :
    List Nat :=
  let further := gather (step i) fun j =>
    if j = i then [] else (onward[j - i - 1]?.map Thunk.get).getD []
  if greedy then union further [i] else union [i] further

/-- The values of `walkFrom` for the last `k + 1` positions of a text of `n` characters. -/
def walks (greedy : Bool) (step : Nat → List Nat) (n : Nat) : Nat → List (Thunk (List Nat))
  | 0 => [Thunk.mk fun _ => walkFrom greedy step [] n]
  | k + 1 =>
    let later := walks greedy step n k
    (Thunk.mk fun _ => walkFrom greedy step later (n - (k + 1))) :: later

/-- The positions that one or more steps lead to from `i`. If the first step stays where it is, the walk
ends with it. -/
def walk (greedy : Bool) (step : Nat → List Nat) (n i : Nat) : List Nat :=
  let onward := if i < n then walks greedy step n (n - i - 1) else []
  gather (step i) fun j => if j = i then [i] else (onward[j - i - 1]?.map Thunk.get).getD []

/-- The positions that up to `k` steps lead to. -/
def upTo (greedy : Bool) (step : Nat → List Nat) : (k : Nat) → Nat → List Nat
  | 0, i => [i]
  | k + 1, i =>
    let further := gather (step i) (upTo greedy step k)
    if greedy then union further [i] else union [i] further

/-- The positions that `k` steps and then `rest` lead to. -/
def after (step rest : Nat → List Nat) : (k : Nat) → Nat → List Nat
  | 0, i => rest i
  | k + 1, i => gather (step i) (after step rest k)

end Positions

namespace Pattern

open Positions

/-- Where the stretches of the pattern from position `i` end, the preferred one first. -/
def ends (text : Array Char) : Pattern → Nat → List Nat
  | .empty, i => [i]
  | .one s, i => if text[i]?.any s.has then [i + 1] else []
  | .place p, i => if p.holds text i then [i] else []
  | .seq p q, i => gather (ends text p i) (ends text q)
  | .alt p q, i => union (ends text p i) (ends text q i)
  | .opt greedy p, i =>
    if greedy then union (ends text p i) [i] else union [i] (ends text p i)
  | .many greedy p, i => walk greedy (ends text p) text.size i
  | .counted greedy least extra p, i => after (ends text p) (upTo greedy (ends text p) extra) least i

/-- The first stretch of the pattern in the text: start and end. -/
def find? (p : Pattern) (text : Array Char) : Option (Nat × Nat) :=
  (List.range (text.size + 1)).findSome? fun i => (p.ends text i).head?.map fun j => (i, j)

def occursIn (p : Pattern) (text : Array Char) : Bool := (p.find? text).isSome

end Pattern

end PhraseFilter
