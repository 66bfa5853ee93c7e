import JsxVNode.Pattern.Anchor

/-!
# Patterns

Regular expressions with conditions on the place between two characters. The
constructors are used through functions that drop what does not matter: an empty
part of a sequence, a choice between single characters, a repetition of nothing.
-/

namespace JsxVNode

open Text (CharSet)

/-- A pattern. -/
inductive Pattern where
  | empty
  | char (set : CharSet)
  | anchor (condition : Anchor)
  /-- A part whose place in the text is to be remembered. -/
  | group (body : Pattern)
  | seq (first second : Pattern)
  | alt (left right : Pattern)
  /-- At least `min` times and, if there is a bound, at most `max` times. -/
  | repeated (body : Pattern) (min : Nat) (max : Option Nat)
  deriving DecidableEq, Repr

namespace Pattern

instance : Inhabited Pattern := ⟨.empty⟩

/-- Two patterns in a row. -/
def join : Pattern → Pattern → Pattern
  | .empty, q => q
  | p, .empty => p
  | p, q => .seq p q

/-- Patterns in a row. -/
def sequence (parts : List Pattern) : Pattern := parts.foldr join .empty

/-- The set of a pattern for a single character. -/
def char? : Pattern → Option CharSet
  | .char set => some set
  | _ => none

/-- Patterns as branches; without one, nothing matches. -/
private def branch : List Pattern → Pattern
  | [] => .char .none
  | [p] => p
  | p :: more => .alt p (branch more)

/-- A choice between patterns; between single characters it is a single character. -/
def choice (branches : List Pattern) : Pattern :=
  match branches.mapM char? with
  | some sets => .char (.unionAll sets)
  | none => branch branches

/-- Whether a pattern matches no text but the empty one. -/
def isBlank : Pattern → Bool
  | .empty => true
  | .char _ => false
  | .anchor _ => true
  | .group p => p.isBlank
  | .seq p q => p.isBlank && q.isBlank
  | .alt p q => p.isBlank && q.isBlank
  | .repeated p _ max => p.isBlank || max == some 0

/-- Whether a pattern can match the empty text, if its conditions hold. -/
def isOptional : Pattern → Bool
  | .empty => true
  | .char _ => false
  | .anchor _ => true
  | .group p => p.isOptional
  | .seq p q => p.isOptional && q.isOptional
  | .alt p q => p.isOptional || q.isOptional
  | .repeated p min _ => min == 0 || p.isOptional

/-- A repetition. Of a pattern that matches the empty text only, the first time is enough. -/
def times (p : Pattern) (min : Nat) (max : Option Nat) : Pattern :=
  let (min, max) := if p.isBlank then (Nat.min min 1, some (Nat.min (max.getD 1) 1)) else (min, max)
  if max = some 0 then .empty
  else if min = 1 ∧ max = some 1 then p
  else .repeated p min max

end Pattern

end JsxVNode
