import JsxVNode.Text.CharRange
import JsxVNode.Text.Lowercase

/-!
# Characters that differ only in case

Two characters are variants of each other if they fold to the same one. A character
folds to its lower-case form; a few small letters have a second shape, and the
second shape folds to the first.
-/

namespace JsxVNode.Text

/-- The second shapes of small letters, each with the first one. -/
def secondShapes : List (Nat × Nat) := [
  (0xB5, 0x3BC), (0x17F, 0x73), (0x345, 0x3B9), (0x3C2, 0x3C3), (0x3D0, 0x3B2), (0x3D1, 0x3B8),
  (0x3D5, 0x3C6), (0x3D6, 0x3C0), (0x3F0, 0x3BA), (0x3F1, 0x3C1), (0x3F5, 0x3B5), (0x1C80, 0x432),
  (0x1C81, 0x434), (0x1C82, 0x43E), (0x1C83, 0x441), (0x1C84, 0x442), (0x1C85, 0x442),
  (0x1C86, 0x44A), (0x1C87, 0x463), (0x1C88, 0xA64B), (0x1E9B, 0x1E61), (0x1FBE, 0x3B9),
  (0x1FD3, 0x390), (0x1FE3, 0x3B0), (0xFB06, 0xFB05)]

/-- Every code point that folds to another one, with that other one. -/
def foldings : List (Nat × Nat) :=
  secondShapes ++ caseRuns.flatMap fun r => r.codes.map fun code => (code, r.target code)

/-- The code point that a code point folds to. -/
def fold (code : Nat) : Nat :=
  match secondShapes.find? (·.1 == code) with
  | some (_, first) => first
  | none =>
    match caseRuns.find? (·.contains code) with
    | some r => r.target code
    | none => code

/-- The code points that differ from a code point at most in case. -/
def caseVariants (code : Nat) : List Nat :=
  let folded := fold code
  folded :: foldings.filterMap fun (source, target) => if target = folded then some source else none

/-- Ranges with the case variants of all their code points. -/
def withVariants (ranges : List CharRange) : List CharRange :=
  let add (ranges : List CharRange) (pairs : List (Nat × Nat)) : List CharRange :=
    ranges ++ pairs.filterMap fun (code, variant) =>
      if ranges.any (·.contains code) then some (.single variant) else none
  add (add ranges foldings) (foldings.map Prod.swap)

end JsxVNode.Text
