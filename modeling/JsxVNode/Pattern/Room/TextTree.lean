import JsxVNode.Pattern.Room.Basic

/-!
# Trees of texts

A choice between fixed texts becomes a tree that shares their starts. Where a text
ends that is the start of others, the ways on that come before it in the choice and
those that come after it are kept apart.
-/

namespace JsxVNode.Room

/-- The stretches between the places where a text ends, the last one first. An end counts once as
long as there is no way on. -/
def stretches (texts : List (List UInt8)) : List (List (List UInt8)) :=
  texts.foldl (fun found text =>
    match found, text with
    | [], [] => [[], []]
    | [], text => [[text]]
    | current :: before, [] =>
      if before ≠ [] ∧ found.all (· = []) then found else [] :: current :: before
    | current :: before, text => (current ++ [text]) :: before) []

/-- The rests of the texts that start with the same byte, for each such byte. -/
def byFirst (texts : List (List UInt8)) : List (UInt8 × List (List UInt8)) :=
  texts.foldl (fun groups text =>
    match text with
    | [] => groups
    | byte :: rest =>
      if groups.any (·.1 = byte) then
        groups.map fun (other, rests) => (other, if other = byte then rests ++ [rest] else rests)
      else groups ++ [(byte, [rest])]) []

/-- The room of a state for the ways on in a stretch. -/
def wayRoom : Nat → Room
  | 0 => .zero
  | 1 => .plain 1
  | ways => .switch ways

/-- The room below a place in the tree, given the rests of the texts. They have fewer than `depth`
bytes. -/
def textsRoom : (depth : Nat) → List (List UInt8) → Room
  | 0, _ => .zero
  | depth + 1, texts =>
    if texts.all (· = []) then .zero
    else
      let groups := (stretches texts).map byFirst
      let used := groups.filter (· ≠ [])
      let ways := used.map fun group => wayRoom group.length
      let below := used.flatten.map fun (_, rests) => textsRoom depth rests
      (ways ++ below).foldl (· + ·) (.fork (used.length + (groups.length - 1)))

/-- The room of a choice between texts, with the state at its end. -/
def textTree (texts : List (List UInt8)) : Room :=
  .plain 1 + textsRoom ((texts.map List.length).foldl Nat.max 0 + 1) texts

end JsxVNode.Room
