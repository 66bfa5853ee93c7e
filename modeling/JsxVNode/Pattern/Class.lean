import JsxVNode.Pattern.Escape

/-!
# Classes in brackets

Reads a class: characters, ranges, escapes, named classes and classes in brackets,
put together by union or by the operations `&&`, `--` and `~~`, which bind less
tightly than union and to the left. A caret at the start negates the class; hyphens
at the start and a closing bracket at the start stand for themselves.

Classes can be nested without bound, so the open classes are kept in a list, and
each step reads at least one character.
-/

namespace JsxVNode.Pattern

open Text (CharSet)

/-- Characters that were read, and how deep their notation is nested. -/
structure ClassPart where
  set : CharSet
  depth : Nat

/-- An operation on two sets. -/
inductive SetOp where
  | inter
  | diff
  | symmDiff
  deriving DecidableEq, Repr

/-- What an operation makes of two sets. -/
def SetOp.apply : SetOp → CharSet → CharSet → CharSet
  | .inter => .inter
  | .diff => .diff
  | .symmDiff => .symmDiff

/-- A class whose end has not been read. -/
structure OpenClass where
  negated : Bool
  /-- The left side of an operation. -/
  pending : Option (ClassPart × SetOp) := none
  /-- The members read since, and their number. -/
  members : ClassPart := ⟨.none, 0⟩
  count : Nat := 0

namespace OpenClass

/-- Adds members to a class. -/
def push (c : OpenClass) (part : ClassPart) : OpenClass :=
  { c with
    members := ⟨.union part.set c.members.set, Nat.max part.depth c.members.depth⟩
    count := c.count + 1 }

/-- The members of a class up to here. -/
def value (f : Flags) (c : OpenClass) : ClassPart :=
  let right : ClassPart :=
    if c.count ≤ 1 then c.members else { c.members with depth := c.members.depth + 1 }
  match c.pending with
  | none => right
  | some (left, op) =>
    ⟨op.apply (f.fold left.set) (f.fold right.set), Nat.max left.depth right.depth + 1⟩

/-- Makes all that was read the left side of an operation. -/
def operate (f : Flags) (c : OpenClass) (op : SetOp) : OpenClass :=
  { negated := c.negated, pending := some (c.value f, op) }

/-- The class at its closing bracket. -/
def close? (f : Flags) (c : OpenClass) : Option ClassPart := do
  let part := c.value f
  let set ← f.negate? c.negated (f.fold part.set)
  some ⟨set, part.depth + 1⟩

end OpenClass

/-- Takes the hyphens at the start of a class; at most `fuel` of them. -/
private def takeHyphens (f : Flags) : Nat → OpenClass → List Char → OpenClass × List Char
  | fuel + 1, c, '-' :: rest => takeHyphens f fuel (c.push ⟨.single '-', 0⟩) (f.skip rest)
  | _, c, cs => (c, cs)

/-- Reads the start of a class after its opening bracket; `fuel` bounds the hyphens. -/
private def openClass (f : Flags) (fuel : Nat) (cs : List Char) : OpenClass × List Char :=
  let (negated, cs) := match f.skip cs with
    | '^' :: rest => (true, f.skip rest)
    | cs => (false, cs)
  match takeHyphens f fuel { negated } cs with
  | (c, ']' :: rest) =>
    if c.count = 0 then (c.push ⟨.single ']', 0⟩, f.skip rest) else (c, ']' :: rest)
  | opened => opened

/-- Reads a named class after its opening bracket, as in `[:alpha:]` and `[:^alpha:]`. -/
private def readNamed? (f : Flags) : List Char → Option (Option CharSet × List Char)
  | ':' :: rest =>
    let (negated, rest) := match rest with
      | '^' :: rest => (true, rest)
      | _ => (false, rest)
    let name := rest.takeWhile (· ≠ ':')
    match rest.drop name.length with
    | ':' :: ']' :: rest =>
      (asciiClass? (String.ofList name)).map fun set => (f.negate? negated (f.fold set), rest)
    | _ => none
  | _ => none

/-- Reads one member of a class. -/
private def readMember? (f : Flags) : List Char → Option (Atom × List Char)
  | [] => none
  | '\\' :: rest => readEscape? f rest
  | c :: rest => some (.char c, rest)

/-- The set of the characters of a member; a condition on a place has none. Without the
characters beyond the first 128, a member is not one of these. -/
private def memberSet? (f : Flags) : Atom → Option CharSet
  | .char c => if f.unicode || c.toNat < 128 then some (.single c) else none
  | .set s => some s
  | .anchor _ => none

/-- The next character that is no blank, with comments read as text. -/
private def peek? (f : Flags) (cs : List Char) : Option Char :=
  if f.spaced then
    match cs.dropWhile Flags.isSpace with
    | '#' :: rest => (rest.dropWhile Flags.isSpace).head?
    | rest => rest.head?
  else cs.head?

/-- Reads a member of a class or a range between two members. A hyphen before the closing
bracket or before another hyphen starts no range. -/
private def readRange? (f : Flags) (cs : List Char) : Option (CharSet × List Char) := do
  let (first, rest) ← readMember? f cs
  match f.skip rest with
  | '-' :: more =>
    if peek? f more = some ']' ∨ peek? f more = some '-' then
      some (← memberSet? f first, '-' :: more)
    else
      let (last, rest) ← readMember? f (f.skip more)
      match first, last with
      | .char a, .char b =>
        if a ≤ b ∧ (f.unicode ∨ b.toNat < 128) then
          some (.ranges [⟨a.toNat, b.toNat⟩], rest)
        else none
      | _, _ => none
  | rest => some (← memberSet? f first, rest)

/-- Reads the members of the innermost class, then of those around it; at most `fuel` steps. -/
private def readMembers? (f : Flags) :
    Nat → OpenClass → List OpenClass → List Char → Option (ClassPart × List Char)
  | 0, _, _, _ => none
  | fuel + 1, c, outer, cs =>
    match f.skip cs with
    | '[' :: rest =>
      match readNamed? f rest with
      | some (none, _) => none
      | some (some set, rest) => readMembers? f fuel (c.push ⟨set, 0⟩) outer rest
      | none =>
        let (inner, rest) := openClass f fuel rest
        readMembers? f fuel inner (c :: outer) rest
    | ']' :: rest => do
      let part ← c.close? f
      match outer with
      | [] => some (part, rest)
      | around :: outer => readMembers? f fuel (around.push part) outer rest
    | '&' :: '&' :: rest => readMembers? f fuel (c.operate f .inter) outer rest
    | '-' :: '-' :: rest => readMembers? f fuel (c.operate f .diff) outer rest
    | '~' :: '~' :: rest => readMembers? f fuel (c.operate f .symmDiff) outer rest
    | cs => do
      let (set, rest) ← readRange? f cs
      readMembers? f fuel (c.push ⟨set, 0⟩) outer rest

/-- Reads a class after its opening bracket. -/
def readClass? (f : Flags) (cs : List Char) : Option (ClassPart × List Char) :=
  let fuel := cs.length + 1
  let (c, rest) := openClass f fuel cs
  readMembers? f fuel c [] rest

end JsxVNode.Pattern
