import JsxVNode.Pattern.Class
import JsxVNode.Pattern.Room
import JsxVNode.Text.Addition

/-!
# The notation of patterns

Reads a pattern from its usual notation: literals, `.`, `^` and `$`, classes in
brackets, groups, `|`, the repetitions `*`, `+`, `?` and counted ones in braces,
escapes and flags. A repetition may follow a repetition, and a `?` after one changes
nothing about what is matched. Refused are brackets that do not pair up, a
repetition of nothing, a count that is unfinished or runs backwards, look-around,
notation that is nested too deep, and patterns that take too much room.

The text is read in one pass. The open groups are kept in a list, and each step
reads at least one character.
-/

namespace JsxVNode.Pattern

open Text (CharSet)

/-- How deep notation may be nested. -/
def nestLimit : Nat := 250

/-- Repetition counts stay below this number. -/
private def countBound : Nat := 0x100000000

/-- A part of a pattern, and how deep its notation is nested. -/
structure Piece where
  pattern : Pattern
  depth : Nat
  /-- Whether a repetition may follow. -/
  repeatable : Bool := true

namespace Piece

/-- A part without parts of its own. -/
def leaf (pattern : Pattern) : Piece := { pattern, depth := 0 }

/-- Setting flags matches nothing, and cannot be repeated. -/
def flags : Piece := { pattern := .empty, depth := 0, repeatable := false }

/-- The depth of the deepest of some parts. -/
def maxDepth (pieces : List Piece) : Nat := (pieces.map (·.depth)).foldl Nat.max 0

/-- Parts in a row. The last part comes first. -/
def sequence : List Piece → Piece
  | [] => leaf .empty
  | [piece] => piece
  | pieces =>
    { pattern := Pattern.sequence (pieces.map (·.pattern)).reverse
      depth := maxDepth pieces + 1 }

/-- A choice between parts. The last part comes first. -/
def choice : List Piece → Piece
  | [piece] => piece
  | pieces =>
    { pattern := Pattern.choice (pieces.map (·.pattern)).reverse
      depth := maxDepth pieces + 1 }

end Piece

/-- A group whose end has not been read, or the whole pattern. -/
structure OpenGroup where
  /-- The flags that hold after the group. -/
  flags : Flags
  /-- Whether the place of the group is to be remembered. -/
  captures : Bool
  /-- The branches that are complete, the last one first. -/
  branches : List Piece := []
  /-- The parts of the branch that is being read, the last one first. -/
  parts : List Piece := []

namespace OpenGroup

/-- Adds a part. -/
def push (g : OpenGroup) (piece : Piece) : OpenGroup := { g with parts := piece :: g.parts }

/-- Starts the next branch. -/
def nextBranch (g : OpenGroup) : OpenGroup :=
  { g with branches := .sequence g.parts :: g.branches, parts := [] }

/-- What was read in a group. -/
def body (g : OpenGroup) : Piece := .choice (.sequence g.parts :: g.branches)

/-- The group at its end. -/
def close (g : OpenGroup) : Piece :=
  let body := g.body
  { pattern := if g.captures then .group body.pattern else body.pattern
    depth := body.depth + 1 }

/-- Repeats the last part. -/
def repeat? (g : OpenGroup) (min : Nat) (max : Option Nat) : Option OpenGroup :=
  match g.parts with
  | [] => none
  | piece :: parts =>
    if piece.repeatable ∧ piece.depth < nestLimit then
      some { g with
        parts := { pattern := piece.pattern.times min max, depth := piece.depth + 1 } :: parts }
    else none

end OpenGroup

/-- The pattern that matches an atom. -/
def ofAtom (f : Flags) : Atom → Pattern
  | .char c => .char (f.fold (.single c))
  | .set s => .char s
  | .anchor a => .anchor a

/-- The characters that a dot stands for: all but the ends of lines. -/
private def dot? (f : Flags) : Option CharSet :=
  if !f.unicode then none
  else if f.dotAll then some .all
  else if f.crlf then some (.complement (.union (.single '\r') (.single '\n')))
  else some (.complement (.single '\n'))

/-- The number that decimal digits denote, if it is below the bound. -/
private def count? (digits : List Char) : Option Nat :=
  let n := digits.foldl (fun n c => 10 * n + (c.toNat - '0'.toNat)) 0
  if digits ≠ [] ∧ n < countBound then some n else none

/-- Reads a repetition count between blanks. -/
private def readCount? (f : Flags) (cs : List Char) : Option Nat × List Char :=
  let (digits, rest) := f.takeRun Char.isDigit (cs.dropWhile Flags.isSpace)
  (count? digits, rest.dropWhile Flags.isSpace)

/-- A question mark after a repetition says which match is preferred, not what matches. -/
private def skipLazy : List Char → List Char
  | '?' :: rest => rest
  | cs => cs

/-- Reads the counts of a repetition after the opening brace. -/
private def readCounts? (f : Flags) (cs : List Char) :
    Option ((Nat × Option Nat) × List Char) := do
  let (least, rest) := readCount? f (f.skip cs)
  let min ← least
  let (max, rest) ← match rest with
    | ',' :: rest =>
      match f.skip rest with
      | '}' :: rest => some (none, '}' :: rest)
      | rest =>
        let (most, rest) := readCount? f rest
        most.map fun max => (some max, rest)
    | _ => some (some min, rest)
  match rest with
  | '}' :: rest =>
    if max.all (min ≤ ·) then some ((min, max), skipLazy (f.skip rest)) else none
  | _ => none

/-- What the text after an opening parenthesis starts. -/
inductive GroupStart where
  /-- Flags for the rest of the group around. -/
  | flags (f : Flags)
  /-- A group, with its flags. -/
  | group (f : Flags) (captures : Bool)

/-- Reads flags up to a colon or a closing parenthesis. `seen` holds what was read, the last
first; flags after a hyphen are cleared. No letter and no hyphen comes twice. -/
private def readFlags? (f : Flags) (seen : List Char) : List Char → Option (GroupStart × List Char)
  | [] => none
  | c :: rest =>
    if c = ':' ∨ c = ')' then
      if seen.head? = some '-' then none
      else if c = ':' then some (.group f false, rest)
      else if seen = [] then none
      else some (.flags f, rest)
    else if seen.contains c then none
    else if c = '-' then readFlags? f (c :: seen) rest
    else
      match f.set? c !(seen.contains '-') with
      | some f => readFlags? f (c :: seen) rest
      | none => none

/-- The letters in the names of groups. -/
private def groupNameLetter : CharSet :=
  .union Text.Property.alphabetic Text.Addition.alphabetic

/-- The numbers in the names of groups. -/
private def groupNameNumber : CharSet :=
  .union (Text.Category.anyOf Text.Category.numbers) Text.Addition.numbers

/-- Whether a character may stand in the name of a group. -/
private def inGroupName (first : Bool) (c : Char) : Bool :=
  c == '_' || groupNameLetter.contains c ||
    !first && (c == '.' || c == '[' || c == ']' || groupNameNumber.contains c)

/-- Reads the name of a group, which no other group has. -/
private def readGroupName? (names : List (List Char)) (cs : List Char) :
    Option (List Char × List Char) :=
  let name := cs.takeWhile (· ≠ '>')
  match name, cs.drop name.length with
  | c :: more, _ :: rest =>
    if inGroupName true c && more.all (inGroupName false) && !names.contains name then
      some (name, rest)
    else none
  | _, _ => none

/-- Reads the start of a group after its opening parenthesis. -/
private def readGroup? (f : Flags) (names : List (List Char)) (cs : List Char) :
    Option (GroupStart × List (List Char) × List Char) :=
  let named (cs : List Char) := (readGroupName? names cs).map fun (name, rest) =>
    (.group f true, name :: names, rest)
  match f.skip cs with
  | '?' :: '<' :: '=' :: _ => none
  | '?' :: '<' :: '!' :: _ => none
  | '?' :: 'P' :: '<' :: rest => named rest
  | '?' :: '<' :: rest => named rest
  | '?' :: rest => (readFlags? f [] rest).map fun (start, rest) => (start, names, rest)
  | rest => some (.group f true, names, rest)

/-- Reads the parts of the innermost group, then of those around it; at most `fuel` steps. -/
private def readParts? : Nat → Flags → List (List Char) → OpenGroup → List OpenGroup →
    List Char → Option Piece
  | 0, _, _, _, _, _ => none
  | fuel + 1, f, names, g, outer, cs =>
    match f.skip cs with
    | [] => if outer.isEmpty then some g.body else none
    | '(' :: rest => do
      match ← readGroup? f names rest with
      | (.flags inner, names, rest) => readParts? fuel inner names (g.push .flags) outer rest
      | (.group inner captures, names, rest) =>
        readParts? fuel inner names { flags := f, captures } (g :: outer) rest
    | ')' :: rest =>
      match outer with
      | [] => none
      | around :: outer => readParts? fuel g.flags names (around.push g.close) outer rest
    | '|' :: rest => readParts? fuel f names g.nextBranch outer rest
    | '[' :: rest => do
      let (part, rest) ← readClass? f rest
      readParts? fuel f names (g.push { pattern := .char part.set, depth := part.depth }) outer rest
    | '?' :: rest => do readParts? fuel f names (← g.repeat? 0 (some 1)) outer (skipLazy rest)
    | '*' :: rest => do readParts? fuel f names (← g.repeat? 0 none) outer (skipLazy rest)
    | '+' :: rest => do readParts? fuel f names (← g.repeat? 1 none) outer (skipLazy rest)
    | '{' :: rest => do
      let ((min, max), rest) ← readCounts? f rest
      readParts? fuel f names (← g.repeat? min max) outer rest
    | '\\' :: rest => do
      let (atom, rest) ← readEscape? f rest
      readParts? fuel f names (g.push (.leaf (ofAtom f atom))) outer rest
    | '.' :: rest => do readParts? fuel f names (g.push (.leaf (.char (← dot? f)))) outer rest
    | '^' :: rest =>
      let anchor := if f.multiLine then Anchor.lineStart f.crlf else .start
      readParts? fuel f names (g.push (.leaf (.anchor anchor))) outer rest
    | '$' :: rest =>
      let anchor := if f.multiLine then Anchor.lineFinish f.crlf else .finish
      readParts? fuel f names (g.push (.leaf (.anchor anchor))) outer rest
    | c :: rest => readParts? fuel f names (g.push (.leaf (ofAtom f (.char c)))) outer rest

/-- The pattern a text denotes, if it denotes one. -/
def ofString? (text : String) : Option Pattern := do
  let cs := text.toList
  let piece ← readParts? (cs.length + 1) {} [] { flags := {}, captures := false } [] cs
  if nestLimit < piece.depth then none
  else if piece.pattern.fits then some piece.pattern
  else none

end JsxVNode.Pattern
