import JsxVNode.Pattern.Basic
import JsxVNode.Pattern.Room.ByteTree
import JsxVNode.Pattern.Room.TextTree

/-!
# The room that a pattern takes

A pattern is run by an automaton that reads the bytes of UTF-8, forward to find a
match and backward to find its start. Both are built part by part, with the
repetitions written out, and take room in memory: a bound on it keeps short texts
such as `(a{1000}){1000}` from denoting patterns that nobody can run.
-/

namespace JsxVNode

open Text (CharRange CharSet)

/-- The two ways to read a text. -/
inductive Direction where
  | forward
  | backward
  deriving DecidableEq, Repr

/-- What is built for a pattern. -/
inductive Plan where
  /-- A part that takes the same room wherever it stands. -/
  | fixed (forward backward : Room)
  /-- A position that admits characters of several bytes. -/
  | tree (sequences : List (List CharRange))
  /-- A part whose place is remembered; only reading forward finds it. -/
  | group (body : Plan)
  | seq (first second : Plan)
  | alt (left right : Plan)
  /-- Once or not at all. -/
  | maybe (body : Plan)
  /-- Any number of times; `optional` tells whether the part can match the empty text. -/
  | star (body : Plan) (optional : Bool)
  /-- A number of times and then, if there is a bound, up to a number of times more; otherwise the
  last time any number of times. -/
  | times (body : Plan) (min : Nat) (more : Option Nat)

/-- Builds a part a number of times, as long as there is room. -/
def buildTimes (build : Room → Option Room) : Nat → Room → Option Room
  | 0, room => some room
  | n + 1, room =>
    match build room with
    | some room => buildTimes build n room
    | none => none

namespace Plan

/-- A part that takes the same room in both directions. -/
def leaf (room : Room) : Plan := .fixed room room

/-- Counts one more branch of a choice. With the second branch come the states that start and end
the choice. -/
private def countBranch (room : Room) (branches : Nat) : Option (Room × Nat) :=
  match branches with
  | 0 => some (room, 1)
  | 1 => (room.take? (.fork 2 + .plain 1)).map (·, 2)
  | n => (room.take? ⟨0, 4⟩).map (·, n + 1)

/-- Builds the branches of a plan, after some branches that have been built. A plan that is no
choice is its only branch. -/
private def buildBranches (d : Direction) : Plan → Room × Nat → Option (Room × Nat)
  | .fixed forward backward, (room, n) => do
    countBranch (← room.take? (if d = .forward then forward else backward)) n
  | .tree sequences, (room, n) => do
    let built := match d with
      | .forward => Room.forwardTree sequences room
      | .backward => Room.backwardTree sequences room
    countBranch (← built.take? .zero) n
  | .group body, (room, n) => do
    match d with
    | .forward =>
      let (room, _) ← buildBranches d body (← room.take? (.plain 1), 0)
      countBranch (← room.take? (.plain 1)) n
    | .backward =>
      let (room, _) ← buildBranches d body (room, 0)
      countBranch room n
  | .seq first second, (room, n) => do
    match d with
    | .forward =>
      let (room, _) ← buildBranches d first (room, 0)
      let (room, _) ← buildBranches d second (room, 0)
      countBranch room n
    | .backward =>
      let (room, _) ← buildBranches d second (room, 0)
      let (room, _) ← buildBranches d first (room, 0)
      countBranch room n
  | .alt left right, built => do buildBranches d right (← buildBranches d left built)
  | .maybe body, (room, n) => do
    let (room, _) ← buildBranches d body (← room.take? (.fork 2), 0)
    countBranch (← room.take? (.plain 1)) n
  | .star body optional, (room, n) => do
    if optional then
      let (room, _) ← buildBranches d body (room, 0)
      countBranch (← room.take? (.fork 2 + .fork 2 + .plain 1)) n
    else
      let (room, _) ← buildBranches d body (← room.take? (.fork 2), 0)
      countBranch room n
  | .times body min more, (room, n) => do
    let once (room : Room) : Option Room := (buildBranches d body (room, 0)).map (·.1)
    let room ← if min = 0 then room.take? (.plain 1) else buildTimes once min room
    match more with
    | none => countBranch (← room.take? (.fork 2)) n
    | some 0 => countBranch room n
    | some more =>
      let room ← room.take? (.plain 1)
      countBranch (← buildTimes (fun room => room.take? (.fork 2) >>= once) more room) n

/-- Builds a plan after what has been built. -/
def build (d : Direction) (plan : Plan) (room : Room) : Option Room :=
  (buildBranches d plan (room, 0)).map (·.1)

end Plan

/-- What is built for a position that admits the characters of a set. -/
def Text.CharSet.plan (set : CharSet) : Plan :=
  let ranges := set.toRanges
  match ranges with
  | [] => .leaf (.plain 2)
  | [⟨first, last⟩] =>
    if first = last then .leaf (.plain (Char.ofNat first).utf8Size) else wide ranges
  | _ => wide ranges
where
  /-- What is built for more than one character. -/
  wide (ranges : List CharRange) : Plan :=
    if ranges.all (·.last < 0x80) then .leaf (.plain 1 + .switch ranges.length)
    else .tree (ranges.flatMap (·.byteSequences))

namespace Pattern

/-- The texts that a pattern matches, as code points, if it is a choice between fixed texts. -/
private def texts? : Pattern → Option (List (List Nat))
  | .char set =>
    match set.toRanges with
    | [⟨first, last⟩] => if first = last then some [[first]] else none
    | _ => none
  | .seq p q =>
    match p.texts?, q.texts? with
    | some [first], some [second] => some [first ++ second]
    | _, _ => none
  | .alt p q =>
    match p.texts?, q.texts? with
    | some left, some right => some (left ++ right)
    | _, _ => none
  | _ => none

/-- The bytes of a text. -/
private def bytes (codes : List Nat) : List UInt8 :=
  (String.ofList (codes.map Char.ofNat)).toUTF8.toList

/-- What is built for a pattern, given what is built for its branches. A choice between fixed texts
becomes a tree. -/
private def choicePlan (p : Pattern) (branches : Plan) : Plan :=
  match p with
  | .alt _ _ =>
    match p.texts? with
    | some texts =>
      .fixed (Room.textTree (texts.map bytes)) (Room.textTree (texts.map (bytes · |>.reverse)))
    | none => branches
  | _ => branches

/-- What is built for the branches of a pattern. -/
private def branchPlan : Pattern → Plan
  | .empty => .leaf (.plain 1)
  | .char set => set.plan
  | .anchor _ => .leaf (.plain 1)
  | .group p => .group (p.choicePlan p.branchPlan)
  | .seq p q => .seq (p.choicePlan p.branchPlan) (q.choicePlan q.branchPlan)
  | .alt p q => .alt p.branchPlan q.branchPlan
  | .repeated p min max =>
    let body := p.choicePlan p.branchPlan
    match min, max with
    | 0, none => .star body p.isOptional
    | 0, some 1 => .maybe body
    | min, none => .times body min none
    | min, some max => .times body min (some (max - min))

/-- What is built for a pattern. -/
def plan (p : Pattern) : Plan := p.choicePlan p.branchPlan

/-- Whether every match begins at the start of the text, as far as the first conditions tell. -/
def fromStart : Pattern → Bool
  | .empty => false
  | .char _ => false
  | .anchor condition => condition = .start
  | .group p => p.fromStart
  | .seq p q => p.fromStart || p.isBlank && q.fromStart
  | .alt p q => p.fromStart && q.fromStart
  | .repeated p min _ => min ≠ 0 && p.fromStart

/-- Whether every match ends at the end of the text, as far as the last conditions tell. -/
def toFinish : Pattern → Bool
  | .empty => false
  | .char _ => false
  | .anchor condition => condition = .finish
  | .group p => p.toFinish
  | .seq p q => q.toFinish || q.isBlank && p.toFinish
  | .alt p q => p.toFinish && q.toFinish
  | .repeated p min _ => min ≠ 0 && p.toFinish

/-- The room of the states that skip to where a match can begin. -/
private def skipRoom (fixed : Bool) : Room :=
  if fixed then .plain 1 else .fork 2 + .plain 1 + .switch 1

/-- Whether there is room for a pattern: for what skips to a match, for the match, whose place is
remembered, and for the state that tells of it. -/
def fits (p : Pattern) : Bool :=
  let fitsBuilt (d : Direction) (fixed : Bool) (plan : Plan) : Bool :=
    ((plan.build d (skipRoom fixed)).bind (·.take? (.plain 1))).isSome
  let plan := Plan.group p.plan
  fitsBuilt .forward p.fromStart plan && fitsBuilt .backward p.toFinish plan

end Pattern

end JsxVNode
