import JsxVNode.Pattern.Room.Basic
import JsxVNode.Pattern.Room.Memo
import JsxVNode.Text.ByteSequence

/-!
# Trees of byte ranges

A position that admits characters of several bytes becomes a tree of byte ranges. An
automaton that reads forward shares the ends of byte sequences, and one that reads
backward their starts, as far as a table still remembers the states.
-/

namespace JsxVNode.Room

open Text (CharRange)

/-- The byte sequences that start with the same range, for each such range. Sequences with the same
start stand together. -/
def byHead : List (List CharRange) → List (CharRange × List (List CharRange))
  | [] => []
  | [] :: more => byHead more
  | (r :: tail) :: more =>
    match byHead more with
    | [] => [(r, [tail])]
    | (other, tails) :: groups =>
      if r = other then (r, tail :: tails) :: groups else (r, [tail]) :: (other, tails) :: groups

/-- Builds the states that read one of some sequences and go on to the state `finish`, and gives
the state that starts. The sequences have at most `depth` ranges. -/
def readForward (finish : Nat) : (depth : Nat) → List (List CharRange) → Memo × Room →
    Nat × Memo × Room
  | 0, _, built => (finish, built)
  | depth + 1, sequences, built =>
    match byHead sequences with
    | [] => (finish, built)
    | groups =>
      let (key, memo, room) := groups.foldl (fun (key, built) (r, tails) =>
        let (state, built) := readForward finish depth tails built
        (key ++ [r.first, r.last, state], built)) ([], built)
      match memo.find? key with
      | some state => (state, memo, room)
      | none => (room.states, memo.insert key room.states, room + .switch groups.length)

/-- The room after a tree that reads forward. The state at its end comes first. -/
def forwardTree (sequences : List (List CharRange)) (room : Room) : Room :=
  (readForward room.states 4 sequences (.empty 10000, room + .plain 1)).2.2

/-- Builds the state that reads a range and goes on to the state `target`, and gives it. -/
def readBackward : Memo × Nat × Nat → CharRange → Memo × Nat × Nat
  | (memo, next, target), r =>
    let key := [target, r.first, r.last]
    match memo.find? key with
    | some state => (memo, next, state)
    | none => (memo.insert key next, next + 1, next)

/-- The room after a tree that reads backward. The state at its start and the one at its end come
first. -/
def backwardTree (sequences : List (List CharRange)) (room : Room) : Room :=
  let finish := room.states + 1
  let (_, next) := sequences.foldl (fun (memo, next) sequence =>
    let (memo, next, _) := sequence.foldl readBackward (memo, next, finish)
    (memo, next)) (Memo.empty 1000, room.states + 2)
  ⟨next, room.ways + 4 * sequences.length⟩

end JsxVNode.Room
