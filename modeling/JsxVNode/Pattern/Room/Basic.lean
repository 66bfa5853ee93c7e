/-!
# The room that an automaton takes

A state takes 32 bytes, a way out of a state for a range of bytes 8, and a way out
that reads nothing 4. States are numbered in the order in which they are built.
-/

namespace JsxVNode

/-- The room that has been taken: the number of states, and the bytes for the ways out of them. -/
structure Room where
  states : Nat
  ways : Nat
  deriving DecidableEq, Repr, Inhabited

namespace Room

/-- No room. -/
def zero : Room := ⟨0, 0⟩

instance : Add Room := ⟨fun a b => ⟨a.states + b.states, a.ways + b.ways⟩⟩

/-- The bytes that are taken. -/
def bytes (room : Room) : Nat := 32 * room.states + room.ways

/-- Some states without ways out of their own. -/
def plain (states : Nat) : Room := ⟨states, 0⟩

/-- A state with some ways out that read nothing. -/
def fork (ways : Nat) : Room := ⟨1, 4 * ways⟩

/-- A state with some ways out that read a byte. -/
def switch (ways : Nat) : Room := ⟨1, 8 * ways⟩

/-- The greatest number of bytes that is granted. -/
def limit : Nat := 10485760

/-- Takes more room, as long as it is granted. -/
def take? (room more : Room) : Option Room :=
  let all := room + more
  if all.bytes ≤ limit then some all else none

theorem bytes_add (a b : Room) : (a + b).bytes = a.bytes + b.bytes := by
  show 32 * (a.states + b.states) + (a.ways + b.ways) = _
  simp only [bytes]
  omega

/-- Room is granted exactly up to the limit. -/
theorem take?_eq_some_iff {room more all : Room} :
    room.take? more = some all ↔ all = room + more ∧ all.bytes ≤ limit := by
  simp only [take?]
  split <;> grind

end Room

end JsxVNode
