import Std.Data.HashMap

/-!
# Tables with slots

While an automaton is built, a state that was built before is used again. The table
that remembers states has a fixed number of slots. A key has one slot, which its hash
gives, and what is stored there last takes the place of what was there before.
-/

namespace JsxVNode

/-- A table that remembers which state was built for a key. -/
structure Memo where
  /-- The number of slots. -/
  size : Nat
  slots : Std.HashMap Nat (List Nat × Nat)

namespace Memo

/-- A table without entries. -/
def empty (size : Nat) : Memo := ⟨size, ∅⟩

/-- The hash of a key. Each of its numbers is mixed in with an exclusive or and a
multiplication. -/
def hash (key : List Nat) : UInt64 :=
  key.foldl (fun h n => (h ^^^ n.toUInt64) * 1099511628211) 14695981039346656037

/-- The slot of a key. -/
def slot (memo : Memo) (key : List Nat) : Nat := (hash key).toNat % memo.size

/-- The state that was built for a key, if its slot still holds it. -/
def find? (memo : Memo) (key : List Nat) : Option Nat :=
  match memo.slots[memo.slot key]? with
  | some (stored, state) => if stored = key then some state else none
  | none => none

/-- Remembers the state that was built for a key. -/
def insert (memo : Memo) (key : List Nat) (state : Nat) : Memo :=
  { memo with slots := memo.slots.insert (memo.slot key) (key, state) }

@[simp] theorem slot_insert (memo : Memo) (key other : List Nat) (state : Nat) :
    (memo.insert key state).slot other = memo.slot other := rfl

/-- What was stored last for a key is found. -/
theorem find?_insert_self (memo : Memo) (key : List Nat) (state : Nat) :
    (memo.insert key state).find? key = some state := by
  simp [find?, insert, slot]

/-- A key that takes the slot of another one drives it out. -/
theorem find?_insert_of_slot_eq (memo : Memo) {key other : List Nat} (state : Nat)
    (hne : key ≠ other) (hslot : memo.slot key = memo.slot other) :
    (memo.insert key state).find? other = none := by
  have h : (memo.insert key state).slots[memo.slot other]? = some (key, state) := by
    simp [insert, hslot]
  simp [find?, h, hne]

end Memo

end JsxVNode
