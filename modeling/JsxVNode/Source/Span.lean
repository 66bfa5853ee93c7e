/-!
# Source ranges

A range of byte positions in one source file. Positions count from one. The range
from zero to zero marks a node that no source text gave rise to, and so do ranges
among the last positions, which tell apart generated nodes with comments.
-/

namespace JsxVNode

/-- A range of byte positions, from `lo` up to `hi`. -/
structure Span where
  lo : Nat
  hi : Nat
  deriving DecidableEq, Repr, Inhabited

namespace Span

/-- The range carried by every generated node. -/
def dummy : Span := ⟨0, 0⟩

/-- The first of the positions that no source text reaches. -/
def reserved : Nat := 0xFFFEFFFF

/-- Whether the range points at no source text. -/
def isDummy (s : Span) : Bool :=
  s.lo == 0 && s.hi == 0 || reserved ≤ s.lo && reserved ≤ s.hi

/-- The range between two positions, whichever comes first. -/
def between (a b : Nat) : Span := ⟨min a b, max a b⟩

/-- The empty range at a position. -/
def point (pos : Nat) : Span := ⟨pos, pos⟩

theorem isDummy_iff (s : Span) :
    s.isDummy = true ↔ s = dummy ∨ reserved ≤ s.lo ∧ reserved ≤ s.hi := by
  cases s
  simp [isDummy, dummy]

end Span

end JsxVNode
