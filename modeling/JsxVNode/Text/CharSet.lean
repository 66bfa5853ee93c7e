import JsxVNode.Text.CaseFolding

/-!
# Sets of characters

Sets of characters are given by tables and put together from other sets. A set can
also be listed again as one ordered table of ranges that do not touch.
-/

namespace JsxVNode.Text

/-- A set of characters. -/
inductive CharSet where
  | ranges (table : List CharRange)
  | union (a b : CharSet)
  | inter (a b : CharSet)
  | complement (a : CharSet)
  /-- The characters that differ at most in case from one in the set. -/
  | folded (a : CharSet)
  deriving DecidableEq, Repr

namespace CharSet

/-- The set without characters. -/
def none : CharSet := .ranges []

/-- The set of all characters. -/
def all : CharSet := .complement none

/-- The set of one character. -/
def single (c : Char) : CharSet := .ranges [.single c.toNat]

/-- The first 128 characters. -/
def ascii : CharSet := .ranges [⟨0, 0x7F⟩]

/-- The characters of a set that are not in another one. -/
def diff (a b : CharSet) : CharSet := .inter a (.complement b)

/-- The characters that are in one of two sets and not in both. -/
def symmDiff (a b : CharSet) : CharSet := .union (diff a b) (diff b a)

/-- The characters that are in some set of a list. -/
def unionAll (sets : List CharSet) : CharSet := sets.foldr .union none

instance : Inhabited CharSet := ⟨none⟩

/-- Whether the character with a code point belongs to a set. -/
def containsCode : CharSet → Nat → Bool
  | .ranges table, code => table.any (·.contains code)
  | .union a b, code => a.containsCode code || b.containsCode code
  | .inter a b, code => a.containsCode code && b.containsCode code
  | .complement a, code => !a.containsCode code
  | .folded a, code => (caseVariants code).any fun variant => a.containsCode variant

/-- Whether a character belongs to a set. -/
def contains (s : CharSet) (c : Char) : Bool := s.containsCode c.toNat

/-- The greatest code point. -/
private def lastCode : Nat := 0x10FFFF

/-- Joins the ranges of an ordered list that overlap or touch. -/
private def coalesce (ranges : List CharRange) : List CharRange :=
  (ranges.foldl (fun done r => match done with
    | [] => [r]
    | last :: before =>
      if r.first ≤ last.last + 1 then ⟨last.first, max last.last r.last⟩ :: before
      else r :: done) []).reverse

/-- Ranges in order, without overlaps. -/
private def normalize (ranges : List CharRange) : List CharRange :=
  coalesce (ranges.mergeSort fun a b => a.first ≤ b.first)

/-- What ordered ranges leave out, from the code point `next` on. -/
private def gaps (next : Nat) : List CharRange → List CharRange
  | [] => if next ≤ lastCode then [⟨next, lastCode⟩] else []
  | r :: rest =>
    if next < r.first then ⟨next, r.first - 1⟩ :: gaps (r.last + 1) rest
    else gaps (r.last + 1) rest

/-- Ranges that cover a set, in any order. -/
private def cover : CharSet → List CharRange
  | .ranges table => table
  | .union a b => a.cover ++ b.cover
  | .inter a b => gaps 0 (normalize (gaps 0 (normalize a.cover) ++ gaps 0 (normalize b.cover)))
  | .complement a => gaps 0 (normalize a.cover)
  | .folded a => withVariants (normalize a.cover)

/-- The ranges of a set in order; no two of them touch. -/
def toRanges (s : CharSet) : List CharRange := normalize s.cover

end CharSet

end JsxVNode.Text
