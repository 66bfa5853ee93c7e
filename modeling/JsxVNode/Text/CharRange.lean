import JsxVNode.Text.HexDigit

/-!
# Ranges of characters

A class of characters given by a table is a list of inclusive ranges of code points.
A long table is written in lines: code points and ranges in hexadecimal, with a
blank between two of them.
-/

namespace JsxVNode.Text

/-- The characters from one code point up to another. -/
structure CharRange where
  first : Nat
  last : Nat
  deriving DecidableEq, Repr, Inhabited

namespace CharRange

/-- The range of one code point. -/
def single (code : Nat) : CharRange := ⟨code, code⟩

/-- Whether a code point lies in a range. -/
def contains (r : CharRange) (code : Nat) : Bool := r.first ≤ code && code ≤ r.last

end CharRange

/-- Whether a character lies in one of several ranges. -/
def inRanges (ranges : List CharRange) (c : Char) : Bool := ranges.any (·.contains c.toNat)

/-- Reads the rest of a line, after the start of a range, if there is one, and some digits of a
code point. -/
private def readLineFrom (first : Option Nat) (code : Nat) : List Char → List CharRange
  | [] => [⟨first.getD code, code⟩]
  | c :: rest =>
    if c = ' ' then ⟨first.getD code, code⟩ :: readLineFrom none 0 rest
    else if c = '-' then readLineFrom (some code) 0 rest
    else readLineFrom first (16 * code + (hexValue? c).getD 0) rest

/-- The ranges of a table written in lines. -/
def readTable (lines : List String) : List CharRange :=
  lines.flatMap (readLineFrom none 0 ·.toList)

end JsxVNode.Text
