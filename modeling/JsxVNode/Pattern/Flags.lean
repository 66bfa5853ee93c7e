import JsxVNode.Pattern.Basic
import JsxVNode.Text.Property

/-!
# Flags

Flags change what the notation of patterns means. They hold from where they are
set to the end of the group.
-/

namespace JsxVNode

open Text (CharSet)

/-- The settings under which a pattern is read. -/
structure Flags where
  /-- Letters stand for their case variants too. -/
  ignoreCase : Bool := false
  /-- `^` and `$` match at the ends of lines. -/
  multiLine : Bool := false
  /-- `.` matches the end of a line. -/
  dotAll : Bool := false
  /-- Classes hold characters beyond the first 128. -/
  unicode : Bool := true
  /-- A carriage return ends lines too. -/
  crlf : Bool := false
  /-- Blanks and comments are skipped. -/
  spaced : Bool := false
  deriving DecidableEq, Repr

namespace Flags

/-- Sets the flag with a letter. One letter swaps which of several matches is preferred, which
does not change what is matched. -/
def set? (f : Flags) (letter : Char) (value : Bool) : Option Flags :=
  match letter with
  | 'i' => some { f with ignoreCase := value }
  | 'm' => some { f with multiLine := value }
  | 's' => some { f with dotAll := value }
  | 'u' => some { f with unicode := value }
  | 'R' => some { f with crlf := value }
  | 'x' => some { f with spaced := value }
  | 'U' => some f
  | _ => none

/-- Whether a character is a blank. -/
def isSpace (c : Char) : Bool := Text.Property.whiteSpace.contains c

/-- Text that follows blanks and comments, read in a comment or outside. -/
private def dropBlanks (inComment : Bool) : List Char → List Char
  | [] => []
  | c :: rest =>
    if inComment then dropBlanks (c ≠ '\n') rest
    else if c = '#' then dropBlanks true rest
    else if isSpace c then dropBlanks false rest
    else c :: rest

/-- Skips blanks and comments where the flags say so. -/
def skip (f : Flags) (cs : List Char) : List Char := if f.spaced then dropBlanks false cs else cs

/-- Reads characters for as long as they pass a test, and skips after each of them; at most
`fuel` characters. -/
private def takeRunFrom (f : Flags) (test : Char → Bool) :
    Nat → List Char → List Char × List Char
  | fuel + 1, c :: rest =>
    if test c then
      let (run, rest) := takeRunFrom f test fuel (f.skip rest)
      (c :: run, rest)
    else ([], c :: rest)
  | _, cs => ([], cs)

/-- Reads characters for as long as they pass a test, and skips after each of them. -/
def takeRun (f : Flags) (test : Char → Bool) (cs : List Char) : List Char × List Char :=
  takeRunFrom f test cs.length cs

/-- A set with the case variants that the flags add. -/
def fold (f : Flags) (s : CharSet) : CharSet :=
  if !f.ignoreCase then s
  else if f.unicode then .folded s
  else .union s (.inter (.folded s) .ascii)

/-- The complement of a set. Without the characters beyond the first 128 there is none. -/
def negate? (f : Flags) (negated : Bool) (s : CharSet) : Option CharSet :=
  if !negated then some s
  else if f.unicode then some (.complement s)
  else none

end Flags

end JsxVNode
