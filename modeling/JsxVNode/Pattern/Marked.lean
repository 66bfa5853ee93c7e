import JsxVNode.Pattern.Basic

/-!
# Matching

A pattern matches a text if it matches some stretch of it, so the ends of the text
matter only to patterns that name them. The text is read once. A marked pattern
remembers, at every position that stands for a character, whether some match that
is under way has just read that character there; the next character moves the
marks. The pattern never grows, so the work for each character of the text is
bounded by the pattern alone.
-/

namespace JsxVNode

open Text (CharSet)

/-- A pattern with its repetitions written out, and with marks. -/
inductive Marked where
  | empty
  | char (mark : Bool) (set : CharSet)
  | anchor (condition : Anchor)
  | seq (first second : Marked)
  | alt (left right : Marked)
  | star (body : Marked)
  deriving DecidableEq, Repr

namespace Marked

/-- Two marked patterns in a row. -/
def join : Marked → Marked → Marked
  | .empty, q => q
  | p, .empty => p
  | p, q => .seq p q

/-- A pattern `n` times in a row, where `n` has at most `bits` binary digits. It is put together
from halves, so that it is not deep. -/
private def powerFrom (p : Marked) : (bits n : Nat) → Marked
  | 0, _ => .empty
  | bits + 1, n =>
    let half := powerFrom p bits (n / 2)
    let whole := half.join half
    if n % 2 = 0 then whole else whole.join p

/-- A pattern a number of times in a row. -/
def power (p : Marked) (n : Nat) : Marked := powerFrom p (Nat.log2 n + 1) n

/-- Whether a pattern can match the empty stretch at a place. -/
def skips (place : Place) : Marked → Bool
  | .empty => true
  | .char _ _ => false
  | .anchor condition => condition.holds place
  | .seq p q => p.skips place && q.skips place
  | .alt p q => p.skips place || q.skips place
  | .star _ => true

/-- Whether some match that is under way can end at a place. -/
def ends (place : Place) : Marked → Bool
  | .empty => false
  | .char mark _ => mark
  | .anchor _ => false
  | .seq p q => q.ends place || p.ends place && q.skips place
  | .alt p q => p.ends place || q.ends place
  | .star p => p.ends place

/-- The marks after the character `c`, which follows a place. With `enters`, a match may start
at that place. -/
def advance (place : Place) (c : Char) (enters : Bool) : Marked → Marked
  | .empty => .empty
  | .char _ set => .char (enters && set.contains c) set
  | .anchor condition => .anchor condition
  | .seq p q =>
    .seq (p.advance place c enters) (q.advance place c (p.ends place || enters && p.skips place))
  | .alt p q => .alt (p.advance place c enters) (q.advance place c enters)
  | .star p => .star (p.advance place c (enters || p.ends place))

/-- Whether some match ends at a place or later. A match may start at every place. -/
def search (before : Option Char) (p : Marked) : List Char → Bool
  | [] => p.skips ⟨before, none⟩ || p.ends ⟨before, none⟩
  | c :: rest =>
    let place := ⟨before, some c⟩
    p.skips place || p.ends place || search (some c) (p.advance place c true) rest

end Marked

namespace Pattern

/-- A pattern with its repetitions written out, without marks. -/
def expand : Pattern → Marked
  | .empty => .empty
  | .char set => .char false set
  | .anchor condition => .anchor condition
  | .group p => p.expand
  | .seq p q => .seq p.expand q.expand
  | .alt p q => .alt p.expand q.expand
  | .repeated p min max =>
    let body := p.expand
    (body.power min).join (match max with
      | none => .star body
      | some max => (Marked.alt body .empty).power (max - min))

/-- Whether a pattern matches some stretch of a text. -/
def accepts (p : Pattern) (text : String) : Bool := p.expand.search none text.toList

end Pattern

end JsxVNode
