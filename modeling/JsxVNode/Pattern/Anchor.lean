import JsxVNode.Text.WordChar

/-!
# Anchors

Conditions on the place between two neighbouring characters of a text. They match
no character themselves.
-/

namespace JsxVNode

/-- A place in a text: the character before it and the one after it. A missing character is an
end of the text. -/
structure Place where
  before : Option Char
  after : Option Char
  deriving DecidableEq, Repr

/-- A condition on how words lie around a place. -/
inductive WordEdge where
  /-- A word starts or ends here. -/
  | either
  /-- No word starts or ends here. -/
  | neither
  | start
  | finish
  /-- No word reaches here from before. -/
  | startHalf
  /-- No word goes on from here. -/
  | finishHalf
  deriving DecidableEq, Repr

/-- Whether a condition on words holds, given whether the characters before and after the place
are part of words. -/
def WordEdge.holds (before after : Bool) : WordEdge → Bool
  | .either => before != after
  | .neither => before == after
  | .start => !before && after
  | .finish => before && !after
  | .startHalf => !before
  | .finishHalf => !after

/-- A condition on a place. -/
inductive Anchor where
  /-- The start of the text. -/
  | start
  /-- The end of the text. -/
  | finish
  /-- The start of a line; with `crlf`, a carriage return ends lines too. -/
  | lineStart (crlf : Bool)
  /-- The end of a line; with `crlf`, a carriage return ends lines too. -/
  | lineFinish (crlf : Bool)
  /-- A condition on words; with `ascii`, their characters are among the first 128. -/
  | word (edge : WordEdge) (ascii : Bool)
  deriving DecidableEq, Repr

namespace Anchor

/-- Whether a character, if there is one, is part of a word. -/
private def inWord (ascii : Bool) (c : Option Char) : Bool :=
  c.any fun c => if ascii then c.isAlphanum || c == '_' else Text.isWordChar c

/-- Whether the condition holds at a place. A carriage return and a line feed in a row end one
line together. -/
def holds (place : Place) : Anchor → Bool
  | .start => place.before.isNone
  | .finish => place.after.isNone
  | .lineStart false => place.before.all (· == '\n')
  | .lineStart true =>
    place.before.all (· == '\n') || place.before == some '\r' && place.after != some '\n'
  | .lineFinish false => place.after.all (· == '\n')
  | .lineFinish true =>
    place.after.all (· == '\r') || place.after == some '\n' && place.before != some '\r'
  | .word edge ascii => edge.holds (inWord ascii place.before) (inWord ascii place.after)

end Anchor

end JsxVNode
