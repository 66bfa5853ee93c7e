import JsxVNode.Proofs.Compile.Construct
import JsxVNode.Proofs.Compile.Tuples

/-!
# The shape of a compiled element

The arguments of a construction go by their position, and the last two of them may be
missing. Whether they are is decided by the flag alone, and so what stands at a position is
known without looking at it: names follow the flag exactly if it asks for them, and then
there are some.
-/

namespace JsxVNode

open Compile

namespace PatchFlag

/-- Whether a flag asks for the names of properties: it is positive, and some properties are
compared but not all of them. -/
def ListsNames (flag : PatchFlag) : Prop :=
  0 < flag.toInt ∧ flag.contains props = true ∧ flag.contains fullProps = false

end PatchFlag

section ElementFlag

variable (tag : ResolvedTag) (children : Children) (props : ElementProps)

end ElementFlag

/-- What an element is put together from. -/
structure ElementParts where
  tag : ResolvedTag
  children : Children
  props : ElementProps
  /-- The argument that holds the children, if there is one. -/
  argument : Option Node

namespace ElementParts

/-- The patch flag. -/
def flag (parts : ElementParts) : PatchFlag := elementFlag parts.tag parts.children parts.props

/-- The arguments that every construction has; `null` stands for properties or children that are
not there. -/
def required (parts : ElementParts) : List Node :=
  [parts.tag.expr, parts.props.props.getD .null, parts.argument.getD .null]

/-- The call that constructs an element from its parts. The flag is an argument unless nothing can
change, and distinct names follow it if it asks for them. -/
inductive Constructs (parts : ElementParts) (factory : String) (place : Span) : Node → Prop where
  | unflagged (hf : parts.flag = .none) :
      Constructs parts factory place (.invoke factory parts.required)
  | flagged (hf : parts.flag ≠ .none) (hn : ¬ parts.flag.ListsNames) :
      Constructs parts factory place
        (.invoke factory (parts.required ++ [.int parts.flag.toInt place]))
  | listed (hn : parts.flag.ListsNames) {names : List String} (hne : names ≠ [])
      (hd : names.Nodup) :
      Constructs parts factory place (.invoke factory
        (parts.required ++ [.int parts.flag.toInt place, .arrayOf (names.map .str)]))

end ElementParts

end JsxVNode
