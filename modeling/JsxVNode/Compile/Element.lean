import JsxVNode.Compile.Attribute
import JsxVNode.Text.Flatten

/-!
# Compiling markup

Turns a piece of markup into the call that constructs its virtual node. The children
of an element are compiled before its attributes; the markup inside them that stands
in expressions is left alone, since the pass over the whole program compiles it first.
-/

namespace JsxVNode

/-- Compiled children, in source order. -/
structure Children where
  items : List Node
  /-- Some child is an expression, whose shape is known only when the program runs. -/
  unanalyzable : Bool

namespace Children

/-- No children. -/
def empty : Children := ⟨[], false⟩

/-- The children of one list after those of another. -/
def append (a b : Children) : Children := ⟨a.items ++ b.items, a.unanalyzable || b.unanalyzable⟩

/-- The child that a text stands for, unless nothing of it is displayed. -/
def ofText (text : String) : Children :=
  let flat := Text.flatten text
  if flat = "" then empty else ⟨[.str flat], false⟩

end Children

/-- The property that holds the default slot. -/
def defaultSlot (slot : Node) : Node := .pair (.ref "default") slot

/-- A slots object whose default slot returns the given children. -/
def slotsOf (items : List Node) : Node := .objectOf [defaultSlot (.thunk (.arrayOf items))]

/-- An array of children, if there are any. -/
def arrayIfAny (items : List Node) : Option Node :=
  if items.isEmpty then none else some (.arrayOf items)

/-- The properties that a `v-slots` value adds to a slots object. -/
def slotProperties : Option Node → List Node
  | none => []
  | some (.object _ properties) => properties
  | some other => [.spreadOf other]

/-- The flag of an element with the given children. A fragment whose children are unknown is
compared in full whatever its attributes are. -/
def elementFlag (tag : ResolvedTag) (children : Children) (props : ElementProps) : PatchFlag :=
  let flag := props.analysis.patchFlag props.directives.length
  if tag.isFragment then
    let own := PatchFlag.ofFragment children.items.length children.unanalyzable
    if own = .bail then .bail else flag ||| own
  else
    flag

namespace Compile

/-- The slots argument of a component with a single child and no `v-slots`. -/
def loneChild (ctx : Context) (child : Node) : Compile Node := do
  match child with
  | .spread .. => return slotsOf [child]
  | .ident _ =>
    if ctx.options.objectSlots then
      let isSlot ← request (·.isSlot)
      return .conditional (.invoke isSlot [child]) child (slotsOf [child])
    else
      return slotsOf [child]
  | .object .. => return if ctx.options.objectSlots then child else slotsOf [child]
  | _ => return if child.isFunction then .objectOf [defaultSlot child] else slotsOf [child]

/-- The children argument of a component. -/
def componentChildren (ctx : Context) (items : List Node) (slots : Option Node) :
    Compile (Option Node) := do
  match items, slots with
  | [], slots => return slots
  | [child], none => return some (← loneChild ctx child)
  | items, slots =>
    return some (.objectOf (defaultSlot (.thunk (.arrayOf items)) :: slotProperties slots))

/-- The children argument of an element of the platform: a lone string stands for itself. -/
def elementChildren (items : List Node) : Option Node :=
  match items with
  | [child] => if child.isString then some child else some (.arrayOf [child])
  | items => arrayIfAny items

/-- The children argument of the construction call. -/
def vnodeChildren (ctx : Context) (tag : ResolvedTag) (items : List Node) (slots : Option Node) :
    Compile (Option Node) := do
  if tag.isFragment then return arrayIfAny items
  else if tag.isComponent then componentChildren ctx items slots
  else return elementChildren items

/-- The flag as a number at the end of the markup, annotated with the names of its bits. -/
def flagLiteral (ctx : Context) (flag : PatchFlag) (span : Span) : Compile Node := do
  if span.isDummy then
    return .int flag.toInt .dummy
  if ctx.annotate then
    comment span.hi (" " ++ flag.description ++ " ")
  return .int flag.toInt (.point span.hi)

/-- The call that constructs a node. The flag is left out if nothing can change. -/
def construct (ctx : Context) (tag : Node) (props children : Option Node) (flag : PatchFlag)
    (names : Option NameSet) (span : Span) : Compile Node := do
  let factory ← request (·.factory)
  let required := [tag, props.getD .null, children.getD .null]
  if flag.isEmpty then
    return .invoke factory required
  let literal ← flagLiteral ctx flag span
  let listed := match names with
    | some names => [Node.arrayOf (names.toList.map .str)]
    | none => []
  return .invoke factory (required ++ literal :: listed)

/-- Puts an element together. -/
def finishElement (ctx : Context) (span : Span) (tag : ResolvedTag) (children : Children)
    (props : ElementProps) : Compile Node := do
  let flag := elementFlag tag children props
  let names := props.analysis.emittedNames? flag
  let argument ← vnodeChildren ctx tag children.items props.slots
  let node ← construct ctx tag.expr props.props argument flag names span
  if props.directives.isEmpty then
    return node
  else
    return .invoke (← get .withDirectives) [node, .arrayOf props.directives]

/-- Puts a fragment together. -/
def finishFragment (ctx : Context) (span : Span) (children : Children) : Compile Node := do
  let flag := PatchFlag.ofFragment children.items.length children.unanalyzable
  let tag ← get .fragment
  construct ctx (.ref tag) none (arrayIfAny children.items) flag none span

end Compile

mutual

/-- Compiles a piece of markup. -/
def Jsx.compile (ctx : Context) : Jsx → Compile Node
  | .element span opening attrs children _ => do
    let tag ← Compile.resolveTag ctx opening.name
    let children ← Child.compileAll ctx children
    let state ← Attr.compileAll ctx tag attrs (.new ctx.options) attrs
    let props ← Compile.finishProps state
    Compile.finishElement ctx span tag children props
  | .fragment span _ _ children => do
    let children ← Child.compileAll ctx children
    Compile.finishFragment ctx span children

/-- Compiles children from first to last. -/
def Child.compileAll (ctx : Context) : List Child → Compile Children
  | [] => return .empty
  | child :: children => do
    let first ← child.compile ctx
    let rest ← Child.compileAll ctx children
    return first.append rest

/-- Compiles a child, which may vanish. -/
def Child.compile (ctx : Context) : Child → Compile Children
  | .text _ value _ => return .ofText value
  | .container _ body => return ⟨[body], true⟩
  | .empty .. => return .empty
  | .spread span operand => return ⟨[.spread span operand], true⟩
  | .jsx markup => do return ⟨[← markup.compile ctx], false⟩

/-- Compiles attributes from first to last; `all` are all attributes of the tag. -/
def Attr.compileAll (ctx : Context) (tag : ResolvedTag) (all : List Attr) (state : PropsState) :
    List Attr → Compile PropsState
  | [] => return state
  | attr :: attrs => do
    let state ← attr.compile ctx tag all state
    Attr.compileAll ctx tag all state attrs

/-- Compiles an attribute. -/
def Attr.compile (ctx : Context) (tag : ResolvedTag) (all : List Attr) (state : PropsState) :
    Attr → Compile PropsState
  | .spread _ operand => return state.addSpread operand
  | .named span name attrValue => do
    let value ← attrValue.compile ctx
    Compile.applyAttr ctx span name attrValue value tag all state

/-- Compiles the value of an attribute; there is none without a value or with empty braces. -/
def AttrValue.compile (ctx : Context) : AttrValue → Compile (Option Node)
  | .bare => return none
  | .lit value =>
    return some (match value.string? with
      | some text => .str (Text.flatten text)
      | none => .lit value)
  | .container _ body => return some body
  | .empty .. => return none
  | .jsx markup => do return some (← markup.compile ctx)

end

end JsxVNode
