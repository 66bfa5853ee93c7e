import JsxVNode.Compile.Session
import JsxVNode.Tag.Vocabulary

/-!
# Resolving tags

What a tag refers to: an element of the platform, the fragment, a name the file
declares, or a component that the runtime looks up by its name.
-/

namespace JsxVNode

/-- What is known about a tag. -/
structure ResolvedTag where
  /-- The first argument of the construction call. -/
  expr : Node
  /-- The name of an element of the platform. -/
  name : Option String
  isComponent : Bool
  isFragment : Bool

namespace ResolvedTag

/-- An element of the platform. -/
def element (name : String) : ResolvedTag := ⟨.str name, some name, false, false⟩

end ResolvedTag

namespace TagPath

/-- A dotted name as an expression. -/
def toNode : TagPath → Node
  | .ident name => .ident name
  | .member _ object property => .member object.toNode property.name

end TagPath

namespace Compile

/-- Resolves a tag that is a single name. -/
def resolveIdent (ctx : Context) (ident : Ident) : Compile ResolvedTag := do
  let name := ident.name
  if Tag.isIntrinsic name then
    return .element name
  let custom := ctx.options.customElements.contains name
  let component := !custom && !Tag.isSlotless name
  if name = Tag.fragment then
    return ⟨.ref (← get .fragment), none, component, true⟩
  if ctx.bindings.contains ident.id then
    return ⟨.ident ident, none, component, false⟩
  if custom then
    return .element name
  return ⟨.invoke (← get .resolveComponent) [.str name], none, component, false⟩

/-- Resolves a tag. -/
def resolveTag (ctx : Context) : TagName → Compile ResolvedTag
  | .path (.ident name) => resolveIdent ctx name
  | .path (.member span object property) =>
    return ⟨(TagPath.member span object property).toNode, none, !Tag.isSlotless property.name,
      property.name = Tag.fragment⟩
  | .qualified name =>
    throw (.unsupportedTag name.spelling (.between name.space.span.lo name.name.span.hi))

end Compile

end JsxVNode
