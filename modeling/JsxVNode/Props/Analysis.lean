import JsxVNode.NameSet
import JsxVNode.Props.PatchFlag

/-!
# What the attributes of an element tell

While the attributes of an element are read, it is noted which of its properties
can change. The notes determine the patch flag of the element and the names listed
beside it.
-/

namespace JsxVNode

/-- What is known about the properties of one element. -/
structure PropsAnalysis where
  hasRef : Bool
  hasClassBinding : Bool
  hasStyleBinding : Bool
  /-- A handler that has to be attached to prerendered markup. -/
  hasHydrationEvent : Bool
  /-- Some property name is known only when the program runs. -/
  hasDynamicKeys : Bool
  /-- The other properties whose values can change. -/
  dynamicNames : NameSet
  deriving DecidableEq, Repr

namespace PropsAnalysis

/-- Nothing is known yet. -/
def empty : PropsAnalysis := ⟨false, false, false, false, false, .empty⟩

instance : Inhabited PropsAnalysis := ⟨empty⟩

/-- A flag that is set under a condition. -/
private def bitIf (condition : Bool) (flag : PatchFlag) : PatchFlag :=
  if condition then flag else .none

/-- The bits that the properties call for; unknown names make the single bits pointless. -/
def propsFlag (a : PropsAnalysis) : PatchFlag :=
  if a.hasDynamicKeys then .fullProps
  else
    bitIf a.hasClassBinding .classBinding ||| bitIf a.hasStyleBinding .styleBinding |||
      bitIf (!a.dynamicNames.isEmpty) .props ||| bitIf a.hasHydrationEvent .hydrateEvents

/-- The flag of an element with a number of runtime directives. An element that would not be
visited otherwise is visited for its reference or its directives. -/
def patchFlag (a : PropsAnalysis) (directives : Nat) : PatchFlag :=
  let flag := a.propsFlag
  if (flag.isEmpty || flag == .hydrateEvents) && (a.hasRef || directives > 0) then
    flag ||| .needPatch
  else
    flag

/-- The names listed beside a flag, if it makes use of them. -/
def emittedNames? (a : PropsAnalysis) (flag : PatchFlag) : Option NameSet :=
  if flag.contains .props && !flag.contains .fullProps && !a.dynamicNames.isEmpty then
    some a.dynamicNames
  else
    none

end PropsAnalysis

end JsxVNode
