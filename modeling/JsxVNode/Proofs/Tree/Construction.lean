import JsxVNode.NameSet
import JsxVNode.Props.PatchFlag
import JsxVNode.Tree.Shape

/-!
# Reading construction calls

What the runtime is told by a call that constructs a virtual node: the props argument
and the object literals in it, the patch flag, and the names listed beside the flag.
Runtime directives wrap the construction in a call of their own.
-/

namespace JsxVNode.Node

/-- The arguments of a construction. A call of two arguments, the first of them a call, applies
runtime directives to a construction. -/
def constructionArgs : Node → List Node
  | .call _ _ _ [.call _ _ _ args, _] => args
  | .call _ _ _ args => args
  | _ => []

/-- An argument of a construction. -/
def constructionArg? (node : Node) (index : Nat) : Option Node := node.constructionArgs[index]?

/-- The props argument of a construction. -/
def constructionProps (node : Node) : Node := (node.constructionArg? 1).getD .null

/-- The patch flag of a construction; without one nothing can change. -/
def constructionFlag (node : Node) : PatchFlag :=
  match node.constructionArg? 3 with
  | some (.lit ⟨_, _, .num (.whole value)⟩) => ⟨BitVec.ofInt 32 value⟩
  | _ => .none

/-- The names listed beside the patch flag of a construction. -/
def constructionNames (node : Node) : List String :=
  match node.constructionArg? 4 with
  | some (.array _ elements) => elements.filterMap Node.string?
  | _ => []

/-- The properties of an object literal. -/
def objectProperties? : Node → Option (List Node)
  | .object _ properties => some properties
  | _ => none

/-- The properties of the object literals in a props argument: it is an object literal itself, or
a call of `merge`, which takes several. -/
def propsObjects (merge : Option String) : Node → List (List Node)
  | .object _ properties => [properties]
  | .call _ _ (.ident callee) args =>
    if merge = some callee.name then args.filterMap objectProperties? else []
  | _ => []

/-- A call of more than two arguments is a construction itself. -/
theorem constructionArgs_invoke (name : String) (first second third : Node) (rest : List Node) :
    (invoke name (first :: second :: third :: rest)).constructionArgs =
      first :: second :: third :: rest := by
  cases first <;> rfl

/-- A call that applies directives has the arguments of the construction it applies them to. -/
theorem constructionArgs_wrapped (name inner : String) (args : List Node) (directives : Node) :
    (invoke name [invoke inner args, directives]).constructionArgs = args := rfl

/-- The objects of a call are those among its arguments if it is the call that merges, and else
there are none. -/
theorem propsObjects_invoke (merge : Option String) (name : String) (args : List Node) :
    (invoke name args).propsObjects merge =
      if merge = some name then args.filterMap objectProperties? else [] := rfl

/-- The optional arguments of a construction: the flag, if something can change, and the names
beside it. -/
def flagArgs (flag : PatchFlag) (place : Span) (names : Option NameSet) : List Node :=
  if flag.isEmpty then []
  else int flag.toInt place :: names.toList.map fun names => arrayOf (names.toList.map str)

section

variable {node tag props children : Node} {flag : PatchFlag} {place : Span}
  {names : Option NameSet}

/-- The props argument is read back. -/
theorem constructionProps_of_args
    (h : node.constructionArgs = tag :: props :: children :: flagArgs flag place names) :
    node.constructionProps = props := by
  rw [constructionProps, constructionArg?, h]
  rfl

/-- The flag is read back, whether it is written down or not. -/
theorem constructionFlag_of_args
    (h : node.constructionArgs = tag :: props :: children :: flagArgs flag place names) :
    node.constructionFlag = flag := by
  rw [constructionFlag, constructionArg?, h, flagArgs]
  cases he : flag.isEmpty with
  | true => exact (beq_iff_eq.mp he).symm
  | false => exact congrArg PatchFlag.mk BitVec.ofInt_toInt

/-- The names beside a flag are read back. -/
theorem constructionNames_of_args
    (h : node.constructionArgs = tag :: props :: children :: flagArgs flag place names)
    (he : flag.isEmpty = false) : node.constructionNames = names.elim [] (·.toList) := by
  have hstr (list : List String) : (list.map str).filterMap string? = list := by
    rw [List.filterMap_map]
    exact List.filterMap_some
  rw [constructionNames, constructionArg?, h, flagArgs, he]
  cases names with
  | none => rfl
  | some names => exact hstr names.toList

/-- A name can be read only if names are given. -/
theorem mem_of_mem_constructionNames
    (h : node.constructionArgs = tag :: props :: children :: flagArgs flag place names)
    {name : String} (hname : name ∈ node.constructionNames) :
    ∃ set, names = some set ∧ name ∈ set.toList := by
  cases he : flag.isEmpty with
  | true =>
    rw [constructionNames, constructionArg?, h, flagArgs, he] at hname
    cases hname
  | false =>
    rw [constructionNames_of_args h he] at hname
    cases names with
    | none => cases hname
    | some set => exact ⟨set, rfl, hname⟩

end

end JsxVNode.Node
