import JsxVNode.Directive.Name
import JsxVNode.Tree.Shape

/-!
# Directive values

The value of a directive may be an array that holds the bound value, an argument and
a list of modifiers: `[value, "argument", ["modifier"]]`, where the argument may be
left out. Several models are an array of such arrays. This module takes such values
apart and puts together the tuple that hands a directive to the runtime.
-/

namespace JsxVNode

namespace Node

/-- The expression of an array element, whether it is spread or not; a hole has none. -/
def elementExpr? : Node → Option Node
  | .hole => none
  | .spread _ operand => some operand
  | node => some node

/-- The elements of an array literal. -/
def elements? : Node → Option (List Node)
  | .array _ elements => some elements
  | _ => none

/-- The element at an index, unless it is missing or a hole. -/
def elementAt? (elements : List Node) (index : Nat) : Option Node :=
  match elements[index]? with
  | some .hole => none
  | element => element

end Node

/-- The strings listed in an array literal; anything else lists none. -/
def modifiersOfNode (node : Node) : NameSet :=
  match node.elements? with
  | some elements =>
    .ofList ((elements.filterMap fun e => e.elementExpr?.bind Node.string?).filter (· ≠ ""))
  | none => .empty

/-- One bound value of a directive. -/
structure DirectiveEntry where
  value : Option Node
  /-- The argument; several entries keep a place for a missing one, if the list asks for it. -/
  args : List (Option Node)
  modifiers : NameSet

/-- Takes apart the elements of an entry. If the second element is an array it lists the
modifiers, and otherwise it is the argument and the third lists them. Without either the
modifiers in the directive's name apply. A missing argument takes a place in the list of
arguments only if `keepPlace` says so. -/
def DirectiveEntry.ofElements (keepPlace : Bool) (nameModifiers : NameSet)
    (elements : List Node) : DirectiveEntry :=
  let value := (Node.elementAt? elements 0).bind Node.elementExpr?
  let place := if keepPlace then [none] else []
  match Node.elementAt? elements 1 with
  | none => ⟨value, place, nameModifiers⟩
  | some second =>
    if second.isSpread then ⟨value, place, nameModifiers⟩
    else if second.unparen.elements?.isSome then
      ⟨value, place, modifiersOfNode second.unparen⟩
    else
      let third := (Node.elementAt? elements 2).bind Node.elementExpr?
      ⟨value, [some second], (third.map (modifiersOfNode ·.unparen)).getD .empty⟩

/-- A directive attribute taken apart. Values, arguments and modifiers belong together by
their index; an argument that is absent stands for the default name. -/
structure ParsedDirective where
  name : String
  values : List (Option Node)
  args : List (Option Node)
  modifiers : List NameSet
  /-- The tuple for the runtime, if the directive is applied there. -/
  tuple : Option Node

/-- Whether the directive binds a model. -/
def ParsedDirective.isModel (d : ParsedDirective) : Bool := d.name == "model" || d.name == "models"

/-- The value, arguments and modifiers of a directive, without its runtime tuple. -/
def ParsedDirective.ofEntries (name : DirectiveName) (value : Option Node)
    (entries : List DirectiveEntry) : ParsedDirective where
  name := name.name
  values := if entries.isEmpty then [value] else entries.map (·.value)
  args := name.argument.toList.map (some ∘ Node.str) ++ entries.flatMap (·.args)
  modifiers := entries.map (·.modifiers)
  tuple := none

/-- Whether a string can be written as a property name without quotes. -/
def isPlainName (name : String) : Bool :=
  match name.toList with
  | [] => false
  | c :: rest => isStart c && rest.all fun c => isStart c || c.isDigit
where
  /-- Whether a character can start such a name. -/
  isStart (c : Char) : Bool := c.isAlpha || c == '_' || c == '$'

/-- The object that maps each modifier to `true`. -/
def modifiersObject (modifiers : NameSet) : Node :=
  .objectOf (modifiers.toList.map fun m =>
    .pair (if isPlainName m then .ref m else .str m) (.bool true))

/-- A list of optional entries without the absent ones at its end, the others filled in. -/
def fillTuple : List (Option Node) → List Node
  | [] => []
  | entry :: rest =>
    let filled := fillTuple rest
    if entry.isNone && filled.isEmpty then [] else entry.getD .undefined :: filled

/-- The tuple that hands a directive to the runtime: its handle, value, argument and modifiers,
as far as there are any. -/
def directiveTuple (handle : Node) (value arg : Option Node) (modifiers : Option NameSet) : Node :=
  let modifiers := (modifiers.filter (!·.isEmpty)).map modifiersObject
  .arrayOf (handle :: fillTuple [value, arg, modifiers])

end JsxVNode
