import JsxVNode.NameSet
import JsxVNode.Text.Lowercase
import JsxVNode.Tree.Node

/-!
# Directive names

An attribute is a directive if its name is `v` and then a hyphen and a letter, or a
capital letter. The rest of the name gives the directive, its argument after a colon
and its modifiers after underscores: `v-model:title_trim`.
-/

namespace JsxVNode

/-- Whether an attribute name is that of a directive. -/
def isDirectiveName (name : String) : Bool :=
  match name.toList with
  | 'v' :: '-' :: c :: _ => c.isAlpha
  | 'v' :: c :: _ => c.isUpper
  | _ => false

/-- The name of a directive taken apart. -/
structure DirectiveName where
  name : String
  argument : Option String
  modifiers : NameSet
  deriving DecidableEq, Repr

namespace DirectiveName

/-- The stretches of a text between underscores. -/
def segments : List Char → List (List Char)
  | [] => [[]]
  | c :: rest =>
    if c = '_' then [] :: segments rest
    else
      match segments rest with
      | [] => [[c]]
      | segment :: more => (c :: segment) :: more

/-- The first segment of a text and the others. -/
def splitName (text : String) : String × List String :=
  match (segments text.toList).map String.ofList with
  | [] => ("", [])
  | first :: rest => (first, rest)

/-- The base name of a directive: without the leading `v` and the hyphen after it, and with a
small first letter. -/
def base (text : String) : String :=
  let cs := text.toList
  let cs := if cs.head? = some 'v' then cs.tail else cs
  let cs := if cs.head? = some '-' then cs.tail else cs
  match cs with
  | [] => ""
  | c :: rest => String.ofList (Text.lowercase c ++ rest)

/-- The modifiers among the segments of a name; empty ones do not count. -/
def modifiersOf (segments : List String) : NameSet := .ofList (segments.filter (· ≠ ""))

/-- Takes the name of a directive apart. -/
def ofAttr : AttrName → DirectiveName
  | .plain name =>
    let (first, rest) := splitName name.name
    ⟨base first, none, modifiersOf rest⟩
  | .qualified name =>
    let (first, rest) := splitName name.name.name
    ⟨base name.space.name, if first = "" then none else some first, modifiersOf rest⟩

end DirectiveName

end JsxVNode
