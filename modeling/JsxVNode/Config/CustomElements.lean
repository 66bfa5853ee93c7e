import JsxVNode.Pattern.Marked
import JsxVNode.Pattern.Parser
import JsxVNode.Text.Quoted

/-!
# Custom elements

Which unknown tags are elements of the platform rather than components. A file of
options lists patterns; a program that calls the compiler may add a predicate.
-/

namespace JsxVNode

/-- A pattern together with the notation it was read from. -/
structure TagPattern where
  source : String
  pattern : Pattern
  ofString : Pattern.ofString? source = some pattern

/-- Reads a pattern and keeps its notation. -/
def TagPattern.ofString? (source : String) : Option TagPattern :=
  match h : Pattern.ofString? source with
  | some pattern => some ⟨source, pattern, h⟩
  | none => none

/-- The tags that are custom elements. -/
structure CustomElements where
  patterns : List TagPattern
  predicate : Option (String → Bool)

namespace CustomElements

/-- No custom elements. -/
def none : CustomElements := ⟨[], .none⟩

instance : Inhabited CustomElements := ⟨none⟩

/-- Reads the patterns of a list; the first one that cannot be read is the error. -/
def readPatterns : List String → Except String (List TagPattern)
  | [] => .ok []
  | source :: sources =>
    match TagPattern.ofString? source with
    | .none => .error source
    | some pattern => (readPatterns sources).map (pattern :: ·)

/-- The custom elements that some pattern matches. -/
def ofPatterns (sources : List String) : Except String CustomElements :=
  (readPatterns sources).map (⟨·, .none⟩)

/-- Adds a predicate that is consulted beside the patterns. -/
def withPredicate (elements : CustomElements) (predicate : String → Bool) : CustomElements :=
  { elements with predicate := some predicate }

/-- Whether a tag is a custom element. -/
def contains (elements : CustomElements) (tag : String) : Bool :=
  elements.patterns.any (·.pattern.accepts tag) || elements.predicate.any (· tag)

/-- A description that lists the patterns and tells whether there is a predicate. -/
def description (elements : CustomElements) : String :=
  "CustomElementFilter \x7b patterns: [" ++
    ", ".intercalate (elements.patterns.map (Text.quoted ·.source)) ++ "], predicate: " ++
    toString elements.predicate.isSome ++ " \x7d"

end CustomElements

end JsxVNode
