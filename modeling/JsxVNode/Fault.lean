import JsxVNode.Source.Location
import JsxVNode.Source.Span

/-!
# Faults

The reasons why a file cannot be compiled. Each fault has the range of the node that
caused it, and the first one ends the compilation of the file.
-/

namespace JsxVNode

/-- Why a file cannot be compiled. -/
inductive Fault where
  /-- A tag name with a colon. -/
  | unsupportedTag (name : String) (span : Span)
  /-- A model without an expression to bind. -/
  | modelRequiresExpression (directive : String) (span : Span)
  /-- Several models on something that is not a component. -/
  | modelsOnIntrinsic (span : Span)
  /-- Several models that are not given as an array of arrays. -/
  | modelsNotNested (span : Span)
  /-- A model bound to an expression that cannot be assigned to. -/
  | notAssignable (directive : String) (span : Span)
  deriving DecidableEq, Repr

/-- The two kinds of faults. -/
inductive FaultKind where
  /-- The compiler has no meaning for the node. -/
  | structural
  /-- A construct is used where it makes no sense. -/
  | semantic
  deriving DecidableEq, Repr

namespace Fault

/-- The range of the node that caused the fault. -/
def span : Fault → Span
  | .unsupportedTag _ span => span
  | .modelRequiresExpression _ span => span
  | .modelsOnIntrinsic span => span
  | .modelsNotNested span => span
  | .notAssignable _ span => span

/-- The kind of a fault. -/
def kind : Fault → FaultKind
  | .unsupportedTag .. => .structural
  | _ => .semantic

/-- What is reported about a fault. -/
def message : Fault → String
  | .unsupportedTag name _ => "namespaced tag `" ++ name ++ "` is not supported"
  | .modelRequiresExpression directive _ =>
    "`" ++ directive ++ "` needs an expression container value, e.g. " ++ directive ++
      "=\x7bvalue\x7d"
  | .modelsOnIntrinsic _ => "`v-models` can only be used on components"
  | .modelsNotNested _ =>
    "`v-models` expects a two-dimensional array, e.g. " ++
      "v-models=\x7b[[a, \"a\"], [b, \"b\"]]\x7d"
  | .notAssignable directive _ => "the value bound by `" ++ directive ++ "` is not assignable"

/-- The report with its place in front: file, line and column, if the fault has a place. -/
def describe (fault : Fault) (file source : String) : String :=
  if fault.span.isDummy then fault.message
  else
    let loc := Location.ofPosition source fault.span.lo
    file ++ ":" ++ toString loc.line ++ ":" ++ toString loc.column ++ ": " ++ fault.message

end Fault

end JsxVNode
