import JsxVNode.Imports.Basic
import JsxVNode.Props.Duplicates

/-!
# The props argument

Collects the attributes of an element in source order and builds the argument that
describes its properties. If parts are merged at run time, every spread ends an
object and starts another, and two or more parts go through the runtime's
`mergeProps`; otherwise spreads stay inline in one object. An expression that has to
reach `mergeProps` as it is always becomes a part of its own.
-/

namespace JsxVNode

/-- The properties of an element as far as they have been read. -/
structure PropsBuilder where
  mergeProps : Bool
  /-- The properties since the last part. -/
  properties : List Node
  /-- The finished parts. -/
  fragments : List Node

namespace PropsBuilder

/-- No properties yet. -/
def new (mergeProps : Bool) : PropsBuilder := ⟨mergeProps, [], []⟩

/-- Adds properties. -/
def extend (b : PropsBuilder) (properties : List Node) : PropsBuilder :=
  { b with properties := b.properties ++ properties }

/-- Adds a property. -/
def push (b : PropsBuilder) (property : Node) : PropsBuilder := b.extend [property]

/-- Makes a part of the properties since the last one. -/
def flush (b : PropsBuilder) : PropsBuilder :=
  if b.properties.isEmpty then b
  else { b with
    properties := []
    fragments := b.fragments ++ [.objectOf (Node.foldProperties b.properties)] }

/-- After a flush all properties are in parts. -/
theorem properties_flush (b : PropsBuilder) : b.flush.properties = [] := by
  unfold flush
  split
  · rename_i hempty
    exact List.isEmpty_iff.mp hempty
  · rfl

theorem mergeProps_flush (b : PropsBuilder) : b.flush.mergeProps = b.mergeProps := by
  unfold flush
  split <;> rfl

/-- A flush changes nothing if no properties were added since the last part. -/
theorem flush_of_properties_eq_nil {b : PropsBuilder} (h : b.properties = []) : b.flush = b := by
  unfold flush
  rw [if_pos (List.isEmpty_iff.mpr h)]

/-- Properties that were added since the last part become an object literal. -/
theorem fragments_flush_of_ne_nil {b : PropsBuilder} (h : b.properties ≠ []) :
    b.flush.fragments = b.fragments ++ [.objectOf (Node.foldProperties b.properties)] := by
  unfold flush
  rw [if_neg (h ∘ List.isEmpty_iff.mp)]

/-- The parts after a flush are those before it, and perhaps an object literal. -/
theorem fragments_flush (b : PropsBuilder) :
    b.flush.fragments = b.fragments ∨
      b.flush.fragments = b.fragments ++ [.objectOf (Node.foldProperties b.properties)] := by
  by_cases h : b.properties = []
  · exact Or.inl (congrArg fragments (flush_of_properties_eq_nil h))
  · exact Or.inr (fragments_flush_of_ne_nil h)

/-- Parts are never lost. -/
theorem fragments_flush_ne_nil {b : PropsBuilder} (h : b.fragments ≠ []) :
    b.flush.fragments ≠ [] := by
  rcases b.fragments_flush with hf | hf
  · exact hf ▸ h
  · rw [hf]
    exact List.append_ne_nil_of_left_ne_nil h _

/-- Adds an expression that has to reach `mergeProps` on its own. -/
def pushFragment (b : PropsBuilder) (part : Node) : PropsBuilder :=
  let b := b.flush
  { b with fragments := b.fragments ++ [part] }

/-- Adds the properties of an operand after three dots. -/
def pushSpread (b : PropsBuilder) (operand : Node) : PropsBuilder :=
  if b.mergeProps then b.pushFragment operand
  else
    match operand with
    | .object _ properties => b.extend properties
    | _ => b.push (.spreadOf operand)

/-- The argument made of properties alone; a single spread stands for itself. -/
def single (properties : List Node) : Option Node :=
  match properties with
  | [] => none
  | [.spread _ operand] => some operand
  | _ => some (.objectOf (Node.foldProperties properties))

/-- The props argument, if there are properties. -/
def finish (b : PropsBuilder) (imports : Imports) : Option Node × Imports :=
  if b.fragments.isEmpty then (single b.properties, imports)
  else
    match b.flush.fragments with
    | [part] => (some part, imports)
    | parts =>
      let (merge, imports) := imports.get .mergeProps
      (some (.invoke merge parts), imports)

end PropsBuilder

end JsxVNode
