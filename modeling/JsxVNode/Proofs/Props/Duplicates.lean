import JsxVNode.Props.Duplicates

/-!
# What folding keeps

Folding repeated properties either keeps a property or folds a later value into an
earlier property of the same name. A condition on properties that such a fold keeps
holds of all folded properties if it holds of all properties.
-/

namespace JsxVNode.Node

/-- A named property has its name from its key. -/
theorem keyName?_propertyKey {name : String} {property : Node}
    (h : property.propertyName? = some name) : property.propertyKey.keyName? = some name := by
  cases property with
  | pair key value => exact h
  | ident ident => exact h
  | _ => cases h

/-- A folded property keeps its name. -/
theorem propertyName?_foldProperty {name : String} {earlier later : Node}
    (h : earlier.propertyName? = some name) :
    (foldProperty name earlier later).propertyName? = some name :=
  keyName?_propertyKey h

variable {P : Node → Prop}

/-- A condition holds of a property with a later value folded in if it holds of both properties. -/
def KeptByFold (P : Node → Prop) : Prop :=
  ∀ (name : String) (earlier later : Node), earlier.propertyName? = some name →
    later.propertyName? = some name → P earlier → P later →
    P (foldProperty name earlier later.propertyValue)

theorem KeptByFold.foldInto (hP : KeptByFold P) {name : String} {later : Node}
    (hn : later.propertyName? = some name) (hl : P later) {run out : List Node}
    (h : ∀ property ∈ run, P property) (ho : foldInto? name later.propertyValue run = some out) :
    ∀ property ∈ out, P property := by
  induction run generalizing out with
  | nil => cases ho
  | cons property run ih =>
    rw [List.forall_mem_cons] at h
    unfold foldInto? at ho
    split at ho
    · rename_i he
      cases ho
      exact List.forall_mem_cons.mpr ⟨hP name property later he hn h.1 hl, h.2⟩
    · obtain ⟨rest, hr, rfl⟩ := Option.map_eq_some_iff.mp ho
      exact List.forall_mem_cons.mpr ⟨h.1, ih h.2 hr⟩

/-- Adding a property to a run keeps a condition of the properties. -/
theorem KeptByFold.addProperty (hP : KeptByFold P) {run : List Node}
    (h : ∀ property ∈ run, P property) {property : Node} (hp : P property) :
    ∀ other ∈ addProperty run property, P other := by
  have happ : ∀ other ∈ run ++ [property], P other :=
    List.forall_mem_append.mpr ⟨h, List.forall_mem_singleton.mpr hp⟩
  unfold Node.addProperty
  split
  · exact happ
  · rename_i name hn
    cases ho : foldInto? name property.propertyValue run with
    | none => exact happ
    | some out => exact hP.foldInto hn hp h ho

/-- Folding the rest of a list into a run keeps a condition of the properties. -/
theorem KeptByFold.foldPropertiesAfter (hP : KeptByFold P) {run properties : List Node}
    (hr : ∀ property ∈ run, P property) (hp : ∀ property ∈ properties, P property) :
    ∀ property ∈ foldPropertiesAfter run properties, P property := by
  induction properties generalizing run with
  | nil => exact hr
  | cons property properties ih =>
    rw [List.forall_mem_cons] at hp
    unfold Node.foldPropertiesAfter
    split
    · rw [List.forall_mem_append, List.forall_mem_cons]
      exact ⟨hr, hp.1, ih (List.forall_mem_nil _) hp.2⟩
    · exact ih (hP.addProperty hr hp.1) hp.2

/-- A condition that a single fold keeps is kept by folding all repeated properties. -/
theorem KeptByFold.foldProperties (hP : KeptByFold P) {properties : List Node}
    (h : ∀ property ∈ properties, P property) :
    ∀ property ∈ foldProperties properties, P property :=
  hP.foldPropertiesAfter (List.forall_mem_nil _) h

end JsxVNode.Node
