import JsxVNode.Props.Builder
import JsxVNode.Proofs.Props.Runs

/-!
# Props in source order

The props argument is an object, an operand that stands for itself, or a call that
merges several of these, and which one it is depends on whether parts are merged at run
time. Read as one flat list of properties and spreads, it is always the same: what was
added, in source order, with repeated properties folded. The proof follows the builder
one operation at a time. Its invariant is an equation about everything that may still
be added, because folding reaches back to the last spread.
-/

namespace JsxVNode

namespace Node

/-- Whether a node is an object literal. -/
def isObject : Node → Bool
  | .object .. => true
  | _ => false

/-- Whether an expression calls a generated name. -/
def isCallOf (name : String) : Node → Bool
  | .call _ _ (.ident callee) _ => callee.id == ⟨name, 0⟩
  | _ => false

/-- Whether nothing is known of an operand: it is neither an object literal nor a merging call. -/
def isOpaque (merge : String) (operand : Node) : Bool :=
  !operand.isObject && !operand.isCallOf merge

mutual

/-- The properties and spreads that a props argument stands for, in order: an object literal has its
properties, a merging call what its arguments have, and anything else is spread. -/
def flattened (merge : String) : Node → List Node
  | .object _ properties => properties
  | .call span scope (.ident callee) args =>
    if callee.id = ⟨merge, 0⟩ then flattenedAll merge args
    else [.spreadOf (.call span scope (.ident callee) args)]
  | operand => [.spreadOf operand]

/-- What several arguments stand for, one after the other. -/
def flattenedAll (merge : String) : List Node → List Node
  | [] => []
  | arg :: args => arg.flattened merge ++ flattenedAll merge args

end

variable {merge : String} {operand : Node}

theorem flattenedAll_eq (merge : String) (args : List Node) :
    flattenedAll merge args = args.flatMap (flattened merge) := by
  induction args with
  | nil => rfl
  | cons arg args ih => rw [flattenedAll, List.flatMap_cons, ih]

theorem flattened_objectOf (merge : String) (properties : List Node) :
    (objectOf properties).flattened merge = properties := rfl

/-- A call that merges is flattened to what its arguments are flattened to. -/
theorem flattened_invoke (merge : String) (args : List Node) :
    (invoke merge args).flattened merge = args.flatMap (flattened merge) := by
  rw [invoke, callOf, ref, flattened, Ident.id_generated, if_pos rfl, flattenedAll_eq]

/-- What cannot be looked into stays together as one spread. -/
theorem flattened_of_isOpaque (h : operand.isOpaque merge = true) :
    operand.flattened merge = [.spreadOf operand] := by
  cases operand with
  | object span properties => cases h
  | call span scope callee args =>
    cases callee with
    | ident callee =>
      have hne : callee.id ≠ ⟨merge, 0⟩ := by
        simpa [isOpaque, isObject, isCallOf] using h
      rw [flattened, if_neg hne]
    | _ => rfl
  | _ => rfl

/-- Only an empty run has no first occurrences. -/
theorem firstOccurrences_eq_nil_iff {run : List Node} : firstOccurrences run = [] ↔ run = [] := by
  cases run <;> simp [firstOccurrences]

/-- Only an empty list folds to an empty one. -/
theorem foldProperties_eq_nil_iff {properties : List Node} :
    foldProperties properties = [] ↔ properties = [] := by
  induction properties using runs_induction with
  | single run h =>
    rw [foldProperties_of_spreadFree h, foldedRun, List.map_eq_nil_iff, firstOccurrences_eq_nil_iff]
  | spread run spread rest h hs ih => simp [foldProperties_append_spread hs]

end Node

namespace PropsBuilder

/-- What can be added to a builder. -/
inductive Operation where
  | push (property : Node)
  | extend (properties : List Node)
  | spread (operand : Node)
  | fragment (part : Node)

namespace Operation

/-- What an operation adds to the flat list of properties and spreads. -/
def flat : Operation → List Node
  | .push property => [property]
  | .extend properties => properties
  | .spread operand => [.spreadOf operand]
  | .fragment part => [.spreadOf part]

/-- Properties that are added are no spreads, and nothing is known of operands and parts. -/
def isPlain (merge : String) : Operation → Bool
  | .push property => !property.isSpread
  | .extend properties => properties.all (!·.isSpread)
  | .spread operand => operand.isOpaque merge
  | .fragment part => part.isOpaque merge

end Operation

/-- The builder after an operation. -/
def perform (b : PropsBuilder) : Operation → PropsBuilder
  | .push property => b.push property
  | .extend properties => b.extend properties
  | .spread operand => b.pushSpread operand
  | .fragment part => b.pushFragment part

/-- The builder after several operations. -/
def performAll (b : PropsBuilder) (operations : List Operation) : PropsBuilder :=
  operations.foldl perform b

/-- A builder to which everything was added by the given operations. -/
def ofOperations (mergeProps : Bool) (operations : List Operation) : PropsBuilder :=
  (new mergeProps).performAll operations

/-- The parts of the props argument. -/
def parts (b : PropsBuilder) : List Node := b.flush.fragments

variable {b : PropsBuilder} {merge : String} {flat : List Node}

/-- Without pending properties the parts are those that were closed before. -/
theorem parts_of_properties_eq_nil (h : b.properties = []) : b.parts = b.fragments :=
  congrArg fragments (flush_of_properties_eq_nil h)

/-- Pending properties make the last part, once they are folded. -/
theorem parts_of_properties_ne_nil (h : b.properties ≠ []) :
    b.parts = b.fragments ++ [.objectOf (Node.foldProperties b.properties)] :=
  fragments_flush_of_ne_nil h

theorem properties_pushFragment (b : PropsBuilder) (part : Node) :
    (b.pushFragment part).properties = [] := b.properties_flush

theorem fragments_pushFragment (b : PropsBuilder) (part : Node) :
    (b.pushFragment part).fragments = b.parts ++ [part] := rfl

/-- A spread that cannot be looked into is a part if parts are merged, and a property if not. -/
theorem pushSpread_of_isOpaque {operand : Node} (h : operand.isOpaque merge = true) :
    b.pushSpread operand =
      if b.mergeProps then b.pushFragment operand else b.push (.spreadOf operand) := by
  unfold pushSpread
  cases operand with
  | object span properties => cases h
  | _ => rfl

/-- A builder holds the given properties and spreads. Its parts are complete, while the properties
since the last part can still be folded with what is added next. -/
structure Holds (b : PropsBuilder) (merge : String) (flat : List Node) : Prop where
  /-- Every spread that stays inline has an operand of which nothing is known. -/
  spreads : ∀ property ∈ b.properties, property.isSpread = true →
    ∃ operand : Node, operand.isOpaque merge = true ∧ property = .spreadOf operand
  /-- A part is such an operand or an object with properties. -/
  complete : ∀ part ∈ b.fragments, part.isOpaque merge = true ∨
    ∃ properties, properties ≠ [] ∧ part = .objectOf properties
  order : ∀ more, Node.foldProperties (flat ++ more) =
    b.fragments.flatMap (Node.flattened merge) ++ Node.foldProperties (b.properties ++ more)

theorem holds_new (mergeProps : Bool) (merge : String) : (new mergeProps).Holds merge [] :=
  ⟨List.forall_mem_nil _, List.forall_mem_nil _, fun _ => rfl⟩

/-- What the parts stand for is what is in them and in the properties since the last one. -/
theorem flatMap_parts (b : PropsBuilder) (merge : String) :
    b.parts.flatMap (Node.flattened merge) =
      b.fragments.flatMap (Node.flattened merge) ++ Node.foldProperties b.properties := by
  by_cases h : b.properties = []
  · rw [parts_of_properties_eq_nil h, h, Node.foldProperties_eq_nil_iff.mpr rfl, List.append_nil]
  · rw [parts_of_properties_ne_nil h, List.flatMap_append, List.flatMap_singleton,
      Node.flattened_objectOf]

/-- Every part is opaque or an object that is not empty. -/
theorem Holds.complete_parts (h : b.Holds merge flat) :
    ∀ part ∈ b.parts, part.isOpaque merge = true ∨
      ∃ properties, properties ≠ [] ∧ part = .objectOf properties := by
  by_cases hp : b.properties = []
  · rw [parts_of_properties_eq_nil hp]
    exact h.complete
  · rw [parts_of_properties_ne_nil hp]
    refine List.forall_mem_append.mpr ⟨h.complete, List.forall_mem_singleton.mpr (Or.inr ?_)⟩
    exact ⟨_, mt Node.foldProperties_eq_nil_iff.mp hp, rfl⟩

/-- Added properties come last in the flat list. -/
theorem Holds.extend (h : b.Holds merge flat) {properties : List Node}
    (hs : ∀ property ∈ properties, property.isSpread = true →
      ∃ operand : Node, operand.isOpaque merge = true ∧ property = .spreadOf operand) :
    (b.extend properties).Holds merge (flat ++ properties) := by
  refine ⟨List.forall_mem_append.mpr ⟨h.spreads, hs⟩, h.complete, fun more => ?_⟩
  have horder := h.order (properties ++ more)
  rw [← List.append_assoc, ← List.append_assoc] at horder
  exact horder

/-- A part ends a run of properties, as a spread does. -/
theorem Holds.pushFragment (h : b.Holds merge flat) {part : Node}
    (hp : part.isOpaque merge = true) :
    (b.pushFragment part).Holds merge (flat ++ [.spreadOf part]) := by
  refine ⟨?_, ?_, fun more => ?_⟩
  · rw [properties_pushFragment]
    exact List.forall_mem_nil _
  · rw [fragments_pushFragment]
    exact List.forall_mem_append.mpr
      ⟨h.complete_parts, List.forall_mem_singleton.mpr (Or.inl hp)⟩
  · rw [properties_pushFragment, fragments_pushFragment, List.append_assoc,
      List.singleton_append, h.order, Node.foldProperties_append_spread rfl, List.flatMap_append,
      flatMap_parts, List.flatMap_singleton, Node.flattened_of_isOpaque hp]
    simp

/-- One operation adds to the end of the flat list what it stands for. -/
theorem Holds.perform (h : b.Holds merge flat) {operation : Operation}
    (ho : operation.isPlain merge = true) :
    (b.perform operation).Holds merge (flat ++ operation.flat) := by
  cases operation with
  | push property =>
    refine h.extend (List.forall_mem_singleton.mpr fun hs => ?_)
    simp [Operation.isPlain, hs] at ho
  | extend properties =>
    refine h.extend fun property hproperty hs => ?_
    have hplain := List.all_eq_true.mp ho property hproperty
    rw [hs] at hplain
    cases hplain
  | fragment part => exact h.pushFragment ho
  | spread operand =>
    rw [PropsBuilder.perform, pushSpread_of_isOpaque ho]
    split
    · exact h.pushFragment ho
    · exact h.extend (List.forall_mem_singleton.mpr fun _ => ⟨operand, ho, rfl⟩)

/-- Any number of operations add what they stand for, in their order. -/
theorem Holds.performAll (h : b.Holds merge flat) {operations : List Operation}
    (ho : ∀ operation ∈ operations, operation.isPlain merge = true) :
    (b.performAll operations).Holds merge (flat ++ operations.flatMap Operation.flat) := by
  induction operations generalizing b flat with
  | nil => simpa [PropsBuilder.performAll] using h
  | cons operation operations ih =>
    rw [List.forall_mem_cons] at ho
    rw [List.flatMap_cons, ← List.append_assoc]
    exact ih (h.perform ho.1) ho.2

/-- The argument made of properties alone stands for them. -/
theorem Holds.flattened_single (h : b.Holds merge flat) :
    ((single b.properties).elim [] (Node.flattened merge)) = Node.foldProperties b.properties := by
  have hspreads := h.spreads
  unfold single
  split
  · rename_i hp
    rw [hp]
    exact (Node.foldProperties_eq_nil_iff.mpr rfl).symm
  · rename_i dots operand hp
    rw [hp] at hspreads ⊢
    obtain ⟨known, hknown, he⟩ := hspreads _ (List.mem_singleton_self _) rfl
    cases he
    rw [Option.elim_some, Node.flattened_of_isOpaque hknown]
    rfl
  · rfl

/-- Without closed parts the props argument is built from the pending properties, and nothing is
asked for. -/
theorem finish_of_fragments_eq_nil {imports : Imports} (h : b.fragments = []) :
    b.finish imports = (single b.properties, imports) := by
  rw [finish, h]
  rfl

/-- Where there are finished parts, the argument is made of all parts. -/
theorem finish_of_fragments_ne_nil {imports : Imports} (h : b.fragments ≠ []) :
    b.finish imports =
      if 2 ≤ b.parts.length then
        (some (.invoke (imports.get .mergeProps).1 b.parts), (imports.get .mergeProps).2)
      else (b.parts.head?, imports) := by
  have hne : b.parts ≠ [] := fragments_flush_ne_nil h
  unfold finish
  rw [if_neg (h ∘ List.isEmpty_iff.mp)]
  unfold parts at hne ⊢
  match hparts : b.flush.fragments with
  | [] => exact absurd hparts hne
  | [part] => rfl
  | first :: second :: rest => simp

/-- A finished argument stands for what the builder holds. -/
theorem Holds.flattened_finish {imports : Imports}
    (h : b.Holds (imports.get .mergeProps).1 flat) :
    (b.finish imports).1.elim [] (Node.flattened (imports.get .mergeProps).1) =
      Node.foldProperties flat := by
  have horder := h.order []
  rw [List.append_nil, List.append_nil] at horder
  by_cases hf : b.fragments = []
  · rw [horder, finish_of_fragments_eq_nil hf, hf, h.flattened_single]
    rfl
  · have hne : b.parts ≠ [] := fragments_flush_ne_nil hf
    rw [horder, ← flatMap_parts, finish_of_fragments_ne_nil hf]
    split
    · exact Node.flattened_invoke _ _
    · match hparts : b.parts with
      | [] => exact absurd hparts hne
      | [part] => simp
      | first :: second :: rest =>
        rename_i hlength
        rw [hparts] at hlength
        simp at hlength

theorem parts_eq_nil_iff : b.parts = [] ↔ b.fragments = [] ∧ b.properties = [] := by
  by_cases h : b.properties = []
  · simp [parts_of_properties_eq_nil h, h]
  · simp [parts_of_properties_ne_nil h, h]

/-- A builder that merges parts has divided what was added into what is in its parts, where the last
is a spread, and the properties since then. -/
structure Divides (b : PropsBuilder) (before : List Node) : Prop where
  merges : b.mergeProps = true
  plain : Node.SpreadFree b.properties
  fragments_eq_nil : b.fragments = [] ↔ before = []
  several : 2 ≤ b.fragments.length ↔ 2 ≤ before.length
  spread : before ≠ [] → ∃ property ∈ before, property.isSpread = true

theorem divides_new : (new true).Divides [] :=
  ⟨rfl, List.forall_mem_nil _, Iff.rfl, Iff.rfl, fun h => absurd rfl h⟩

/-- Properties without spreads are added behind the last division. -/
theorem Divides.extend {before : List Node} (h : b.Divides before) {properties : List Node}
    (hp : Node.SpreadFree properties) : (b.extend properties).Divides before :=
  ⟨h.merges, List.forall_mem_append.mpr ⟨h.plain, hp⟩, h.fragments_eq_nil, h.several, h.spread⟩

/-- A part of its own divides what was added before it from what follows. -/
theorem Divides.pushFragment {before : List Node} (h : b.Divides before) (part : Node) :
    (b.pushFragment part).Divides (before ++ b.properties ++ [.spreadOf part]) := by
  have hnone : b.parts = [] ↔ before ++ b.properties = [] := by
    rw [parts_eq_nil_iff, h.fragments_eq_nil, List.append_eq_nil_iff]
  refine ⟨b.mergeProps_flush.trans h.merges, ?_, ?_, ?_, fun _ => ?_⟩
  · rw [properties_pushFragment]
    exact List.forall_mem_nil _
  · simp [fragments_pushFragment]
  · have hlength : 0 < b.parts.length ↔ 0 < (before ++ b.properties).length := by
      rw [List.length_pos_iff, List.length_pos_iff]
      exact not_congr hnone
    rw [fragments_pushFragment, List.length_append, List.length_append, List.length_singleton,
      List.length_singleton]
    omega
  · exact ⟨_, List.mem_append_right _ (List.mem_singleton_self _), rfl⟩

/-- An operation adds to the properties since the last part or ends a part. -/
theorem Divides.perform {before : List Node} (h : b.Divides before) {operation : Operation}
    (ho : operation.isPlain merge = true) :
    ∃ before', (b.perform operation).Divides before' ∧
      before' ++ (b.perform operation).properties = before ++ b.properties ++ operation.flat := by
  have hextend {properties : List Node} (hp : Node.SpreadFree properties) :
      ∃ before', (b.extend properties).Divides before' ∧
        before' ++ (b.extend properties).properties = before ++ b.properties ++ properties :=
    ⟨before, h.extend hp, (List.append_assoc _ _ _).symm⟩
  have hfragment (part : Node) : ∃ before', (b.pushFragment part).Divides before' ∧
      before' ++ (b.pushFragment part).properties =
        before ++ b.properties ++ [.spreadOf part] := by
    refine ⟨_, h.pushFragment part, ?_⟩
    rw [properties_pushFragment, List.append_nil]
  cases operation with
  | push property =>
    refine hextend (List.forall_mem_singleton.mpr ?_)
    simpa [Operation.isPlain] using ho
  | extend properties =>
    refine hextend fun property hp => ?_
    simpa using List.all_eq_true.mp ho property hp
  | fragment part => exact hfragment part
  | spread operand =>
    rw [PropsBuilder.perform, pushSpread_of_isOpaque ho, if_pos h.merges]
    exact hfragment operand

/-- Operations keep the divisions, and what lies between them is what was added there. -/
theorem Divides.performAll {before : List Node} (h : b.Divides before)
    {operations : List Operation}
    (ho : ∀ operation ∈ operations, operation.isPlain merge = true) :
    ∃ before', (b.performAll operations).Divides before' ∧
      before' ++ (b.performAll operations).properties =
        before ++ b.properties ++ operations.flatMap Operation.flat := by
  induction operations generalizing b before with
  | nil => exact ⟨before, h, (List.append_nil _).symm⟩
  | cons operation operations ih =>
    rw [List.forall_mem_cons] at ho
    obtain ⟨between, hbetween, heq⟩ := h.perform ho.1
    obtain ⟨after, hafter, hrest⟩ := ih hbetween ho.2
    refine ⟨after, hafter, ?_⟩
    rw [List.flatMap_cons, ← List.append_assoc, ← heq]
    exact hrest

/-- There are several parts if something is spread and is not all there is. -/
theorem Divides.two_le_length_parts {before : List Node} (h : b.Divides before) :
    2 ≤ b.parts.length ↔ 2 ≤ (before ++ b.properties).length ∧
      ∃ property ∈ before ++ b.properties, property.isSpread = true := by
  by_cases hp : b.properties = []
  · rw [parts_of_properties_eq_nil hp, hp, List.append_nil, h.several]
    constructor
    · intro hlength
      have hne : before ≠ [] := by
        rintro rfl
        simp at hlength
      exact ⟨hlength, h.spread hne⟩
    · exact And.left
  · have hpos : 0 < b.properties.length := List.length_pos_iff.mpr hp
    rw [parts_of_properties_ne_nil hp, List.length_append, List.length_append,
      List.length_singleton]
    constructor
    · intro hlength
      have hfragments : b.fragments ≠ [] := List.length_pos_iff.mp (by omega)
      have hne : before ≠ [] := mt h.fragments_eq_nil.mpr hfragments
      have hbefore : 0 < before.length := List.length_pos_iff.mpr hne
      obtain ⟨property, hmem, hs⟩ := h.spread hne
      exact ⟨by omega, property, List.mem_append_left _ hmem, hs⟩
    · rintro ⟨_, property, hmem, hs⟩
      have hbefore : before ≠ [] := by
        rintro rfl
        rw [h.plain property hmem] at hs
        cases hs
      have hfragments : 0 < b.fragments.length :=
        List.length_pos_iff.mpr (mt h.fragments_eq_nil.mp hbefore)
      omega

/-- A builder that merges parts makes the argument of its parts. -/
theorem Divides.finish_eq {before : List Node} (h : b.Divides before) (imports : Imports) :
    b.finish imports =
      if 2 ≤ b.parts.length then
        (some (.invoke (imports.get .mergeProps).1 b.parts), (imports.get .mergeProps).2)
      else (b.parts.head?, imports) := by
  by_cases hf : b.fragments = []
  · have hplain := h.plain
    rw [finish_of_fragments_eq_nil hf]
    unfold single
    split
    · rename_i hp
      simp [parts_of_properties_eq_nil hp, hf]
    · rename_i hp
      rw [hp] at hplain
      cases hplain _ (List.mem_singleton_self _)
    · rename_i hne _
      simp [parts_of_properties_ne_nil hne, hf]
  · exact finish_of_fragments_ne_nil hf

end PropsBuilder

/-- The props argument stands for the properties and spreads that were added, in source order and
with repeated properties folded, whether or not parts are merged at run time. If they are, the
merging function is requested for two or more parts, which is when something is spread and is not
all there is, and no part is an object without properties. -/
theorem PropsBuilder.finish_keeps_source_order (mergeProps : Bool) (imports : Imports)
    (operations : List Operation)
    (ho : ∀ operation ∈ operations, operation.isPlain (imports.get .mergeProps).1 = true) :
    ((ofOperations mergeProps operations).finish imports).1.elim []
        (Node.flattened (imports.get .mergeProps).1) =
      Node.foldProperties (operations.flatMap Operation.flat) ∧
    (mergeProps = true →
      (ofOperations mergeProps operations).finish imports =
        (if 2 ≤ (ofOperations mergeProps operations).parts.length then
          (some (.invoke (imports.get .mergeProps).1 (ofOperations mergeProps operations).parts),
            (imports.get .mergeProps).2)
        else ((ofOperations mergeProps operations).parts.head?, imports)) ∧
      (2 ≤ (ofOperations mergeProps operations).parts.length ↔
        2 ≤ (operations.flatMap Operation.flat).length ∧
          ∃ property ∈ operations.flatMap Operation.flat, property.isSpread = true) ∧
      ∀ part ∈ (ofOperations mergeProps operations).parts, ∀ span, part ≠ .object span []) := by
  have hholds := (holds_new mergeProps (imports.get .mergeProps).1).performAll ho
  rw [List.nil_append] at hholds
  refine ⟨hholds.flattened_finish, ?_⟩
  rintro rfl
  obtain ⟨before, hdivides, heq⟩ := divides_new.performAll ho
  have hflat : before ++ (ofOperations true operations).properties =
      operations.flatMap Operation.flat := heq
  refine ⟨hdivides.finish_eq imports, ?_, ?_⟩
  · rw [← hflat]
    exact hdivides.two_le_length_parts
  · rintro part hpart span rfl
    rcases hholds.complete_parts _ hpart with hopaque | ⟨properties, hne, he⟩
    · cases hopaque
    · cases he
      exact hne rfl

/-- What is added for `id={first} {...rest} class={second} class={third}` and a map of handlers. -/
def PropsBuilder.Operation.samples : List Operation :=
  [.push (.pair (.str "id") (.ref "first")), .spread (.ref "rest"),
    .extend [.pair (.str "class") (.ref "second"), .pair (.str "class") (.ref "third")],
    .fragment (.invoke "_transformOn" [.ref "handlers"])]

/-- Merged, the parts are the two objects with the operand and the map of handlers at their places.
They stand for the same properties as those of a builder that keeps the spread inline. -/
theorem PropsBuilder.finish_samples :
    (∀ operation ∈ Operation.samples,
      operation.isPlain ((Imports.new .default .none).get .mergeProps).1 = true) ∧
      ((ofOperations true Operation.samples).finish (.new .default .none)).1 =
        some (.invoke "_mergeProps" [.objectOf [.pair (.str "id") (.ref "first")], .ref "rest",
          .objectOf [.pair (.str "class") (.arrayOf [.ref "second", .ref "third"])],
          .invoke "_transformOn" [.ref "handlers"]]) ∧
      ((ofOperations true Operation.samples).finish (.new .default .none)).1.elim []
          (Node.flattened ((Imports.new .default .none).get .mergeProps).1) =
        ((ofOperations false Operation.samples).finish (.new .default .none)).1.elim []
          (Node.flattened ((Imports.new .default .none).get .mergeProps).1) := by
  have hplain : ∀ operation ∈ Operation.samples,
      operation.isPlain ((Imports.new .default .none).get .mergeProps).1 = true := by decide
  have hmerged := finish_keeps_source_order true (.new .default .none) Operation.samples hplain
  have hinline := finish_keeps_source_order false (.new .default .none) Operation.samples hplain
  exact ⟨hplain, by rw [(hmerged.2 rfl).1]; rfl, hmerged.1.trans hinline.1.symm⟩

end JsxVNode
