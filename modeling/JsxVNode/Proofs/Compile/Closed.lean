import JsxVNode.Compile.Element
import JsxVNode.Proofs.Compile.Directive
import JsxVNode.Proofs.Imports.Requests
import JsxVNode.Proofs.Props.Duplicates
import JsxVNode.Proofs.Tree.Markup

/-!
# Conditions that compilation keeps

Compiling copies the expressions that stand in a piece of markup, takes some of them
apart, and wraps them in generated nodes. A condition on nodes is closed if all of
this keeps it. This file says what a closed condition gives for the data that the
compiler passes around: the props builder, directives taken apart, models, and the
state of the properties.
-/

namespace JsxVNode

/-- A condition on nodes that taking nodes apart and putting them together keeps, as far as the
compiler does either, and that holds of every name the imports hand out. The key of a property and
a name after a dot are names and not expressions. -/
structure Node.Closed (imports : Imports) (P : Node → Prop) : Prop where
  hole : P .hole
  lit : ∀ value, P (.lit value)
  paren_iff : ∀ span body, P (.paren span body) ↔ P body
  array_iff : ∀ span elements, P (.array span elements) ↔ ∀ node ∈ elements, P node
  object_iff : ∀ span properties, P (.object span properties) ↔ ∀ node ∈ properties, P node
  spread_iff : ∀ dots operand, P (.spread dots operand) ↔ P operand
  pair : ∀ {key value}, P key → P value → P (.pair key value)
  pair_ref : ∀ name {value}, P value → P (.pair (.ref name) value)
  pair_value : ∀ {key value}, P (.pair key value) → P value
  pair_of_pair : ∀ {key value value'}, P (.pair key value) → P value' → P (.pair key value')
  call : ∀ span scope {callee args}, P callee → (∀ node ∈ args, P node) →
    P (.call span scope callee args)
  group : ∀ {items}, (∀ node ∈ items, P node) → P (.group items)
  form : ∀ label {parts}, (∀ node ∈ parts, P node) → P (.form label parts)
  member : ∀ {object} property, P object → P (.member object property)
  handler : ∀ {target}, P target → P (updateHandler target)
  ref : ∀ {name}, imports.HandsOut name → P (.ref name)

section

variable {imports : Imports} {P : Node → Prop}

namespace Node.Closed

/-- A closed condition holds of `undefined`, which is generated for values that are left out. -/
theorem undefined (h : Closed imports P) : P .undefined :=
  h.form _ (List.forall_mem_singleton.mpr (h.lit _))

theorem binary (h : Closed imports P) (operator : String) {left right : Node} (hl : P left)
    (hr : P right) : P (.binary operator left right) :=
  h.form _ (by simp [hl, hr])

/-- An array satisfies a closed condition if and only if its elements do. -/
theorem arrayOf_iff (h : Closed imports P) {elements : List Node} :
    P (.arrayOf elements) ↔ ∀ node ∈ elements, P node :=
  h.array_iff _ _

/-- An object satisfies a closed condition if and only if its properties do. -/
theorem objectOf_iff (h : Closed imports P) {properties : List Node} :
    P (.objectOf properties) ↔ ∀ node ∈ properties, P node :=
  h.object_iff _ _

/-- Calling a name that was handed out satisfies a closed condition if the arguments do. -/
theorem invoke (h : Closed imports P) {name : String} (hn : imports.HandsOut name)
    {args : List Node} (ha : ∀ node ∈ args, P node) : P (.invoke name args) :=
  h.call _ _ (h.ref hn) ha

theorem computedKey (h : Closed imports P) {key : Node} (hk : P key) : P (.computedKey key) :=
  h.form _ (List.forall_mem_singleton.mpr hk)

theorem conditional (h : Closed imports P) {test consequent alternate : Node} (ht : P test)
    (hc : P consequent) (ha : P alternate) : P (.conditional test consequent alternate) :=
  h.form _ (by simp [ht, hc, ha])

theorem thunk (h : Closed imports P) {body : Node} (hb : P body) : P (.thunk body) :=
  h.form _ (by simpa [hb] using h.group (List.forall_mem_nil _))

theorem defaultSlot (h : Closed imports P) {slot : Node} (hs : P slot) : P (defaultSlot slot) :=
  h.pair_ref _ hs

/-- The object of slots for some items satisfies a closed condition if the items do. -/
theorem slotsOf (h : Closed imports P) {items : List Node} (hi : ∀ node ∈ items, P node) :
    P (slotsOf items) :=
  h.objectOf_iff.mpr
    (List.forall_mem_singleton.mpr (h.defaultSlot (h.thunk (h.arrayOf_iff.mpr hi))))

/-- The object that lists modifiers is made of literals, so it satisfies every closed condition. -/
theorem modifiersObject (h : Closed imports P) (modifiers : NameSet) :
    P (modifiersObject modifiers) := by
  refine h.objectOf_iff.mpr fun node hn => ?_
  obtain ⟨m, _, rfl⟩ := List.mem_map.mp hn
  split
  · exact h.pair_ref m (h.lit _)
  · exact h.pair (h.lit _) (h.lit _)

/-- The expression inside parentheses satisfies the condition that they satisfy. -/
theorem unparen (h : Closed imports P) {node : Node} (hn : P node) : P node.unparen := by
  cases node with
  | paren span body =>
    have hb : P body.unparen := h.unparen ((h.paren_iff span body).mp hn)
    exact hb
  | _ => exact hn

/-- The elements of an array satisfy the condition that the array satisfies. -/
theorem elements (h : Closed imports P) {node : Node} (hn : P node) {elements : List Node}
    (he : node.elements? = some elements) : ∀ element ∈ elements, P element := by
  cases node with
  | array span _ =>
    cases he
    exact (h.array_iff _ _).mp hn
  | _ => cases he

/-- The expression of an element, spread or not, satisfies the condition of the element. -/
theorem elementExpr (h : Closed imports P) {node expr : Node} (hn : P node)
    (he : node.elementExpr? = some expr) : P expr := by
  cases node with
  | hole => cases he
  | spread dots operand =>
    cases he
    exact (h.spread_iff _ _).mp hn
  | _ =>
    cases he
    exact hn

/-- What can be assigned to in an expression satisfies the condition of the expression. -/
theorem assignTarget (h : Closed imports P) {node target : Node} (hn : P node)
    (ht : node.assignTarget? = some target) : P target := by
  have hu := h.unparen hn
  unfold Node.assignTarget? at ht
  split at ht
  · rename_i he
    cases ht
    rwa [he] at hu
  · rename_i he
    split at ht
    · cases ht
      rwa [he] at hu
    · cases ht
  · cases ht

/-- The value of a property satisfies the condition of the property. -/
theorem propertyValue (h : Closed imports P) {node : Node} (hn : P node) :
    P node.propertyValue := by
  cases node with
  | pair key value => exact h.pair_value hn
  | _ => exact hn

/-- Two values of one name that are folded satisfy the condition together if each of them does. -/
theorem foldValue (h : Closed imports P) (name : String) {earlier later : Node}
    (he : P earlier) (hl : P later) : P (foldValue name earlier later) := by
  unfold Node.foldValue
  split
  · split
    · rw [h.array_iff] at he ⊢
      exact List.forall_mem_append.mpr ⟨he, List.forall_mem_singleton.mpr hl⟩
    · exact h.arrayOf_iff.mpr (by simp [he, hl])
  · exact hl

/-- Folding a property into another one of the same name keeps the condition. -/
theorem keptByFold (h : Closed imports P) : KeptByFold P := by
  intro name earlier later hn _ he hl
  have hv := h.foldValue name (h.propertyValue he) (h.propertyValue hl)
  rw [foldProperty]
  cases earlier with
  | pair key value => exact h.pair_of_pair he hv
  | ident key => exact h.pair_ref _ hv
  | _ => cases hn

end Node.Closed

/-- An element at an index is one of the elements, so what holds of all holds of it. -/
theorem Node.elementAt_of_forall {elements : List Node} (h : ∀ node ∈ elements, P node)
    {index : Nat} {element : Node} (he : elementAt? elements index = some element) :
    P element := by
  unfold elementAt? at he
  split at he
  · cases he
  · exact h element (List.mem_of_getElem? he)

namespace PropsBuilder

/-- All that a builder has collected satisfies a condition. -/
structure MadeOf (P : Node → Prop) (b : PropsBuilder) : Prop where
  properties : ∀ node ∈ b.properties, P node
  fragments : ∀ node ∈ b.fragments, P node

theorem MadeOf.extend {b : PropsBuilder} (hb : b.MadeOf P) {properties : List Node}
    (hp : ∀ node ∈ properties, P node) : (b.extend properties).MadeOf P :=
  ⟨List.forall_mem_append.mpr ⟨hb.properties, hp⟩, hb.fragments⟩

/-- Closing the object that is being collected folds its properties and keeps the condition. -/
theorem MadeOf.flush {b : PropsBuilder} (hb : b.MadeOf P) (h : Node.Closed imports P) :
    b.flush.MadeOf P := by
  unfold PropsBuilder.flush
  split
  · exact hb
  · refine ⟨List.forall_mem_nil _, List.forall_mem_append.mpr ⟨hb.fragments, ?_⟩⟩
    rw [List.forall_mem_singleton, h.objectOf_iff]
    exact h.keptByFold.foldProperties hb.properties

theorem MadeOf.pushFragment {b : PropsBuilder} (hb : b.MadeOf P) (h : Node.Closed imports P)
    {part : Node} (hp : P part) : (b.pushFragment part).MadeOf P :=
  ⟨(hb.flush h).properties,
    List.forall_mem_append.mpr ⟨(hb.flush h).fragments, List.forall_mem_singleton.mpr hp⟩⟩

/-- A spread joins the properties or the fragments, wherever the options send it. -/
theorem MadeOf.pushSpread {b : PropsBuilder} (hb : b.MadeOf P) (h : Node.Closed imports P)
    {operand : Node} (ho : P operand) : (b.pushSpread operand).MadeOf P := by
  unfold PropsBuilder.pushSpread
  split
  · exact hb.pushFragment h ho
  · split
    · exact hb.extend ((h.object_iff _ _).mp ho)
    · exact hb.extend (List.forall_mem_singleton.mpr ((h.spread_iff _ _).mpr ho))

/-- A props argument that needs no merging is made of the collected properties. -/
theorem single_of_forall (h : Node.Closed imports P) {properties : List Node}
    (hp : ∀ node ∈ properties, P node) : ∀ node ∈ single properties, P node := by
  unfold single
  split
  · nofun
  · rintro _ ⟨⟩
    exact (h.spread_iff _ _).mp (List.forall_mem_singleton.mp hp)
  · rintro _ ⟨⟩
    exact h.objectOf_iff.mpr (h.keptByFold.foldProperties hp)

end PropsBuilder

/-- The value and the arguments of an entry satisfy a condition. -/
structure DirectiveEntry.MadeOf (P : Node → Prop) (entry : DirectiveEntry) : Prop where
  value : ∀ node ∈ entry.value, P node
  args : ∀ arg ∈ entry.args, ∀ node ∈ arg, P node

/-- The values, the arguments and the tuple of a directive satisfy a condition. -/
structure ParsedDirective.MadeOf (P : Node → Prop) (d : ParsedDirective) : Prop where
  values : ∀ value ∈ d.values, ∀ node ∈ value, P node
  args : ∀ arg ∈ d.args, ∀ node ∈ arg, P node
  tuple : ∀ node ∈ d.tuple, P node

/-- An entry read off the elements of an array is made of these elements. -/
theorem DirectiveEntry.madeOf_ofElements (h : Node.Closed imports P) (keepPlace : Bool)
    (modifiers : NameSet) {elements : List Node} (he : ∀ node ∈ elements, P node) :
    (DirectiveEntry.ofElements keepPlace modifiers elements).MadeOf P := by
  have hv : ∀ node ∈ (Node.elementAt? elements 0).bind Node.elementExpr?, P node := by
    intro node hn
    obtain ⟨first, hf, hx⟩ := Option.bind_eq_some_iff.mp hn
    exact h.elementExpr (Node.elementAt_of_forall he hf) hx
  have hp : ∀ arg ∈ (if keepPlace then [none] else [] : List (Option Node)),
      ∀ node ∈ arg, P node := by
    cases keepPlace <;> simp
  unfold DirectiveEntry.ofElements
  generalize (if keepPlace then [none] else [] : List (Option Node)) = place at hp ⊢
  dsimp only
  split
  · exact ⟨hv, hp⟩
  · rename_i second hs
    split
    · exact ⟨hv, hp⟩
    · split
      · exact ⟨hv, hp⟩
      · exact ⟨hv, by simpa using Node.elementAt_of_forall he hs⟩

/-- The entries of an array of arrays hold nothing but the elements of the inner arrays. -/
theorem nestedElements_of_forall (h : Node.Closed imports P) {elements : List Node}
    (he : ∀ node ∈ elements, P node) {entries : List (List Node)}
    (hn : nestedElements? elements = some entries) : ∀ entry ∈ entries, ∀ node ∈ entry, P node := by
  induction elements generalizing entries with
  | nil =>
    cases hn
    exact List.forall_mem_nil _
  | cons element elements ih =>
    rw [List.forall_mem_cons] at he
    simp only [nestedElements?, Option.bind_eq_bind, Option.bind_eq_some_iff, Option.pure_def,
      Option.some.injEq] at hn
    obtain ⟨expr, hx, inner, hi, rest, hr, rfl⟩ := hn
    have hu := h.unparen (h.elementExpr he.1 hx)
    exact List.forall_mem_cons.mpr ⟨h.elements hu hi, ih he.2 hr⟩

/-- The entries of a directive are made of the value of its attribute. -/
theorem directiveEntries_madeOf (h : Node.Closed imports P) {name : DirectiveName}
    {keepPlace : Bool} {value : Option Node} (hv : ∀ node ∈ value, P node) {fault : Fault}
    {entries : List DirectiveEntry}
    (he : directiveEntries name keepPlace value fault = .ok entries) :
    ∀ entry ∈ entries, entry.MadeOf P := by
  unfold directiveEntries at he
  split at he
  · rename_i elements hb
    obtain ⟨node, hn, hes⟩ := Option.bind_eq_some_iff.mp hb
    have hel := h.elements (h.unparen (hv node hn)) hes
    split at he
    · split at he
      · rename_i inner hi
        cases he
        intro entry hm
        obtain ⟨es, hes', rfl⟩ := List.mem_map.mp hm
        exact DirectiveEntry.madeOf_ofElements h _ _ (nestedElements_of_forall h hel hi es hes')
      · cases he
    · cases he
      exact List.forall_mem_singleton.mpr (DirectiveEntry.madeOf_ofElements h _ _ hel)
  · cases he
    refine List.forall_mem_singleton.mpr ⟨hv, ?_⟩
    dsimp only
    split <;> simp

/-- A directive put together from its entries is made of them and of literals. -/
theorem ParsedDirective.madeOf_ofEntries (h : Node.Closed imports P) (name : DirectiveName)
    {value : Option Node} (hv : ∀ node ∈ value, P node) {entries : List DirectiveEntry}
    (he : ∀ entry ∈ entries, entry.MadeOf P) :
    (ParsedDirective.ofEntries name value entries).MadeOf P := by
  refine ⟨?_, ?_, by simp [ofEntries]⟩
  · unfold ofEntries
    dsimp only
    split
    · exact List.forall_mem_singleton.mpr hv
    · intro v hmem
      obtain ⟨entry, hm, rfl⟩ := List.mem_map.mp hmem
      exact (he entry hm).value
  · intro arg ha
    rcases List.mem_append.mp ha with ha | ha
    · obtain ⟨text, _, rfl⟩ := List.mem_map.mp ha
      rintro _ ⟨⟩
      exact h.lit _
    · obtain ⟨entry, hm, ha⟩ := List.mem_flatMap.mp ha
      exact (he entry hm).args arg ha

/-- The gaps of a tuple are filled by generated values, so the condition holds of the whole
tuple. -/
theorem fillTuple_of_forall (h : Node.Closed imports P) {entries : List (Option Node)}
    (he : ∀ entry ∈ entries, ∀ node ∈ entry, P node) : ∀ node ∈ fillTuple entries, P node := by
  induction entries with
  | nil => exact List.forall_mem_nil _
  | cons entry entries ih =>
    rw [List.forall_mem_cons] at he
    unfold fillTuple
    dsimp only
    split
    · exact List.forall_mem_nil _
    · refine List.forall_mem_cons.mpr ⟨?_, ih he.2⟩
      cases entry with
      | none => exact h.undefined
      | some node => exact he.1 node rfl

/-- The tuple that applies a directive is made of its handle, its value, its argument and
literals. -/
theorem Node.Closed.directiveTuple (h : Node.Closed imports P) {handle : Node} (hh : P handle)
    {value arg : Option Node} (hv : ∀ node ∈ value, P node) (ha : ∀ node ∈ arg, P node)
    (modifiers : Option NameSet) : P (directiveTuple handle value arg modifiers) := by
  refine h.arrayOf_iff.mpr (List.forall_mem_cons.mpr ⟨hh, fillTuple_of_forall h ?_⟩)
  simp only [List.forall_mem_cons, List.not_mem_nil, false_implies, implies_true, and_true]
  refine ⟨hv, ha, fun node hn => ?_⟩
  obtain ⟨m, _, rfl⟩ := Option.map_eq_some_iff.mp hn
  exact h.modifiersObject m

/-- The expression in the name of a model, if it has one, satisfies a condition. -/
def ModelName.MadeOf (P : Node → Prop) : ModelName → Prop
  | .static _ => True
  | .dynamic name => P name

/-- The name of a model is made of the argument that it is read off. -/
theorem ModelName.madeOf_ofArg {arg : Option Node} (h : ∀ node ∈ arg, P node) :
    (ModelName.ofArg arg).MadeOf P := by
  unfold ModelName.ofArg
  split
  · trivial
  · split
    · trivial
    · split
      · trivial
      · exact h _ rfl

/-- Every key that a model gives to a property is static or made of its name. -/
theorem ModelName.MadeOf.keys {name : ModelName} (hn : name.MadeOf P) (h : Node.Closed imports P) :
    P name.valueKey ∧ P name.modifiersKey ∧ P name.handlerKey := by
  cases name with
  | static text =>
    refine ⟨h.lit _, ?_, h.lit _⟩
    unfold ModelName.modifiersKey
    dsimp only
    split <;> exact h.lit _
  | dynamic expr =>
    have he : P expr := hn
    exact ⟨h.computedKey he, h.computedKey (h.binary _ he (h.lit _)),
      h.computedKey (h.binary _ (h.lit _) he)⟩

/-- The properties of one model are made of its name, its value and the target of its assignment. -/
theorem ModelProps.ofModel_of_madeOf (h : Node.Closed imports P) {onComponent : Bool}
    {name : ModelName} (hn : name.MadeOf P) (modifiers : Option NameSet) {value target : Node}
    (hv : P value) (ht : P target) :
    ∀ node ∈ (ModelProps.ofModel onComponent name modifiers value target).props, P node := by
  obtain ⟨hvalue, hmodifiers, hhandler⟩ := hn.keys h
  have hp : (ModelProps.ofModel onComponent name modifiers value target).props =
      (if onComponent then Node.pair name.valueKey value ::
        (modifiers.filter (!·.isEmpty)).toList.map fun modifiers =>
          Node.pair name.modifiersKey (modifiersObject modifiers) else []) ++
        [Node.pair name.handlerKey (updateHandler target)] := by
    unfold ModelProps.ofModel
    cases modifiers.filter (!·.isEmpty) <;> cases name <;> rfl
  rw [hp, List.forall_mem_append, List.forall_mem_singleton]
  refine ⟨?_, h.pair hhandler (h.handler ht)⟩
  split
  · refine List.forall_mem_cons.mpr ⟨h.pair hvalue hv, fun node hm => ?_⟩
    obtain ⟨m, _, rfl⟩ := List.mem_map.mp hm
    exact h.pair hmodifiers (h.modifiersObject m)
  · exact List.forall_mem_nil _

/-- The properties of several models are made of their values and arguments. -/
theorem modelPropsOf_of_forall (h : Node.Closed imports P) {onComponent : Bool} {fault : Fault}
    {values args : List (Option Node)} {modifiers : List NameSet} {models : ModelProps}
    (hv : ∀ value ∈ values, ∀ node ∈ value, P node) (ha : ∀ arg ∈ args, ∀ node ∈ arg, P node)
    (hm : modelPropsOf onComponent fault values args modifiers = .ok models) :
    ∀ node ∈ models.props, P node := by
  induction values generalizing args modifiers models with
  | nil =>
    cases hm
    exact List.forall_mem_nil _
  | cons value values ih =>
    rw [List.forall_mem_cons] at hv
    unfold modelPropsOf at hm
    split at hm
    · cases hm
    · rename_i value
      have hvalue : P value := hv.1 value rfl
      split at hm
      · cases hm
      · rename_i target ht
        have harg : ∀ node ∈ args.head?.join, P node := by
          cases args with
          | nil => nofun
          | cons arg args => exact ha arg List.mem_cons_self
        cases hr : modelPropsOf onComponent fault values args.tail modifiers.tail with
        | error fault' =>
          rw [hr] at hm
          cases hm
        | ok rest =>
          rw [hr] at hm
          cases hm
          have hrest := ih hv.2 (fun arg hmem => ha arg (List.mem_of_mem_tail hmem)) hr
          exact List.forall_mem_append.mpr ⟨ModelProps.ofModel_of_madeOf h
            (ModelName.madeOf_ofArg harg) _ hvalue (h.assignTarget hvalue ht), hrest⟩

/-- What the attributes have contributed so far satisfies a condition. -/
structure PropsState.MadeOf (P : Node → Prop) (state : PropsState) : Prop where
  builder : state.builder.MadeOf P
  directives : ∀ node ∈ state.directives, P node
  slots : ∀ node ∈ state.slots, P node

/-- What all attributes contribute to an element satisfies a condition. -/
structure ElementProps.MadeOf (P : Node → Prop) (element : ElementProps) : Prop where
  props : ∀ node ∈ element.props, P node
  directives : ∀ node ∈ element.directives, P node
  slots : ∀ node ∈ element.slots, P node

/-- Nothing has been collected at the start. -/
theorem PropsState.madeOf_new (options : Options) : (PropsState.new options).MadeOf P :=
  ⟨⟨List.forall_mem_nil _, List.forall_mem_nil _⟩, List.forall_mem_nil _, nofun⟩

theorem PropsState.MadeOf.extend {state : PropsState} (hs : state.MadeOf P)
    {properties : List Node} (hp : ∀ node ∈ properties, P node) :
    (state.extend properties).MadeOf P :=
  ⟨hs.builder.extend hp, hs.directives, hs.slots⟩

/-- A note about an attribute adds nothing to the collected properties. -/
theorem PropsState.MadeOf.noteAttr {state : PropsState} (hs : state.MadeOf P) (name : String)
    (value : Option Node) (isComponent : Bool) :
    (state.noteAttr name value isComponent).MadeOf P := by
  unfold PropsState.noteAttr
  split
  · exact ⟨hs.builder, hs.directives, hs.slots⟩
  · exact hs

/-- What a directive adds to the state is made of its tuple and of its value. -/
theorem PropsState.MadeOf.addParsed {state : PropsState} (hs : state.MadeOf P)
    (h : Node.Closed imports P) {parsed : ParsedDirective} (hp : parsed.MadeOf P)
    {value : Option Node} (hv : ∀ node ∈ value, P node) :
    (state.addParsed parsed value).MadeOf P := by
  unfold PropsState.addParsed
  split
  · rename_i tuple ht
    refine ⟨hs.builder, ?_, hs.slots⟩
    exact List.forall_mem_append.mpr
      ⟨hs.directives, List.forall_mem_singleton.mpr (hp.tuple tuple ht)⟩
  · split
    · refine ⟨hs.builder.extend ?_, hs.directives, hs.slots⟩
      refine List.forall_mem_singleton.mpr (h.pair (h.lit _) ?_)
      cases hc : parsed.values.head?.join with
      | some content =>
        exact hp.values _ (List.mem_of_mem_head? (Option.join_eq_some_iff.mp hc)) content rfl
      | none =>
        cases value with
        | none => exact h.undefined
        | some content => exact hv content rfl
    · exact hs

/-- A tag with dots is made of the identifier that it begins with. -/
theorem TagPath.toNode_of_base (h : Node.Closed imports P) (path : TagPath)
    (hb : P (.ident path.base)) : P path.toNode := by
  induction path with
  | ident name => exact hb
  | member span object property ih => exact h.member _ (ih hb)

theorem getD_of_forall {value : Option Node} (hv : ∀ node ∈ value, P node) {default : Node}
    (hd : P default) : P (value.getD default) := by
  cases value with
  | none => exact hd
  | some node => exact hv node rfl

/-- An array that is left out if it would be empty is made of its items. -/
theorem arrayIfAny_of_forall (h : Node.Closed imports P) {items : List Node}
    (hi : ∀ node ∈ items, P node) : ∀ node ∈ arrayIfAny items, P node := by
  unfold arrayIfAny
  split
  · nofun
  · rintro _ ⟨⟩
    exact h.arrayOf_iff.mpr hi

end

end JsxVNode
