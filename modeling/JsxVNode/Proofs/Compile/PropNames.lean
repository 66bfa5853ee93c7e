import JsxVNode.Proofs.Compile.Contributions

/-!
# The names of the emitted properties

Two things the runtime relies on. A name that is listed beside the patch flag is that of
a property in the props argument, since whatever is collected for the props argument
keeps its names: folding, merging and inlining lose none. And where the props argument
has names that are not known, the flag makes the runtime compare all properties. Both
fail for some attributes, each for a reason of its own: an attribute that is renamed is
listed under its old name, and a map of handlers is listed though it has no property, and
is expanded into unknown names without a word to the flag.
-/

namespace JsxVNode

open Compile

namespace Node

/-- Some property of an object literal has the given static name. -/
def HasKey (properties : List Node) (key : String) : Prop :=
  ∃ property ∈ properties, property.propertyName? = some key

theorem HasKey.append_left {first : List Node} {key : String} (h : HasKey first key)
    (second : List Node) : HasKey (first ++ second) key := by
  obtain ⟨property, hp, hk⟩ := h
  exact ⟨property, List.mem_append_left _ hp, hk⟩

theorem HasKey.append_right {second : List Node} {key : String} (h : HasKey second key)
    (first : List Node) : HasKey (first ++ second) key := by
  obtain ⟨property, hp, hk⟩ := h
  exact ⟨property, List.mem_append_right _ hp, hk⟩

/-- A key is in a list if and only if the first property has it or the others do. -/
theorem hasKey_cons_iff {property : Node} {properties : List Node} {key : String} :
    HasKey (property :: properties) key ↔
      property.propertyName? = some key ∨ HasKey properties key := by
  simp only [HasKey, List.mem_cons, or_and_right, exists_or, exists_eq_left]

/-- A value that is folded into a property of its name leaves all keys where they are. -/
theorem hasKey_foldInto {name key : String} {later : Node} {run out : List Node}
    (ho : foldInto? name later run = some out) (h : HasKey run key) : HasKey out key := by
  induction run generalizing out with
  | nil => cases ho
  | cons property run ih =>
    unfold foldInto? at ho
    split at ho
    · rename_i hname
      cases ho
      rw [hasKey_cons_iff] at h ⊢
      refine h.imp (fun hkey => ?_) id
      rw [hname] at hkey
      rw [propertyName?_foldProperty hname, hkey]
    · obtain ⟨rest, hr, rfl⟩ := Option.map_eq_some_iff.mp ho
      rw [hasKey_cons_iff] at h ⊢
      exact h.imp id (ih hr)

/-- The property that a value is folded into has the name of the value. -/
theorem hasKey_of_foldInto {name : String} {later : Node} {run out : List Node}
    (ho : foldInto? name later run = some out) : HasKey out name := by
  induction run generalizing out with
  | nil => cases ho
  | cons property run ih =>
    unfold foldInto? at ho
    split at ho
    · rename_i hname
      cases ho
      exact hasKey_cons_iff.mpr (Or.inl (propertyName?_foldProperty hname))
    · obtain ⟨rest, hr, rfl⟩ := Option.map_eq_some_iff.mp ho
      exact hasKey_cons_iff.mpr (Or.inr (ih hr))

/-- Adding a property to a run loses no key of either. -/
theorem hasKey_addProperty {run : List Node} {property : Node} {key : String}
    (h : HasKey run key ∨ property.propertyName? = some key) :
    HasKey (addProperty run property) key := by
  have happend : HasKey (run ++ [property]) key := by
    rcases h with hrun | hkey
    · exact hrun.append_left _
    · exact HasKey.append_right ⟨property, List.mem_singleton_self _, hkey⟩ run
  unfold addProperty
  split
  · exact happend
  · rename_i name hname
    cases ho : foldInto? name property.propertyValue run with
    | none => exact happend
    | some out =>
      rcases h with hrun | hkey
      · exact hasKey_foldInto ho hrun
      · rw [hname] at hkey
        cases hkey
        exact hasKey_of_foldInto ho

/-- Folding the rest of a list loses no key of the run or of the rest. -/
theorem hasKey_foldPropertiesAfter {run properties : List Node} {key : String}
    (h : HasKey run key ∨ HasKey properties key) :
    HasKey (foldPropertiesAfter run properties) key := by
  induction properties generalizing run with
  | nil => exact h.resolve_right fun ⟨_, hp, _⟩ => List.not_mem_nil hp
  | cons property properties ih =>
    rw [hasKey_cons_iff] at h
    unfold foldPropertiesAfter
    split
    · rcases h with hrun | hkey | hrest
      · exact hrun.append_left _
      · exact HasKey.append_right (hasKey_cons_iff.mpr (Or.inl hkey)) run
      · exact HasKey.append_right (hasKey_cons_iff.mpr (Or.inr (ih (Or.inr hrest)))) run
    · refine ih ?_
      rcases h with hrun | hkey | hrest
      · exact Or.inl (hasKey_addProperty (Or.inl hrun))
      · exact Or.inl (hasKey_addProperty (Or.inr hkey))
      · exact Or.inr hrest

/-- Folding repeated properties loses no key. -/
theorem HasKey.foldProperties {properties : List Node} {key : String} (h : HasKey properties key) :
    HasKey (foldProperties properties) key :=
  hasKey_foldPropertiesAfter (Or.inr h)

end Node

namespace PropsBuilder

/-- Some property that was collected has the given static name. -/
def HasKey (b : PropsBuilder) (key : String) : Prop :=
  Node.HasKey b.properties key ∨
    ∃ properties, .objectOf properties ∈ b.fragments ∧ Node.HasKey properties key

variable {b : PropsBuilder} {key : String}

theorem HasKey.extend (h : b.HasKey key) (properties : List Node) :
    (b.extend properties).HasKey key :=
  h.imp (·.append_left properties) id

theorem HasKey.flush (h : b.HasKey key) : b.flush.HasKey key := by
  unfold PropsBuilder.flush
  split
  · exact h
  · refine Or.inr ?_
    rcases h with hproperties | ⟨properties, hmem, hkey⟩
    · exact ⟨_, List.mem_append_right _ (List.mem_singleton_self _), hproperties.foldProperties⟩
    · exact ⟨properties, List.mem_append_left _ hmem, hkey⟩

/-- A part of its own loses no key of what was collected before it. -/
theorem HasKey.pushFragment (h : b.HasKey key) (part : Node) :
    (b.pushFragment part).HasKey key := by
  refine h.flush.imp id ?_
  rintro ⟨properties, hmem, hkey⟩
  exact ⟨properties, List.mem_append_left _ hmem, hkey⟩

/-- A contribution loses no key of what was collected before it. -/
theorem HasKey.add (h : b.HasKey key) (piece : Piece) : (b.add piece).HasKey key := by
  cases piece with
  | properties properties => exact h.extend properties
  | handlers call => exact h.pushFragment call
  | spread operand =>
    change (b.pushSpread operand).HasKey key
    unfold pushSpread
    split
    · exact h.pushFragment operand
    · split
      · exact h.extend _
      · exact h.extend _

theorem HasKey.addAll (h : b.HasKey key) (contributions : List Contribution) :
    (b.addAll contributions).HasKey key := by
  induction contributions generalizing b with
  | nil => exact h
  | cons c contributions ih => exact ih (h.add c.piece)

/-- The keys of the properties that are contributed are there in the end. -/
theorem hasKey_addAll (b : PropsBuilder) {contributions : List Contribution} {c : Contribution}
    (hc : c ∈ contributions) {properties : List Node} (hp : c.piece = .properties properties)
    (hk : Node.HasKey properties key) : (b.addAll contributions).HasKey key := by
  induction contributions generalizing b with
  | nil => cases hc
  | cons first contributions ih =>
    rcases List.mem_cons.mp hc with rfl | hrest
    · rw [addAll_cons, hp]
      refine HasKey.addAll ?_ contributions
      exact Or.inl (hk.append_right b.properties)
    · exact ih (b.add first.piece) hrest

/-- A key that was collected is one of an object literal of the props argument. -/
theorem Finished.hasKey {merge : Option String} {props : Node} (h : b.Finished merge props)
    (hk : b.HasKey key) :
    ∃ properties ∈ props.propsObjects merge, Node.HasKey properties key := by
  have hlone (hf : b.fragments = []) : Node.HasKey b.properties key := by
    refine hk.resolve_right ?_
    rintro ⟨properties, hmem, _⟩
    rw [hf] at hmem
    cases hmem
  have hparts : ∃ properties, .objectOf properties ∈ b.flush.fragments ∧
      Node.HasKey properties key := by
    refine hk.flush.resolve_left ?_
    rintro ⟨property, hmem, _⟩
    rw [b.properties_flush] at hmem
    cases hmem
  cases h with
  | nothing hf hp =>
    obtain ⟨property, hmem, _⟩ := hlone hf
    rw [hp] at hmem
    cases hmem
  | operand hf hp =>
    obtain ⟨property, hmem, hname⟩ := hlone hf
    rw [hp, List.mem_singleton] at hmem
    rw [hmem] at hname
    cases hname
  | object hf => exact ⟨_, List.mem_singleton_self _, (hlone hf).foldProperties⟩
  | part hf =>
    obtain ⟨properties, hmem, hkey⟩ := hparts
    rw [hf, List.mem_singleton] at hmem
    rw [← hmem]
    exact ⟨properties, List.mem_singleton_self _, hkey⟩
  | merged hf hm =>
    obtain ⟨properties, hmem, hkey⟩ := hparts
    rw [Node.propsObjects_invoke, if_pos hm]
    exact ⟨properties, List.mem_filterMap.mpr ⟨_, hmem, rfl⟩, hkey⟩

end PropsBuilder

/-- The name of an attribute as it is spelled. -/
def Attr.spelling? : Attr → Option String
  | .named _ name _ => some name.spelling
  | .spread .. => none

/-- A name that an attribute notes is that of a property it contributes, unless the attribute is
renamed or is a map of handlers. -/
theorem Attr.Contributes.names {options : Options} {imports : Imports} {attr : Attr}
    {c : Contribution} (h : attr.Contributes options imports c) {name : String}
    (hname : name ∈ c.names) :
    (∃ properties, c.piece = .properties properties ∧ Node.HasKey properties name) ∨
      attr.spelling? = some name ∧
        (attr.isXlink = true ∨ attr.isExpanded options = true ∧ name = "nativeOn") := by
  cases h with
  | spread dots operand => cases hname
  | handlers arg hexpanded hexpand hnames =>
    obtain ⟨rfl, hnative⟩ := hnames name hname
    exact Or.inr ⟨rfl, Or.inr ⟨hexpanded, hnative⟩⟩
  | properties hexpanded hspread hnames hknown =>
    rcases hnames name hname with hkey | ⟨rfl, hxlink⟩
    · exact Or.inl ⟨_, rfl, hkey⟩
    · exact Or.inr ⟨rfl, Or.inl hxlink⟩

/-- The names listed beside the patch flag are names of properties. If an element compiles to a
call, every name listed in it is the static name of a property in one of the object literals of its
props argument, unless an attribute of that spelling is renamed by an `xlink` namespace or is the
map of handlers `nativeOn` and is expanded. -/
theorem Jsx.compile_lists_properties (ctx : Context) (span : Span) (opening : Opening)
    (attrs : List Attr) (children : List Child) (closing : Option Closing) (s s' : Session)
    (node : Node)
    (h : Returns ((Jsx.element span opening attrs children closing).compile ctx) s node s') :
    ∀ name ∈ node.constructionNames,
      (∃ properties ∈ node.constructionProps.propsObjects s'.imports.mergePropsName?,
        ∃ property ∈ properties, property.propertyName? = some name) ∨
      ∃ attr ∈ attrs, attr.spelling? = some name ∧
        (attr.isXlink = true ∨ attr.isExpanded ctx.options = true ∧ name = "nativeOn") := by
  obtain ⟨contributions, hcs, hbuilt⟩ := Jsx.builtFrom_compile h
  intro name hname
  obtain ⟨c, hc, hnoted⟩ := hbuilt.names name hname
  obtain ⟨attr, hattr, hcontributes⟩ := Attr.exists_contributes hcs hc
  rcases hcontributes.names hnoted with ⟨properties, hp, hkey⟩ | hexcepted
  · exact Or.inl (hbuilt.props.hasKey (PropsBuilder.hasKey_addAll _ hc hp hkey))
  · exact Or.inr ⟨attr, hattr, hexcepted⟩

/-- An attribute whose value is a name in braces. -/
def Attr.braced (name value : String) : Attr :=
  .named .dummy (.plain (.generated name)) (.container .dummy (.ref value))

/-- A self-closing tag. -/
def Opening.closed (name : String) : Opening := ⟨.dummy, true, .path (.ident (.generated name))⟩

/-- The properties of `<A v-model={m} id={x} id={y}/>`. -/
def Node.modelProperties : List Node :=
  [.pair (.str "modelValue") (.ref "m"),
    .pair (.str "onUpdate:modelValue") (updateHandler (.ref "m")), .pair (.str "id") (.ref "y")]

/-- A model on a component lists two names, and a repeated attribute one; all three are names of
properties. -/
theorem Jsx.model_compile_lists_properties :
    let node : Node := .invoke "_createVNode" [.invoke "_resolveComponent" [.str "A"],
      .objectOf Node.modelProperties, .null, .int 8 .dummy,
      .arrayOf [.str "modelValue", .str "onUpdate:modelValue", .str "id"]]
    (∃ s', Returns ((Jsx.element .dummy (.closed "A")
        [.braced "v-model" "m", .braced "id" "x", .braced "id" "y"] [] none).compile .sample)
        (.new .sample) node s') ∧
      node.constructionNames = ["modelValue", "onUpdate:modelValue", "id"] ∧
      ∀ name ∈ node.constructionNames, Node.HasKey Node.modelProperties name := by
  intro node
  have hr : Returns ((Jsx.element .dummy (.closed "A")
      [.braced "v-model" "m", .braced "id" "x", .braced "id" "y"] [] none).compile .sample)
      (.new .sample) node ⟨(Imports.new .default .none).serveAll
        [.runtime .resolveComponent, .runtime .createVNode], []⟩ := rfl
  have hlists := Jsx.compile_lists_properties _ _ _ _ _ _ _ _ _ hr
  refine ⟨⟨_, hr⟩, rfl, fun name hname => ?_⟩
  rcases hlists name hname with ⟨properties, hp, hkey⟩ | ⟨attr, hattr, _, hexcepted⟩
  · rw [List.mem_singleton.mp hp] at hkey
    exact hkey
  · have hplain : ∀ attr ∈ [Attr.braced "v-model" "m", .braced "id" "x", .braced "id" "y"],
        ¬ attr.isXlink = true ∧ ¬ attr.isExpanded Context.sample.options = true := by decide
    rcases hexcepted with hxlink | ⟨hexpanded, _⟩
    · exact absurd hxlink (hplain attr hattr).1
    · exact absurd hexpanded (hplain attr hattr).2

/-- In `<a xlinkHref={x}/>` the listed name is that of the attribute, which no property has. -/
theorem Jsx.xlink_lists_no_property :
    let node : Node := .invoke "_createVNode" [.str "a",
      .objectOf [.pair (.str "xlink:href") (.ref "x")], .null, .int 8 .dummy,
      .arrayOf [.str "xlinkHref"]]
    ∃ s', Returns ((Jsx.element .dummy (.closed "a") [.braced "xlinkHref" "x"] [] none).compile
        .sample) (.new .sample) node s' ∧
      "xlinkHref" ∈ node.constructionNames ∧
      ¬ ∃ properties ∈ node.constructionProps.propsObjects s'.imports.mergePropsName?,
        ∃ property ∈ properties, property.propertyName? = some "xlinkHref" := by
  intro node
  refine ⟨⟨(Imports.new .default .none).serve (.runtime .createVNode), []⟩, rfl, ?_, ?_⟩
  · exact List.mem_singleton_self _
  · rintro ⟨properties, hp, property, hmem, hname⟩
    rw [List.mem_singleton.mp hp, List.mem_singleton] at hmem
    rw [hmem] at hname
    exact absurd hname (by decide)

namespace Node

/-- The parts of a props argument: those that `merge` is called on, or the argument itself. -/
def propsParts (merge : Option String) : Node → List Node
  | .call span scope (.ident callee) args =>
    if merge = some callee.name then args else [.call span scope (.ident callee) args]
  | node => [node]

/-- Whether a part of a props argument can have properties whose names are not known: it is an
object literal with such a property, or it is no object literal at all. -/
def hasUnknownKeys : Node → Bool
  | .lit _ => false
  | .object _ properties => properties.any (·.propertyName?.isNone)
  | _ => true

/-- The parts of a call are its arguments if it is the call that merges, and else the call is the
only part. -/
theorem propsParts_invoke (merge : Option String) (name : String) (args : List Node) :
    (invoke name args).propsParts merge =
      if merge = some name then args else [invoke name args] := rfl

/-- An object whose properties are all named has no unknown keys. -/
theorem hasUnknownKeys_objectOf {properties : List Node}
    (h : ∀ property ∈ properties, property.propertyName?.isSome = true) :
    (objectOf properties).hasUnknownKeys = false := by
  change properties.any (·.propertyName?.isNone) = false
  rw [List.any_eq_false]
  intro property hp
  rw [Option.isNone_iff_eq_none, ← Option.not_isSome_iff_eq_none, not_not]
  exact h property hp

/-- A property whose name is known keeps its name when a value is folded in. -/
theorem keptByFold_named : KeptByFold fun property => property.propertyName?.isSome = true := by
  intro name earlier later he _ _ _
  rw [propertyName?_foldProperty he]
  rfl

end Node

/-- A part of a props argument that is a call of the function that expands maps of handlers. -/
def Node.IsExpansion (imports : Imports) (part : Node) : Prop :=
  ∃ expand arg, imports.find? imports.transformOnModule .default = some expand ∧
    part = .invoke expand [arg]

/-- A part whose names are known, or which expands a map of handlers, is no call of the merging
function: local names are distinct. -/
theorem Imports.WellFormed.propsParts_of_known {imports : Imports} (hw : imports.WellFormed)
    {part : Node} (h : part.hasUnknownKeys = true → part.IsExpansion imports) :
    part.propsParts imports.mergePropsName? = [part] := by
  cases hunknown : part.hasUnknownKeys with
  | false =>
    cases part with
    | lit value => rfl
    | object span properties => rfl
    | _ => cases hunknown
  | true =>
    obtain ⟨expand, arg, hexpand, rfl⟩ := h hunknown
    refine if_neg fun hmerge => ?_
    cases (hw.find?_injective hexpand hmerge).2

/-- A map of handlers contributes the call that expands it. -/
theorem Attr.Contributes.isExpansion {options : Options} {imports : Imports} {attr : Attr}
    {c : Contribution} (h : attr.Contributes options imports c) {call : Node}
    (hcall : c.piece = .handlers call) :
    call.IsExpansion imports ∧ attr.isExpanded options = true := by
  cases h with
  | spread dots operand => cases hcall
  | handlers arg hexpanded hexpand hnames =>
    cases hcall
    exact ⟨⟨_, arg, hexpand, rfl⟩, hexpanded⟩
  | properties hexpanded hspread hnames hknown => cases hcall

/-- All names that were collected are known, apart from those in parts that are excepted. -/
structure PropsBuilder.Known (b : PropsBuilder) (excepted : Node → Prop) : Prop where
  properties : ∀ property ∈ b.properties, property.propertyName?.isSome = true
  parts : ∀ part ∈ b.fragments, part.hasUnknownKeys = true → excepted part

namespace PropsBuilder

variable {b : PropsBuilder} {excepted : Node → Prop}

theorem known_new (mergeProps : Bool) : (new mergeProps).Known excepted :=
  ⟨List.forall_mem_nil _, List.forall_mem_nil _⟩

/-- Closing the object that is being collected makes no key unknown. -/
theorem Known.flush (h : b.Known excepted) : b.flush.Known excepted := by
  unfold PropsBuilder.flush
  split
  · exact h
  · refine ⟨List.forall_mem_nil _, List.forall_mem_append.mpr ⟨h.parts, ?_⟩⟩
    rw [List.forall_mem_singleton]
    intro hunknown
    rw [Node.hasUnknownKeys_objectOf (Node.keptByFold_named.foldProperties h.properties)]
      at hunknown
    cases hunknown

/-- A contribution that does not say otherwise has known names, unless its part is excepted. -/
theorem Known.add (h : b.Known excepted) {options : Options} {imports : Imports} {attr : Attr}
    {c : Contribution} (hc : attr.Contributes options imports c) (hunknown : c.unknown = false)
    (hcall : ∀ call, c.piece = .handlers call → excepted call) :
    (b.add c.piece).Known excepted := by
  cases hc with
  | spread dots operand => cases hunknown
  | handlers arg hexpanded hexpand hnames =>
    refine ⟨h.flush.properties, List.forall_mem_append.mpr ⟨h.flush.parts, ?_⟩⟩
    exact List.forall_mem_singleton.mpr fun _ => hcall _ rfl
  | properties hexpanded hspread hnames hknown =>
    exact ⟨List.forall_mem_append.mpr ⟨h.properties, hknown hunknown⟩, h.parts⟩

/-- Contributions without unknown names make no key unknown, apart from those of excepted calls. -/
theorem Known.addAll {options : Options} {imports : Imports} {attrs : List Attr}
    {contributions : List Contribution} (h : b.Known excepted)
    (hcs : List.Forall₂ (Attr.Contributes options imports) attrs contributions)
    (hunknown : ∀ c ∈ contributions, c.unknown = false)
    (hcall : ∀ c ∈ contributions, ∀ call, c.piece = .handlers call → excepted call) :
    (b.addAll contributions).Known excepted := by
  induction hcs generalizing b with
  | nil => exact h
  | cons hc _ ih =>
    rw [List.forall_mem_cons] at hunknown hcall
    exact ih (h.add hc hunknown.1 hcall.1) hunknown.2 hcall.2

/-- The parts of the finished props argument have known names, apart from those that are excepted
and no call of the merging function. -/
theorem Finished.known {imports : Imports} {props : Node}
    (h : b.Finished imports.mergePropsName? props) (hw : imports.WellFormed)
    (hexcepted : ∀ part, excepted part → part.IsExpansion imports) (hk : b.Known excepted) :
    ∀ part ∈ props.propsParts imports.mergePropsName?, part.hasUnknownKeys = true →
      excepted part := by
  cases h with
  | nothing hf hp => exact List.forall_mem_singleton.mpr nofun
  | operand hf hp =>
    have hnamed := hk.properties _ (by rw [hp]; exact List.mem_singleton_self _)
    cases hnamed
  | object hf =>
    refine List.forall_mem_singleton.mpr fun hunknown => ?_
    rw [Node.hasUnknownKeys_objectOf (Node.keptByFold_named.foldProperties hk.properties)]
      at hunknown
    cases hunknown
  | part hf =>
    have hpart := hk.flush.parts props (by rw [hf]; exact List.mem_singleton_self _)
    rw [hw.propsParts_of_known fun hunknown => hexcepted props (hpart hunknown)]
    exact List.forall_mem_singleton.mpr hpart
  | merged hf hm =>
    rw [Node.propsParts_invoke, if_pos hm]
    exact hk.flush.parts

end PropsBuilder

/-- Names that are not known make the runtime compare all properties. In a session that requests
have led to, let an element compile to a call. If a part of its props argument can have properties
whose names are not known, as a spread or a computed name brings them, the emitted flag is that of
a full comparison, or it has the bit by which all properties are compared; unless the part is the
call that a map of handlers is expanded by. -/
theorem Jsx.compile_compares_unknown_names (ctx : Context) (span : Span) (opening : Opening)
    (attrs : List Attr) (children : List Child) (closing : Option Closing) (options : Options)
    (bindings : Bindings) (s s' : Session) (node : Node)
    (hs : (Imports.new options bindings).LeadsTo s.imports)
    (h : Returns ((Jsx.element span opening attrs children closing).compile ctx) s node s') :
    ∀ part ∈ node.constructionProps.propsParts s'.imports.mergePropsName?,
      part.hasUnknownKeys = true →
      node.constructionFlag = .bail ∨ node.constructionFlag.contains .fullProps = true ∨
        part.IsExpansion s'.imports ∧ ∃ attr ∈ attrs, attr.isExpanded ctx.options = true := by
  obtain ⟨contributions, hcs, hbuilt⟩ := Jsx.builtFrom_compile h
  have hw : s'.imports.WellFormed := by
    obtain ⟨requests, hr⟩ := hs
    obtain ⟨more, hm⟩ := (Jsx.requestsOnly_compile ctx _).exists_requests h
    rw [hm, hr]
    exact ((Imports.wellFormed_new options bindings).serveAll requests).serveAll more
  intro part hpart hunknown
  by_cases hkeys : ∃ c ∈ contributions, c.unknown = true
  · exact (hbuilt.unknown hkeys).imp id Or.inl
  · have hknown : ∀ c ∈ contributions, c.unknown = false := by
      intro c hc
      exact Bool.eq_false_iff.mpr fun hu => hkeys ⟨c, hc, hu⟩
    have hcall : ∀ c ∈ contributions, ∀ call, c.piece = .handlers call →
        call.IsExpansion s'.imports ∧ ∃ attr ∈ attrs, attr.isExpanded ctx.options = true := by
      intro c hc call hp
      obtain ⟨attr, hattr, hcontributes⟩ := Attr.exists_contributes hcs hc
      obtain ⟨hexpansion, hexpanded⟩ := hcontributes.isExpansion hp
      exact ⟨hexpansion, attr, hattr, hexpanded⟩
    have hk := (PropsBuilder.known_new ctx.options.mergeProps).addAll hcs hknown hcall
    exact Or.inr (Or.inr (hbuilt.props.known hw (fun _ hp => hp.1) hk part hpart hunknown))

/-- The spread in `<div {...p} id={x}/>` has unknown names, and the flag asks for a comparison of
all properties. -/
theorem Jsx.spread_compile_compares_unknown_names :
    let node : Node := .invoke "_createVNode" [.str "div",
      .invoke "_mergeProps" [.ref "p", .objectOf [.pair (.str "id") (.ref "x")]], .null,
      .int 16 .dummy]
    (∃ s', Returns ((Jsx.element .dummy (.closed "div")
        [.spread .dummy (.ref "p"), .braced "id" "x"] [] none).compile .sample) (.new .sample)
        node s') ∧
      node.constructionProps.propsParts (some "_mergeProps") =
        [.ref "p", .objectOf [.pair (.str "id") (.ref "x")]] ∧
      (Node.ref "p").hasUnknownKeys = true ∧
      (node.constructionFlag = .bail ∨ node.constructionFlag.contains .fullProps = true) := by
  intro node
  have hr : Returns ((Jsx.element .dummy (.closed "div")
      [.spread .dummy (.ref "p"), .braced "id" "x"] [] none).compile .sample) (.new .sample) node
      ⟨(Imports.new .default .none).serveAll [.runtime .mergeProps, .runtime .createVNode], []⟩ :=
    rfl
  have hflag := Jsx.compile_compares_unknown_names _ _ _ _ _ _ .default .none _ _ _ (.refl _) hr
    (.ref "p") List.mem_cons_self rfl
  have hplain : ∀ attr ∈ [Attr.spread .dummy (.ref "p"), .braced "id" "x"],
      ¬ attr.isExpanded Context.sample.options = true := by decide
  refine ⟨⟨_, hr⟩, rfl, rfl, hflag.imp id fun hfull => hfull.resolve_right ?_⟩
  rintro ⟨_, attr, hattr, hexpanded⟩
  exact hplain attr hattr hexpanded

/-- What the compilation of the sample element reads if maps of handlers are expanded. -/
def Context.expanding : Context := ⟨{ Options.default with transformOn := true }, .none, false⟩

/-- In `<div on={x} id={y}/>`, where maps of handlers are expanded, the names of the handlers are
not known, but the flag makes the runtime compare only `id`. -/
theorem Jsx.handlers_compare_listed_names :
    let part : Node := .invoke "_transformOn" [.ref "x"]
    let node : Node := .invoke "_createVNode" [.str "div",
      .invoke "_mergeProps" [part, .objectOf [.pair (.str "id") (.ref "y")]], .null,
      .int 8 .dummy, .arrayOf [.str "id"]]
    ∃ s', Returns ((Jsx.element .dummy (.closed "div") [.braced "on" "x", .braced "id" "y"] []
        none).compile .expanding) (.new .expanding) node s' ∧
      part ∈ node.constructionProps.propsParts s'.imports.mergePropsName? ∧
      part.hasUnknownKeys = true ∧ (Node.ref "x").isConstant = false ∧
      ¬ (node.constructionFlag = .none ∨ node.constructionFlag = .bail ∨
        node.constructionFlag.contains .fullProps = true) := by
  intro part node
  refine ⟨⟨(Imports.new Context.expanding.options .none).serveAll
    [.transformOn, .runtime .mergeProps, .runtime .createVNode], []⟩, rfl, ?_, rfl, rfl, ?_⟩
  · exact List.mem_cons_self
  · decide

end JsxVNode
