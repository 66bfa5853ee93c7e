import JsxVNode.Proofs.Imports.Locals
import JsxVNode.Proofs.Tree.Nodes

/-!
# What a program declares

The syntactic forms that declare an identifier, said without the collector, and which
of them the collector knows. It meets every import, variable, function and class
declaration, parameter and caught error of a program, at any depth and inside markup,
and generated names keep clear of all of them. It does not know the names of function
and class expressions, which the function or class of a default export is too, nor the
parameter of a setter; a generated name can be one of those.
-/

namespace JsxVNode

/-- A pattern binds an identifier: an identifier binds itself, and any other pattern what the
patterns in it bind. Default values and keys bind nothing. -/
inductive Node.Binds : Node → Id → Prop where
  | ident (name : Ident) : Binds (.ident name) name.id
  | item {items : List Node} {item : Node} {id : Id} (hm : item ∈ items) (h : item.Binds id) :
      Binds (.group items) id
  /-- The elements of an array, the properties of an object, and the rest of either. -/
  | part {label : Label} {parts : List Node} {part : Node} {id : Id}
      (hl : label.form ∈ [Form.arrayPattern, .objectPattern, .restElement]) (hm : part ∈ parts)
      (h : part.Binds id) : Binds (.form label parts) id
  /-- A pattern with a default value. -/
  | withDefault {label : Label} {pattern : Node} {parts : List Node} {id : Id}
      (hl : label.form = .assignmentPattern) (h : pattern.Binds id) :
      Binds (.form label (pattern :: parts)) id
  /-- A property that is named by the identifier it binds. -/
  | shorthand {label : Label} {name : Node} {parts : List Node} {id : Id}
      (hl : label.form = .assignmentPatternProperty) (h : name.Binds id) :
      Binds (.form label (name :: parts)) id
  /-- A property that has a key. -/
  | keyed {label : Label} {key pattern : Node} {parts : List Node} {id : Id}
      (hl : label.form = .keyValuePatternProperty) (h : pattern.Binds id) :
      Binds (.form label (key :: pattern :: parts)) id

mutual

/-- A collected identifier is bound by the pattern it was collected from. -/
theorem Node.binds_of_mem_patternIds (pattern : Node) {id : Id} (h : id ∈ pattern.patternIds) :
    pattern.Binds id := by
  unfold Node.patternIds at h
  split at h
  · rw [List.mem_singleton.mp h]
    exact .ident _
  · obtain ⟨item, hm, hi⟩ := Node.exists_binds_of_mem_patternIdsAll _ h
    exact .item hm hi
  · obtain ⟨part, hm, hp⟩ := Node.exists_binds_of_mem_patternIdsAll _ h
    exact .part (by simp) hm hp
  · obtain ⟨part, hm, hp⟩ := Node.exists_binds_of_mem_patternIdsAll _ h
    exact .part (by simp) hm hp
  · obtain ⟨part, hm, hp⟩ := Node.exists_binds_of_mem_patternIdsAll _ h
    exact .part (by simp) hm hp
  · exact .withDefault rfl (Node.binds_of_mem_patternIds _ h)
  · exact .shorthand rfl (Node.binds_of_mem_patternIds _ h)
  · exact .keyed rfl (Node.binds_of_mem_patternIds _ h)
  · cases h

/-- An identifier collected from several patterns is bound by one of them. -/
theorem Node.exists_binds_of_mem_patternIdsAll (patterns : List Node) {id : Id}
    (h : id ∈ Node.patternIdsAll patterns) : ∃ pattern ∈ patterns, pattern.Binds id := by
  cases patterns with
  | nil => cases h
  | cons pattern patterns =>
    rcases List.mem_append.mp h with h | h
    · exact ⟨pattern, List.mem_cons_self, Node.binds_of_mem_patternIds pattern h⟩
    · obtain ⟨p, hm, hp⟩ := Node.exists_binds_of_mem_patternIdsAll patterns h
      exact ⟨p, List.mem_cons_of_mem _ hm, hp⟩

end

/-- What is collected from one of several patterns is collected from all of them together. -/
theorem Node.mem_patternIdsAll {patterns : List Node} {pattern : Node} {id : Id}
    (hm : pattern ∈ patterns) (h : id ∈ pattern.patternIds) :
    id ∈ Node.patternIdsAll patterns := by
  induction patterns with
  | nil => cases hm
  | cons first patterns ih =>
    rw [Node.patternIdsAll, List.mem_append]
    rcases List.mem_cons.mp hm with rfl | hm
    · exact Or.inl h
    · exact Or.inr (ih hm)

/-- An identifier that a pattern binds is collected, whatever the pattern is nested in. -/
theorem Node.Binds.mem_patternIds {pattern : Node} {id : Id} (h : pattern.Binds id) :
    id ∈ pattern.patternIds := by
  induction h with
  | ident name => exact List.mem_singleton_self _
  | item hm _ ih => exact Node.mem_patternIdsAll hm ih
  | @part label parts part id hl hm _ ih =>
    obtain ⟨form, span, data⟩ := label
    simp only [List.mem_cons, List.not_mem_nil, or_false] at hl
    rcases hl with rfl | rfl | rfl <;> exact Node.mem_patternIdsAll hm ih
  | @withDefault label pattern parts id hl _ ih =>
    obtain ⟨form, span, data⟩ := label
    cases hl
    exact ih
  | @shorthand label name parts id hl _ ih =>
    obtain ⟨form, span, data⟩ := label
    cases hl
    exact ih
  | @keyed label key pattern parts id hl _ ih =>
    obtain ⟨form, span, data⟩ := label
    cases hl
    exact ih

/-- The collected identifiers of a pattern are those it binds. -/
theorem Node.mem_patternIds_iff {pattern : Node} {id : Id} :
    id ∈ pattern.patternIds ↔ pattern.Binds id :=
  ⟨Node.binds_of_mem_patternIds pattern, Node.Binds.mem_patternIds⟩

/-- The ways in which a program declares an identifier. -/
inductive Declaration where
  | importLocal
  /-- A variable, by the pattern of its declarator. -/
  | declarator
  | functionDeclaration
  | classDeclaration
  /-- The name of a function expression; the function of a default export is one. -/
  | functionExpression
  /-- The name of a class expression; the class of a default export is one. -/
  | classExpression
  /-- A parameter of a function, a method or a constructor. -/
  | parameter
  | arrowParameter
  | setterParameter
  | caught
  deriving DecidableEq, Repr

/-- A node declares an identifier by itself, apart from what the nodes inside it declare. -/
inductive Node.Declares : Node → Declaration → Id → Prop where
  | importLocal {label : Label} {name : Ident} {parts : List Node}
      (hl : label.form ∈
        [Form.importSpecifier, .importDefaultSpecifier, .importNamespaceSpecifier]) :
      Declares (.form label (.ident name :: parts)) .importLocal name.id
  | declarator {label : Label} {pattern : Node} {parts : List Node} {id : Id}
      (hl : label.form = .variableDeclarator) (h : pattern.Binds id) :
      Declares (.form label (pattern :: parts)) .declarator id
  | functionDeclaration {label : Label} {name : Ident} {parts : List Node}
      (hl : label.form = .functionDeclaration) :
      Declares (.form label (.ident name :: parts)) .functionDeclaration name.id
  | classDeclaration {label : Label} {name : Ident} {parts : List Node}
      (hl : label.form = .classDeclaration) :
      Declares (.form label (.ident name :: parts)) .classDeclaration name.id
  | functionExpression {label : Label} {name : Ident} {parts : List Node}
      (hl : label.form = .functionExpression) :
      Declares (.form label (.ident name :: parts)) .functionExpression name.id
  | classExpression {label : Label} {name : Ident} {parts : List Node}
      (hl : label.form = .classExpression) :
      Declares (.form label (.ident name :: parts)) .classExpression name.id
  | parameter {label : Label} {decorators pattern : Node} {parts : List Node} {id : Id}
      (hl : label.form = .parameter) (h : pattern.Binds id) :
      Declares (.form label (decorators :: pattern :: parts)) .parameter id
  | arrowParameter {label : Label} {params : Node} {parts : List Node} {id : Id}
      (hl : label.form = .arrowFunctionExpression) (h : params.Binds id) :
      Declares (.form label (params :: parts)) .arrowParameter id
  | setterParameter {label : Label} {key param : Node} {parts : List Node} {id : Id}
      (hl : label.form = .setterProperty) (h : param.Binds id) :
      Declares (.form label (key :: param :: parts)) .setterParameter id
  | caught {label : Label} {param : Node} {parts : List Node} {id : Id}
      (hl : label.form = .catchClause) (h : param.Binds id) :
      Declares (.form label (param :: parts)) .caught id

/-- Whether the collector knows a way of declaring. -/
def Declaration.isCollected : Declaration → Bool
  | .functionExpression | .classExpression | .setterParameter => false
  | _ => true

/-- The identifiers that the collector takes from a node by itself. -/
def Node.ownIds : Node → List Id
  | .form label parts => label.form.declaredIds parts
  | _ => []

/-- An identifier declared in a way that is collected is among those of its node. -/
theorem Node.Declares.mem_ownIds {node : Node} {way : Declaration} {id : Id}
    (h : node.Declares way id) (hw : way.isCollected = true) : id ∈ node.ownIds := by
  cases h with
  | importLocal hl =>
    simp only [List.mem_cons, List.not_mem_nil, or_false] at hl
    rw [Node.ownIds]
    rcases hl with hl | hl | hl <;> rw [hl] <;> exact List.mem_singleton_self _
  | declarator hl h =>
    rw [Node.ownIds, hl]
    exact Node.mem_patternIds_iff.mpr h
  | functionDeclaration hl =>
    rw [Node.ownIds, hl]
    exact List.mem_singleton_self _
  | classDeclaration hl =>
    rw [Node.ownIds, hl]
    exact List.mem_singleton_self _
  | functionExpression => cases hw
  | classExpression => cases hw
  | parameter hl h =>
    rw [Node.ownIds, hl]
    exact Node.mem_patternIds_iff.mpr h
  | arrowParameter hl h =>
    rw [Node.ownIds, hl]
    exact Node.mem_patternIds_iff.mpr h
  | setterParameter => cases hw
  | caught hl h =>
    rw [Node.ownIds, hl]
    exact Node.mem_patternIds_iff.mpr h

/-- An identifier among those of a node is declared in a way that is collected. -/
theorem Node.exists_declares_of_mem_ownIds {node : Node} {id : Id} (h : id ∈ node.ownIds) :
    ∃ way : Declaration, way.isCollected = true ∧ node.Declares way id := by
  unfold Node.ownIds at h
  split at h
  · rename_i label parts
    unfold Form.declaredIds at h
    split at h
    · rename_i hl
      exact ⟨.declarator, rfl, .declarator hl (Node.mem_patternIds_iff.mp h)⟩
    · rename_i hl
      rw [List.mem_singleton.mp h]
      exact ⟨.functionDeclaration, rfl, .functionDeclaration hl⟩
    · rename_i hl
      rw [List.mem_singleton.mp h]
      exact ⟨.classDeclaration, rfl, .classDeclaration hl⟩
    · rename_i hl
      exact ⟨.parameter, rfl, .parameter hl (Node.mem_patternIds_iff.mp h)⟩
    · rename_i hl
      exact ⟨.arrowParameter, rfl, .arrowParameter hl (Node.mem_patternIds_iff.mp h)⟩
    · rename_i hl
      exact ⟨.caught, rfl, .caught hl (Node.mem_patternIds_iff.mp h)⟩
    · rename_i hl
      rw [List.mem_singleton.mp h]
      exact ⟨.importLocal, rfl, .importLocal (by simp [hl])⟩
    · rename_i hl
      rw [List.mem_singleton.mp h]
      exact ⟨.importLocal, rfl, .importLocal (by simp [hl])⟩
    · rename_i hl
      rw [List.mem_singleton.mp h]
      exact ⟨.importLocal, rfl, .importLocal (by simp [hl])⟩
    · cases h
  · cases h

mutual

/-- The collected identifiers of a tree are what the collector takes from each of its nodes. -/
theorem Node.declaredIds_eq_flatMap (node : Node) :
    node.declaredIds = node.nodes.flatMap Node.ownIds := by
  cases node with
  | hole => rfl
  | ident name => rfl
  | lit value => rfl
  | paren span body => exact Node.declaredIds_eq_flatMap body
  | array span elements => exact Node.declaredIdsAll_eq_flatMap elements
  | object span properties => exact Node.declaredIdsAll_eq_flatMap properties
  | spread dots operand => exact Node.declaredIds_eq_flatMap operand
  | pair key value =>
    rw [Node.declaredIds, Node.declaredIds_eq_flatMap key, Node.declaredIds_eq_flatMap value,
      ← List.flatMap_append]
    rfl
  | call span scope callee args =>
    rw [Node.declaredIds, Node.declaredIds_eq_flatMap callee,
      Node.declaredIdsAll_eq_flatMap args, ← List.flatMap_append]
    rfl
  | jsx markup => exact Jsx.declaredIds_eq_flatMap markup
  | group items => exact Node.declaredIdsAll_eq_flatMap items
  | form label parts =>
    rw [Node.declaredIds, Node.declaredIdsAll_eq_flatMap parts]
    rfl

/-- The identifiers declared by nodes are those of all nodes in them. -/
theorem Node.declaredIdsAll_eq_flatMap (nodes : List Node) :
    Node.declaredIdsAll nodes = (Node.nodesAll nodes).flatMap Node.ownIds := by
  cases nodes with
  | nil => rfl
  | cons node nodes =>
    rw [Node.declaredIdsAll, Node.nodesAll, List.flatMap_append,
      Node.declaredIds_eq_flatMap node, Node.declaredIdsAll_eq_flatMap nodes]

/-- The identifiers declared in markup are those of the nodes in it. -/
theorem Jsx.declaredIds_eq_flatMap (markup : Jsx) :
    markup.declaredIds = markup.nodes.flatMap Node.ownIds := by
  cases markup with
  | element span opening attrs children closing =>
    rw [Jsx.declaredIds, Jsx.nodes, List.flatMap_append, Attr.declaredIdsAll_eq_flatMap attrs,
      Child.declaredIdsAll_eq_flatMap children]
  | fragment span opening closing children => exact Child.declaredIdsAll_eq_flatMap children

theorem Attr.declaredIdsAll_eq_flatMap (attrs : List Attr) :
    Attr.declaredIdsAll attrs = (Attr.nodesAll attrs).flatMap Node.ownIds := by
  cases attrs with
  | nil => rfl
  | cons attr attrs =>
    rw [Attr.declaredIdsAll, Attr.nodesAll, List.flatMap_append,
      Attr.declaredIds_eq_flatMap attr, Attr.declaredIdsAll_eq_flatMap attrs]

theorem Attr.declaredIds_eq_flatMap (attr : Attr) :
    attr.declaredIds = attr.nodes.flatMap Node.ownIds := by
  cases attr with
  | named span name value => exact AttrValue.declaredIds_eq_flatMap value
  | spread dots operand => exact Node.declaredIds_eq_flatMap operand

theorem AttrValue.declaredIds_eq_flatMap (value : AttrValue) :
    value.declaredIds = value.nodes.flatMap Node.ownIds := by
  cases value with
  | container span body => exact Node.declaredIds_eq_flatMap body
  | jsx markup => exact Jsx.declaredIds_eq_flatMap markup
  | _ => rfl

theorem Child.declaredIdsAll_eq_flatMap (children : List Child) :
    Child.declaredIdsAll children = (Child.nodesAll children).flatMap Node.ownIds := by
  cases children with
  | nil => rfl
  | cons child children =>
    rw [Child.declaredIdsAll, Child.nodesAll, List.flatMap_append,
      Child.declaredIds_eq_flatMap child, Child.declaredIdsAll_eq_flatMap children]

theorem Child.declaredIds_eq_flatMap (child : Child) :
    child.declaredIds = child.nodes.flatMap Node.ownIds := by
  cases child with
  | container span body => exact Node.declaredIds_eq_flatMap body
  | spread span operand => exact Node.declaredIds_eq_flatMap operand
  | jsx markup => exact Jsx.declaredIds_eq_flatMap markup
  | _ => rfl

end

namespace Bindings

/-- The collected identifiers are those declared in a way the collector knows. -/
theorem contains_ofProgram_iff (program : Program) (id : Id) :
    (ofProgram program).contains id = true ↔
      ∃ node ∈ Node.nodesAll program.body, ∃ way : Declaration,
        way.isCollected = true ∧ node.Declares way id := by
  rw [contains, List.contains_iff_mem]
  change id ∈ Node.declaredIdsAll program.body ↔ _
  rw [Node.declaredIdsAll_eq_flatMap, List.mem_flatMap]
  constructor
  · rintro ⟨node, hm, h⟩
    exact ⟨node, hm, Node.exists_declares_of_mem_ownIds h⟩
  · rintro ⟨node, hm, way, hw, h⟩
    exact ⟨node, hm, h.mem_ownIds hw⟩

/-- The name of a collected identifier is among the names that generated names keep clear of. -/
theorem name_mem_names {bindings : Bindings} {id : Id} (h : bindings.contains id = true) :
    id.name ∈ bindings.names := by
  rw [contains, List.contains_iff_mem] at h
  exact List.mem_map.mpr ⟨id, h, rfl⟩

end Bindings

namespace Program

/-- Every identifier that a program declares, at any depth, in any way but by the name of a
function or class expression or the parameter of a setter, is known, and no call for a runtime
symbol is answered by its name. -/
theorem declared_known (options : Options) (program : Program) (node : Node)
    (hm : node ∈ Node.nodesAll program.body) (way : Declaration) (id : Id)
    (hd : node.Declares way id)
    (hw : way ≠ .functionExpression ∧ way ≠ .classExpression ∧ way ≠ .setterParameter) :
    (Bindings.ofProgram program).contains id = true ∧
      ∀ calls : List Imports.Call, options.pragma = none ∨ .factory ∉ calls →
        id.name ∉ (Imports.new options (.ofProgram program)).answers calls := by
  have hcollected : way.isCollected = true := by
    obtain ⟨hf, hc, hs⟩ := hw
    cases way with
    | functionExpression => exact absurd rfl hf
    | classExpression => exact absurd rfl hc
    | setterParameter => exact absurd rfl hs
    | _ => rfl
  have hknown := (Bindings.contains_ofProgram_iff program id).mpr ⟨node, hm, way, hcollected, hd⟩
  refine ⟨hknown, fun calls hp hanswer => ?_⟩
  rw [(Imports.ServedBy.new options (.ofProgram program)).answers hp] at hanswer
  obtain ⟨call, _, hname⟩ := List.mem_map.mp hanswer
  apply Imports.Request.localName_not_mem (Bindings.ofProgram program).names call.toRequest
  rw [hname]
  exact Bindings.name_mem_names hknown

/-- The handler `([_createVNode]) => null`. -/
def handlerWithParameter : Node :=
  .arrow [.plain .arrayPattern [.group [.ref "_createVNode"]]] .null

/-- The module `<p title={([_createVNode]) => null} />`. -/
def parameterInMarkup : Program where
  kind := .module
  span := .dummy
  interpreter := none
  body := [.plain .expressionStatement [.jsx (.element .dummy
    ⟨.dummy, true, .path (.ident (.generated "p"))⟩
    [.named .dummy (.plain (.generated "title")) (.container .dummy handlerWithParameter)]
    [] none)]]

/-- The parameter of a function inside markup is known, and its name is not handed out. -/
theorem parameterInMarkup_declared_known :
    handlerWithParameter ∈ Node.nodesAll parameterInMarkup.body ∧
      handlerWithParameter.Declares .arrowParameter ⟨"_createVNode", 0⟩ ∧
      (Bindings.ofProgram parameterInMarkup).contains ⟨"_createVNode", 0⟩ = true ∧
      "_createVNode" ∉
        (Imports.new .default (.ofProgram parameterInMarkup)).answers [.factory] := by
  have hm : handlerWithParameter ∈ Node.nodesAll parameterInMarkup.body :=
    .tail _ (.tail _ (.head _))
  have hb : (Node.plain .arrayPattern [.group [.ref "_createVNode"]]).Binds
      ⟨"_createVNode", 0⟩ :=
    .part List.mem_cons_self List.mem_cons_self (.item List.mem_cons_self (.ident _))
  have hd : handlerWithParameter.Declares .arrowParameter ⟨"_createVNode", 0⟩ :=
    .arrowParameter rfl (.item List.mem_cons_self hb)
  obtain ⟨hknown, hfree⟩ := declared_known .default parameterInMarkup handlerWithParameter hm
    .arrowParameter ⟨"_createVNode", 0⟩ hd (by decide)
  exact ⟨hm, hd, hknown, hfree [.factory] (Or.inl rfl)⟩

/-- The module `export default function _createVNode() {}`. -/
def defaultExport : Program where
  kind := .module
  span := .dummy
  interpreter := none
  body := [.plain .exportDefaultDeclaration [.plain .functionExpression
    [.ref "_createVNode", .group [], .group [], .plain .blockStatement [.group []]]]]

/-- The function of a default export is declared and not known, and its name is handed out. -/
theorem defaultExport_not_known :
    (∃ node ∈ Node.nodesAll defaultExport.body,
      node.Declares .functionExpression ⟨"_createVNode", 0⟩) ∧
    (Bindings.ofProgram defaultExport).contains ⟨"_createVNode", 0⟩ = false ∧
    (Imports.new .default (.ofProgram defaultExport)).answers [.factory] = ["_createVNode"] := by
  refine ⟨⟨.plain .functionExpression [.ref "_createVNode", .group [], .group [],
    .plain .blockStatement [.group []]], ?_, .functionExpression rfl⟩, rfl, by decide +kernel⟩
  exact List.mem_cons_of_mem _ List.mem_cons_self

end Program

end JsxVNode
