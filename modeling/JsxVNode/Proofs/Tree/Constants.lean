import JsxVNode.Proofs.Tree.Evaluation
import JsxVNode.Proofs.Tree.Nodes
import JsxVNode.Proofs.Tree.References

/-!
# Constants

Whether an expression is constant is decided by the way it is written: with literals,
the name `undefined` and templates without interpolation, in parentheses, arrays and
objects. The main statement says what this means. Nothing in such an expression refers
to another name or has to be computed, and evaluating it gives a value that depends on
nothing but the value of `undefined`, and changes nothing.
-/

namespace JsxVNode

namespace Node

/-- Whether a node is a piece of text in a template. -/
def isTemplateText : Node → Bool
  | .form label [] => label.form == .templateElement
  | _ => false

/-- Whether nodes are the parts of a template: its interpolations and its pieces of text. -/
def areTemplateParts : List Node → Bool
  | [.group _, .group texts] => texts.all isTemplateText
  | _ => false

/-- Whether a node has the parts that the grammar gives to it, as far as properties and templates
go. The key of a property is a name, a string, a number or computed. -/
def hasParts : Node → Bool
  | .pair key _ => key.keyText?.isSome || key.isComputed
  | .form label parts => label.form != .templateLiteral || areTemplateParts parts
  | _ => true

/-- All nodes of a tree have the parts that the grammar gives to them, as they have in every tree
that is read from a source. -/
def Grammatical (node : Node) : Prop := ∀ part ∈ node.nodes, part.hasParts = true

/-- Whether a node alone makes an expression depend on more than what is written: a call, an operand
after three dots, markup, a template with interpolations, and every other production, such as a
construction, a member, a function, a class, an assignment or a computed key. -/
def isDynamic : Node → Bool
  | .call .. | .spread .. | .jsx _ => true
  | .form label parts =>
    match label.form, parts with
    | .templateElement, _ => false
    | .templateLiteral, .group [] :: _ => false
    | _, _ => true
  | _ => false

/-- The expressions that are written with constants alone. -/
inductive Constant : Node → Prop where
  | undefined {name : Ident} (h : name.name = "undefined") : Constant (.ident name)
  | lit (value : Literal) : Constant (.lit value)
  | template {label : Label} {texts : List Node} (h : label.form = .templateLiteral)
      (htexts : ∀ text ∈ texts, text.isTemplateText = true) :
      Constant (.form label [.group [], .group texts])
  | paren (span : Span) {body : Node} (h : Constant body) : Constant (.paren span body)
  | array (span : Span) {elements : List Node} (h : ∀ element ∈ elements, Constant element) :
      Constant (.array span elements)
  | object (span : Span) {properties : List Node}
      (hkeys : ∀ property ∈ properties, property.hasWrittenKey = true)
      (hvalues : ∀ property ∈ properties, Constant property.propertyValue) :
      Constant (.object span properties)

variable {node key : Node} {properties : List Node}

/-- A property with a written key is a pair whose key has a text. -/
theorem exists_pair_of_hasWrittenKey {property : Node} (h : property.hasWrittenKey = true) :
    ∃ key value, property = .pair key value ∧ key.keyText?.isSome = true := by
  cases property with
  | pair key value => exact ⟨key, value, rfl, h⟩
  | _ => cases h

/-- A key that is written out is a name or a literal. -/
theorem eq_ident_or_lit_of_keyText? (h : key.keyText?.isSome = true) :
    (∃ name, key = .ident name) ∨ ∃ literal, key = .lit literal := by
  cases key with
  | ident name => exact .inl ⟨name, rfl⟩
  | lit literal => exact .inr ⟨literal, rfl⟩
  | _ => cases h

theorem isComputed_of_keyText? (h : key.keyText?.isSome = true) : key.isComputed = false := by
  rcases eq_ident_or_lit_of_keyText? h with ⟨name, rfl⟩ | ⟨literal, rfl⟩
  · rfl
  · rfl

/-- Elements that are all constant pass the test of an array. -/
theorem allConstant_of_forall {elements : List Node}
    (h : ∀ element ∈ elements, element.isConstant = true) : allConstant elements = true := by
  induction elements with
  | nil => rfl
  | cons element elements ih =>
    rw [List.forall_mem_cons] at h
    rw [allConstant, h.1, ih h.2]
    rfl

/-- Properties that have written keys and constant values pass the test of an object. -/
theorem allConstantPairs_of_forall
    (hkeys : ∀ property ∈ properties, property.hasWrittenKey = true)
    (h : ∀ property ∈ properties, property.propertyValue.isConstant = true) :
    allConstantPairs properties = true := by
  induction properties with
  | nil => rfl
  | cons property properties ih =>
    rw [List.forall_mem_cons] at hkeys h
    obtain ⟨key, value, rfl, hkey⟩ := exists_pair_of_hasWrittenKey hkeys.1
    have hvalue : value.isConstant = true := h.1
    rw [allConstantPairs, isComputed_of_keyText? hkey, hvalue, ih hkeys.2 h.2]
    rfl

/-- What is written with constants alone is constant. -/
theorem Constant.isConstant (h : node.Constant) : node.isConstant = true := by
  induction h with
  | undefined h => exact beq_iff_eq.mpr h
  | lit value => rfl
  | template h htexts => exact beq_iff_eq.mpr h
  | paren span h ih => exact ih
  | array span h ih => exact allConstant_of_forall ih
  | object span hkeys hvalues ih => exact allConstantPairs_of_forall hkeys ih

/-- The only production that is constant is a template without interpolations. -/
theorem exists_texts_of_isConstant {label : Label} {parts : List Node}
    (hparts : (form label parts).hasParts = true) (h : (form label parts).isConstant = true) :
    label.form = .templateLiteral ∧ ∃ texts, parts = [.group [], .group texts] ∧
      ∀ text ∈ texts, text.isTemplateText = true := by
  have hgroup : label.form = .templateLiteral ∧ ∃ rest, parts = .group [] :: rest := by
    cases parts with
    | nil => cases h
    | cons first rest =>
      cases first with
      | group items =>
        cases items with
        | nil => exact ⟨beq_iff_eq.mp h, rest, rfl⟩
        | cons item items => cases h
      | _ => cases h
  obtain ⟨hform, rest, rfl⟩ := hgroup
  refine ⟨hform, ?_⟩
  rw [hasParts, hform, bne_self_eq_false, Bool.false_or] at hparts
  unfold areTemplateParts at hparts
  split at hparts
  · rename_i texts heq
    cases heq
    exact ⟨texts, rfl, List.all_eq_true.mp hparts⟩
  · cases hparts

mutual

/-- What is constant is written with constants alone. -/
theorem constant_of_isConstant (node : Node) (hg : node.Grammatical)
    (h : node.isConstant = true) : node.Constant := by
  cases node with
  | ident name => exact .undefined (beq_iff_eq.mp h)
  | lit value => exact .lit value
  | paren span body =>
    exact .paren span (constant_of_isConstant body (List.forall_mem_cons.mp hg).2 h)
  | array span elements =>
    exact .array span (constant_of_allConstant elements (List.forall_mem_cons.mp hg).2 h)
  | object span properties =>
    have hpairs := constant_of_allConstantPairs properties (List.forall_mem_cons.mp hg).2 h
    exact .object span (fun property hm => (hpairs property hm).1)
      fun property hm => (hpairs property hm).2
  | form label parts =>
    obtain ⟨hform, texts, rfl, htexts⟩ :=
      exists_texts_of_isConstant (List.forall_mem_cons.mp hg).1 h
    exact .template hform htexts
  | _ => cases h

/-- The elements of an array that passes the test are constant. -/
theorem constant_of_allConstant (elements : List Node)
    (hg : ∀ part ∈ nodesAll elements, part.hasParts = true)
    (h : allConstant elements = true) : ∀ element ∈ elements, element.Constant := by
  cases elements with
  | nil => simp
  | cons element elements =>
    obtain ⟨hfirst, hrest⟩ := List.forall_mem_append.mp hg
    obtain ⟨helement, helements⟩ := Bool.and_eq_true_iff.mp h
    exact List.forall_mem_cons.mpr ⟨constant_of_isConstant element hfirst helement,
      constant_of_allConstant elements hrest helements⟩

/-- The properties of an object that passes the test have written keys and constant values. -/
theorem constant_of_allConstantPairs (properties : List Node)
    (hg : ∀ part ∈ nodesAll properties, part.hasParts = true)
    (h : allConstantPairs properties = true) :
    ∀ property ∈ properties, property.hasWrittenKey = true ∧ property.propertyValue.Constant := by
  cases properties with
  | nil => simp
  | cons property properties =>
    obtain ⟨hfirst, hrest⟩ := List.forall_mem_append.mp hg
    cases property with
    | pair key value =>
      obtain ⟨hpair, hparts⟩ := List.forall_mem_cons.mp hfirst
      obtain ⟨hproperty, hproperties⟩ := Bool.and_eq_true_iff.mp h
      obtain ⟨hkey, hvalue⟩ := Bool.and_eq_true_iff.mp hproperty
      have hwritten : key.keyText?.isSome = true :=
        (Bool.or_eq_true_iff.mp hpair).resolve_right (by simpa using hkey)
      have hconstant : value.Constant :=
        constant_of_isConstant value (List.forall_mem_append.mp hparts).2 hvalue
      exact List.forall_mem_cons.mpr ⟨⟨hwritten, hconstant⟩,
        constant_of_allConstantPairs properties hrest hproperties⟩
    | _ => cases h

end

theorem exists_label_of_isTemplateText {text : Node} (h : text.isTemplateText = true) :
    ∃ label, text = .form label [] ∧ label.form = .templateElement := by
  unfold isTemplateText at h
  split at h
  · rename_i label
    exact ⟨label, rfl, beq_iff_eq.mp h⟩
  · cases h

theorem isDynamic_template {label : Label} (h : label.form = .templateLiteral)
    (texts : List Node) : (form label [.group [], .group texts]).isDynamic = false := by
  obtain ⟨kind, span, data⟩ := label
  cases h
  rfl

theorem isDynamic_templateElement {label : Label} (h : label.form = .templateElement)
    (parts : List Node) : (form label parts).isDynamic = false := by
  obtain ⟨kind, span, data⟩ := label
  cases h
  rfl

/-- No part of a constant, at any depth, makes it depend on more than what is written. -/
theorem Constant.isDynamic_eq_false (h : node.Constant) :
    ∀ part ∈ node.nodes, part.isDynamic = false := by
  induction h with
  | undefined h => simp [nodes, isDynamic]
  | lit value => simp [nodes, isDynamic]
  | @template label texts h htexts =>
    have hpieces : ∀ part ∈ nodesAll texts, part.isDynamic = false := by
      rw [forall_mem_nodesAll_iff]
      intro text hm
      obtain ⟨label, rfl, hform⟩ := exists_label_of_isTemplateText (htexts text hm)
      exact List.forall_mem_singleton.mpr (isDynamic_templateElement hform [])
    have hparts : (form label [.group [], .group texts]).nodes =
        form label [.group [], .group texts] :: .group [] :: .group texts :: nodesAll texts := by
      simp [nodes, nodesAll]
    rw [hparts]
    simp only [List.forall_mem_cons]
    exact ⟨isDynamic_template h texts, rfl, rfl, hpieces⟩
  | paren span h ih => exact List.forall_mem_cons.mpr ⟨rfl, ih⟩
  | array span h ih => exact List.forall_mem_cons.mpr ⟨rfl, forall_mem_nodesAll_iff.mpr ih⟩
  | object span hkeys hvalues ih =>
    refine List.forall_mem_cons.mpr ⟨rfl, forall_mem_nodesAll_iff.mpr fun property hm => ?_⟩
    obtain ⟨key, value, rfl, hkey⟩ := exists_pair_of_hasWrittenKey (hkeys property hm)
    refine List.forall_mem_cons.mpr ⟨rfl, List.forall_mem_append.mpr ⟨?_, ih _ hm⟩⟩
    rcases eq_ident_or_lit_of_keyText? hkey with ⟨name, rfl⟩ | ⟨literal, rfl⟩
    · simp [nodes, isDynamic]
    · simp [nodes, isDynamic]

/-- A constant refers to nothing but `undefined`. -/
theorem Constant.refersOnly (h : node.Constant) :
    node.RefersOnly fun reference => reference.id.name = "undefined" := by
  induction h with
  | undefined h => exact refersOnly_ident_iff.mpr fun _ => h
  | lit value => exact fun _ _ hm => nomatch hm
  | @template label texts h htexts =>
    refine refersOnly_form label fun part hm => ?_
    rcases List.mem_cons.mp hm with rfl | hm
    · exact refersOnly_all_iff.mpr fun _ hm => nomatch hm
    · rw [List.mem_singleton.mp hm]
      refine refersOnly_all_iff.mpr fun text hm => ?_
      obtain ⟨label, rfl, -⟩ := exists_label_of_isTemplateText (htexts text hm)
      exact refersOnly_form label fun _ hm => nomatch hm
  | paren span h ih => exact ih
  | array span h ih => exact refersOnly_all_iff.mpr ih
  | object span hkeys hvalues ih =>
    refine refersOnly_all_iff.mpr fun property hm => ?_
    obtain ⟨key, value, rfl, hkey⟩ := exists_pair_of_hasWrittenKey (hkeys property hm)
    rcases eq_ident_or_lit_of_keyText? hkey with ⟨name, rfl⟩ | ⟨literal, rfl⟩
    · exact ih _ hm
    · exact .pair (fun _ _ hm => nomatch hm) (ih _ hm)

/-- A constant can be an element of an array. -/
theorem Constant.isElement (h : node.Constant) : node.isElement = true := by
  cases h <;> rfl

/-- The values of `undefined` determine the value of a constant. -/
theorem Constant.exists_determines (h : node.Constant) (undefineds : Nat → Value) :
    ∃ value, Determines undefineds (fun other => node.eval other) value := by
  induction h with
  | @undefined name h => exact ⟨undefineds name.scope, .undefined h⟩
  | lit l => exact ⟨.literal l.value, .pure _⟩
  | @template label texts h htexts => exact ⟨_, .template h texts⟩
  | paren span h ih => exact ih
  | array span h ih =>
    exact Determines.exists_array span (fun element hm => (h element hm).isElement) ih
  | object span hkeys hvalues ih => exact Determines.exists_object span hkeys ih

/-- Constants really are constant. In an expression that counts as constant, no node at any depth is
a call, an operand after three dots, markup, a template with interpolations or any other production
but a template, and no identifier but `undefined` is referred to. Its evaluation gives one value in
any two environments that agree on `undefined`, and changes neither, whatever other productions do.
Conversely, every expression counts as constant that is made of literals, `undefined`, templates
without interpolations, parentheses, arrays of such expressions without holes and spread operands,
and objects with such values and with keys that are written out. -/
theorem isConstant_keeps_value (node : Node) :
    (node.Grammatical → node.isConstant = true →
      (∀ part ∈ node.nodes, part.isDynamic = false) ∧
      (node.RefersOnly fun reference => reference.id.name = "undefined") ∧
      ∀ (other other' : Productions) (env env' : Environment),
        (∀ scope, env ⟨"undefined", scope⟩ = env' ⟨"undefined", scope⟩) →
        ∃ value, (node.eval other).run env = some (value, env) ∧
          (node.eval other').run env' = some (value, env')) ∧
    (node.Constant → node.isConstant = true) := by
  refine ⟨fun hg h => ?_, Constant.isConstant⟩
  have hconstant := constant_of_isConstant node hg h
  refine ⟨hconstant.isDynamic_eq_false, hconstant.refersOnly, fun other other' env env' hsame => ?_⟩
  obtain ⟨value, hvalue⟩ := hconstant.exists_determines fun scope => env ⟨"undefined", scope⟩
  exact ⟨value, hvalue other env fun _ => rfl, hvalue other' env' fun scope => (hsame scope).symm⟩

/-- The object `{a: [1, undefined, t], "b": (null)}`, where `t` is a template. -/
def sampleConstant : Node :=
  .objectOf [
    .pair (.ref "a") (.arrayOf [.int 1 .dummy, .ref "undefined",
      .plain .templateLiteral [.group [], .group
        [.form (.generated .templateElement [("cooked", .text "t")]) []]]]),
    .pair (.str "b") (.paren .dummy .null)]

/-- The sample has one value in environments that agree on nothing but `undefined`, whether other
productions end abruptly or not. -/
theorem sample_isConstant_keeps_value :
    let value : Value := .object
      [("a", .array [.literal (.num (.whole 1)), .undefined, .literal (.str "t")]),
        ("b", .literal .null)]
    let env : Environment := fun id => if id.name = "undefined" then .undefined else .existing 0
    let env' : Environment := fun id => if id.name = "undefined" then .undefined else .existing 1
    sampleConstant.Grammatical ∧ sampleConstant.isConstant = true ∧
      (∀ part ∈ sampleConstant.nodes, part.isDynamic = false) ∧
      (sampleConstant.RefersOnly fun reference => reference.id.name = "undefined") ∧
      (sampleConstant.eval fun _ => failure).run env = some (value, env) ∧
      (sampleConstant.eval fun _ => pure .undefined).run env' = some (value, env') := by
  intro value env env'
  have hg : sampleConstant.Grammatical := by
    unfold Grammatical
    decide +kernel
  have hconstant : sampleConstant.Constant := constant_of_isConstant _ hg rfl
  have h : sampleConstant.isConstant = true := (isConstant_keeps_value sampleConstant).2 hconstant
  obtain ⟨hstatic, hrefers, hvalue⟩ := (isConstant_keeps_value sampleConstant).1 hg h
  obtain ⟨_, hfirst, hsecond⟩ :=
    hvalue (fun _ => failure) (fun _ => pure .undefined) env env' fun _ => rfl
  have heval : (sampleConstant.eval fun _ => failure).run env = some (value, env) := rfl
  rw [heval] at hfirst
  cases hfirst
  exact ⟨hg, h, hstatic, hrefers, heval, hsecond⟩

end Node

end JsxVNode
