import JsxVNode.Tree.Build

/-!
# References

The identifiers that a tree without markup refers to. The key of a property and a name
after a dot are names and refer to nothing. A generated handler is an arrow function
whose only parameter is `$event`; for each reference it is kept whether it stands
inside one.
-/

namespace JsxVNode

/-- An identifier where it is referred to. -/
structure Reference where
  id : Id
  /-- The reference stands inside a generated handler. -/
  inHandler : Bool
  deriving DecidableEq, Repr

/-- The identifier that a handler binds to the updated value. -/
def Id.event : Id := ⟨"$event", 0⟩

/-- Whether a production is a generated handler. -/
def Label.isHandler (label : Label) : List Node → Bool
  | [.group [.ident param], _] =>
    decide (label = .generated .arrowFunctionExpression []) && decide (param = .generated "$event")
  | _ => false

mutual

/-- The references in a node; markup is not looked into. -/
def Node.references (inHandler : Bool) : Node → List Reference
  | .hole => []
  | .ident name => [⟨name.id, inHandler⟩]
  | .lit _ => []
  | .paren _ body => body.references inHandler
  | .array _ elements => Node.referencesAll inHandler elements
  | .object _ properties => Node.referencesAll inHandler properties
  | .spread _ operand => operand.references inHandler
  | .pair (.ident _) value => value.references inHandler
  | .pair key value => key.references inHandler ++ value.references inHandler
  | .call _ _ callee args => callee.references inHandler ++ Node.referencesAll inHandler args
  | .jsx _ => []
  | .group items => Node.referencesAll inHandler items
  | .form ⟨.memberExpression, _, _⟩ [base, .ident _] => base.references inHandler
  | .form ⟨.superPropExpression, _, _⟩ [base, .ident _] => base.references inHandler
  | .form label parts => Node.referencesAll (inHandler || label.isHandler parts) parts

/-- The references in several nodes. -/
def Node.referencesAll (inHandler : Bool) : List Node → List Reference
  | [] => []
  | node :: nodes => node.references inHandler ++ Node.referencesAll inHandler nodes

end

/-- Every reference in a node satisfies a condition, whether the node stands in a handler or not. -/
def Node.RefersOnly (ok : Reference → Prop) (node : Node) : Prop :=
  ∀ inHandler, ∀ reference ∈ node.references inHandler, ok reference

variable {ok : Reference → Prop}

theorem Node.forall_mem_referencesAll_iff {nodes : List Node} {inHandler : Bool} :
    (∀ reference ∈ Node.referencesAll inHandler nodes, ok reference) ↔
      ∀ node ∈ nodes, ∀ reference ∈ node.references inHandler, ok reference := by
  induction nodes with
  | nil => simp [Node.referencesAll]
  | cons node nodes ih => rw [Node.referencesAll, List.forall_mem_append, ih, List.forall_mem_cons]

namespace Node

/-- A condition holds of all references in a list if it holds of those in each node. -/
theorem refersOnly_all_iff {nodes : List Node} :
    (∀ inHandler, ∀ reference ∈ referencesAll inHandler nodes, ok reference) ↔
      ∀ node ∈ nodes, node.RefersOnly ok := by
  simp only [forall_mem_referencesAll_iff]
  exact ⟨fun h node hm b => h b node hm, fun h b node hm => h node hm b⟩

theorem refersOnly_ident_iff {name : Ident} :
    (ident name).RefersOnly ok ↔ ∀ inHandler, ok ⟨name.id, inHandler⟩ := by
  simp [RefersOnly, references]

/-- A property refers only to what its key and its value refer to. -/
theorem RefersOnly.pair {key value : Node} (hk : key.RefersOnly ok) (hv : value.RefersOnly ok) :
    (pair key value).RefersOnly ok := by
  intro b
  cases key with
  | ident name => exact hv b
  | _ => exact List.forall_mem_append.mpr ⟨hk b, hv b⟩

theorem RefersOnly.pair_value {key value : Node} (h : (Node.pair key value).RefersOnly ok) :
    value.RefersOnly ok := by
  intro b
  cases key with
  | ident name => exact h b
  | _ => exact (List.forall_mem_append.mp (h b)).2

/-- The value of a property can be exchanged without a look at the key. -/
theorem RefersOnly.pair_of_pair {key value value' : Node}
    (h : (Node.pair key value).RefersOnly ok) (hv : value'.RefersOnly ok) :
    (Node.pair key value').RefersOnly ok := by
  intro b
  cases key with
  | ident name => exact hv b
  | _ => exact List.forall_mem_append.mpr ⟨(List.forall_mem_append.mp (h b)).1, hv b⟩

/-- A form refers only to what its parts refer to. -/
theorem refersOnly_form (label : Label) {parts : List Node}
    (h : ∀ part ∈ parts, part.RefersOnly ok) : (form label parts).RefersOnly ok := by
  intro b
  unfold references
  split
  case h_13 | h_14 =>
    cases ‹form _ _ = _›
    exact h _ List.mem_cons_self b
  case h_15 =>
    cases ‹form _ _ = _›
    exact forall_mem_referencesAll_iff.mpr fun part hm => h part hm _
  all_goals cases ‹form _ _ = _›

/-- A member refers only to what its object refers to: the name after the dot is no reference. -/
theorem refersOnly_member {base : Node} (property : String) (h : base.RefersOnly ok) :
    (member base property).RefersOnly ok := h

/-- A generated handler refers to what its target refers to, and to `$event` inside itself. -/
theorem refersOnly_handler {target : Node} (he : ok ⟨.event, true⟩) (h : target.RefersOnly ok) :
    (arrow [ref "$event"] (assign target (ref "$event"))).RefersOnly ok := by
  intro b
  have hreferences : (arrow [ref "$event"] (assign target (ref "$event"))).references b =
      ⟨.event, true⟩ :: (target.references true ++ [⟨.event, true⟩] ++ []) := by
    cases b <;> rfl
  rw [hreferences, List.append_nil, List.forall_mem_cons, List.forall_mem_append,
    List.forall_mem_singleton]
  exact ⟨he, h true, he⟩

end Node

end JsxVNode
