import JsxVNode.Proofs.Compile.Closure
import JsxVNode.Proofs.Compile.FlagBits

/-!
# Where children go

Every displayed child of a piece of markup becomes one item, and the items stand in the
order of the children. The children argument of the construction holds exactly these
items: in an array, or in the default slot of a component. The cases that depart from
this are those of a lone item. A lone string stands for itself on an element, and a
component takes a lone function, object or identifier for what it may be, a slot or an
object of slots.

A tag that takes no slots is not a component, so a lone string stands for itself under
it as well, unless it is the fragment.
-/

namespace JsxVNode

namespace Compile

/-- A step returns a value somewhere on the way from some imports to others. -/
def ReturnsBetween {α : Type} (first last : Imports) (x : Compile α) (a : α) : Prop :=
  ∃ t t', first.LeadsTo t.imports ∧ Returns x t a t' ∧ t'.imports.LeadsTo last

end Compile

open Compile

/-- What a displayed child becomes: text its flattened string, an expression itself, and markup
what it compiles to. -/
inductive Child.Becomes (ctx : Context) (first last : Imports) : Child → Node → Prop where
  | text (span : Span) (value raw : String) :
      Becomes ctx first last (.text span value raw) (.str (Text.flatten value))
  | container (span : Span) (body : Node) : Becomes ctx first last (.container span body) body
  | spread (span : Span) (operand : Node) :
      Becomes ctx first last (.spread span operand) (.spread span operand)
  | jsx {markup : Jsx} {item : Node} (h : ReturnsBetween first last (markup.compile ctx) item) :
      Becomes ctx first last (.jsx markup) item

section Items

variable {ctx : Context} {first last : Imports} {s s' : Session} {compiled : Children}

/-- A child becomes its item, unless it vanishes. -/
theorem Child.becomes_compile {child : Child} (hs : first.LeadsTo s.imports)
    (h : Returns (child.compile ctx) s compiled s') (hs' : s'.imports.LeadsTo last) :
    List.Forall₂ (Child.Becomes ctx first last) ([child].filter Child.isDisplayed)
      compiled.items := by
  cases child with
  | text span value raw =>
    obtain ⟨rfl, _⟩ := returns_pure_iff.mp h
    by_cases htext : Text.flatten value = ""
    · simp [Children.ofText, Children.empty, Child.isDisplayed, htext]
    · have hitem : (Child.text span value raw).Becomes ctx first last (.str (Text.flatten value)) :=
        .text span value raw
      simp [Children.ofText, Child.isDisplayed, htext, hitem]
  | container span body =>
    obtain ⟨rfl, _⟩ := returns_pure_iff.mp h
    exact .cons (.container span body) .nil
  | empty span inner =>
    obtain ⟨rfl, _⟩ := returns_pure_iff.mp h
    exact .nil
  | spread span operand =>
    obtain ⟨rfl, _⟩ := returns_pure_iff.mp h
    exact .cons (.spread span operand) .nil
  | jsx markup =>
    obtain ⟨item, t, hitem, h⟩ := returns_bind_iff.mp h
    obtain ⟨rfl, rfl⟩ := returns_pure_iff.mp h
    exact .cons (.jsx ⟨s, t, hs, hitem, hs'⟩) .nil

/-- The displayed children become the items, one after the other. -/
theorem Child.becomes_compileAll {children : List Child} (hs : first.LeadsTo s.imports)
    (h : Returns (Child.compileAll ctx children) s compiled s') (hs' : s'.imports.LeadsTo last) :
    List.Forall₂ (Child.Becomes ctx first last) (children.filter Child.isDisplayed)
      compiled.items := by
  induction children generalizing s compiled with
  | nil =>
    obtain ⟨rfl, _⟩ := returns_pure_iff.mp h
    exact .nil
  | cons child children ih =>
    obtain ⟨one, t, hone, h⟩ := returns_bind_iff.mp h
    obtain ⟨rest, t', hrest, h⟩ := returns_bind_iff.mp h
    obtain ⟨rfl, rfl⟩ := returns_pure_iff.mp h
    have hchild := hone.leadsTo (Child.steps_compile steps_makesRequests _ _)
    have hchildren := hrest.leadsTo (Child.steps_compileAll steps_makesRequests _ _)
    rw [← List.singleton_append, List.filter_append]
    exact List.rel_append (Child.becomes_compile hs hone (hchildren.trans hs'))
      (ih (hs.trans hchild) hrest)

end Items

/-- Whether an attribute is the directive that gives slots. -/
def Attr.isSlots (attr : Attr) : Bool := attr.directive?.any (·.name == "slots")

/-- The value of the slots directive of a tag, that of the last one if there are several. There may
be no value, with or without a directive. -/
def Attr.SlotsBecome (ctx : Context) (first last : Imports) (attrs : List Attr)
    (slots : Option Node) : Prop :=
  match (attrs.filter Attr.isSlots).getLast? with
  | some (.named _ _ value) => ReturnsBetween first last (value.compile ctx) slots
  | _ => slots = none

/-- The note that an attribute leaves does not touch the slots. -/
@[simp] theorem PropsState.slots_noteAttr (state : PropsState) (name : String)
    (value : Option Node) (component : Bool) :
    (state.noteAttr name value component).slots = state.slots := by
  unfold noteAttr
  split <;> rfl

@[simp] theorem PropsState.slots_addParsed (state : PropsState) (parsed : ParsedDirective)
    (value : Option Node) : (state.addParsed parsed value).slots = state.slots := by
  unfold addParsed
  split
  · rfl
  · split <;> rfl

section Slots

variable {ctx : Context} {first last : Imports} {tag : ResolvedTag} {all : List Attr}
  {state state' : PropsState} {s s' : Session}

/-- Only the slots directive changes the slots, to its value. -/
theorem Compile.slots_applyAttr (ctx : Context) (span : Span) (name : AttrName)
    (attrValue : AttrValue) (value : Option Node) (tag : ResolvedTag) (all : List Attr)
    (state : PropsState) :
    Yields (applyAttr ctx span name attrValue value tag all state) fun state' =>
      state'.slots = if (Attr.named span name attrValue).isSlots then value else state.slots := by
  cases hd : isDirectiveName name.spelling with
  | true =>
    have hslots : (Attr.named span name attrValue).isSlots =
        ((DirectiveName.ofAttr name).name == "slots") := by
      simp [Attr.isSlots, Attr.directive?, hd]
    rw [applyAttr_of_isDirectiveName _ _ _ _ _ _ _ hd, applyDirective_eq, hslots]
    refine (name_parseDirective span name attrValue value tag all).bind fun parsed hname => ?_
    rw [← hname]
    by_cases hs : parsed.name = "slots"
    · rw [if_pos hs]
      exact yields_pure (by simp [hs])
    · rw [if_neg hs, beq_eq_false_iff_ne.mpr hs]
      split
      · exact yields_bind_of_forall fun models =>
          yields_pure (state.slots_addParsed parsed value)
      · exact yields_pure (state.slots_addParsed parsed value)
  | false =>
    have hslots : (Attr.named span name attrValue).isSlots = false := by
      simp [Attr.isSlots, Attr.directive?, hd]
    rw [applyAttr_eq, hslots, hd]
    dsimp only
    split
    · exact yields_bind_of_forall fun expand => yields_pure (state.slots_noteAttr _ _ _)
    · exact yields_pure (state.slots_noteAttr _ _ _)

/-- An attribute that is not a slots directive leaves the slots as they are, and a slots directive
replaces them by its value. -/
theorem Attr.slots_compile {attr : Attr} (hs : first.LeadsTo s.imports)
    (h : Returns (attr.compile ctx tag all state) s state' s') (hs' : s'.imports.LeadsTo last) :
    (attr.isSlots = false ∧ state'.slots = state.slots) ∨
      ∃ span name value, attr = .named span name value ∧ attr.isSlots = true ∧
        ReturnsBetween first last (value.compile ctx) state'.slots := by
  cases attr with
  | spread span operand =>
    obtain ⟨rfl, _⟩ := returns_pure_iff.mp h
    exact Or.inl ⟨rfl, rfl⟩
  | named span name value =>
    obtain ⟨compiled, t, hvalue, h⟩ := returns_bind_iff.mp h
    have hslots := slots_applyAttr ctx span name value compiled tag all state _ _ _ h
    have hleads := h.leadsTo (steps_makesRequests.applyAttr _ _ _ _ _ _ _ _)
    cases hattr : (Attr.named span name value).isSlots with
    | false =>
      rw [hattr] at hslots
      exact Or.inl ⟨rfl, hslots⟩
    | true =>
      rw [hattr, if_pos rfl] at hslots
      rw [hslots]
      exact Or.inr ⟨span, name, value, rfl, rfl, s, t, hs, hvalue, hleads.trans hs'⟩

/-- The last slots directive gives the slots. -/
theorem Attr.slotsBecome_compileAll {attrs : List Attr} {options : Options}
    (hs : first.LeadsTo s.imports)
    (h : Returns (Attr.compileAll ctx tag all (.new options) attrs) s state s')
    (hs' : s'.imports.LeadsTo last) : Attr.SlotsBecome ctx first last attrs state.slots := by
  -- The last directive decides, so attributes are added at the end.
  induction attrs using List.reverseRecOn generalizing state s' with
  | nil =>
    obtain ⟨rfl, _⟩ := returns_pure_iff.mp h
    rfl
  | append_singleton attrs attr ih =>
    rw [Attr.compileAll_append] at h
    obtain ⟨before, t, hbefore, h⟩ := returns_bind_iff.mp h
    obtain ⟨after, t', hattr, h⟩ := returns_bind_iff.mp h
    obtain ⟨rfl, rfl⟩ := returns_pure_iff.mp h
    have hfirst := hbefore.leadsTo (Attr.steps_compileAll steps_makesRequests _ _ _ _ _)
    have hrest := hattr.leadsTo (Attr.steps_compile steps_makesRequests _ _ _ _ _)
    unfold Attr.SlotsBecome
    rcases Attr.slots_compile (hs.trans hfirst) hattr hs' with
      ⟨hother, hslots⟩ | ⟨span, name, value, rfl, hslots, hvalue⟩
    · rw [List.filter_append, List.filter_singleton, hother, cond_false, List.append_nil, hslots]
      exact ih hbefore (hrest.trans hs')
    · rw [List.filter_append, List.filter_singleton, hslots, cond_true, List.getLast?_concat]
      exact hvalue

end Slots

/-!
# The children argument

The items of an element are gathered first, and only then it is decided how they are
passed on. The two relations below say what the argument looks like for given items.
-/

/-- The children argument of a fragment or of an element that is no component. -/
inductive PlainArgument (fragment : Bool) : List Node → Node → Prop where
  | none : PlainArgument fragment [] .null
  | string {item : Node} (hf : fragment = false) (hs : item.isString = true) :
      PlainArgument fragment [item] item
  | array {items : List Node} (hne : items ≠ [])
      (hlone : fragment = true ∨ ∀ item, items = [item] → item.isString = false) :
      PlainArgument fragment items (.arrayOf items)

/-- The default slot that returns the given items. -/
def Node.defaultReturning (items : List Node) : Node :=
  .pair (.ref "default") (.arrow [] (.arrayOf items))

/-- Whether a lone child of a component may itself be a slot or an object of slots. -/
def Node.mayBeSlots (objectSlots : Bool) : Node → Bool
  | .ident _ => objectSlots
  | .object .. => objectSlots
  | node => node.isFunction

/-- The children argument of a component with the given items and the given value of the slots
directive. An identifier is tested when the program runs, by the function of the given imports
that tells slots from nodes. -/
inductive SlotsArgument (objectSlots : Bool) (imports : Imports) :
    List Node → Option Node → Node → Prop where
  | none : SlotsArgument objectSlots imports [] none .null
  | value (value : Node) : SlotsArgument objectSlots imports [] (some value) value
  | properties {items : List Node} (hne : items ≠ []) (span : Span) (properties : List Node) :
      SlotsArgument objectSlots imports items (some (.object span properties))
        (.objectOf (.defaultReturning items :: properties))
  | spread {items : List Node} (hne : items ≠ []) {value : Node}
      (hv : ∀ span properties, value ≠ .object span properties) :
      SlotsArgument objectSlots imports items (some value)
        (.objectOf [.defaultReturning items, .spreadOf value])
  | default {items : List Node} (hne : items ≠ [])
      (hlone : ∀ item, items = [item] → item.mayBeSlots objectSlots = false) :
      SlotsArgument objectSlots imports items none (.objectOf [.defaultReturning items])
  | function {item : Node} (hf : item.isFunction = true) :
      SlotsArgument objectSlots imports [item] none (.objectOf [.pair (.ref "default") item])
  | object (ho : objectSlots = true) (span : Span) (properties : List Node) :
      SlotsArgument objectSlots imports [.object span properties] none (.object span properties)
  | tested (ho : objectSlots = true) (ident : Ident) {test : String}
      (ht : imports.slotTest = some test) :
      SlotsArgument objectSlots imports [.ident ident] none
        (.conditional (.invoke test [.ident ident]) (.ident ident)
          (.objectOf [.defaultReturning [.ident ident]]))

namespace Compile

/-- Items are put into an array, if there are any. -/
theorem plainArgument_arrayIfAny {fragment : Bool} {items : List Node}
    (h : fragment = true ∨ ∀ item, items = [item] → item.isString = false) :
    PlainArgument fragment items ((arrayIfAny items).getD .null) := by
  cases items with
  | nil => exact .none
  | cons item items => exact .array (List.cons_ne_nil _ _) h

/-- On an element a lone string is passed as it is, and anything else in an array. -/
theorem plainArgument_elementChildren (items : List Node) :
    PlainArgument false items ((elementChildren items).getD .null) := by
  unfold elementChildren
  split
  · rename_i child
    cases hs : child.isString with
    | true => exact .string rfl hs
    | false =>
      refine .array (List.cons_ne_nil _ _) (Or.inr ?_)
      rintro _ ⟨⟩
      exact hs
  · rename_i hlone
    exact plainArgument_arrayIfAny (Or.inr fun item hitem => absurd hitem (hlone item))

variable {last : Imports}

/-- The slot test is known in the end by the name that was requested for it. -/
theorem slotTest_request :
    YieldsBefore last (request (·.isSlot)) fun name => last.slotTest = some name := by
  intro s name s' h hl
  obtain ⟨rfl, rfl⟩ := returns_request_iff.mp h
  exact hl.slotTest (Imports.slotTest_isSlot s.imports)

/-- A lone child of a component is passed on if it may be slots, and is put into the default slot if
not. -/
theorem slotsArgument_loneChild (ctx : Context) (child : Node) :
    YieldsBefore last (loneChild ctx child)
      (SlotsArgument ctx.options.objectSlots last [child] none) := by
  have hdefault (h : child.mayBeSlots ctx.options.objectSlots = false) :
      SlotsArgument ctx.options.objectSlots last [child] none (slotsOf [child]) := by
    refine .default (List.cons_ne_nil _ _) ?_
    rintro _ ⟨⟩
    exact h
  unfold loneChild
  split
  · exact yieldsBefore_pure (hdefault rfl)
  · rename_i ident
    split
    · rename_i ho
      exact slotTest_request.bind_pure fun test ht => .tested ho ident ht
    · rename_i ho
      exact yieldsBefore_pure (hdefault (Bool.eq_false_iff.mpr ho))
  · rename_i span properties
    cases ho : ctx.options.objectSlots with
    | true => exact yieldsBefore_pure (.object rfl span properties)
    | false =>
      rw [ho] at hdefault
      exact yieldsBefore_pure (hdefault rfl)
  · rename_i hident hobject
    refine yieldsBefore_pure ?_
    cases hf : child.isFunction with
    | true => exact .function hf
    | false =>
      refine hdefault ?_
      unfold Node.mayBeSlots
      split
      · exact absurd rfl (hident _)
      · exact absurd rfl (hobject _ _)
      · exact hf

/-- Without items the value of the slots directive is passed on, and otherwise its properties follow
the default slot. -/
theorem slotsArgument_componentChildren (ctx : Context) (items : List Node) (slots : Option Node) :
    YieldsBefore last (componentChildren ctx items slots) fun argument =>
      SlotsArgument ctx.options.objectSlots last items slots (argument.getD .null) := by
  unfold componentChildren
  split
  · refine yieldsBefore_pure ?_
    cases slots with
    | none => exact .none
    | some value => exact .value value
  · exact (slotsArgument_loneChild ctx _).bind_pure fun _ h => h
  · rename_i hne hlone
    refine yieldsBefore_pure ?_
    change SlotsArgument _ _ _ _ (.objectOf (.defaultReturning items :: slotProperties slots))
    unfold slotProperties
    split
    · exact .default hne fun item hitem => absurd rfl (hlone item hitem)
    · exact .properties hne _ _
    · rename_i hobject
      exact .spread hne hobject

/-- The children argument of a resolved tag. A fragment is never a component. -/
theorem argument_vnodeChildren (ctx : Context) (tag : ResolvedTag) (items : List Node)
    (slots : Option Node) (hf : tag.isFragment = true → tag.isComponent = false) :
    YieldsBefore last (vnodeChildren ctx tag items slots) fun argument =>
      (tag.isComponent = false → PlainArgument tag.isFragment items (argument.getD .null)) ∧
        (tag.isComponent = true →
          SlotsArgument ctx.options.objectSlots last items slots (argument.getD .null)) := by
  unfold vnodeChildren
  cases hfragment : tag.isFragment with
  | true =>
    refine yieldsBefore_pure ⟨fun _ => plainArgument_arrayIfAny (Or.inl rfl), fun hcomponent => ?_⟩
    cases hcomponent.symm.trans (hf hfragment)
  | false =>
    cases tag.isComponent with
    | true =>
      intro s argument s' h hl
      exact ⟨nofun, fun _ => slotsArgument_componentChildren ctx items slots _ _ _ h hl⟩
    | false => exact yieldsBefore_pure ⟨fun _ => plainArgument_elementChildren items, nofun⟩

end Compile

/-- The children of a piece of markup. -/
def Jsx.children : Jsx → List Child
  | .element _ _ _ children _ => children
  | .fragment _ _ _ children => children

/-- The attributes of a piece of markup; a fragment without a name has none. -/
def Jsx.attrs : Jsx → List Attr
  | .element _ _ attrs _ _ => attrs
  | .fragment .. => []

/-- Whether a piece of markup is a component. -/
def Jsx.isComponent (options : Options) : Jsx → Bool
  | .element _ opening .. => opening.name.isComponent options
  | .fragment .. => false

/-- Whether a piece of markup is a fragment, with or without a name. -/
def Jsx.isFragment : Jsx → Bool
  | .element _ opening .. => opening.name.isFragment
  | .fragment .. => true

/-- The fragment takes no slots, so it is not a component. -/
theorem TagName.isComponent_of_isFragment (options : Options) {name : TagName}
    (h : name.isFragment = true) : name.isComponent options = false := by
  have hslotless : Tag.isSlotless Tag.fragment = true := by decide +kernel
  match name with
  | .path (.ident ident) =>
    have hname : ident.name = Tag.fragment := of_decide_eq_true h
    simp [TagName.isComponent, hname, hslotless]
  | .path (.member _ _ property) =>
    have hname : property.name = Tag.fragment := of_decide_eq_true h
    simp [TagName.isComponent, hname, hslotless]
  | .qualified _ => rfl

/-- How the children argument of an element comes about: its items, the value of its slots directive
and the argument are all made on the way from the first session to the last one. -/
theorem Jsx.returns_vnodeChildren {ctx : Context} {span : Span} {opening : Opening}
    {attrs : List Attr} {children : List Child} {closing : Option Closing} {s s' : Session}
    {node : Node}
    (h : Returns ((Jsx.element span opening attrs children closing).compile ctx) s node s') :
    ∃ (tag : ResolvedTag) (items : List Node) (slots argument : Option Node),
      tag.isComponent = opening.name.isComponent ctx.options ∧
      tag.isFragment = opening.name.isFragment ∧
      List.Forall₂ (Child.Becomes ctx s.imports s'.imports) (children.filter Child.isDisplayed)
        items ∧
      Attr.SlotsBecome ctx s.imports s'.imports attrs slots ∧
      (∃ t t', Returns (vnodeChildren ctx tag items slots) t argument t' ∧
        t'.imports.LeadsTo s'.imports) ∧
      node.constructionArg? 2 = some (argument.getD .null) := by
  obtain ⟨tag, s₁, htag, h⟩ := returns_bind_iff.mp h
  obtain ⟨compiled, s₂, hcompiled, h⟩ := returns_bind_iff.mp h
  obtain ⟨state, s₃, hstate, h⟩ := returns_bind_iff.mp h
  obtain ⟨props, s₄, hprops, h⟩ := returns_bind_iff.mp h
  obtain ⟨argument, t, place, hargument, ht, hargs⟩ := returns_finishElement h
  have hslots : props.slots = state.slots := by
    obtain ⟨rfl, _⟩ := returns_finishProps_iff.mp hprops
    rfl
  have hfirst := htag.leadsTo (steps_makesRequests.resolveTag _ _)
  have hchildren := hcompiled.leadsTo (Child.steps_compileAll steps_makesRequests _ _)
  have hattrs := hstate.leadsTo (Attr.steps_compileAll steps_makesRequests _ _ _ _ _)
  have hlast := (hprops.leadsTo (steps_makesRequests.finishProps _)).trans
    (h.leadsTo (steps_makesRequests.finishElement _ _ _ _ _))
  refine ⟨tag, compiled.items, props.slots, argument,
    isComponent_resolveTag ctx opening.name _ _ _ htag,
    isFragment_resolveTag ctx opening.name _ _ _ htag,
    Child.becomes_compileAll hfirst hcompiled (hattrs.trans hlast), ?_, ⟨s₄, t, hargument, ht⟩, ?_⟩
  · rw [hslots]
    exact Attr.slotsBecome_compileAll (hfirst.trans hchildren) hstate hlast
  · rw [Node.constructionArg?, hargs]
    rfl

/-- No child is lost, doubled or moved. Let a piece of markup compile to a call. Its items are what
its displayed children become, one for each of them and in their order, and the third argument of
the call is made of exactly these items. On an element or a fragment it is an array of them, `null`
without any, or a lone string. On a component it is an object whose default slot returns an array of
them, followed by what the slots directive gives; or that value itself without any items; or, if
there is no such value, what a lone function, object or identifier stands for. -/
theorem Jsx.compile_keeps_children (ctx : Context) (markup : Jsx) (s s' : Session) (node : Node)
    (h : Returns (markup.compile ctx) s node s') :
    ∃ items argument,
      List.Forall₂ (Child.Becomes ctx s.imports s'.imports)
        (markup.children.filter Child.isDisplayed) items ∧
      node.constructionArg? 2 = some argument ∧
      (markup.isComponent ctx.options = false →
        PlainArgument markup.isFragment items argument) ∧
      (markup.isComponent ctx.options = true → ∃ slots,
        Attr.SlotsBecome ctx s.imports s'.imports markup.attrs slots ∧
          SlotsArgument ctx.options.objectSlots s'.imports items slots argument) := by
  cases markup with
  | element span opening attrs children closing =>
    obtain ⟨tag, items, slots, argument, hcomponent, hfragment, hitems, hslots,
      ⟨t, t', hargument, hlast⟩, harg⟩ := Jsx.returns_vnodeChildren h
    have hexclusive : tag.isFragment = true → tag.isComponent = false := by
      rw [hcomponent, hfragment]
      exact TagName.isComponent_of_isFragment _
    obtain ⟨hplain, hslotted⟩ :=
      argument_vnodeChildren ctx tag items slots hexclusive _ _ _ hargument hlast
    rw [hcomponent, hfragment] at hplain
    rw [hcomponent] at hslotted
    exact ⟨items, argument.getD .null, hitems, harg, hplain, fun hc => ⟨slots, hslots, hslotted hc⟩⟩
  | fragment span opening closing children =>
    obtain ⟨compiled, t, hcompiled, h⟩ := returns_bind_iff.mp h
    have hlast := h.leadsTo (steps_makesRequests.finishFragment _ _ _)
    obtain ⟨name, t', _, hnode⟩ := returns_bind_iff.mp h
    obtain ⟨factory, place, rfl⟩ := args_construct ctx _ _ _ _ _ span _ _ _ hnode
    refine ⟨compiled.items, (arrayIfAny compiled.items).getD .null,
      Child.becomes_compileAll (.refl _) hcompiled hlast, ?_,
      fun _ => plainArgument_arrayIfAny (Or.inl rfl), nofun⟩
    rw [Node.constructionArg?, Node.constructionArgs_invoke]
    rfl

/-- An element with an opening and a closing tag. -/
def Jsx.around (name : String) (attrs : List Attr) (children : List Child) : Jsx :=
  .element .dummy ⟨.dummy, false, .path (.ident (.generated name))⟩ attrs children
    (some ⟨.dummy, .path (.ident (.generated name))⟩)

/-- The text, the element and the spread inside `<Box v-slots={slots}>hi<b/>{...rest}</Box>` are
returned by the default slot, which the value of the slots directive follows. -/
theorem Jsx.box_compile_keeps_children :
    let b : Node := .invoke "_createVNode" [.str "b", .null, .null]
    let argument : Node := .objectOf
      [.defaultReturning [.str "hi", b, .spread .dummy (.ref "rest")], .spreadOf (.ref "slots")]
    let children : List Child := [.text .dummy "hi" "hi",
      .jsx (.element .dummy (.closed "b") [] [] none), .text .dummy "\n" "\n",
      .spread .dummy (.ref "rest")]
    let node : Node := .invoke "_createVNode"
      [.invoke "_resolveComponent" [.str "Box"], .null, argument]
    ∃ s' items, Returns ((Jsx.around "Box" [.braced "v-slots" "slots"] children).compile .sample)
        (.new .sample) node s' ∧
      List.Forall₂ (Child.Becomes .sample (Session.new .sample).imports s'.imports)
        (children.filter Child.isDisplayed) items ∧
      SlotsArgument true s'.imports items (some (.ref "slots")) argument := by
  intro b argument children node
  have hr : Returns ((Jsx.around "Box" [.braced "v-slots" "slots"] children).compile .sample)
      (.new .sample) node ⟨(Imports.new .default .none).serveAll
        [.runtime .resolveComponent, .runtime .createVNode], []⟩ := rfl
  obtain ⟨items, other, hitems, harg, _, hslotted⟩ := Jsx.compile_keeps_children _ _ _ _ _ hr
  obtain ⟨slots, ⟨t, t', _, hvalue, _⟩, hslotted⟩ := hslotted (by decide +kernel)
  obtain ⟨rfl, _⟩ := returns_pure_iff.mp hvalue
  cases harg
  exact ⟨_, items, hr, hitems, hslotted⟩

/-- The last name in a tag. -/
def TagName.lastName? : TagName → Option String
  | .path (.ident ident) => some ident.name
  | .path (.member _ _ property) => some property.name
  | .qualified _ => none

/-- Whether a displayed child becomes a string. -/
def Child.isString : Child → Bool
  | .text .. => true
  | .container _ body => body.isString
  | _ => false

/-- Whether a single child is displayed and becomes a string. -/
def Child.isLoneString (children : List Child) : Bool :=
  match children.filter Child.isDisplayed with
  | [child] => child.isString
  | _ => false

/-- The item of a child is a string for text and for an expression that is a string, and for nothing
else. -/
theorem Child.Becomes.isString {ctx : Context} {first last : Imports} {child : Child} {item : Node}
    (h : child.Becomes ctx first last item) : item.isString = child.isString := by
  cases h with
  | text span value raw => rfl
  | container span body => rfl
  | spread span operand => rfl
  | jsx h =>
    obtain ⟨t, t', _, hitem, _⟩ := h
    exact compile_yields_invoke (Q := fun item => item.isString = false) (fun _ _ => rfl) ctx _ _ _
      _ hitem

/-- A lone displayed child is a string if and only if there is a lone item and it is a string. -/
theorem Child.isLoneString_iff {ctx : Context} {first last : Imports} {children : List Child}
    {items : List Node}
    (h : List.Forall₂ (Child.Becomes ctx first last) (children.filter Child.isDisplayed) items) :
    Child.isLoneString children = true ↔ ∃ item, items = [item] ∧ item.isString = true := by
  unfold Child.isLoneString
  generalize children.filter Child.isDisplayed = displayed at h ⊢
  cases h with
  | nil => simp
  | cons hitem hrest =>
    cases hrest with
    | nil => simp [hitem.isString]
    | cons _ _ => simp

namespace PlainArgument

variable {fragment : Bool} {items : List Node} {argument : Node}

/-- A children argument is a string exactly if it is a lone item outside of fragments. -/
theorem isString_iff (h : PlainArgument fragment items argument) :
    argument.isString = true ↔
      fragment = false ∧ ∃ item, items = [item] ∧ item.isString = true := by
  cases h with
  | none => exact iff_of_false (by decide) (by simp)
  | string hf hs => exact iff_of_true hs ⟨hf, _, rfl, hs⟩
  | array hne hlone =>
    refine iff_of_false Bool.false_ne_true ?_
    rintro ⟨hf, item, hitem, hs⟩
    rcases hlone with hfragment | hother
    · cases hf.symm.trans hfragment
    · cases hs.symm.trans (hother item hitem)

/-- A children argument that is no string is `null` or an array. -/
theorem eq_null_or_array (h : PlainArgument fragment items argument)
    (hs : argument.isString = false) : argument = .null ∨ argument = .arrayOf items := by
  cases h with
  | none => exact Or.inl rfl
  | string _ hstring => cases hs.symm.trans hstring
  | array _ _ => exact Or.inr rfl

end PlainArgument

/-- A tag that takes no slots is no component, and it is the fragment by its last name alone. -/
theorem TagName.isComponent_of_isSlotless (options : Options) {tag : TagName} {name : String}
    (hname : tag.lastName? = some name) (h : Tag.isSlotless name = true) :
    tag.isComponent options = false ∧ tag.isFragment = decide (name = Tag.fragment) := by
  match tag with
  | .path (.ident ident) =>
    cases hname
    exact ⟨by simp [TagName.isComponent, h], rfl⟩
  | .path (.member _ _ property) =>
    cases hname
    exact ⟨by simp [TagName.isComponent, h], rfl⟩

/-- The children of a tag that takes no slots. Let an element compile to a call, and let the last
name of its tag be one that takes no slots. The third argument of the call is a string exactly if
the tag is not the fragment itself and a lone string is displayed inside it. Otherwise it is `null`
or an array. -/
theorem Jsx.compile_slotless_children (ctx : Context) (span : Span) (opening : Opening)
    (attrs : List Attr) (children : List Child) (closing : Option Closing) (s s' : Session)
    (node : Node) (name : String) (hname : opening.name.lastName? = some name)
    (hslotless : Tag.isSlotless name = true)
    (h : Returns ((Jsx.element span opening attrs children closing).compile ctx) s node s') :
    ∃ argument, node.constructionArg? 2 = some argument ∧
      (argument.isString = true ↔ name ≠ Tag.fragment ∧ Child.isLoneString children = true) ∧
      (argument.isString = false → argument = .null ∨ ∃ items, argument = .arrayOf items) := by
  obtain ⟨tag, items, slots, argument, hcomponent, hfragment, hitems, _,
    ⟨t, t', hargument, hlast⟩, harg⟩ := Jsx.returns_vnodeChildren h
  obtain ⟨hno, hby⟩ := TagName.isComponent_of_isSlotless ctx.options hname hslotless
  rw [hno] at hcomponent
  have hplain := (argument_vnodeChildren ctx tag items slots (fun _ => hcomponent) _ _ _ hargument
    hlast).1 hcomponent
  rw [hfragment, hby] at hplain
  refine ⟨argument.getD .null, harg, ?_, fun hs => (hplain.eq_null_or_array hs).imp_right ?_⟩
  · rw [hplain.isString_iff, Child.isLoneString_iff hitems, decide_eq_false_iff_not]
  · exact fun hitems => ⟨items, hitems⟩

/-- The element inside `<KeepAlive><b/></KeepAlive>` stays in an array. -/
theorem Jsx.keepAlive_compile_slotless_children :
    let children : List Child := [.jsx (.element .dummy (.closed "b") [] [] none)]
    ∃ node s' argument,
      Returns ((Jsx.around "KeepAlive" [] children).compile .sample) (.new .sample) node s' ∧
      node.constructionArg? 2 = some argument ∧ ∃ items, argument = .arrayOf items := by
  intro children
  have hr : Returns ((Jsx.around "KeepAlive" [] children).compile .sample) (.new .sample)
      (.invoke "_createVNode" [.invoke "_resolveComponent" [.str "KeepAlive"], .null,
        .arrayOf [.invoke "_createVNode" [.str "b", .null, .null]]])
      ⟨(Imports.new .default .none).serveAll
        [.runtime .resolveComponent, .runtime .createVNode], []⟩ := rfl
  obtain ⟨argument, harg, hstring, hother⟩ := Jsx.compile_slotless_children _ _ _ _ _ _ _ _ _
    "KeepAlive" rfl (by decide +kernel) hr
  have hno : argument.isString = false := by
    refine Bool.eq_false_iff.mpr fun hs => ?_
    exact absurd (hstring.mp hs).2 (by decide +kernel)
  rcases hother hno with rfl | harray
  · cases harg
  · exact ⟨_, _, argument, hr, harg, harray⟩

/-- A lone string does not stay in an array: the third argument for `<KeepAlive>hi</KeepAlive>` and
for `<_Fragment>hi</_Fragment>` is the string itself. -/
theorem Jsx.slotless_string_not_array :
    let greeting (name : String) : Jsx := .around name [] [.text .dummy "hi" "hi"]
    (Tag.isSlotless "KeepAlive" = true ∧ ∃ node s',
        Returns ((greeting "KeepAlive").compile .sample) (.new .sample) node s' ∧
        node.constructionArg? 2 = some (.str "hi")) ∧
      (Tag.isSlotless "_Fragment" = true ∧ ∃ node s',
        Returns ((greeting "_Fragment").compile .sample) (.new .sample) node s' ∧
        node.constructionArg? 2 = some (.str "hi")) ∧
      ¬ (Node.str "hi" = .null ∨ ∃ items, Node.str "hi" = .arrayOf items) := by
  refine ⟨⟨by decide +kernel, _, _, rfl, rfl⟩, ⟨by decide +kernel, _, _, rfl, rfl⟩, ?_⟩
  rintro (⟨⟨⟩⟩ | ⟨items, ⟨⟩⟩)

end JsxVNode
